/-
**Frames on the wire, and what a bus counts.**

* `Bus.word`, `Bus.IsData`: the word at the head of octets that are read, and octets that are a data
  frame; `Bus.decode?_eq_some_iff` says that just these are decoded.
* `Bus.decode?_encode`: **a frame that is encoded is decoded**, with an identifier of eleven bits
  and zeros behind the octets that count.
* `Bus.Input`, `Bus.run`: what happens to a bus between its start and its stop, and what passes over
  it meanwhile.
* `Bus.Tallies`: every read and every frame sent is counted once. Each input keeps the tally
  (`Bus.perform_tallies`), and so does a run (`Bus.run_tallies`).
* `Bus.run_accounts`: **from a start on the counters tell what has passed**, and a frame that is
  sent is the frame that is heard elsewhere.
-/

import Canopen.Link.Bus
import Canopen.Proofs.Requests

namespace Canopen

namespace Bus

/-! ### The sixteen octets -/

/-- The word at the head of octets: an identifier and its marks. -/
def word (octets : List UInt8) : UInt32 := Octets.word32 (octets.take 4)

/-- Octets that are a data frame: a whole read, with no mark of an error frame or a remote frame,
and a length that a frame can have. -/
structure IsData (octets : List UInt8) : Prop where
  whole : wireSize ≤ octets.length
  noError : word octets &&& errorFlag = 0
  noRemote : word octets &&& remoteFlag = 0
  short : (octets.getD 4 0).toNat ≤ Frame.capacity

/-- The frame in octets: the lower eleven bits of their word, their length, and the octets that
count filled up with zeros. -/
def frameOf (octets : List UInt8) : Frame :=
  let length := octets.getD 4 0
  ⟨wireId (word octets), length, .ofList ((octets.drop 8).take length.toNat)⟩

/-- **Just the data frames are decoded.** -/
theorem decode?_eq_some_iff {octets : List UInt8} {frame : Frame} :
    decode? octets = some frame ↔ IsData octets ∧ frame = frameOf octets := by
  unfold decode?
  simp only
  change (if _ then _ else if word octets &&& errorFlag ≠ 0 ∨ word octets &&& remoteFlag ≠ 0 then _
    else if _ then _ else some (frameOf octets)) = some frame ↔ _
  split
  · next brief => exact iff_of_false nofun fun data => Nat.not_le.mpr brief data.1.whole
  next whole =>
  split
  · next marked =>
    exact iff_of_false nofun fun data => marked.elim (· data.1.noError) (· data.1.noRemote)
  next unmarked =>
  split
  · next long => exact iff_of_false nofun fun data => Nat.not_le.mpr long data.1.short
  next short =>
  obtain ⟨noError, noRemote⟩ := not_or.mp unmarked
  have data : IsData octets := ⟨Nat.le_of_not_lt whole, Decidable.not_not.mp noError,
    Decidable.not_not.mp noRemote, Nat.le_of_not_lt short⟩
  rw [Option.some_inj, eq_comm]
  exact (and_iff_right data).symm

theorem decode?_of_isData {octets : List UInt8} (data : IsData octets) :
    decode? octets = some (frameOf octets) :=
  decode?_eq_some_iff.mpr ⟨data, rfl⟩

/-! ### From frame to frame -/

section Codec

variable {frame : Frame}

theorem length_encode (frame : Frame) : (encode frame).length = wireSize := rfl

theorem word_encode (frame : Frame) : word (encode frame) = wireId frame.id :=
  Octets.word32_of32 _

/-- An identifier of eleven bits has no marks. -/
theorem wireId_and_eq_zero (id : UInt32) {mark : UInt32} (apart : standardMask &&& mark = 0) :
    wireId id &&& mark = 0 := by
  rw [wireId, UInt32.and_assoc, apart, UInt32.and_zero]

theorem wireId_wireId (id : UInt32) : wireId (wireId id) = wireId id := by
  rw [wireId, wireId, UInt32.and_assoc, UInt32.and_self]

/-- An identifier of eleven bits stays as it is. -/
theorem wireId_of_le {id : UInt32} (standard : id ≤ standardMask) : wireId id = id := by
  rw [← UInt32.toNat_inj, wireId, UInt32.toNat_and]
  have small : id.toNat ≤ 2 ^ 11 - 1 := UInt32.le_iff_toNat_le.mp standard
  show id.toNat &&& (2 ^ 11 - 1) = _
  rw [Nat.and_two_pow_sub_one_eq_mod]
  omega

theorem length_octets (fits : frame.length ≤ 8) : frame.octets.length = frame.length.toNat := by
  have bound : frame.length.toNat ≤ 8 := UInt8.le_iff_toNat_le.mp fits
  rw [Frame.octets, List.length_take, Payload.length_toList]
  omega

theorem isData_encode (fits : frame.length ≤ 8) : IsData (encode frame) where
  whole := Nat.le_refl _
  noError := by
    rw [word_encode]
    exact wireId_and_eq_zero _ (by decide)
  noRemote := by
    rw [word_encode]
    exact wireId_and_eq_zero _ (by decide)
  short := UInt8.le_iff_toNat_le.mp fits

/-- The octets of a frame are filled up with zeros. -/
theorem toList_ofList_octets (fits : frame.length ≤ 8) :
    (Payload.ofList frame.octets).toList =
      frame.octets ++ List.replicate (8 - frame.length.toNat) 0 := by
  have bound : frame.octets.length ≤ Frame.capacity :=
    Nat.le_trans (Nat.le_of_eq (length_octets fits)) (UInt8.le_iff_toNat_le.mp fits)
  rw [Payload.toList_ofList, List.take_of_length_le bound, length_octets fits]
  rfl

/-- The octets that count are where they are looked for. -/
theorem take_drop_encode (fits : frame.length ≤ 8) :
    ((encode frame).drop 8).take frame.length.toNat = frame.octets := by
  show (filled frame.octets).take frame.length.toNat = frame.octets
  rw [filled, toList_ofList_octets fits]
  exact List.take_left' (length_octets fits)

/-- **A frame that is encoded is decoded**, its identifier cut to eleven bits. -/
theorem decode?_encode (fits : frame.length ≤ 8) :
    decode? (encode frame) = some ⟨wireId frame.id, frame.length, .ofList frame.octets⟩ := by
  rw [decode?_of_isData (isData_encode fits)]
  show some (Frame.mk (wireId (word (encode frame))) frame.length
    (.ofList (((encode frame).drop 8).take frame.length.toNat))) = _
  rw [word_encode, wireId_wireId, take_drop_encode fits]

end Codec

/-! ### What happens to a bus -/

/-- What happens to a bus between its start and its stop. -/
inductive Input
  /-- A read brings octets. One that fails brings none and is no input. -/
  | read (octets : List UInt8)
  /-- A frame is to be sent. -/
  | send (frame : Frame)
  /-- From now on the system takes what is written, or it does not. -/
  | turn (deaf : Bool)
  deriving DecidableEq, Repr

/-- The octets of the reads among what happens. -/
def Input.reads (inputs : List Input) : List (List UInt8) :=
  inputs.filterMap fun
    | .read octets => some octets
    | .send _ | .turn _ => none

/-- A bus behind what has happened, and what has passed over it. -/
structure Passage where
  bus : Bus
  /-- The frames that the listener got. -/
  heard : List Frame
  /-- What was written for each frame to send, if it was. -/
  written : List (Option (List UInt8))

/-- One input. -/
def perform (bus : Bus) : Input → Passage
  | .read octets =>
    let (after, frame) := bus.receive octets
    ⟨after, frame.toList, []⟩
  | .send frame =>
    let sending := bus.send frame
    ⟨sending.bus, [], [sending.wire]⟩
  | .turn deaf => ⟨{ bus with deaf := deaf }, [], []⟩

/-- Several inputs in order. -/
def run (bus : Bus) : List Input → Passage
  | [] => ⟨bus, [], []⟩
  | input :: later =>
    let first := bus.perform input
    let rest := first.bus.run later
    ⟨rest.bus, first.heard ++ rest.heard, first.written ++ rest.written⟩

/-- The bus is started, and somebody listens. -/
structure Listens (bus : Bus) : Prop where
  ready : bus.ready = true
  heard : bus.heard = true

variable {bus : Bus}

/-- A data frame that is read is counted, and the listener gets it. -/
theorem receive_frame (listens : bus.Listens) {octets : List UInt8} {frame : Frame}
    (decoded : decode? octets = some frame) :
    let count := bus.statistics
    bus.receive octets =
      ({ bus with statistics := { count with received := count.received + 1 } }, some frame) := by
  unfold receive
  rw [listens.ready, listens.heard, decoded, if_pos rfl]
  rfl

/-- A read that is no data frame is counted as an error. -/
theorem receive_error (listens : bus.Listens) {octets : List UInt8}
    (decoded : decode? octets = none) :
    let count := bus.statistics
    bus.receive octets =
      ({ bus with statistics := { count with errors := count.errors + 1 } }, none) := by
  unfold receive
  rw [listens.ready, decoded, if_pos rfl]

/-- The listener gets what is decoded. -/
theorem receive_heard (listens : bus.Listens) (octets : List UInt8) :
    (bus.receive octets).2 = decode? octets := by
  cases decoded : decode? octets with
  | some frame => rw [receive_frame listens decoded]
  | none => rw [receive_error listens decoded]

/-- A bus that is not started writes nothing, and neither does one for a frame that is too long. -/
theorem send_of_refused {frame : Frame} (refused : bus.ready = false ∨ 8 < frame.length) :
    bus.send frame = ⟨bus, none, []⟩ := by
  refine if_pos ?_
  rw [Bool.or_eq_true, Bool.not_eq_true', Frame.isOversized, decide_eq_true_eq]
  exact refused.imp_right UInt8.lt_iff_toNat_lt.mp

/-- A started bus writes a frame in its sixteen octets, if the system takes them. -/
theorem wire_send {frame : Frame} (ready : bus.ready = true) (taken : bus.deaf = false)
    (fits : frame.length ≤ 8) : (bus.send frame).wire = some (encode frame) := by
  have short : frame.isOversized = false :=
    decide_eq_false (Nat.not_lt.mpr (UInt8.le_iff_toNat_le.mp fits))
  unfold send
  simp only [ready, taken, short, Bool.not_true, Bool.or_self, Bool.false_eq_true, if_false]

/-- A frame is not written, and nothing is changed, or it is written and counted. -/
theorem send_cases (bus : Bus) (frame : Frame) :
    let count := bus.statistics
    ((bus.send frame).bus = bus ∧ (bus.send frame).wire = none) ∨
      (bus.send frame).bus =
          { bus with statistics := { count with sent := count.sent + 1 } } ∧
        (bus.send frame).wire = some (encode frame) := by
  unfold send
  simp only
  split
  · exact Or.inl ⟨rfl, rfl⟩
  · split
    · exact Or.inl ⟨rfl, rfl⟩
    · exact Or.inr ⟨rfl, rfl⟩

/-! ### The tally -/

/-- A listening bus and what has passed over it since it stood at `bus`: each read is counted once,
as a frame that was heard or as an error, and so is each frame that was written. -/
structure Tallies (bus : Bus) (inputs : List Input) (passage : Passage) : Prop where
  listens : passage.bus.Listens
  heard : passage.heard = (Input.reads inputs).filterMap decode?
  received : passage.bus.statistics.received = bus.statistics.received + passage.heard.length
  errors : passage.bus.statistics.received + passage.bus.statistics.errors =
    bus.statistics.received + bus.statistics.errors + (Input.reads inputs).length
  sent : passage.bus.statistics.sent =
    bus.statistics.sent + passage.written.countP Option.isSome

/-- **One input keeps the tally.** -/
theorem perform_tallies (listens : bus.Listens) (input : Input) :
    bus.Tallies [input] (bus.perform input) := by
  obtain ⟨ready, heard⟩ := listens
  cases input with
  | read octets =>
    show bus.Tallies _ ⟨(bus.receive octets).1, (bus.receive octets).2.toList, []⟩
    cases decoded : decode? octets with
    | some frame =>
      rw [receive_frame ⟨ready, heard⟩ decoded]
      refine ⟨⟨ready, heard⟩, ?_, rfl, Nat.add_right_comm _ _ _, rfl⟩
      show [frame] = [octets].filterMap decode?
      rw [List.filterMap_cons_some decoded, List.filterMap_nil]
    | none =>
      rw [receive_error ⟨ready, heard⟩ decoded]
      refine ⟨⟨ready, heard⟩, ?_, rfl, rfl, rfl⟩
      show [] = [octets].filterMap decode?
      rw [List.filterMap_cons_none decoded, List.filterMap_nil]
  | send frame =>
    show bus.Tallies _ ⟨(bus.send frame).bus, [], [(bus.send frame).wire]⟩
    rcases bus.send_cases frame with ⟨kept, silent⟩ | ⟨counted, written⟩
    · rw [kept, silent]
      exact ⟨⟨ready, heard⟩, rfl, rfl, rfl, rfl⟩
    · rw [counted, written]
      exact ⟨⟨ready, heard⟩, rfl, rfl, rfl, rfl⟩
  | turn deaf => exact ⟨⟨ready, heard⟩, rfl, rfl, rfl, rfl⟩

/-- **A run keeps the tally**, by induction on what happens. -/
theorem run_tallies (listens : bus.Listens) (inputs : List Input) :
    bus.Tallies inputs (bus.run inputs) := by
  induction inputs generalizing bus with
  | nil => exact ⟨listens, rfl, rfl, rfl, rfl⟩
  | cons input later ih =>
    have first := perform_tallies listens input
    have rest := ih first.listens
    have reads : Input.reads (input :: later) = Input.reads [input] ++ Input.reads later := by
      rw [Input.reads, Input.reads, Input.reads, ← List.filterMap_append, List.singleton_append]
    refine ⟨rest.listens, ?_, ?_, ?_, ?_⟩
    · rw [reads, List.filterMap_append, ← first.heard, ← rest.heard]
      rfl
    · show (run _ later).bus.statistics.received = _ + (_ ++ (run _ later).heard).length
      rw [rest.received, first.received, List.length_append, Nat.add_assoc]
    · show (run _ later).bus.statistics.received + _ = _
      rw [reads, List.length_append, ← Nat.add_assoc, ← first.errors]
      exact rest.errors
    · show (run _ later).bus.statistics.sent = _ + (_ ++ (run _ later).written).countP _
      rw [rest.sent, first.sent, List.countP_append, Nat.add_assoc]

/-! ### From a start on -/

/-- A bus that is bound has counted nothing yet, and its filters are those that were not refused. -/
theorem bind_of_ready {settings : Settings} {heard : Bool} {conditions : Conditions} {number : Int}
    (started : (bus.bind settings heard conditions number).bus.ready = true) :
    (bus.bind settings heard conditions number).bus = ⟨true, heard, false, ⟨0, 0, 0⟩⟩ ∧
      (bus.bind settings heard conditions number).filters =
        if conditions.filter.isSome then [] else settings.receiveIds.map filterFor := by
  unfold Bus.bind at started ⊢
  cases bound : conditions.bind with
  | some reason =>
    rw [bound] at started
    exact absurd started Bool.false_ne_true
  | none =>
    refine ⟨rfl, ?_⟩
    by_cases all : settings.receiveIds.map filterFor = []
    · simp only [all, if_true, ite_self]
    · simp only [if_neg all]

/-- A bus that is started has counted nothing yet, and its filters are those that were not
refused. -/
theorem start_of_ready {settings : Settings} {heard : Bool} {conditions : Conditions}
    (started : (bus.start settings heard conditions).bus.ready = true) :
    (bus.start settings heard conditions).bus = ⟨true, heard, false, ⟨0, 0, 0⟩⟩ ∧
      (bus.start settings heard conditions).filters =
        if conditions.filter.isSome then [] else settings.receiveIds.map filterFor := by
  unfold start at started ⊢
  split at started
  · exact absurd started Bool.false_ne_true
  next named =>
  rw [if_neg named]
  split at started
  · exact absurd started Bool.false_ne_true
  · exact absurd started Bool.false_ne_true
  · exact bind_of_ready started

/-- **The accounts of a bus.** Whatever is read and sent from a start on, with whatever success, the
reads are counted once each, as a frame or as an error, the listener has got just the frames that
were counted, in the order of the reads, and the frames sent are those that were written; a stop
keeps the counts. A frame of at most eight octets with an identifier of eleven bits, if the system
takes it, goes over the wire in sixteen octets, and every bus that listens elsewhere hears it with
the same identifier and length and the same octets, and zeros behind them. A frame that is too long,
and one for a bus that is not started, is not written. -/
theorem run_accounts {settings : Settings} {conditions : Conditions}
    (started : (bus.start settings true conditions).bus.ready = true) (inputs : List Input) :
    let passage := (bus.start settings true conditions).bus.run inputs
    let counts := passage.bus.statistics
    (counts.received + counts.errors = (Input.reads inputs).length ∧
        passage.heard = (Input.reads inputs).filterMap decode? ∧
        passage.heard.length = counts.received ∧
        passage.written.countP Option.isSome = counts.sent ∧
        passage.bus.stop.statistics = counts) ∧
      (∀ frame : Frame, frame.id ≤ 0x7FF → frame.length ≤ 8 → passage.bus.deaf = false →
        ∃ wire received, (passage.bus.send frame).wire = some wire ∧ wire.length = 16 ∧
          (∀ other : Bus, other.Listens → (other.receive wire).2 = some received) ∧
          received.id = frame.id ∧ received.length = frame.length ∧
          received.payload.toList = frame.payload.toList.take frame.length.toNat ++
            List.replicate (8 - frame.length.toNat) 0) ∧
      (∀ frame : Frame, 8 < frame.length → passage.bus.send frame = ⟨passage.bus, none, []⟩) ∧
      ∀ (stopped : Bus) (frame : Frame), stopped.ready = false →
        stopped.send frame = ⟨stopped, none, []⟩ := by
  intro passage counts
  have fresh := (start_of_ready started).1
  have opened : (bus.start settings true conditions).bus.Listens :=
    ⟨started, congrArg Bus.heard fresh⟩
  have zero := congrArg Bus.statistics fresh
  obtain ⟨listens, heard, received, errors, sent⟩ := run_tallies opened inputs
  rw [zero] at received errors sent
  refine ⟨⟨errors.trans ?_, heard, ?_, ?_, rfl⟩, ?_, ?_, ?_⟩
  · exact Nat.zero_add _
  · exact (received.trans (Nat.zero_add _)).symm
  · exact (sent.trans (Nat.zero_add _)).symm
  · intro frame standard fits taken
    refine ⟨encode frame, _, wire_send listens.ready taken fits, length_encode frame,
      fun other hears => (receive_heard hears _).trans (decode?_encode fits),
      wireId_of_le standard, rfl, ?_⟩
    exact toList_ofList_octets fits
  · exact fun frame long => send_of_refused (Or.inr long)
  · exact fun stopped frame unready => send_of_refused (Or.inl unready)

/-- A frame is sent and comes back, a read of one octet is an error, and nobody is left to take the
frame when it is sent again. -/
theorem run_accounts_mixed :
    let settings : Settings := ⟨Text.ofString "can0", [0x581]⟩
    let frame : Frame := ⟨0x581, 2, .ofList [1, 2, 9]⟩
    let inputs : List Input :=
      [.send frame, .read (encode frame), .read [1], .turn true, .send frame]
    let passage := (idle.start settings true ⟨none, .ok 3, none, none⟩).bus.run inputs
    passage.bus.statistics = ⟨1, 1, 1⟩ ∧ passage.heard = [⟨0x581, 2, .ofList [1, 2]⟩] ∧
      passage.heard.length = passage.bus.statistics.received := by
  intro settings frame inputs passage
  obtain ⟨⟨-, heard, counted, -⟩, -⟩ :=
    @run_accounts idle settings ⟨none, .ok 3, none, none⟩ (by decide) inputs
  exact ⟨by decide, heard.trans (by decide), counted⟩

end Bus

end Canopen
