/-
**Block uploads, handlers against plans.**

* `BlockUpload.midway`: the record of a block upload some of whose next window is sent.
* `BlockUpload.behindSegment_midway`: **one more segment**, which is kept in the slot of its number.
* `Handler.meets_sendSegments`: the segments of a window before the rest of a handler.
* `Handler.sendWindow_meets`, `Handler.resend_meets`: a window is sent, and sent again.
* `Handler.startBlockUpload_meets`, `Handler.blockUploadAck_meets`: what a block upload answers to
  its client.
-/

import Canopen.Proofs.Handlers

namespace Canopen

/-- One more slot holds a frame. -/
theorem Slots.Hold.append {pending : Slots} {window : List Segment} (holds : pending.Hold window)
    (room : window.length < greatestWindow) (segment : Segment) :
    Slots.Hold (pending.setIfInBounds window.length segment.payload) (window ++ [segment]) := by
  have inside : window.length < pending.toList.length := by
    rw [Vector.length_toList]
    exact room
  have kept : (pending.toList.set window.length segment.payload).take window.length =
      pending.toList.take window.length := by
    rw [List.take_set, List.set_eq_of_length_le]
    exact List.length_take_le _ _
  rw [Slots.Hold, Vector.toList_setIfInBounds, List.length_append, List.length_singleton,
    List.take_add_one, kept, List.getElem?_set_self inside, holds, List.map_append]
  rfl

namespace BlockUpload

section Layout

variable {upload : BlockUpload} {first count : Nat} (stands : upload.Stands first count)
  (target : Target) (pending : Slots)

include stands

theorem Stands.sequence_layout :
    (Session.layout ⟨target, .blockUpload upload⟩ pending).sequence.toNat = count := by
  show (UInt8.ofNat upload.window.length).toNat = count
  rw [stands.length_window]
  exact toNat_ofNat_of_le stands.small

theorem Stands.blockSize_layout :
    (Session.layout ⟨target, .blockUpload upload⟩ pending).blockSize.toNat = upload.blockSize :=
  toNat_ofNat_of_le stands.most

end Layout

/-- The checksum register behind more octets. -/
def register (upload : BlockUpload) (data : List UInt8) : UInt16 :=
  if upload.checksummed then Checksum.update upload.checksum data else upload.checksum

/-- The record of a block upload with some segments of its next window sent. -/
def midway (upload : BlockUpload) (target : Target) (phase : Phase) (sent : List Segment)
    (pending : Slots) : Record where
  target := target
  mode := .blockUpload
  buffer := upload.value
  cursor := upload.sent + (Segment.join sent).length
  declared := some (UInt32.ofNat upload.value.length)
  phase := phase
  blockSize := UInt8.ofNat upload.blockSize
  sequence := UInt8.ofNat sent.length
  checksummed := upload.checksummed
  checksum := upload.register (Segment.join sent)
  pending := pending
  pendingCount := UInt8.ofNat sent.length
  lastLength := lastLength { upload with window := sent }

variable {target : Target} {upload : BlockUpload} {phase : Phase} {sent : List Segment}
  {pending : Slots}

/-- The octets behind some segments of the next window. -/
def left (upload : BlockUpload) (sent : List Segment) : List UInt8 :=
  upload.rest.drop (Segment.join sent).length

/-- The next segment of a window some of which is sent. -/
def nextSegment (upload : BlockUpload) (sent : List Segment) : Segment :=
  let octets := upload.left sent
  ⟨sent.length + 1, octets.length ≤ segmentCapacity, octets.take segmentCapacity⟩

theorem segment_midway : (midway upload target phase sent pending).segment =
    (upload.nextSegment sent).data := by
  show (upload.value.drop (upload.sent + _)).take _ = ((upload.value.drop _).drop _).take _
  rw [List.drop_drop]

theorem remaining_midway : (midway upload target phase sent pending).remaining =
    (upload.left sent).length := by
  rw [left, rest, List.drop_drop, List.length_drop]
  rfl

theorem isLast_midway : (midway upload target phase sent pending).isLast =
    (upload.nextSegment sent).last := by
  have split : (midway upload target phase sent pending).advance.remaining =
      (midway upload target phase sent pending).remaining -
        (midway upload target phase sent pending).segment.length := Nat.sub_add_eq _ _ _
  rw [Record.isLast, split, remaining_midway, segment_midway, Bool.eq_iff_iff, beq_iff_eq]
  show _ ↔ decide _ = true
  rw [decide_eq_true_eq, nextSegment, List.length_take]
  omega

/-- A record of a block upload whose slots are free is ready for the next window. -/
theorem freed_midway (target : Target) (pending : Slots) (unmarked : upload.lastLength = 0) :
    { Session.layout ⟨target, .blockUpload upload⟩ pending with
      pendingCount := 0, sequence := 0 } =
      upload.midway target (if upload.started then .awaitingAck else .initiated) [] pending := by
  have register : upload.register [] = upload.checksum := by
    rw [BlockUpload.register, Checksum.update_nil, ite_self]
  have checksum : upload.register (Segment.join []) = upload.checksum := register
  simp only [Session.layout, Session.mode, Session.phase, midway, checksum, unmarked]
  rfl

section Room

variable (room : sent.length < greatestWindow)

include room

theorem sequence_midway :
    (UInt8.ofNat sent.length + 1).toNat = sent.length + 1 := by
  rw [show (1 : UInt8) = UInt8.ofNat 1 from rfl, ← UInt8.ofNat_add]
  exact toNat_ofNat_of_le room

theorem segmentFrame_midway : (midway upload target phase sent pending).segmentFrame =
    (upload.nextSegment sent).payload := by
  rw [Segment.payload, Response.octets_blockSegment (show sent.length + 1 ≤ _ from room),
    Record.segmentFrame, isLast_midway, segment_midway]
  show _ = Payload.ofList ((if _ then UInt8.ofNat (sent.length + 1) ||| _
    else UInt8.ofNat (sent.length + 1)) :: _)
  rw [UInt8.ofNat_add]
  rfl

/-- **One more segment**, which is kept in the slot of its number. -/
theorem behindSegment_midway (unmarked : lastLength { upload with window := sent } = 0) :
    (midway upload target phase sent pending).behindSegment =
      midway upload target phase (sent ++ [upload.nextSegment sent])
        (pending.setIfInBounds sent.length (upload.nextSegment sent).payload) := by
  have join : Segment.join (sent ++ [upload.nextSegment sent]) =
      Segment.join sent ++ (upload.nextSegment sent).data := by
    rw [Segment.join, List.flatMap_append, List.flatMap_singleton]
    rfl
  have length : (Segment.join (sent ++ [upload.nextSegment sent])).length =
      (Segment.join sent).length + (upload.nextSegment sent).data.length := by
    rw [join, List.length_append]
  have last : lastLength { upload with window := sent ++ [upload.nextSegment sent] } =
      if (upload.nextSegment sent).last then (upload.nextSegment sent).data.length else 0 := by
    simp only [lastLength, List.getLast?_concat]
  have number : UInt8.ofNat sent.length + 1 =
      UInt8.ofNat (sent ++ [upload.nextSegment sent]).length := by
    rw [List.length_append, UInt8.ofNat_add]
    rfl
  have checksum : (midway upload target phase sent pending).register
      (upload.nextSegment sent).data =
        upload.register (Segment.join (sent ++ [upload.nextSegment sent])) := by
    rw [join, Record.register, midway, register, register]
    cases upload.checksummed with
    | true => exact (Checksum.update_append ..).symm
    | false => rfl
  rw [Record.behindSegment, segmentFrame_midway room, isLast_midway, segment_midway, checksum,
    Record.advance, segment_midway]
  simp only [midway]
  rw [sequence_midway room, number, last, unmarked, length, ← Nat.add_assoc, Nat.add_sub_cancel]

end Room

/-- The octets behind one more segment. -/
theorem left_append (upload : BlockUpload) (sent : List Segment) :
    upload.left (sent ++ [upload.nextSegment sent]) = (upload.left sent).drop segmentCapacity := by
  rw [left, Segment.join, List.flatMap_append, List.flatMap_singleton, List.length_append,
    ← List.drop_drop]
  show (upload.left sent).drop ((upload.left sent).take segmentCapacity).length = _
  rw [List.length_take]
  rcases Nat.le_total segmentCapacity (upload.left sent).length with more | all
  · rw [Nat.min_eq_left more]
  · rw [Nat.min_eq_right all, List.drop_length, List.drop_eq_nil_of_le all]

/-- The segments of a window begin with the next one, as long as octets are left. -/
theorem cut_left (more : upload.left sent ≠ []) (count : Nat) :
    Segment.cut (count + 1) (sent.length + 1) (upload.left sent) =
      upload.nextSegment sent :: Segment.cut count ((sent ++ [upload.nextSegment sent]).length + 1)
        (upload.left (sent ++ [upload.nextSegment sent])) := by
  rw [Segment.cut, if_neg more, left_append, List.length_append]
  rfl

/-- No segment is the last one of the transfer as long as octets are left. -/
theorem lastLength_append (more : upload.left (sent ++ [upload.nextSegment sent]) ≠ []) :
    lastLength { upload with window := sent ++ [upload.nextSegment sent] } = 0 := by
  rw [left_append, ne_eq, List.drop_eq_nil_iff] at more
  have inner : (upload.nextSegment sent).last = false := decide_eq_false more
  simp only [lastLength, List.getLast?_concat, inner, Bool.false_eq_true, if_false]

end BlockUpload

namespace Handler

theorem toNat_clamp (blockSize : Nat) : (clamp blockSize).toNat = BlockUpload.clamp blockSize :=
  toNat_ofNat_of_le (BlockUpload.clamp_bounds blockSize).2

variable {σ : Type} [Store σ] {record : Record} {session : Session} {target : Target}
  {upload : BlockUpload} {phase : Phase}

/-- **The segments of a window before the rest of a handler.** -/
theorem meets_sendSegments {rest : Nat → Handler σ Unit} {session : Session} {events : List Event}
    {failure : Option AbortCause} (count : Nat) (sent : List Segment) {pending : Slots}
    (room : sent.length + count ≤ greatestWindow) (holds : pending.Hold sent)
    (unmarked : upload.left sent ≠ [] → BlockUpload.lastLength { upload with window := sent } = 0)
    (meets : ∀ kept : Slots,
      let window := sent ++ Segment.cut count (sent.length + 1) (upload.left sent)
      kept.Hold window → Meets (rest window.length) (upload.midway target phase window kept)
        (.finish ⟨session, events, failure⟩)) :
    Meets (sendSegments count sent.length >>= rest) (upload.midway target phase sent pending)
      (.finish ⟨session, Session.sendSegments
        (Segment.cut count (sent.length + 1) (upload.left sent)) ++ events, failure⟩) := by
  induction count generalizing sent pending with
  | zero =>
    rw [Segment.cut, List.append_nil] at meets
    exact meets pending holds
  | succ count ih =>
    rw [sendSegments, bind_assoc]
    refine meets_record ?_
    by_cases ended : upload.left sent = []
    · have finished : (upload.midway target phase sent pending).remaining = 0 := by
        rw [BlockUpload.remaining_midway, ended, List.length_nil]
      rw [ended, Segment.cut, if_pos rfl, List.append_nil] at meets
      rw [if_pos finished, pure_bind, ended, Segment.cut, if_pos rfl]
      exact meets pending holds
    · have unfinished : ¬ (upload.midway target phase sent pending).remaining = 0 := by
        rw [BlockUpload.remaining_midway, List.length_eq_zero_iff]
        exact ended
      have inner : sent.length < greatestWindow := by omega
      have length : (sent ++ [upload.nextSegment sent]).length = sent.length + 1 :=
        List.length_append
      have next := BlockUpload.cut_left ended count
      rw [if_neg unfinished, bind_assoc, next]
      refine meets_assign ?_
      rw [bind_assoc, BlockUpload.behindSegment_midway inner (unmarked ended)]
      refine meets_send (BlockUpload.segmentFrame_midway inner) ?_
      rw [← length]
      refine ih _ ?_ (holds.append inner _) BlockUpload.lastLength_append fun kept => ?_
      · rw [length]
        omega
      · rw [List.append_assoc, List.singleton_append, ← next]
        exact meets kept

/-- A window is sent, from a record whose slots are free. -/
theorem sendWindow_meets (most : upload.blockSize ≤ greatestWindow) (pending : Slots) :
    Meets (σ := σ) sendWindow (upload.midway target phase [] pending)
      (.finish (Session.sendWindow target upload)) := by
  have size : (upload.midway target phase [] pending).blockSize.toNat = upload.blockSize :=
    toNat_ofNat_of_le most
  refine meets_record ?_
  rw [size]
  have room : ([] : List Segment).length + upload.blockSize ≤ greatestWindow := by
    rw [List.length_nil, Nat.zero_add]
    exact most
  refine meets_sendSegments upload.blockSize [] room pending.hold_nil (fun _ => rfl)
    fun kept holds => ?_
  have left : (upload.midway target .awaitingAck upload.nextWindow kept).remaining =
      upload.advance.rest.length := by
    rw [Record.remaining, BlockUpload.rest, List.length_drop]
    rfl
  refine meets_assign (meets_record ?_)
  show Meets (note (.windowSent target upload.nextWindow.length
    (upload.midway target .awaitingAck upload.nextWindow kept).remaining))
    (upload.midway target .awaitingAck upload.nextWindow kept) _
  rw [left]
  exact meets_note (meets_done ⟨kept, holds, rfl⟩)

/-- The frames in the slots from a place on are sent again. -/
theorem resend_meets {window : List Segment} (holds : record.pending.Hold window)
    (represents : record.Represents session) {place count : Nat}
    (ends : place + count = window.length) :
    Meets (σ := σ) (resend place count) record
      (.finish (.done session (Session.sendSegments (window.drop place)))) := by
  induction count generalizing place with
  | zero =>
    rw [List.drop_eq_nil_of_le (show window.length ≤ place by omega)]
    exact meets_done represents
  | succ count ih =>
    have inside : place < window.length := by omega
    have slot : record.pending.getD place {} = (window[place]).payload := by
      rw [Vector.getD, Array.getD_eq_getD_getElem?, Vector.getElem?_toArray,
        holds.getElem? (List.getElem?_eq_getElem inside),
        Option.getD_some]
    rw [List.drop_eq_getElem_cons inside]
    exact meets_record (meets_send slot (ih (by omega)))

/-! ### The handlers -/

theorem initBlockUpload_meets (record : Record) (target : Target) (checksummed : Bool)
    (blockSize : Nat) :
    Meets (σ := σ) (initBlockUpload target checksummed blockSize) record
      (Session.openBlockUpload target checksummed blockSize) := by
  refine meets_supersede fun pending => meets_readValue rfl rfl fun value _ => meets_assign ?_
  rw [toNat_clamp]
  refine meets_note (meets_send ?_ (meets_done ⟨pending, pending.hold_nil, rfl⟩))
  rw [Response.octets_blockUploadStarted, Payload.withHeader_behindHeader]

/-- The end of a block upload, from a record that agrees with it in the members that count then. -/
theorem endBlockUpload_meets (names : record.target = target)
    (lastLength : record.lastLength = upload.lastLength)
    (checksummed : record.checksummed = upload.checksummed)
    (checksum : record.checksum = upload.checksum) (cursor : record.cursor = upload.sent) :
    Meets (σ := σ) endBlockUpload record (.finish (Session.closeBlockUpload target upload)) := by
  subst names
  have unused : (if 0 < record.lastLength then segmentCapacity - record.lastLength else 0) =
      upload.unused := by
    rw [lastLength, BlockUpload.unused]
    split <;> split <;> omega
  have fits : upload.unused ≤ segmentCapacity := by
    rw [BlockUpload.unused]
    split <;> omega
  refine meets_record ?_
  rw [unused, checksummed, checksum, cursor]
  refine meets_send ?_ (meets_note (meets_assign_done record.represents_reset))
  rw [Response.octets_blockUploadEnd fits,
    Nat.mod_eq_of_lt (Nat.lt_of_le_of_lt fits (by decide))]
  cases upload.checksummed <;> rfl

theorem startBlockUpload_meets (represents : record.Represents session) (sound : session.Sound) :
    Meets (σ := σ) startBlockUpload record (.finish session.blockUploadStart) := by
  obtain ⟨pending, holds, rfl⟩ := represents
  obtain ⟨target, transfer⟩ := session
  refine meets_record ?_
  cases transfer with
  | blockUpload upload =>
    obtain ⟨first, count, stands⟩ := sound
    simp only [Session.mode_layout, Session.phase_layout, Session.mode, Session.phase,
      Session.blockUploadStart]
    cases started : upload.started with
    | true => exact meets_note (meets_refuse .invalidCommand rfl rfl)
    | false =>
      have nothing : count = 0 := by
        rw [stands.started, decide_eq_false_iff_not] at started
        exact Nat.eq_zero_of_not_pos started
      have window : upload.window = [] := by
        rw [← List.length_eq_zero_iff, stands.length_window, nothing]
      have unmarked : upload.lastLength = 0 := by
        rw [BlockUpload.lastLength, window]
        rfl
      have ready := upload.freed_midway target pending unmarked
      rw [started, if_neg Bool.false_ne_true] at ready
      have first : Session.layout ⟨target, .blockUpload upload⟩ pending =
          upload.midway target .initiated [] pending := by
        rw [← ready]
        simp only [Session.layout, window, List.length_nil]
        rfl
      rw [first]
      exact sendWindow_meets stands.most pending
  | _ => exact meets_note (meets_refuse .invalidCommand rfl rfl)

/-- Behind an acknowledgement whose block size is taken over. -/
theorem continueUpload_meets {first count : Nat} (stands : upload.Stands first count)
    (running : 0 < count) {pending : Slots} (holds : pending.Hold upload.window)
    (acknowledged : Nat) :
    Meets (σ := σ) (continueUpload acknowledged)
      (Session.layout ⟨target, .blockUpload upload⟩ pending)
      (.finish (Session.continueUpload target upload acknowledged)) := by
  have left : (Session.layout ⟨target, .blockUpload upload⟩ pending).remaining =
      upload.rest.length := by
    rw [BlockUpload.rest, List.length_drop]
    rfl
  refine meets_record ?_
  simp only [stands.sequence_layout, left, Session.continueUpload, stands.length_window]
  split
  · exact meets_note (meets_refuse .invalidSequence rfl rfl)
  split
  · next part =>
    have represents : (Session.layout ⟨target, .blockUpload upload⟩ pending).Represents
        ⟨target, .blockUpload upload⟩ := ⟨pending, holds, rfl⟩
    refine meets_note (resend_meets holds represents ?_)
    rw [stands.length_window]
    omega
  refine meets_assign ?_
  split
  · next more =>
    have other : upload.rest ≠ [] := List.length_pos_iff.mp more
    have unmarked : upload.lastLength = 0 := by
      rw [stands.lastLength running, if_neg fun all => other (stands.rest_eq_nil_iff.mpr all)]
    rw [if_neg other, BlockUpload.freed_midway target pending unmarked]
    exact sendWindow_meets stands.most pending
  · next all =>
    rw [if_pos (List.length_eq_zero_iff.mp (Nat.eq_zero_of_not_pos all))]
    exact endBlockUpload_meets rfl rfl rfl rfl rfl

theorem blockUploadAck_meets (represents : record.Represents session) (sound : session.Sound)
    (acknowledged : Nat) (blockSize : Option Nat) :
    Meets (σ := σ) (blockUploadAck acknowledged blockSize) record
      (.finish (session.blockUploadAck acknowledged blockSize)) := by
  obtain ⟨pending, holds, rfl⟩ := represents
  obtain ⟨target, transfer⟩ := session
  refine meets_record ?_
  cases transfer with
  | blockUpload upload =>
    obtain ⟨first, count, stands⟩ := sound
    simp only [Session.mode_layout, Session.phase_layout, Session.mode, Session.phase, ne_eq,
      not_true_eq_false, false_or, Session.blockUploadAck]
    by_cases started : upload.started = true
    · have running : 0 < count := by
        rw [stands.started, decide_eq_true_eq] at started
        exact started
      simp only [if_pos started, not_true_eq_false, if_false]
      refine meets_assign ?_
      rw [stands.blockSize_layout]
      exact continueUpload_meets (stands.resize _) running holds acknowledged
    · simp only [if_neg started]
      exact meets_note (meets_refuse .invalidCommand rfl rfl)
  | _ => exact meets_note (meets_refuse .invalidCommand rfl rfl)

theorem blockUploadEnd_meets (represents : record.Represents session) :
    Meets (σ := σ) blockUploadEnd record (.finish session.blockUploadEnd) := by
  obtain ⟨pending, holds, rfl⟩ := represents
  obtain ⟨target, transfer⟩ := session
  refine meets_record ?_
  cases transfer with
  | blockUpload upload => exact endBlockUpload_meets rfl rfl rfl rfl rfl
  | _ => exact meets_note (meets_done ⟨pending, holds, rfl⟩)

end Handler

end Canopen
