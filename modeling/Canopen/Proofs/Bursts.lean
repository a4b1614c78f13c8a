/-
**A burst of errors is detected.**

* `Octets.Burst`: octets that differ from others within so many consecutive bits; one run of bits is
  put in the place of another (`Octets.Burst.cut`).
* `Checksum.register_injective`, `Checksum.bits_injective`: what is fed behind two registers keeps
  them apart, and so do up to sixteen bits fed behind one register.
* `Checksum.of_ne_of_burst`: **a burst within sixteen bits changes the checksum.**
* `Server.BringsBlocks.unaborted`: no abort is sent before the end of a block download.
* `Server.receive_blockDownload_detects`: **a block download that a burst has changed is refused**
  at its end, and not before; nothing is written.
-/

import Canopen.Proofs.Downloads
import Canopen.Proofs.ShiftRegister

namespace Canopen

namespace Octets

theorem length_bits (octets : List UInt8) : (bits octets).length = 8 * octets.length := by
  induction octets with
  | nil => rfl
  | cons octet rest ih =>
    rw [bits_cons, List.length_append, ih, List.length_cons, Nat.mul_succ, Nat.add_comm]
    rfl

/-- An octet is known by its bits. -/
theorem bits_singleton_injective {one two : UInt8} (same : bits [one] = bits [two]) :
    one = two := by
  apply UInt8.toNat_inj.mp
  apply Nat.eq_of_testBit_eq
  intro place
  by_cases inside : place < 8
  · have bit : (bits [one])[7 - place]? = (bits [two])[7 - place]? := by rw [same]
    rw [Checksum.getElem?_bits_singleton one (by omega),
      Checksum.getElem?_bits_singleton two (by omega),
      show 7 - (7 - place) = place by omega] at bit
    exact Option.some.inj bit
  · have beyond (octet : UInt8) : octet.toNat.testBit place = false :=
      Nat.testBit_lt_two_pow (Nat.lt_of_lt_of_le octet.toNat_lt
        (Nat.pow_le_pow_right Nat.two_pos (by omega)))
    rw [beyond, beyond]

theorem bits_injective {one two : List UInt8} (length : one.length = two.length)
    (same : bits one = bits two) : one = two := by
  induction one generalizing two with
  | nil => exact (List.length_eq_zero_iff.mp length.symm).symm
  | cons octet rest ih =>
    cases two with
    | nil => exact absurd length (Nat.succ_ne_zero _)
    | cons other others =>
      rw [bits_cons, bits_cons] at same
      obtain ⟨first, later⟩ := List.append_inj same rfl
      rw [bits_singleton_injective first, ih (Nat.succ.inj length) later]

/-- Octets that differ from others of the same number, within so many consecutive bits. -/
structure Burst (width : Nat) (sent received : List UInt8) : Prop where
  length : received.length = sent.length
  differ : received ≠ sent
  within : ∃ start, ∀ place, (bits sent)[place]? ≠ (bits received)[place]? →
    start ≤ place ∧ place < start + width

/-- **A burst puts other bits in the place of a run of them.** -/
theorem Burst.cut {width : Nat} {sent received : List UInt8} (burst : Burst width sent received) :
    ∃ before middle other after, bits sent = before ++ (middle ++ after) ∧
      bits received = before ++ (other ++ after) ∧ middle.length = other.length ∧
      middle.length ≤ width := by
  obtain ⟨start, within⟩ := burst.within
  have agree {place : Nat} (outside : place < start ∨ start + width ≤ place) :
      (bits sent)[place]? = (bits received)[place]? := by
    refine Decidable.byContradiction fun other => ?_
    have inside := within place other
    omega
  have length : (bits sent).length = (bits received).length := by
    rw [length_bits, length_bits, burst.length]
  have before : (bits sent).take start = (bits received).take start := by
    apply List.ext_getElem?
    intro place
    rw [List.getElem?_take, List.getElem?_take]
    split
    · next early => exact agree (Or.inl early)
    · rfl
  have after : ((bits sent).drop start).drop width = ((bits received).drop start).drop width := by
    apply List.ext_getElem?
    intro place
    rw [List.getElem?_drop, List.getElem?_drop, List.getElem?_drop, List.getElem?_drop]
    exact agree (Or.inr (by omega))
  refine ⟨(bits sent).take start, ((bits sent).drop start).take width,
    ((bits received).drop start).take width, ((bits sent).drop start).drop width, ?_, ?_, ?_,
    List.length_take_le _ _⟩
  · rw [List.take_append_drop, List.take_append_drop]
  · rw [before, after, List.take_append_drop, List.take_append_drop]
  · rw [List.length_take, List.length_take, List.length_drop, List.length_drop, length]

end Octets

namespace Checksum

/-- What is fed behind two registers keeps them apart. -/
theorem register_injective {bits : List Bool} {one two : UInt16}
    (same : bits.foldl feed one = bits.foldl feed two) : one = two := by
  induction bits generalizing one two with
  | nil => exact same
  | cons bit rest ih =>
    have next : feed one bit = feed two bit := ih same
    rw [feed_eq, feed_eq] at next
    exact UInt16.xor_left_inj _ |>.mp (shift_injective next)

/-- Up to sixteen bits are known by what they make of a register. -/
theorem bits_injective {one two : List Bool} (length : one.length = two.length)
    (few : one.length ≤ 16) {register : UInt16}
    (same : one.foldl feed register = two.foldl feed register) : one = two := by
  rw [foldl_feed few, foldl_feed (length ▸ few), length] at same
  exact lead_injective length few ((UInt16.xor_right_inj _).mp (shifts_injective same))

/-- **A burst within sixteen bits changes the checksum.** -/
theorem of_ne_of_burst {sent received : List UInt8} (burst : Octets.Burst 16 sent received) :
    of received ≠ of sent := by
  intro same
  obtain ⟨before, middle, other, after, one, two, length, few⟩ := burst.cut
  rw [of, of, update_eq_feed, update_eq_feed, one, two, List.foldl_append, List.foldl_append,
    List.foldl_append, List.foldl_append] at same
  -- What stands behind the burst keeps apart what the burst has made of the register.
  have kept := bits_injective length few (register_injective same.symm)
  refine burst.differ (Octets.bits_injective burst.length ?_)
  rw [one, two, kept]

end Checksum

/-- A value with another checksum than the client's is refused. -/
theorem Session.closeBlockDownload_fail {target : Target} {download : BlockDownload}
    {data padding : List UInt8} {checksum : UInt16} (marked : download.checksummed = true)
    (received : download.received = data ++ padding)
    (room : ∀ size, download.declared = some size → data.length ≤ size.toNat)
    (other : Checksum.of data ≠ checksum) :
    ∃ notices, closeBlockDownload target download padding.length checksum =
      .finish (.fail ⟨target, .blockDownload download⟩ .checksum notices) := by
  have trimmed := trimmed_of_received received
  have fits : isExcess data.length download.declared = false := isExcess_eq_false room
  unfold closeBlockDownload
  simp only [trimmed, fits, Bool.false_eq_true, if_false]
  rw [if_pos ⟨marked, Ne.symm other⟩]
  exact ⟨_, rfl⟩

namespace Server

variable {σ : Type} [Store σ] {server : Server} {opening ending : Frame}
  {frames : List (Frame × Nat)} {target : Target} {declared : Option UInt32}
  {checksummed : Bool} {data padding : List UInt8} {checksum : UInt16}

/-- Frames none of which is answered with an abort. -/
theorem unaborted_receiveAll {store : σ}
    (each : ∀ before frame time after, frames = before ++ (frame, time) :: after →
      let reached := server.receiveAll store before
      Event.Unaborted (reached.server.receive reached.store frame time).events) :
    Event.Unaborted (server.receiveAll store frames).events := by
  induction frames generalizing server store with
  | nil => exact List.forall_mem_nil _
  | cons received rest ih =>
    obtain ⟨frame, time⟩ := received
    refine Event.unaborted_append.mpr ⟨each [] frame time rest rfl, ih ?_⟩
    intro before next moment after split
    exact each ((frame, time) :: before) next moment after (congrArg _ split)

/-- What brings a block download is not answered with an abort before its end. -/
theorem BringsBlocks.unaborted
    (brings : server.BringsBlocks target declared checksummed data padding checksum opening frames
      ending) (store : σ) (time : Nat) :
    let opened := server.receive store opening time
    Event.Unaborted opened.events ∧
      Event.Unaborted (opened.server.receiveAll opened.store frames).events := by
  obtain ⟨started, acks, -⟩ := brings.held store time
  refine ⟨(Event.unaborted_iff started).mpr rfl, unaborted_receiveAll ?_⟩
  intro before frame moment after split reached response member
  rw [acks before frame moment after split] at member
  split at member
  · rw [List.mem_singleton.mp member]
    rfl
  · exact absurd member List.not_mem_nil

/-- **A burst of errors is detected.** If octets differ from those that were sent within sixteen
consecutive bits, their checksums differ; so a block download that brings the first ones with the
checksum of the second ones is refused at its end, and not before. Nothing is written. -/
theorem receive_blockDownload_detects {sent data : List UInt8}
    (burst : Octets.Burst 16 sent data) :
    Checksum.of data ≠ Checksum.of sent ∧
      ∀ {σ : Type} [Store σ] {server : Server} {target : Target} {declared : Option UInt32}
        {padding : List UInt8} {opening ending : Frame} {frames : List (Frame × Nat)},
        server.BringsBlocks target declared true data padding (Checksum.of sent) opening frames
          ending →
        ∀ (store : σ) (writes : List WriteCall) (first last : Nat),
          let opened := server.receive (Recorded.mk store writes) opening first
          let filled := opened.server.receiveAll opened.store frames
          let closed := filled.server.receive filled.store ending last
          Event.Unaborted opened.events ∧ Event.Unaborted filled.events ∧
            Event.responses closed.events = [.abort target 0x05040004] ∧
            (Event.responses closed.events).map Response.encode =
              [.ofList (0x80 :: target.octets ++ [0x04, 0x00, 0x04, 0x05])] ∧
            closed.server.session = .idle target ∧
            closed.store = Recorded.mk store writes := by
  have other := Checksum.of_ne_of_burst burst
  refine ⟨other, ?_⟩
  intro σ _ server target declared padding opening ending frames brings store writes first last
    opened filled closed
  obtain ⟨-, -, kept, download, leads, complete, received, known, marked⟩ :=
    brings.held (Recorded.mk store writes) first
  obtain ⟨started, taken⟩ := brings.unaborted (Recorded.mk store writes) first
  have ready : filled.server.session.isReceiving = false := by
    rw [leads, Session.isReceiving_blockDownload, complete]
    rfl
  have fits : (Request.blockDownloadEnd padding.length (Checksum.of sent)).Fits :=
    length_padding_le brings.whole
  obtain ⟨notices, refused⟩ := Session.closeBlockDownload_fail marked received
    (known ▸ brings.room) other
  have planned : filled.server.session.plan (filled.server.session.interpret ending.octets) =
      .finish (.fail ⟨target, .blockDownload download⟩ .checksum notices) := by
    rw [Session.interpret_of_brings ready fits brings.ends, leads, ← refused]
    exact if_pos complete
  obtain ⟨rest, same, responses⟩ := receive_run filled.store last planned
  have answer : Event.responses closed.events = [.abort target 0x05040004] :=
    responses.trans (Move.responses_fail _ _ _)
  refine ⟨started, taken, answer, ?_, rest, same.trans kept⟩
  rw [answer, List.map_singleton, Response.octets_abort]
  rfl

/-- Three octets whose second and third are inverted on their way. -/
theorem receive_blockDownload_detects_inverted :
    Checksum.of [1, 0xFD, 0xFC] ≠ Checksum.of [1, 2, 3] ∧
      ∃ opened filled closed : Reaction (Recorded Dictionary),
        opened = (new 0x582).receive (Recorded.mk (Dictionary.single ⟨0x2000, 1⟩ []) [])
          (Request.blockDownload ⟨0x2000, 1⟩ true (some 3)).frame 0 ∧
        filled = opened.server.receiveAll opened.store
          [((Request.blockSegment ⟨1, true, [1, 0xFD, 0xFC, 0, 0, 0, 0]⟩).frame, 1)] ∧
        closed = filled.server.receive filled.store
          (Request.blockDownloadEnd 4 (Checksum.of [1, 2, 3])).frame 2 ∧
        Event.responses closed.events = [.abort ⟨0x2000, 1⟩ 0x05040004] ∧
        closed.store.writes = [] := by
  have burst : Octets.Burst 16 [1, 2, 3] [1, 0xFD, 0xFC] := by
    have near : ∀ place < 24,
        (Octets.bits [1, 2, 3])[place]? ≠ (Octets.bits [1, 0xFD, 0xFC])[place]? →
          8 ≤ place ∧ place < 24 := by decide
    refine ⟨rfl, by decide, 8, ?_⟩
    intro place other
    by_cases inside : place < 24
    · exact near place inside other
    · have beyond := Nat.not_lt.mp inside
      refine absurd ?_ other
      rw [List.getElem?_eq_none beyond, List.getElem?_eq_none beyond]
  have brings : (new 0x582).BringsBlocks ⟨0x2000, 1⟩ (some 3) true [1, 0xFD, 0xFC] [0, 0, 0, 0]
      (Checksum.of [1, 2, 3]) (Request.blockDownload ⟨0x2000, 1⟩ true (some 3)).frame
      [((Request.blockSegment ⟨1, true, [1, 0xFD, 0xFC, 0, 0, 0, 0]⟩).frame, 1)]
      (Request.blockDownloadEnd 4 (Checksum.of [1, 2, 3])).frame :=
    ⟨rfl, Request.brings_frame (by decide), fun _ known => Option.some.inj known ▸ Nat.le_refl 3,
      rfl, .segment (Request.brings_frame (by decide)) .nil, Request.brings_frame (by decide)⟩
  obtain ⟨other, refused⟩ := receive_blockDownload_detects burst
  obtain ⟨-, -, answer, -, -, kept⟩ := refused brings (Dictionary.single ⟨0x2000, 1⟩ []) [] 0 2
  exact ⟨other, _, _, _, rfl, rfl, rfl, answer, congrArg Recorded.writes kept⟩

end Server

end Canopen
