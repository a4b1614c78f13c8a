/-
**The windows of a block upload.**

* `BlockUpload.Stands upload first count`: the window on its way holds `count` chunks behind the
  first `first` ones, and the cursor and the checksum register stand behind them.
* `BlockUpload.Stands.advance`: the next window starts where this one ends.
* `BlockUpload.Stands.unused`: the octets not used in the last segment of the transfer.
-/

import Canopen.Proofs.Chunks
import Canopen.Session.BlockUpload

namespace Canopen

/-- A block size is within bounds once it is clamped. -/
theorem BlockUpload.clamp_bounds (blockSize : Nat) :
    1 ≤ clamp blockSize ∧ clamp blockSize ≤ greatestWindow := by
  simp only [clamp, greatestWindow]
  omega

namespace BlockUpload

/-- The window on its way holds `count` chunks behind the first `first` ones; before the start of
the transfer there is none. -/
structure Stands (upload : BlockUpload) (first count : Nat) : Prop where
  nonempty : upload.value ≠ []
  least : 1 ≤ upload.blockSize
  most : upload.blockSize ≤ greatestWindow
  started : upload.started = decide (0 < count)
  fresh : count = 0 → first = 0
  small : count ≤ greatestWindow
  window : upload.window = Segment.window upload.value first count
  sent : upload.sent = min (segmentCapacity * (first + count)) upload.value.length
  within : first + count ≤ chunkCount upload.value
  checksum : upload.checksum =
    if upload.checksummed then Checksum.of (upload.value.take upload.sent) else 0

/-- Nothing of an upload is sent when it is opened. -/
theorem stands_opened {value : List UInt8} (nonempty : value ≠ []) (blockSize : Nat)
    (checksummed : Bool) :
    Stands ⟨value, 0, clamp blockSize, checksummed, 0, false, []⟩ 0 0 where
  nonempty := nonempty
  least := (clamp_bounds blockSize).1
  most := (clamp_bounds blockSize).2
  started := rfl
  fresh _ := rfl
  small := Nat.zero_le _
  window := rfl
  sent := (Nat.zero_min _).symm
  within := Nat.zero_le _
  checksum := by
    rw [List.take_zero, Checksum.of, Checksum.update_nil]
    exact (ite_self _).symm

namespace Stands

variable {upload : BlockUpload} {first count : Nat}

theorem length_window (stands : upload.Stands first count) : upload.window.length = count := by
  rw [stands.window, Segment.length_window]

/-- The chunks up to the cursor are counted by it. -/
theorem chunks_sent (stands : upload.Stands first count) :
    (upload.sent + (segmentCapacity - 1)) / segmentCapacity = first + count := by
  rw [stands.sent]
  exact chunks_of_sent stands.within

theorem rest_eq (stands : upload.Stands first count) :
    upload.rest = upload.value.drop (segmentCapacity * (first + count)) := by
  rw [rest, stands.sent]
  by_cases inner : segmentCapacity * (first + count) ≤ upload.value.length
  · rw [Nat.min_eq_left inner]
  · have outer := Nat.le_of_not_le inner
    rw [Nat.min_eq_right outer, List.drop_length, List.drop_eq_nil_of_le outer]

/-- All is sent once the window reaches the last chunk. -/
theorem rest_eq_nil_iff (stands : upload.Stands first count) :
    upload.rest = [] ↔ first + count = chunkCount upload.value := by
  have within := stands.within
  rw [stands.rest_eq, drop_eq_nil_iff_chunkCount_le]
  omega

/-- Another block size changes nothing of the window on its way. -/
theorem resize (stands : upload.Stands first count) (blockSize : Nat) :
    { upload with blockSize := clamp blockSize }.Stands first count :=
  { stands with
    least := (clamp_bounds blockSize).1
    most := (clamp_bounds blockSize).2 }

/-- **The next window starts where this one ends**, and is as large as the block size and the
chunks left allow. -/
theorem advance (stands : upload.Stands first count)
    (more : first + count < chunkCount upload.value) :
    upload.advance.Stands (first + count)
      (min upload.blockSize (chunkCount upload.value - (first + count))) := by
  have whole : upload.sent = segmentCapacity * (first + count) := by
    rw [stands.sent, min_mul_length more]
  have data : Segment.join upload.nextWindow =
      (upload.value.drop upload.sent).take (segmentCapacity * upload.blockSize) := by
    rw [nextWindow, Segment.join_cut, rest]
  have sent : upload.advance.sent =
      upload.sent + (Segment.join upload.nextWindow).length := rfl
  have least := stands.least
  have most := stands.most
  refine ⟨stands.nonempty, least, most, ?_, ?_, ?_, ?_, ?_, ?_, ?_⟩
  · exact (decide_eq_true (by omega)).symm
  · omega
  · omega
  · show upload.nextWindow = _
    rw [nextWindow, stands.rest_eq, Segment.cut_eq_window]
    rfl
  · show upload.advance.sent = min _ upload.value.length
    rw [sent, data, List.length_take, List.length_drop, whole]
    simp only [chunkCount, segmentCapacity] at more ⊢
    omega
  · show _ ≤ chunkCount upload.value
    omega
  · -- The register over what was sent before goes on over the octets of the window.
    have split : upload.value.take upload.advance.sent =
        upload.value.take upload.sent ++ Segment.join upload.nextWindow := by
      rw [sent, data, List.take_add, List.length_take, ← List.take_eq_take_min]
    show (if upload.checksummed then Checksum.update upload.checksum _ else upload.checksum) =
      if upload.checksummed then Checksum.of (upload.value.take upload.advance.sent) else 0
    rw [split, stands.checksum]
    cases upload.checksummed with
    | true => rw [if_pos rfl, if_pos rfl, if_pos rfl, Checksum.of, Checksum.of,
        Checksum.update_append]
    | false => rw [if_neg Bool.false_ne_true, if_neg Bool.false_ne_true,
        if_neg Bool.false_ne_true]

/-- The octets of the last segment are known once it is sent. -/
theorem lastLength (stands : upload.Stands first count) (running : 0 < count) :
    upload.lastLength =
      if first + count = chunkCount upload.value then
        upload.value.length - segmentCapacity * (chunkCount upload.value - 1)
      else 0 := by
  obtain ⟨before, rfl⟩ : ∃ before, count = before + 1 := ⟨count - 1, by omega⟩
  rw [BlockUpload.lastLength, stands.window, Segment.window_succ, List.getLast?_append,
    List.getLast?_singleton, Option.some_or]
  simp only [Segment.ofChunk, decide_eq_true_eq, Nat.add_assoc]
  by_cases ends : first + (before + 1) = chunkCount upload.value
  · rw [if_pos ends, if_pos ends, length_chunk, ← ends]
    have within := stands.within
    simp only [chunkCount, segmentCapacity] at ends ⊢
    omega
  · rw [if_neg ends, if_neg ends]

/-- The octets not used in the last segment of the transfer. -/
theorem unused (stands : upload.Stands first count) (running : 0 < count)
    (ends : first + count = chunkCount upload.value) :
    upload.unused = segmentCapacity * chunkCount upload.value - upload.value.length := by
  have last : upload.value.length - segmentCapacity * (chunkCount upload.value - 1) ≠ 0 := by
    simp only [chunkCount, segmentCapacity] at ends ⊢
    omega
  rw [BlockUpload.unused, stands.lastLength running, if_pos ends, if_neg last]
  simp only [chunkCount, segmentCapacity] at ends ⊢
  omega

end Stands

end BlockUpload

end Canopen
