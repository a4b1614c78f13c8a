/-
**A client of a block upload.**

* `Receiver`: what a client has filed, payload by payload, under the numbers in their commands.
* `Receiver.turn`, `Receiver.value`: a window is complete, and so is the value.
* `Receiver.fileAll_window`: a window that comes for the first time is filed as it was sent.
* `Receiver.fileAll_again`: segments that come again change nothing.
* `Receiver.filed_turn`, `Receiver.value_turn`: what a client has once a window is complete.
-/

import Canopen.Proofs.Requests
import Canopen.Proofs.Windows

namespace Canopen

/-- A client of a block upload, and what it has filed. -/
structure Receiver where
  /-- The octets of the windows acknowledged as a whole. -/
  filed : List UInt8
  /-- The octets of the window on its way, by number from one. -/
  window : List (List UInt8)
  /-- The segment that is marked as the last one is here. -/
  complete : Bool
  deriving DecidableEq, Repr

namespace Receiver

/-- A client that has nothing yet. -/
def new : Receiver := ⟨[], [], false⟩

/-- Files a payload under the number in its command, in the place of what was there. -/
def file (receiver : Receiver) (payload : Payload) : Receiver :=
  let segment := Segment.decode payload
  { receiver with
    window := receiver.window.take (segment.number - 1) ++
      segment.data :: receiver.window.drop segment.number
    complete := receiver.complete || segment.last }

/-- Files payloads in order. -/
def fileAll (receiver : Receiver) (payloads : List Payload) : Receiver :=
  payloads.foldl file receiver

/-- Closes the window that is acknowledged as a whole. -/
def turn (receiver : Receiver) : Receiver :=
  { receiver with filed := receiver.filed ++ receiver.window.flatten, window := [] }

/-- The value, once the payload of the end tells how many octets are not used. -/
def value (receiver : Receiver) (payload : Payload) : List UInt8 :=
  receiver.filed.take (receiver.filed.length - field payload.command 2 3)

end Receiver

/-! ### What a window looks like to its client -/

namespace Segment

/-- The octets of a segment as its frame carries them, filled up with zeros. -/
def padded (segment : Segment) : List UInt8 :=
  segment.data ++ List.replicate (segmentCapacity - segment.data.length) 0

/-- A segment of a window reads back from its response. -/
theorem decode_encode {segment : Segment} (small : segment.number ≤ greatestWindow)
    (fits : segment.data.length ≤ segmentCapacity) :
    Segment.decode (Response.blockSegment segment).encode =
      { segment with data := segment.padded } := by
  show Segment.decode (.ofList
    (Response.command segment.number (Response.mark segment.last 7) :: segment.data)) = _
  rw [decode_ofList small, List.take_of_length_le fits]
  rfl

variable {value : List UInt8} {first count : Nat}

theorem mem_window {segment : Segment} (inside : segment ∈ window value first count) :
    ∃ place < count, ofChunk value first place = segment := by
  obtain ⟨place, below, same⟩ := List.mem_map.mp inside
  exact ⟨place, List.mem_range.mp below, same⟩

/-- The mark of a window is on its last segment, if that is the last one of the value. -/
theorem any_last_window (within : first + count ≤ chunkCount value) :
    (window value first count).any Segment.last =
      decide (0 < count ∧ first + count = chunkCount value) := by
  rw [Bool.eq_iff_iff, List.any_eq_true, decide_eq_true_eq]
  constructor
  · rintro ⟨segment, inside, last⟩
    obtain ⟨place, below, rfl⟩ := mem_window inside
    have reached : first + place + 1 = chunkCount value := of_decide_eq_true last
    omega
  · rintro ⟨running, reached⟩
    refine ⟨ofChunk value first (count - 1), List.mem_map.mpr ⟨count - 1, ?_, rfl⟩, ?_⟩
    · exact List.mem_range.mpr (by omega)
    · exact decide_eq_true (show first + (count - 1) + 1 = _ by omega)

end Segment

namespace Receiver

variable {value : List UInt8} {first count : Nat}

/-- The payloads of segments on the wire. -/
def payloads (segments : List Segment) : List Payload :=
  segments.map fun segment => (Response.blockSegment segment).encode

theorem file_encode (receiver : Receiver) {segment : Segment}
    (small : segment.number ≤ greatestWindow) (fits : segment.data.length ≤ segmentCapacity) :
    receiver.file (Response.blockSegment segment).encode =
      { receiver with
        window := receiver.window.take (segment.number - 1) ++
          segment.padded :: receiver.window.drop segment.number
        complete := receiver.complete || segment.last } := by
  rw [file, Segment.decode_encode small fits]

/-- **A window that comes for the first time is filed as it was sent.** -/
theorem fileAll_window (receiver : Receiver) (fresh : receiver.window = [])
    (small : count ≤ greatestWindow) :
    receiver.fileAll (payloads (Segment.window value first count)) =
      { receiver with
        window := (Segment.window value first count).map Segment.padded
        complete := receiver.complete || (Segment.window value first count).any Segment.last } := by
  induction count with
  | zero =>
    obtain ⟨filed, window, complete⟩ := receiver
    obtain rfl : window = [] := fresh
    show Receiver.mk filed [] complete = Receiver.mk filed [] (complete || false)
    rw [Bool.or_false]
  | succ count ih =>
    have step := ih (Nat.le_of_succ_le small)
    rw [Segment.window_succ, payloads, List.map_append, fileAll, List.foldl_append]
    change List.foldl file (receiver.fileAll (payloads (Segment.window value first count))) _ = _
    rw [step]
    show file _ (Response.blockSegment (Segment.ofChunk value first count)).encode = _
    rw [file_encode _ (show count + 1 ≤ _ from small) (length_chunk_le value _)]
    have length : ((Segment.window value first count).map Segment.padded).length = count := by
      rw [List.length_map, Segment.length_window]
    show Receiver.mk _ (List.take count _ ++ _ :: List.drop (count + 1) _) _ = _
    rw [List.take_of_length_le (Nat.le_of_eq length),
      List.drop_of_length_le (by rw [length]; exact Nat.le_succ _), List.map_append,
      List.any_append, ← Bool.or_assoc]
    simp only [List.map_cons, List.map_nil, List.any_cons, List.any_nil, Bool.or_false]

/-- A segment that is already filed changes nothing. -/
theorem file_again {receiver : Receiver}
    (here : receiver.window = (Segment.window value first count).map Segment.padded)
    (marked : receiver.complete = (Segment.window value first count).any Segment.last)
    (small : count ≤ greatestWindow) {segment : Segment}
    (inside : segment ∈ Segment.window value first count) :
    receiver.file (Response.blockSegment segment).encode = receiver := by
  obtain ⟨place, below, rfl⟩ := Segment.mem_window inside
  have filed : receiver.window[place]? = some (Segment.ofChunk value first place).padded := by
    rw [here, List.getElem?_map, Segment.getElem?_window below, Option.map_some]
  have complete : (receiver.complete || (Segment.ofChunk value first place).last) =
      receiver.complete := by
    cases last : (Segment.ofChunk value first place).last with
    | false => rw [Bool.or_false]
    | true => rw [marked, List.any_eq_true.mpr ⟨_, inside, last⟩, Bool.true_or]
  obtain ⟨bound, same⟩ := List.getElem?_eq_some_iff.mp filed
  rw [file_encode _ (show place + 1 ≤ _ by omega) (length_chunk_le value _), complete, ← same]
  show Receiver.mk _ (List.take place _ ++ _ :: List.drop (place + 1) _) _ = receiver
  rw [List.getElem_cons_drop, List.take_append_drop]

/-- **Segments that come again change nothing.** -/
theorem fileAll_again {receiver : Receiver}
    (here : receiver.window = (Segment.window value first count).map Segment.padded)
    (marked : receiver.complete = (Segment.window value first count).any Segment.last)
    (small : count ≤ greatestWindow) (acknowledged : Nat) :
    receiver.fileAll (payloads ((Segment.window value first count).drop acknowledged)) =
      receiver := by
  have known : ∀ segment ∈ (Segment.window value first count).drop acknowledged,
      segment ∈ Segment.window value first count := fun _ => List.mem_of_mem_drop
  revert known
  induction (Segment.window value first count).drop acknowledged with
  | nil => exact fun _ => rfl
  | cons segment rest ih =>
    intro known
    show List.foldl file (receiver.file _) _ = receiver
    rw [file_again here marked small (known segment List.mem_cons_self)]
    exact ih fun other member => known other (List.mem_cons_of_mem _ member)

/-! ### Complete windows -/

/-- Only the last segment of a value is filled up. -/
theorem flatten_padded (inner : first < chunkCount value)
    (within : first + count ≤ chunkCount value) :
    ((Segment.window value first count).map Segment.padded).flatten =
      (value.drop (segmentCapacity * first)).take (segmentCapacity * count) ++
        List.replicate (segmentCapacity * (first + count) - value.length) 0 := by
  induction count with
  | zero =>
    have exhausted : segmentCapacity * (first + 0) - value.length = 0 :=
      Nat.sub_eq_zero_of_le (Nat.le_of_lt (lt_chunkCount_iff.mp inner))
    rw [exhausted, Segment.window_zero, Nat.mul_zero, List.take_zero, List.replicate_zero]
    rfl
  | succ count ih =>
    have more : segmentCapacity * (first + count) < value.length := lt_chunkCount_iff.mp within
    have full : segmentCapacity * (first + count) - value.length = 0 :=
      Nat.sub_eq_zero_of_le (Nat.le_of_lt more)
    have missing : segmentCapacity - (chunk value (first + count)).length =
        segmentCapacity * (first + (count + 1)) - value.length := by
      rw [length_chunk]
      simp only [segmentCapacity] at more ⊢
      omega
    have last : (Segment.ofChunk value first count).padded = chunk value (first + count) ++
        List.replicate (segmentCapacity * (first + (count + 1)) - value.length) 0 := by
      rw [← missing]
      rfl
    rw [Segment.window_succ, List.map_append, List.flatten_append, ih (Nat.le_of_succ_le within),
      full, List.replicate_zero, List.append_nil, List.map_singleton, List.flatten_singleton,
      last, ← List.append_assoc, chunk, Nat.mul_succ, List.take_add, List.drop_drop, Nat.mul_add]

/-- **What a client has behind a complete window.** -/
theorem filed_turn {receiver : Receiver}
    (filed : receiver.filed = value.take (segmentCapacity * first))
    (here : receiver.window = (Segment.window value first count).map Segment.padded)
    (inner : first < chunkCount value) (within : first + count ≤ chunkCount value) :
    receiver.turn.filed = value.take (segmentCapacity * (first + count)) ++
      List.replicate (segmentCapacity * (first + count) - value.length) 0 := by
  show receiver.filed ++ receiver.window.flatten = _
  rw [filed, here, flatten_padded inner within, ← List.append_assoc, Nat.mul_add, List.take_add]

/-- The octets not used are read back from the end of a block upload. -/
theorem unused_encode {unused : Nat} (small : unused ≤ segmentCapacity)
    (checksum : Option UInt16) :
    field (Response.blockUploadEnd unused checksum).encode.command 2 3 = unused := by
  simp only [segmentCapacity] at small
  show field (Response.command 0xC1 (4 * unused)) 2 3 = unused
  rw [field_command (by simp only [UInt8.size]; omega)]
  simp only [Nat.reduceShiftLeft]
  omega

/-- **A client that has every window has the value.** -/
theorem value_turn {receiver : Receiver}
    (filed : receiver.filed = value.take (segmentCapacity * first))
    (here : receiver.window = (Segment.window value first count).map Segment.padded)
    (inner : first < chunkCount value) (ends : first + count = chunkCount value)
    (checksum : Option UInt16) : receiver.turn.value (Response.blockUploadEnd
      (segmentCapacity * chunkCount value - value.length) checksum).encode = value := by
  have whole : value.length ≤ segmentCapacity * chunkCount value := by
    simp only [chunkCount, segmentCapacity]
    omega
  have small : segmentCapacity * chunkCount value - value.length ≤ segmentCapacity := by
    simp only [chunkCount, segmentCapacity]
    omega
  have all := filed_turn filed here inner (Nat.le_of_eq ends)
  rw [ends, List.take_of_length_le whole] at all
  rw [Receiver.value, unused_encode small, all, List.length_append, List.length_replicate,
    Nat.add_sub_cancel, List.take_left]

end Receiver

end Canopen
