/-
**Values cut into chunks of one segment each.**

* `chunkCount`, `chunk`: how many segments carry a value, and what each of them carries.
* `Segment.window`: the segments of a window that starts behind a number of chunks, numbered from
  one, the last chunk of the value marked.
* `Segment.cut_eq_window`: cutting the rest of a value gives its next window.
-/

import Canopen.Message.Segment

namespace Canopen

/-- How many segments carry a value. -/
def chunkCount (value : List UInt8) : Nat :=
  (value.length + (segmentCapacity - 1)) / segmentCapacity

/-- What the segment at a place of the transfer carries, the first at zero. -/
def chunk (value : List UInt8) (place : Nat) : List UInt8 :=
  (value.drop (segmentCapacity * place)).take segmentCapacity

theorem length_chunk (value : List UInt8) (place : Nat) :
    (chunk value place).length = min segmentCapacity (value.length - segmentCapacity * place) := by
  rw [chunk, List.length_take, List.length_drop]

theorem length_chunk_le (value : List UInt8) (place : Nat) :
    (chunk value place).length ≤ segmentCapacity := by
  rw [length_chunk]
  exact Nat.min_le_left _ _

/-- What is left of a value is its next chunk and what is left behind it. -/
theorem chunk_append_drop (value : List UInt8) (place : Nat) :
    chunk value place ++ value.drop (segmentCapacity * (place + 1)) =
      value.drop (segmentCapacity * place) := by
  rw [chunk, Nat.mul_succ, ← List.drop_drop, List.take_append_drop]

/-- Behind some chunks there are octets left exactly if there are chunks left. -/
theorem lt_chunkCount_iff {value : List UInt8} {place : Nat} :
    place < chunkCount value ↔ segmentCapacity * place < value.length := by
  simp only [chunkCount, segmentCapacity]
  omega

theorem drop_eq_nil_iff_chunkCount_le {value : List UInt8} {place : Nat} :
    value.drop (segmentCapacity * place) = [] ↔ chunkCount value ≤ place := by
  rw [List.drop_eq_nil_iff, ← Nat.not_lt, ← Nat.not_lt, lt_chunkCount_iff]

/-- A value that is not empty has a chunk. -/
theorem chunkCount_pos {value : List UInt8} (nonempty : value ≠ []) : 0 < chunkCount value := by
  rw [lt_chunkCount_iff, Nat.mul_zero]
  exact List.length_pos_iff.mpr nonempty

/-- The octets of the first chunks are whole chunks, as long as the value has more. -/
theorem min_mul_length {value : List UInt8} {place : Nat} (inner : place < chunkCount value) :
    min (segmentCapacity * place) value.length = segmentCapacity * place :=
  Nat.min_eq_left (Nat.le_of_lt (lt_chunkCount_iff.mp inner))

/-- The octets of all chunks are the value. -/
theorem min_mul_chunkCount (value : List UInt8) :
    min (segmentCapacity * chunkCount value) value.length = value.length := by
  simp only [chunkCount, segmentCapacity]
  omega

/-- The number of chunks is told by the number of their octets. -/
theorem chunks_of_sent {value : List UInt8} {place : Nat} (within : place ≤ chunkCount value) :
    (min (segmentCapacity * place) value.length + (segmentCapacity - 1)) / segmentCapacity =
      place := by
  simp only [chunkCount, segmentCapacity] at within ⊢
  omega

namespace Segment

/-- The segment for the chunk at a place, in a window that starts behind the first `first`
chunks. -/
def ofChunk (value : List UInt8) (first place : Nat) : Segment where
  number := place + 1
  last := first + place + 1 = chunkCount value
  data := chunk value (first + place)

/-- The window of `count` segments behind the first `first` chunks. -/
def window (value : List UInt8) (first count : Nat) : List Segment :=
  (List.range count).map (ofChunk value first)

@[simp] theorem length_window (value : List UInt8) (first count : Nat) :
    (window value first count).length = count := by
  rw [window, List.length_map, List.length_range]

@[simp] theorem window_zero (value : List UInt8) (first : Nat) : window value first 0 = [] := rfl

theorem window_succ (value : List UInt8) (first count : Nat) :
    window value first (count + 1) =
      window value first count ++ [ofChunk value first count] := by
  rw [window, List.range_succ, List.map_append]
  rfl

theorem getElem?_window {value : List UInt8} {first count place : Nat} (inside : place < count) :
    (window value first count)[place]? = some (ofChunk value first place) := by
  rw [window, List.getElem?_map, List.getElem?_range inside, Option.map_some]

/-- The segments of the rest of a value, numbered from any number on. -/
theorem cut_drop (value : List UInt8) (count number first : Nat) :
    cut count number (value.drop (segmentCapacity * first)) =
      (List.range (min count (chunkCount value - first))).map fun place =>
        { ofChunk value first place with number := number + place } := by
  induction count generalizing number first with
  | zero => rw [cut, Nat.zero_min, List.range_zero, List.map_nil]
  | succ count ih =>
    rw [cut]
    by_cases empty : value.drop (segmentCapacity * first) = []
    · rw [if_pos empty]
      have all := drop_eq_nil_iff_chunkCount_le.mp empty
      rw [Nat.sub_eq_zero_of_le all, Nat.min_zero, List.range_zero, List.map_nil]
    · have more : first < chunkCount value :=
        Nat.not_le.mp fun all => empty (drop_eq_nil_iff_chunkCount_le.mpr all)
      have rest : (value.drop (segmentCapacity * first)).drop segmentCapacity =
          value.drop (segmentCapacity * (first + 1)) := by
        rw [List.drop_drop, Nat.mul_succ]
      have size : min (count + 1) (chunkCount value - first) =
          min count (chunkCount value - (first + 1)) + 1 := by omega
      rw [if_neg empty, rest, ih, size, List.range_succ_eq_map, List.map_cons, List.map_map]
      congr 1
      · -- The mark of a cut segment looks at the octets left, that of a window at the chunks.
        have mark : (value.drop (segmentCapacity * first)).length ≤ segmentCapacity ↔
            first + 0 + 1 = chunkCount value := by
          rw [List.length_drop]
          simp only [chunkCount, segmentCapacity] at more ⊢
          omega
        simp only [ofChunk, mark, chunk, Nat.add_zero]
      · refine List.map_congr_left fun place _ => ?_
        simp only [ofChunk, Function.comp_apply, Nat.succ_eq_add_one]
        rw [show first + 1 + place = first + (place + 1) by omega,
          show number + 1 + place = number + (place + 1) by omega]

/-- **Cutting the rest of a value gives its next window.** -/
theorem cut_eq_window (value : List UInt8) (count first : Nat) :
    cut count 1 (value.drop (segmentCapacity * first)) =
      window value first (min count (chunkCount value - first)) := by
  rw [cut_drop, window]
  refine List.map_congr_left fun place _ => ?_
  rw [ofChunk, Nat.add_comm 1 place]

end Segment

end Canopen
