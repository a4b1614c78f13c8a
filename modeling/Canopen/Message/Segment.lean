/-
**Segments of block transfers.**

* `Segment`: a number within its window, a mark on the last segment of the transfer, and up to seven
  octets.
* `Segment.cut`: the next window of a value.
* `Segment.join_cut`: a window carries the start of the value, and nothing else.
-/

import Canopen.Frame

namespace Canopen

/-- The octets of a full segment. -/
def segmentCapacity : Nat := 7

/-- The greatest number of segments in a window. -/
def greatestWindow : Nat := 127

/-- A segment of a block transfer. -/
structure Segment where
  /-- The place in the window, from one. -/
  number : Nat
  /-- The last segment of the transfer. -/
  last : Bool
  data : List UInt8
  deriving DecidableEq, Repr, Inhabited

namespace Segment

/-- A payload read as a segment; the padding of a last segment is still in it. -/
def decode (payload : Payload) : Segment where
  number := field payload.command 0 7
  last := flag payload.command 7
  data := payload.body

/-- At most `count` segments of the octets, numbered from `number`. -/
def cut : (count number : Nat) → (octets : List UInt8) → List Segment
  | 0, _, _ => []
  | count + 1, number, octets =>
    if octets = [] then []
    else ⟨number, octets.length ≤ segmentCapacity, octets.take segmentCapacity⟩
      :: cut count (number + 1) (octets.drop segmentCapacity)

/-- The octets of segments in order. -/
def join (segments : List Segment) : List UInt8 :=
  segments.flatMap Segment.data

/-- **A window carries the start of the value.** -/
theorem join_cut (count number : Nat) (octets : List UInt8) :
    join (cut count number octets) = octets.take (segmentCapacity * count) := by
  induction count generalizing number octets with
  | zero => simp [cut, join]
  | succ count ih =>
    rw [cut]
    split
    · next empty => simp [join, empty]
    · rw [join, List.flatMap_cons, ← join, ih, Nat.mul_succ, Nat.add_comm, List.take_add]

end Segment

end Canopen
