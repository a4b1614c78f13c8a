/-
**The transfer of a server as one flat record.**

* `Record`: all members that a server keeps, whichever transfer is open.
* `Record.reset`: the members back at their first values, but for the target and the slots.
* `Record.segment`, `Record.advance`: the octets of the next segment of an upload, and the record
  with them sent.
* `Record.uploadFrame`, `Record.segmentFrame`: the frame of that segment, by segments and by blocks.
* `Record.behindSegment`: the record behind that segment of a block upload.
-/

import Canopen.Checksum
import Canopen.Message.Segment
import Canopen.Session.Mode
import Canopen.Target

namespace Canopen

/-- The frames of a window, kept until they are acknowledged: that of segment `n` at `n - 1`. -/
abbrev Slots : Type := Vector Payload greatestWindow

/-- All members that a server keeps of its transfer. Which of them count depends on the mode; the
others hold what they were left with. -/
structure Record where
  target : Target := ⟨0, 0⟩
  mode : Mode := .idle
  /-- The toggle of the next segment, zero or one. -/
  toggle : UInt8 := 0
  /-- The octets of the value. -/
  buffer : List UInt8 := []
  /-- The octets already sent. -/
  cursor : Nat := 0
  declared : Option UInt32 := none
  phase : Phase := .none
  blockSize : UInt8 := 127
  /-- The number of the last segment of the window. -/
  sequence : UInt8 := 0
  checksummed : Bool := false
  /-- The checksum register. -/
  checksum : UInt16 := 0
  pending : Slots := Vector.replicate greatestWindow {}
  /-- How many slots hold a frame of the window. -/
  pendingCount : UInt8 := 0
  /-- The octets of the last segment of a block upload. -/
  lastLength : Nat := 0
  deriving DecidableEq, Repr

namespace Record

/-- No transfer: every member at its first value, but for the target, which aborts name, and the
slots. -/
def reset (record : Record) : Record :=
  { record with
    mode := .idle
    toggle := 0
    buffer := []
    cursor := 0
    declared := none
    phase := .none
    blockSize := 127
    sequence := 0
    checksummed := false
    checksum := 0
    pendingCount := 0
    lastLength := 0 }

/-- The octets not yet sent. -/
def remaining (record : Record) : Nat :=
  record.buffer.length - record.cursor

/-- The octets of the next segment of an upload. -/
def segment (record : Record) : List UInt8 :=
  (record.buffer.drop record.cursor).take segmentCapacity

/-- The record with the next segment of an upload sent. -/
def advance (record : Record) : Record :=
  { record with cursor := record.cursor + record.segment.length }

/-- The checksum register behind more octets, if there is a checksum. -/
def register (record : Record) (data : List UInt8) : UInt16 :=
  if record.checksummed then Checksum.update record.checksum data else record.checksum

/-- The next segment of an upload is the last one. -/
def isLast (record : Record) : Bool :=
  record.advance.remaining == 0

/-- The frame of the next segment of an upload by segments. -/
def uploadFrame (record : Record) : Payload :=
  let toggle : UInt8 := if record.toggle = 0 then 0 else 0x10
  let unused := UInt8.ofNat (segmentCapacity - record.segment.length) <<< 1
  .ofList ((toggle ||| unused ||| if record.isLast then 0x01 else 0) :: record.segment)

/-- The frame of the next segment of a block upload. -/
def segmentFrame (record : Record) : Payload :=
  let sequence := record.sequence + 1
  .ofList ((if record.isLast then sequence ||| 0x80 else sequence) :: record.segment)

/-- The record behind the next segment of a block upload, whose frame takes its slot. -/
def behindSegment (record : Record) : Record :=
  let data := record.segment
  let sequence := record.sequence + 1
  { record.advance with
    sequence := sequence
    checksum := record.register data
    lastLength := if record.isLast then data.length else record.lastLength
    pending := record.pending.setIfInBounds (sequence.toNat - 1) record.segmentFrame
    pendingCount := sequence }

end Record

end Canopen
