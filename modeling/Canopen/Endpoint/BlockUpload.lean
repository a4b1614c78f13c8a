/-
**The handlers of block uploads.**

* `Handler.initBlockUpload`: the announcement.
* `Handler.sendWindow`: the next window, each of its frames kept in a slot.
* `Handler.blockUploadAck`: an acknowledgement, behind which `Handler.continueUpload` goes on;
  `Handler.resend` sends again what the slots hold.
* `Handler.endBlockUpload`: the end.
-/

import Canopen.Endpoint.Handler
import Canopen.Session.BlockUpload

namespace Canopen.Handler

variable {σ : Type}

/-- A block size within bounds. -/
def clamp (blockSize : Nat) : UInt8 :=
  UInt8.ofNat (BlockUpload.clamp blockSize)

/-- Opens a block upload. -/
def initBlockUpload [Store σ] (target : Target) (checksummed : Bool) (blockSize : Nat) :
    Handler σ Unit := do
  supersede target
  let value ← readValue
  assign fun record =>
    { record with
      buffer := value
      cursor := 0
      declared := some (UInt32.ofNat value.length)
      blockSize := clamp blockSize
      sequence := 0
      pendingCount := 0
      checksummed := checksummed
      checksum := 0
      mode := .blockUpload
      phase := .initiated }
  note (.blockUploadStarted target value.length (clamp blockSize).toNat checksummed)
  let command := 0xC2 ||| if checksummed then 0x04 else 0
  send ((Payload.behindHeader (Octets.ofNat 4 value.length)).withHeader command target)

/-- Sends up to `left` segments, behind `sent` ones, and answers how many are sent then. -/
def sendSegments : (left sent : Nat) → Handler σ Nat
  | 0, sent => return sent
  | left + 1, sent => do
    let record ← record
    if record.remaining = 0 then return sent
    else
      assign Record.behindSegment
      send record.segmentFrame
      sendSegments left (sent + 1)

/-- Sends the next window. -/
def sendWindow : Handler σ Unit := do
  let sent ← sendSegments (← record).blockSize.toNat 0
  assign fun record => { record with phase := .awaitingAck }
  let record ← record
  note (.windowSent record.target sent record.remaining)

/-- Ends a block upload. -/
def endBlockUpload : Handler σ Unit := do
  let record ← record
  let unused := if 0 < record.lastLength then segmentCapacity - record.lastLength else 0
  let checksum := if record.checksummed then Octets.of16 record.checksum else []
  send (.ofList (((0xC1 : UInt8) ||| UInt8.ofNat (unused % 8) <<< 2) :: checksum))
  note (.blockUploadComplete record.target record.cursor)
  assign Record.reset

/-- Answers the start of a block upload. -/
def startBlockUpload : Handler σ Unit := do
  let record ← record
  if record.mode ≠ .blockUpload ∨ record.phase ≠ .initiated then
    note (.startNotExpected record.mode)
    refuse .invalidCommand
  else sendWindow

/-- Sends again what `count` slots hold, from the one at `place` on. -/
def resend (place : Nat) : (count : Nat) → Handler σ Unit
  | 0 => return
  | count + 1 => do
    send ((← record).pending.getD place {})
    resend (place + 1) count

/-- Goes on behind an acknowledgement of the first `count` segments of the window: sends the others
again, or the next window, or the end. -/
def continueUpload (count : Nat) : Handler σ Unit := do
  let record ← record
  let sent := record.sequence.toNat
  if sent < count then
    note (.ackTooHigh count sent)
    refuse .invalidSequence
  else if count < sent then
    note (.resending record.target count sent)
    resend count (sent - count)
  else
    assign fun record => { record with pendingCount := 0, sequence := 0 }
    if 0 < record.remaining then sendWindow else endBlockUpload

/-- Answers an acknowledgement of the first `count` segments of the window. -/
def blockUploadAck (count : Nat) (blockSize : Option Nat) : Handler σ Unit := do
  let record ← record
  if record.mode ≠ .blockUpload ∨ record.phase ≠ .awaitingAck then
    note (.ackNotExpected record.mode)
    refuse .invalidCommand
  else
    assign fun record => { record with blockSize := clamp (blockSize.getD record.blockSize.toNat) }
    continueUpload count

/-- Answers the client's end of a block upload; outside of one it confirms an end already sent. -/
def blockUploadEnd : Handler σ Unit := do
  let record ← record
  if record.mode = .blockUpload then endBlockUpload
  else note (.blockUploadConfirmed record.target)

end Canopen.Handler
