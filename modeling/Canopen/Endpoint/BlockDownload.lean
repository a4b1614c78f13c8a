/-
**The handlers of block downloads.**

* `Handler.initBlockDownload`: the start.
* `Handler.blockDownloadSegment`: a segment.
* `Handler.endBlockDownload`: the end, at which the value is written.
-/

import Canopen.Endpoint.Handler
import Canopen.Session.BlockDownload

namespace Canopen.Handler

variable {σ : Type}

/-- Opens a block download. -/
def initBlockDownload (target : Target) (checksummed : Bool) (declared : Option UInt32) :
    Handler σ Unit := do
  supersede target
  assign fun record =>
    { record with
      declared := declared
      sequence := 0
      blockSize := 127
      checksummed := checksummed
      checksum := 0
      mode := .blockDownload
      phase := .receiving }
  note (.blockDownloadStarted target declared checksummed)
  let command := 0xA0 ||| if checksummed then 0x04 else 0
  send ((Payload.behindHeader [(← record).blockSize]).withHeader command target)

/-- Every declared octet is here already. -/
def isFilled (record : Record) : Bool :=
  record.declared.any fun declared =>
    !record.buffer.isEmpty && declared.toNat ≤ record.buffer.length

/-- Takes a segment into a block download. -/
def blockDownloadSegment (segment : Segment) : Handler σ Unit := do
  let before ← record
  let expected := before.sequence.toNat + 1
  if segment.number ≠ expected then
    note (.segmentNotExpected before.target expected segment.number)
    refuse .invalidSequence
  else if isFilled before then
    note (.moreThanDeclared before.target (before.declared.getD 0))
    refuse .lengthTooHigh
  else
    let sequence := UInt8.ofNat segment.number
    assign fun record =>
      { record with
        sequence := sequence
        buffer := record.buffer ++ segment.data
        checksum := record.register segment.data }
    if before.blockSize ≤ sequence ∨ segment.last then
      send { command := 0xA2, second := sequence, third := before.blockSize }
      assign fun record => { record with sequence := 0 }
      if segment.last then
        assign fun record => { record with phase := .awaitingEnd }

/-- Compares the checksum of the octets received, if there is one. -/
def compareChecksum (checksum : UInt16) : Handler σ Unit := do
  let record ← record
  if record.checksummed then
    let calculated := Checksum.of record.buffer
    note (.checksumCompared checksum calculated record.checksum)
    if checksum ≠ calculated then
      refuse .checksum

/-- Writes a block download whose checksum is in order. -/
def writeBlockDownload [Store σ] (data : List UInt8) : Handler σ Unit := do
  let target := (← record).target
  let status ← writeStore data
  if status ≠ .ok then
    note (.blockWriteFailed target data.length status)
    refuse .notStored
  else
    send { command := 0xA1 }
    note (.blockDownloadComplete target data.length)
    assign Record.reset

/-- Ends a block download without its padding: its size is checked, then its checksum, and then it
is written. -/
def closeBlockDownload [Store σ] (data : List UInt8) (checksum : UInt16) : Handler σ Unit := do
  assign fun record => { record with buffer := data }
  let record ← record
  if Session.isExcess data.length record.declared then
    refuse .lengthTooHigh
  else
    notes (Session.shortNotices record.target data.length record.declared)
    compareChecksum checksum
    writeBlockDownload data

/-- Answers the end of a block download. -/
def endBlockDownload [Store σ] (padding : Nat) (checksum : UInt16) : Handler σ Unit := do
  let record ← record
  if record.mode ≠ .blockDownload ∨ record.phase ≠ .awaitingEnd then
    note (.endNotExpected record.mode)
    refuse .invalidCommand
  else closeBlockDownload (record.buffer.take (record.buffer.length - padding)) checksum

end Canopen.Handler
