/-
**The handlers of expedited and segmented transfers.**

* `Handler.initUpload`, `Handler.segmentedUpload`: uploads.
* `Handler.initExpedited`, `Handler.initDownload`, `Handler.segmentedDownload`: downloads.
-/

import Canopen.Endpoint.Handler
import Canopen.Session.Segmented

namespace Canopen.Handler

variable {σ : Type}

section Store

variable [Store σ]

/-- Opens an upload, or answers a short one. -/
def initUpload (target : Target) : Handler σ Unit := do
  supersede target
  let value ← readValue
  if value.length ≤ Request.expeditedCapacity then
    note (.expeditedUpload target)
    let unused := UInt8.ofNat (Request.expeditedCapacity - value.length)
    send ((Payload.behindHeader value).withHeader ((0x43 : UInt8) ||| unused <<< 2) target)
  else
    note (.uploadStarted target value.length)
    assign fun record =>
      { record with buffer := value, cursor := 0, toggle := 0, mode := .segmentedUpload }
    send ((Payload.behindHeader (Octets.ofNat 4 value.length)).withHeader 0x41 target)

/-- Writes up to four octets at once. -/
def initExpedited (target : Target) (data : List UInt8) : Handler σ Unit := do
  supersede target
  note (.expeditedDownload target)
  writeChecked data
  send ((Payload.behindHeader []).withHeader 0x60 target)

end Store

/-- Sends the next segment of an upload, and ends the transfer behind the last one. -/
def segmentedUpload (toggle : Bool) : Handler σ Unit := do
  let before ← record
  if before.mode ≠ .segmentedUpload then
    note .uploadNotOpen
    refuse .general
  else if toggle.toUInt8 ≠ before.toggle then
    refuse .toggleNotAlternated
  else
    assign Record.advance
    assign fun record => { record with toggle := record.toggle ^^^ 1 }
    send before.uploadFrame
    if before.isLast then
      note (.uploadComplete before.target before.buffer.length)
      assign Record.reset

/-- Opens a download. -/
def initDownload (target : Target) (declared : Option UInt32) : Handler σ Unit := do
  supersede target
  note (.downloadStarted target)
  assign fun record => { record with declared := declared }
  notes (declared.toList.map .sizeDeclared)
  assign fun record => { record with toggle := 0, mode := .segmentedDownload }
  send ((Payload.behindHeader []).withHeader 0x60 target)

/-- Takes a segment into a download, and writes the value with the last one. -/
def segmentedDownload [Store σ] (toggle : Bool) (data : List UInt8) (last : Bool) :
    Handler σ Unit := do
  let before ← record
  if before.mode ≠ .segmentedDownload then
    note .downloadNotOpen
    refuse .general
  else if toggle.toUInt8 ≠ before.toggle then
    refuse .toggleNotAlternated
  else if Session.isExcess (before.buffer.length + data.length) before.declared then
    note (.moreThanDeclared before.target (before.declared.getD 0))
    refuse .lengthTooHigh
  else
    let buffer := before.buffer ++ data
    assign fun record => { record with buffer := buffer }
    if last then
      notes (Session.shortNotices before.target buffer.length before.declared)
      writeChecked buffer
    assign fun record => { record with toggle := record.toggle ^^^ 1 }
    send { command := 0x20 ||| if before.toggle = 0 then 0 else 0x10 }
    if last then
      note (.downloadComplete before.target buffer.length)
      assign Record.reset

end Canopen.Handler
