/-
**Block uploads.**

The value is announced, and sent in windows of segments. The client acknowledges the segments it
has: if some of the window are missing they are sent again, and otherwise the next window follows,
or the end of the transfer with its checksum. Numbers restart from one in every window.

* `Session.openBlockUpload`: the announcement.
* `BlockUpload.send`: the next window.
* `Session.blockUploadAck`: an acknowledgement, which also chooses the size of the next window.
* `Session.closeBlockUpload`: the end.
-/

import Canopen.Session.Segmented

namespace Canopen

namespace BlockUpload

/-- A block size within bounds: at least one segment, and at most a greatest window. -/
def clamp (blockSize : Nat) : Nat :=
  min (max blockSize 1) greatestWindow

/-- The octets not yet sent. -/
def rest (upload : BlockUpload) : List UInt8 :=
  upload.value.drop upload.sent

/-- The next window. -/
def nextWindow (upload : BlockUpload) : List Segment :=
  Segment.cut upload.blockSize 1 upload.rest

/-- The transfer with its next window on the way. -/
def advance (upload : BlockUpload) : BlockUpload :=
  let window := upload.nextWindow
  let data := Segment.join window
  { upload with
    sent := upload.sent + data.length
    checksum := if upload.checksummed then Checksum.update upload.checksum data else upload.checksum
    started := true
    window := window }

/-- The octets of the last segment that are not used. -/
def unused (upload : BlockUpload) : Nat :=
  if upload.lastLength = 0 then 0 else segmentCapacity - upload.lastLength

end BlockUpload

namespace Session

/-- Opens a block upload. -/
def openBlockUpload (target : Target) (checksummed : Bool) (blockSize : Nat) : Plan :=
  let session := idle target
  let blockSize := BlockUpload.clamp blockSize
  .read session fun reading => session.afterRead reading fun value =>
    .done ⟨target, .blockUpload ⟨value, 0, blockSize, checksummed, 0, false, []⟩⟩
      [.note (.blockUploadStarted target value.length blockSize checksummed),
        .send (.blockUploadStarted target checksummed value.length)]

/-- The responses that bring segments. -/
def sendSegments (segments : List Segment) : List Event :=
  segments.map fun segment => .send (.blockSegment segment)

/-- Sends the next window. -/
def sendWindow (target : Target) (upload : BlockUpload) : Move :=
  let advanced := upload.advance
  .done ⟨target, .blockUpload advanced⟩
    (sendSegments advanced.window
      ++ [.note (.windowSent target advanced.window.length advanced.rest.length)])

/-- Ends a block upload. -/
def closeBlockUpload (target : Target) (upload : BlockUpload) : Move :=
  let checksum := if upload.checksummed then some upload.checksum else none
  .done (idle target)
    [.send (.blockUploadEnd upload.unused checksum),
      .note (.blockUploadComplete target upload.sent)]

/-- Answers the start of a block upload. -/
def blockUploadStart (session : Session) : Move :=
  match session.transfer with
  | .blockUpload upload =>
    if upload.started then .fail session .invalidCommand [.startNotExpected session.mode]
    else sendWindow session.target upload
  | _ => .fail session .invalidCommand [.startNotExpected session.mode]

/-- Goes on after an acknowledgement of the first `count` segments of the window. -/
def continueUpload (target : Target) (upload : BlockUpload) (count : Nat) : Move :=
  let sent := upload.window.length
  let session : Session := ⟨target, .blockUpload upload⟩
  if sent < count then .fail session .invalidSequence [.ackTooHigh count sent]
  else if count < sent then
    .done session
      (.note (.resending target count sent) :: sendSegments (upload.window.drop count))
  else if upload.rest = [] then closeBlockUpload target upload
  else sendWindow target upload

/-- Answers an acknowledgement. -/
def blockUploadAck (session : Session) (count : Nat) (blockSize : Option Nat) : Move :=
  match session.transfer with
  | .blockUpload upload =>
    if upload.started then
      let blockSize := BlockUpload.clamp (blockSize.getD upload.blockSize)
      continueUpload session.target { upload with blockSize := blockSize } count
    else .fail session .invalidCommand [.ackNotExpected session.mode]
  | _ => .fail session .invalidCommand [.ackNotExpected session.mode]

/-- Answers the client's end of a block upload; outside of one it confirms an end already sent. -/
def blockUploadEnd (session : Session) : Move :=
  match session.transfer with
  | .blockUpload upload => closeBlockUpload session.target upload
  | _ => .done session [.note (.blockUploadConfirmed session.target)]

end Session

end Canopen
