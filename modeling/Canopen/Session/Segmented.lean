/-
**Expedited and segmented transfers.**

An upload of up to four octets is answered at once; a longer one is opened and then asked for
segment by segment. A download of up to four octets is written at once; any other is opened,
brought segment by segment, and written with its last one. The toggle alternates from zero after
every opening.

* `Session.openUpload`, `Session.uploadSegment`: uploads.
* `Session.expedited`, `Session.openDownload`, `Session.downloadSegment`: downloads.
-/

import Canopen.Message.Request
import Canopen.Session.Plan

namespace Canopen.Session

/-- The move after a read for an upload: a refusal or an empty value ends it. -/
def afterRead (session : Session) (reading : Reading) (next : List UInt8 → Move) : Move :=
  match reading.status.abortCause? with
  | some cause => .fail session cause [.readRefused session.target reading.status]
  | none =>
    let value := reading.into []
    if value = [] then .fail session .noData [.nothingToUpload session.target] else next value

/-! ### Uploads -/

/-- Opens an upload, or answers a short one. -/
def openUpload (target : Target) : Plan :=
  let session := idle target
  .read session fun reading => session.afterRead reading fun value =>
    if value.length ≤ Request.expeditedCapacity then
      .done session [.note (.expeditedUpload target), .send (.uploaded target value)]
    else
      .done ⟨target, .upload ⟨value, 0, false⟩⟩
        [.note (.uploadStarted target value.length), .send (.uploadStarted target value.length)]

/-- Sends the next segment of an upload, and closes it with the last one. -/
def nextSegment (target : Target) (upload : Upload) : Move :=
  let data := (upload.value.drop upload.sent).take segmentCapacity
  let sent := upload.sent + data.length
  let last := sent == upload.value.length
  let segment := .send (.uploadSegment upload.toggle data last)
  if last then .done (idle target) [segment, .note (.uploadComplete target upload.value.length)]
  else .done ⟨target, .upload { upload with sent := sent, toggle := !upload.toggle }⟩ [segment]

/-- Answers a request for a segment. -/
def uploadSegment (session : Session) (toggle : Bool) : Move :=
  match session.transfer with
  | .upload upload =>
    if toggle = upload.toggle then nextSegment session.target upload
    else .fail session .toggleNotAlternated []
  | _ => .fail session .general [.uploadNotOpen]

/-! ### Downloads -/

/-- Writes up to four octets at once. -/
def expedited (target : Target) (data : List UInt8) : Plan :=
  let session := idle target
  .write session [.expeditedDownload target] data fun status =>
    match status.abortCause? with
    | some cause => .fail session cause [.writeRefused target data.length status]
    | none => .done session [.send (.downloadAccepted target)]

/-- Opens a download. -/
def openDownload (target : Target) (declared : Option UInt32) : Move :=
  let size := declared.toList.map fun size => Event.note (.sizeDeclared size)
  .done ⟨target, .download ⟨[], declared, false⟩⟩
    (.note (.downloadStarted target) :: size ++ [.send (.downloadAccepted target)])

/-- The notices about a value shorter than declared. -/
def shortNotices (target : Target) (size : Nat) (declared : Option UInt32) : List Notice :=
  declared.toList.filterMap fun declared =>
    if size < declared.toNat then some (.lessThanDeclared target size declared) else none

/-- Writes a download with its last segment. -/
def writeDownload (target : Target) (download : Download) : Plan :=
  let size := download.received.length
  let session : Session := ⟨target, .download download⟩
  .write session (shortNotices target size download.declared) download.received fun status =>
    match status.abortCause? with
    | some cause => .fail session cause [.writeRefused target size status]
    | none => .done (idle target)
      [.send (.downloadSegment download.toggle), .note (.downloadComplete target size)]

/-- A size goes past the declared one. -/
def isExcess (size : Nat) (declared : Option UInt32) : Bool :=
  declared.any fun declared => declared.toNat < size

/-- Takes a segment into a download. -/
def takeSegment (target : Target) (download : Download) (data : List UInt8) (last : Bool) : Plan :=
  let session : Session := ⟨target, .download download⟩
  let received := download.received ++ data
  if isExcess received.length download.declared then
    .finish (.fail session .lengthTooHigh
      [.moreThanDeclared target (download.declared.getD 0)])
  else if last then writeDownload target { download with received := received }
  else .finish (.done
    ⟨target, .download { download with received := received, toggle := !download.toggle }⟩
    [.send (.downloadSegment download.toggle)])

/-- Answers a segment of a download. -/
def downloadSegment (session : Session) (toggle : Bool) (data : List UInt8) (last : Bool) : Plan :=
  match session.transfer with
  | .download download =>
    if toggle = download.toggle then takeSegment session.target download data last
    else .finish (.fail session .toggleNotAlternated [])
  | _ => .finish (.fail session .general [.downloadNotOpen])

end Canopen.Session
