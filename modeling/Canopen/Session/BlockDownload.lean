/-
**Block downloads.**

The client sends windows of full segments, numbered from one. No gap is tolerated. A window is
acknowledged when it is full or holds the last segment. The end tells the padding of the last
segment, which is dropped before the checksum is compared and the value is written.

* `Session.openBlockDownload`: the start.
* `Session.blockSegment`: a segment.
* `Session.closeBlockDownload`: the end.
-/

import Canopen.Session.Segmented

namespace Canopen

namespace BlockDownload

/-- Every declared octet is here already. -/
def isFilled (download : BlockDownload) : Bool :=
  download.declared.any fun declared =>
    !download.received.isEmpty && declared.toNat ≤ download.received.length

/-- The transfer with one more segment. -/
def take (download : BlockDownload) (segment : Segment) : BlockDownload :=
  let checksum :=
    if download.checksummed then Checksum.update download.checksum segment.data
    else download.checksum
  { download with
    received := download.received ++ segment.data
    checksum := checksum
    sequence := segment.number }

/-- The window is full or holds the last segment. -/
def closesWindow (segment : Segment) : Bool :=
  greatestWindow ≤ segment.number || segment.last

/-- The transfer with its window acknowledged. -/
def acknowledged (download : BlockDownload) (last : Bool) : BlockDownload :=
  { download with sequence := 0, complete := last }

/-- The value without the padding of the last segment. -/
def trimmed (download : BlockDownload) (padding : Nat) : List UInt8 :=
  download.received.take (download.received.length - padding)

end BlockDownload

namespace Session

/-- Opens a block download. -/
def openBlockDownload (target : Target) (checksummed : Bool) (declared : Option UInt32) : Move :=
  .done ⟨target, .blockDownload ⟨[], declared, checksummed, 0, 0, false⟩⟩
    [.note (.blockDownloadStarted target declared checksummed),
      .send (.blockDownloadStarted target checksummed)]

/-- Takes a segment into a block download. -/
def takeBlockSegment (target : Target) (download : BlockDownload) (segment : Segment) : Move :=
  let session : Session := ⟨target, .blockDownload download⟩
  let expected := download.sequence + 1
  if segment.number ≠ expected then
    .fail session .invalidSequence [.segmentNotExpected target expected segment.number]
  else if download.isFilled then
    .fail session .lengthTooHigh [.moreThanDeclared target (download.declared.getD 0)]
  else
    let taken := download.take segment
    if BlockDownload.closesWindow segment then
      .done ⟨target, .blockDownload (taken.acknowledged segment.last)⟩
        [.send (.blockDownloadAck segment.number)]
    else .done ⟨target, .blockDownload taken⟩ []

/-- Answers a segment of a block download. -/
def blockSegment (session : Session) (segment : Segment) : Move :=
  match session.transfer with
  | .blockDownload download => takeBlockSegment session.target download segment
  | _ => .fail session .invalidCommand []

/-- Writes a block download whose checksum is in order. -/
def writeBlockDownload (target : Target) (download : BlockDownload) (data : List UInt8)
    (notices : List Notice) : Plan :=
  let session : Session := ⟨target, .blockDownload download⟩
  .write session notices data fun status =>
    if status = .ok then
      .done (idle target)
        [.send .blockDownloadEnd, .note (.blockDownloadComplete target data.length)]
    else .fail session .notStored [.blockWriteFailed target data.length status]

/-- Ends a block download: its size is checked, then its checksum, and then it is written. -/
def closeBlockDownload (target : Target) (download : BlockDownload) (padding : Nat)
    (checksum : UInt16) : Plan :=
  let session : Session := ⟨target, .blockDownload download⟩
  let data := download.trimmed padding
  let calculated := Checksum.of data
  let short := shortNotices target data.length download.declared
  let compared := short ++
    if download.checksummed then [.checksumCompared checksum calculated download.checksum] else []
  if isExcess data.length download.declared then .finish (.fail session .lengthTooHigh [])
  else if download.checksummed ∧ checksum ≠ calculated then
    .finish (.fail session .checksum compared)
  else writeBlockDownload target download data compared

/-- Answers the end of a block download. -/
def blockDownloadEnd (session : Session) (padding : Nat) (checksum : UInt16) : Plan :=
  match session.transfer with
  | .blockDownload download =>
    if download.complete then closeBlockDownload session.target download padding checksum
    else .finish (.fail session .invalidCommand [.endNotExpected session.mode])
  | _ => .finish (.fail session .invalidCommand [.endNotExpected session.mode])

end Session

end Canopen
