/-
**Requests of a client.**

* `Request.decode`: the octets of a frame as a request.
* `Request.decodeSegment`: the same while a block download is receiving. There every frame is a
  segment, whatever family its first octet resembles, except the bare abort octet `0x80`, whose
  number zero no segment has.

Octets past the length of a frame read as zero. Only the block sizes tell a missing octet from a
zero.
-/

import Canopen.Message.Family
import Canopen.Message.Header
import Canopen.Message.Segment

namespace Canopen

/-- A request of a client. -/
inductive Request
  /-- A frame without octets. -/
  | empty
  /-- Opens an upload. -/
  | upload (target : Target)
  /-- Asks for the next segment of an upload. -/
  | uploadSegment (toggle : Bool)
  /-- Writes up to four octets at once. -/
  | expedited (target : Target) (data : List UInt8)
  /-- Opens a segmented download of a declared size, if one is declared. -/
  | download (target : Target) (declared : Option UInt32)
  /-- Brings a segment of a download. -/
  | downloadSegment (toggle : Bool) (data : List UInt8) (last : Bool)
  /-- Tells that the client gave up. -/
  | aborted (target : Target) (code : UInt32)
  /-- Opens a block upload in windows of the given size. -/
  | blockUpload (target : Target) (checksummed : Bool) (blockSize : Nat)
  /-- Asks for the first window. -/
  | blockUploadStart
  /-- Acknowledges the first segments of a window and may choose another window size. -/
  | blockUploadAck (count : Nat) (blockSize : Option Nat)
  /-- Confirms the end of a block upload. -/
  | blockUploadEnd
  /-- Opens a block download of a declared size, if one is declared. -/
  | blockDownload (target : Target) (checksummed : Bool) (declared : Option UInt32)
  /-- Brings a segment of a block download. -/
  | blockSegment (segment : Segment)
  /-- Ends a block download: the padding of the last segment, and the checksum. -/
  | blockDownloadEnd (padding : Nat) (checksum : UInt16)
  /-- A command of no family. -/
  | unknown (command : UInt8)
  deriving DecidableEq, Repr, Inhabited

namespace Request

/-- The most octets that a request writes at once. -/
def expeditedCapacity : Nat := 4

/-- A download command: with bit one set it carries its octets, and with bit zero their number. -/
def decodeDownload (payload : Payload) : Request :=
  let command := payload.command
  if flag command 1 then
    let size := if flag command 0 then expeditedCapacity - field command 2 2 else expeditedCapacity
    expedited payload.target (payload.tail.take size)
  else download payload.target (if flag command 0 then some payload.double else none)

/-- A block upload command, by its two low bits. -/
def decodeBlockUpload (octets : List UInt8) (payload : Payload) : Request :=
  match field payload.command 0 2 with
  | 0 =>
    let blockSize := (octets[4]?.map UInt8.toNat).getD greatestWindow
    blockUpload payload.target (flag payload.command 2) blockSize
  | 1 => blockUploadEnd
  | 2 => blockUploadAck ((octets[1]?.map UInt8.toNat).getD 0) (octets[2]?.map UInt8.toNat)
  | _ => blockUploadStart

/-- A block download command: bit zero tells its end from its start. -/
def decodeBlockDownload (payload : Payload) : Request :=
  let command := payload.command
  if flag command 0 then blockDownloadEnd (field command 2 3) payload.word
  else blockDownload payload.target (flag command 2)
    (if flag command 1 then some payload.double else none)

/-- The request in the octets of a frame. -/
def decode (octets : List UInt8) : Request :=
  let payload := Payload.ofList octets
  let command := payload.command
  if octets = [] then empty
  else match Family.ofCommand command with
    | .upload => upload payload.target
    | .uploadSegment => uploadSegment (flag command 4)
    | .download => decodeDownload payload
    | .downloadSegment =>
      downloadSegment (flag command 4)
        (payload.body.take (segmentCapacity - field command 1 3)) (flag command 0)
    | .blockUpload => decodeBlockUpload octets payload
    | .blockDownload => decodeBlockDownload payload
    | .abort => aborted payload.target payload.double
    | .unknown => unknown command

/-- The abort octet of a client. -/
def abortCommand : UInt8 := 0x80

/-- The request in the octets of a frame that comes while a block download is receiving. -/
def decodeSegment (octets : List UInt8) : Request :=
  let payload := Payload.ofList octets
  if octets = [] then empty
  else if payload.command = abortCommand then aborted payload.target payload.double
  else blockSegment (Segment.decode payload)

end Request

end Canopen
