/-
**Responses of the server.**

* `Response`: what the server sends.
* `Response.encode`: the eight octets of a response.

A number beside a command counts the octets that are not used, so that the client can tell a short
value from its padding.
-/

import Canopen.Message.Header
import Canopen.Message.Segment

namespace Canopen

/-- A response of the server. -/
inductive Response
  /-- A value of one to four octets. -/
  | uploaded (target : Target) (value : List UInt8)
  /-- An upload by segments is open. -/
  | uploadStarted (target : Target) (size : Nat)
  /-- A segment of an upload. -/
  | uploadSegment (toggle : Bool) (data : List UInt8) (last : Bool)
  /-- A download is accepted: written at once, or open. -/
  | downloadAccepted (target : Target)
  /-- A segment of a download is here. -/
  | downloadSegment (toggle : Bool)
  /-- A block upload is open. -/
  | blockUploadStarted (target : Target) (checksummed : Bool) (size : Nat)
  /-- A segment of a block upload. -/
  | blockSegment (segment : Segment)
  /-- The end of a block upload: the octets not used in its last segment, and the checksum. -/
  | blockUploadEnd (unused : Nat) (checksum : Option UInt16)
  /-- A block download is open. -/
  | blockDownloadStarted (target : Target) (checksummed : Bool)
  /-- The segments of a window up to a number are here. -/
  | blockDownloadAck (count : Nat)
  /-- A block download is written. -/
  | blockDownloadEnd
  /-- The transfer ends early. -/
  | abort (target : Target) (code : UInt32)
  deriving DecidableEq, Repr, Inhabited

namespace Response

/-- A command octet with marks added to it. -/
def command (base : Nat) (marks : Nat) : UInt8 :=
  UInt8.ofNat (base + marks)

/-- A mark at a bit position. -/
def mark (set : Bool) (position : Nat) : Nat :=
  if set then 1 <<< position else 0

/-- The octets behind the command. -/
def content : Response → List UInt8
  | uploaded target value => target.octets ++ value
  | uploadStarted target size => target.octets ++ Octets.ofNat 4 size
  | uploadSegment _ data _ => data
  | downloadAccepted target => target.octets
  | downloadSegment _ => []
  | blockUploadStarted target _ size => target.octets ++ Octets.ofNat 4 size
  | blockSegment segment => segment.data
  | blockUploadEnd _ none => []
  | blockUploadEnd _ (some checksum) => Octets.of16 checksum
  | blockDownloadStarted target _ => target.octets ++ [UInt8.ofNat greatestWindow]
  | blockDownloadAck count => [UInt8.ofNat count, UInt8.ofNat greatestWindow]
  | blockDownloadEnd => []
  | abort target code => target.octets ++ Octets.of32 code

/-- The command octet. -/
def first : Response → UInt8
  | uploaded _ value => command 0x43 (4 * (4 - value.length))
  | uploadStarted _ _ => command 0x41 0
  | uploadSegment toggle data last =>
    command 0 (mark toggle 4 + 2 * (segmentCapacity - data.length) + mark last 0)
  | downloadAccepted _ => command 0x60 0
  | downloadSegment toggle => command 0x20 (mark toggle 4)
  | blockUploadStarted _ checksummed _ => command 0xC2 (mark checksummed 2)
  | blockSegment segment => command segment.number (mark segment.last 7)
  | blockUploadEnd unused _ => command 0xC1 (4 * unused)
  | blockDownloadStarted _ checksummed => command 0xA0 (mark checksummed 2)
  | blockDownloadAck _ => command 0xA2 0
  | blockDownloadEnd => command 0xA1 0
  | abort _ _ => command 0x80 0

/-- The octets of a response, filled with zeros. -/
def encode (response : Response) : Payload :=
  .ofList (response.first :: response.content)

end Response

end Canopen
