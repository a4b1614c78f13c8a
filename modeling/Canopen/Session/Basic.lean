/-
**Sessions: the transfer that a server has open.**

* `Transfer`: the open transfer with all that belongs to it, and nothing else.
* `Session`: a target and a transfer. The target of the last transfer stays after its end, for
  aborts.
* `Session.mode`, `Session.phase`: which transfer is open, and where it stands.
* `Session.window`: the segments that wait for their acknowledgement.
* `Session.Readout`: a session as one flat row of figures.
-/

import Canopen.Checksum
import Canopen.Message.Segment
import Canopen.Session.Mode
import Canopen.Target

namespace Canopen

/-- An upload by segments. -/
structure Upload where
  value : List UInt8
  /-- The octets already sent. -/
  sent : Nat
  /-- The toggle of the next segment. -/
  toggle : Bool
  deriving DecidableEq, Repr, Inhabited

/-- A download by segments. -/
structure Download where
  received : List UInt8
  declared : Option UInt32
  /-- The toggle of the next segment. -/
  toggle : Bool
  deriving DecidableEq, Repr, Inhabited

/-- An upload by blocks. -/
structure BlockUpload where
  value : List UInt8
  /-- The octets already sent. -/
  sent : Nat
  /-- The greatest number of segments in the next window. -/
  blockSize : Nat
  checksummed : Bool
  /-- The checksum register over the octets already sent. -/
  checksum : UInt16
  /-- A window is on its way. -/
  started : Bool
  /-- The segments of that window. -/
  window : List Segment
  deriving DecidableEq, Repr, Inhabited

/-- A download by blocks. -/
structure BlockDownload where
  received : List UInt8
  declared : Option UInt32
  checksummed : Bool
  /-- The checksum register over the octets received. -/
  checksum : UInt16
  /-- The number of the last segment of this window. -/
  sequence : Nat
  /-- The last segment of the transfer is here. -/
  complete : Bool
  deriving DecidableEq, Repr, Inhabited

/-- The open transfer. -/
inductive Transfer
  | idle
  | upload (upload : Upload)
  | download (download : Download)
  | blockUpload (upload : BlockUpload)
  | blockDownload (download : BlockDownload)
  deriving DecidableEq, Repr, Inhabited

/-- The transfer of a server, and the entry it is about. -/
structure Session where
  target : Target
  transfer : Transfer
  deriving DecidableEq, Repr, Inhabited

namespace Session

/-- The session before any transfer. -/
def initial : Session := ⟨⟨0, 0⟩, .idle⟩

/-- A session without a transfer. -/
def idle (target : Target) : Session := ⟨target, .idle⟩

/-- The transfer given up, the target kept. -/
def reset (session : Session) : Session := idle session.target

/-- Which transfer is open. -/
def mode (session : Session) : Mode :=
  match session.transfer with
  | .idle => .idle
  | .upload _ => .segmentedUpload
  | .download _ => .segmentedDownload
  | .blockUpload _ => .blockUpload
  | .blockDownload _ => .blockDownload

/-- Where a block transfer stands. -/
def phase (session : Session) : Phase :=
  match session.transfer with
  | .blockUpload upload => if upload.started then .awaitingAck else .initiated
  | .blockDownload download => if download.complete then .awaitingEnd else .receiving
  | _ => .none

/-- A block download expects segments. -/
def isReceiving (session : Session) : Bool :=
  session.phase == .receiving

/-- The segments that wait for their acknowledgement. -/
def window (session : Session) : List Segment :=
  match session.transfer with
  | .blockUpload upload => upload.window
  | _ => []

end Session

namespace BlockUpload

/-- The octets of the last segment of the transfer, zero until it is sent. -/
def lastLength (upload : BlockUpload) : Nat :=
  match upload.window.getLast? with
  | some segment => if segment.last then segment.data.length else 0
  | none => 0

end BlockUpload

namespace Session

/-- A session as one row of figures; a figure that does not belong to the transfer is at rest. -/
structure Readout where
  mode : Mode
  phase : Phase
  target : Target
  toggle : Bool
  /-- The octets held. -/
  size : Nat
  /-- The octets sent. -/
  cursor : Nat
  declared : Option UInt32
  blockSize : Nat
  sequence : Nat
  checksummed : Bool
  checksum : UInt16
  /-- The segments kept until they are acknowledged. -/
  pending : Nat
  /-- The octets of the last segment of a block upload. -/
  lastLength : Nat
  deriving DecidableEq, Repr

/-- The row of a session without a transfer. -/
def Readout.atRest (target : Target) : Readout where
  mode := .idle
  phase := .none
  target := target
  toggle := false
  size := 0
  cursor := 0
  declared := none
  blockSize := greatestWindow
  sequence := 0
  checksummed := false
  checksum := 0
  pending := 0
  lastLength := 0

/-- The session as one row of figures. -/
def readout (session : Session) : Readout :=
  let rest := { Readout.atRest session.target with mode := session.mode, phase := session.phase }
  match session.transfer with
  | .idle => rest
  | .upload upload =>
    { rest with toggle := upload.toggle, size := upload.value.length, cursor := upload.sent }
  | .download download =>
    { rest with
      toggle := download.toggle
      size := download.received.length
      declared := download.declared }
  | .blockUpload upload =>
    { rest with
      size := upload.value.length
      cursor := upload.sent
      declared := some (UInt32.ofNat upload.value.length)
      blockSize := upload.blockSize
      sequence := upload.window.length
      checksummed := upload.checksummed
      checksum := upload.checksum
      pending := upload.window.length
      lastLength := upload.lastLength }
  | .blockDownload download =>
    { rest with
      size := download.received.length
      declared := download.declared
      sequence := download.sequence
      checksummed := download.checksummed
      checksum := download.checksum }

end Session

end Canopen
