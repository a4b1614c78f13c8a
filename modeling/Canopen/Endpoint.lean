/-
**An SDO server over the flat record.**

It does what `Server` does, whose session holds the members of the open transfer only; here every
handler finds all members, and must leave them in order.

* `Record.readout`: the record as one row of figures.
* `Handler.dispatch`: the handler of a request, by the mode and by the command.
* `Endpoint.receive`: a frame from the client.
* `Endpoint.abort`: a transfer ended on this side.
* `Endpoint.frames`, `Endpoint.reports`: what a link is given, and what the operator is told.
-/

import Canopen.Endpoint.BlockDownload
import Canopen.Endpoint.BlockUpload
import Canopen.Endpoint.Segmented

namespace Canopen

namespace Record

/-- Segments of a block download are expected. -/
def isReceiving (record : Record) : Bool :=
  record.mode == .blockDownload && record.phase == .receiving

/-- The record as one row of figures. -/
def readout (record : Record) : Session.Readout where
  mode := record.mode
  phase := record.phase
  target := record.target
  toggle := record.toggle != 0
  size := record.buffer.length
  cursor := record.cursor
  declared := record.declared
  blockSize := record.blockSize.toNat
  sequence := record.sequence.toNat
  checksummed := record.checksummed
  checksum := record.checksum
  pending := record.pendingCount.toNat
  lastLength := record.lastLength

end Record

namespace Handler

variable {σ : Type}

/-- Notes that the client gave up. -/
def onPeerAbort (target : Target) (code : UInt32) : Handler σ Unit := do
  modify fun desk => { desk with clientAbort := code }
  note (.abortedByClient target code)

/-- Handles a request. -/
def handle [Store σ] : Request → Handler σ Unit
  | .empty => refuse .invalidCommand
  | .upload target => initUpload target
  | .uploadSegment toggle => segmentedUpload toggle
  | .expedited target data => initExpedited target data
  | .download target declared => initDownload target declared
  | .downloadSegment toggle data last => segmentedDownload toggle data last
  | .aborted target code => onPeerAbort target code
  | .blockUpload target checksummed blockSize => initBlockUpload target checksummed blockSize
  | .blockUploadStart => startBlockUpload
  | .blockUploadAck count blockSize => blockUploadAck count blockSize
  | .blockUploadEnd => blockUploadEnd
  | .blockDownload target checksummed declared => initBlockDownload target checksummed declared
  | .blockSegment segment => blockDownloadSegment segment
  | .blockDownloadEnd padding checksum => endBlockDownload padding checksum
  | .unknown command => do
    note (.unknownCommand command)
    refuse .invalidCommand

/-- Handles the octets of a frame: a segment while a block download is receiving, and otherwise the
request of its command. -/
def dispatch [Store σ] (octets : List UInt8) : Handler σ Unit := do
  if (← record).isReceiving then handle (Request.decodeSegment octets)
  else handle (Request.decode octets)

end Handler

/-- An SDO server over the flat record. -/
structure Endpoint where
  /-- The identifier of its frames. -/
  sendId : UInt32
  record : Record
  /-- The code of the client's last abort. -/
  clientAbort : UInt32
  deriving DecidableEq, Repr

namespace Endpoint

/-- An endpoint before any transfer. -/
def new (sendId : UInt32) : Endpoint := ⟨sendId, {}, 0⟩

/-- The endpoint and its store after a step, and what was done. -/
structure Reaction (σ : Type) where
  endpoint : Endpoint
  store : σ
  effects : List Effect

/-- The reaction of a handler, settled at the end. -/
def react {σ : Type} (endpoint : Endpoint) (store : σ) (handler : Handler σ Unit) : Reaction σ :=
  let desk := (handler.settle.work ⟨endpoint.record, store, endpoint.clientAbort, []⟩).2
  { endpoint := { endpoint with record := desk.record, clientAbort := desk.clientAbort }
    store := desk.store
    effects := desk.effects }

/-- Handles a frame from the client, received at a time. -/
def receive {σ : Type} [Store σ] (endpoint : Endpoint) (store : σ) (frame : Frame) (time : Nat) :
    Reaction σ :=
  endpoint.react store do
    let mode := (← Handler.record).mode
    Handler.note (.frameReceived frame.id time mode frame.octets)
    Handler.dispatch frame.octets

/-- Ends a transfer on this side: the client is told, and the record reset. -/
def abort {σ : Type} (endpoint : Endpoint) (store : σ) (code : UInt32) : Reaction σ :=
  endpoint.react store do
    let record ← Handler.record
    Handler.note (.abortingLocally record.target record.mode code)
    Handler.send (Handler.abortFrame record.target code)
    Handler.assign Record.reset

/-! ### Effects on a link -/

/-- The frame that an effect sends. -/
def frame? (endpoint : Endpoint) : Effect → Option Frame
  | .send payload => some (.full endpoint.sendId payload)
  | _ => none

/-- The frames among effects. -/
def frames (endpoint : Endpoint) (effects : List Effect) : List Frame :=
  effects.filterMap endpoint.frame?

/-- The notices of an effect on a link with a name that takes frames or does not. -/
def report (endpoint : Endpoint) (link : Text) (taken : Bool) : Effect → List Notice
  | .note notice => [notice]
  | .send payload =>
    .responding payload :: if taken then [] else [.frameNotTaken link endpoint.sendId]
  | _ => []

/-- The notices of effects. -/
def reports (endpoint : Endpoint) (link : Text) (taken : Bool) (effects : List Effect) :
    List Notice :=
  effects.flatMap (endpoint.report link taken)

end Endpoint

end Canopen
