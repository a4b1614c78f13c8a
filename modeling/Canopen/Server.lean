/-
**An SDO server.**

* `Server.receive`: a frame from the client. It never fails: a store that does ends the transfer.
* `Server.abort`: a transfer ended on this side.
* `Server.upload`, `Server.download`: local access to the store, unchecked and without a transfer.
* `Server.frames`, `Server.reports`: what a link is given, and what the operator is told, about
  events.
-/

import Canopen.Session.Dispatch

namespace Canopen

/-- An SDO server. -/
structure Server where
  /-- The identifier of its frames. -/
  sendId : UInt32
  session : Session
  /-- The code of the client's last abort. -/
  clientAbort : UInt32
  deriving DecidableEq, Repr, Inhabited

namespace Server

/-- A server before any transfer. -/
def new (sendId : UInt32) : Server := ⟨sendId, .initial, 0⟩

/-- The server and its store after a frame, and what was done. -/
structure Reaction (σ : Type) where
  server : Server
  store : σ
  events : List Event

/-- The frame of a response. -/
def frame (server : Server) (response : Response) : Frame :=
  .full server.sendId response.encode

/-- The code of the client's last abort after a request. -/
def noted (server : Server) : Request → UInt32
  | .aborted _ code => code
  | _ => server.clientAbort

/-- The session after a move, and what was done: a failure gives the transfer up and tells the
client. -/
def conclude (move : Move) : Session × List Event :=
  match move.failure with
  | none => (move.session, move.events)
  | some cause =>
    let target := move.session.target
    (move.session.reset, move.events ++
      [.note (.aborting target move.session.mode cause.code), .send (.abort target cause.code)])

/-- Handles a frame from the client, received at a time. -/
def receive {σ : Type} [Store σ] (server : Server) (store : σ) (frame : Frame) (time : Nat) :
    Reaction σ :=
  let octets := frame.octets
  let request := server.session.interpret octets
  let (move, store) := (server.session.plan request).run store
  let (session, events) := conclude move
  let received := .note (.frameReceived frame.id time server.session.mode octets)
  { server := { server with session := session, clientAbort := server.noted request }
    store := store
    events := received :: events }

/-- Ends a transfer on this side: the client is told, and the session reset. -/
def abort (server : Server) (code : UInt32) : Server × List Event :=
  let session := server.session
  ({ server with session := session.reset },
    [.note (.abortingLocally session.target session.mode code),
      .send (.abort session.target code)])

/-- Reads an entry locally. -/
def upload {σ : Type} [Store σ] (store : σ) (target : Target) : Call σ Reading :=
  Store.read store target false

/-- Writes an entry locally. -/
def download {σ : Type} [Store σ] (store : σ) (target : Target) (data : List UInt8) :
    Call σ Status :=
  Store.write store target data false

/-! ### Events on a link -/

/-- The frames among events. -/
def frames (server : Server) (events : List Event) : List Frame :=
  (Event.responses events).map server.frame

/-- The notices of an event on a link with a name that takes frames or does not. -/
def report (server : Server) (link : Text) (taken : Bool) : Event → List Notice
  | .note notice => [notice]
  | .send response =>
    .responding response.encode :: if taken then [] else [.frameNotTaken link server.sendId]
  | _ => []

/-- The notices of events. -/
def reports (server : Server) (link : Text) (taken : Bool) (events : List Event) : List Notice :=
  events.flatMap (server.report link taken)

end Server

end Canopen
