/-
**How an endpoint handles a request.**

* `Effect`: what an endpoint does, its frames octet by octet.
* `Desk`: what a handler works on: the record, the store, and what is done so far.
* `Handler`: a piece of work at a desk. It may stop before its end, and what it has changed by then
  stays changed.
* `Handler.readChecked`, `Handler.writeChecked`: calls on the store for the client.
* `Handler.supersede`: an opening gives up whatever transfer is open.
* `Handler.settle`: a stop is told to the client, and the record reset.
-/

import Canopen.Endpoint.Record
import Canopen.Event

namespace Canopen

/-- Something that an endpoint does. -/
inductive Effect
  /-- Reads an entry for a client. -/
  | read (target : Target)
  /-- Writes an entry for a client. -/
  | write (target : Target) (data : List UInt8)
  /-- Lets an observer see a value. -/
  | observed (observed : Observed)
  /-- Reports to the operator. -/
  | note (notice : Notice)
  /-- Sends a frame to the client. -/
  | send (payload : Payload)
  deriving DecidableEq, Repr

namespace Effect

/-- The value shown that an effect is. -/
def observed? : Effect → Option Observed
  | observed seen => some seen
  | _ => none

/-- The values shown among effects. -/
def sightings (effects : List Effect) : List Observed :=
  effects.filterMap observed?

end Effect

/-- An event, its response in octets. -/
def Event.effect : Event → Effect
  | read target => .read target
  | write target data => .write target data
  | observed seen => .observed seen
  | note notice => .note notice
  | send response => .send response.encode

/-- Why a handler stops before its end. -/
inductive Stop
  /-- The request is refused. -/
  | refused (cause : AbortCause)
  /-- The store fails. -/
  | failed (fault : Fault)

/-- What a handler works on. -/
structure Desk (σ : Type) where
  record : Record
  store : σ
  /-- The code of the client's last abort. -/
  clientAbort : UInt32
  /-- What is done so far, in order. -/
  effects : List Effect

/-- A piece of work at a desk, which may stop before its end. -/
abbrev Handler (σ : Type) : Type → Type := ExceptT Stop (StateM (Desk σ))

namespace Handler

variable {σ : Type}

/-- The result of a handler, and the desk as it leaves it. -/
def work {α : Type} (handler : Handler σ α) (desk : Desk σ) : Except Stop α × Desk σ :=
  (ExceptT.run handler).run desk

/-- The record as it is now. -/
def record : Handler σ Record :=
  return (← get).record

/-- Changes the record. -/
def assign (change : Record → Record) : Handler σ Unit :=
  modify fun desk => { desk with record := change desk.record }

/-- Does something. -/
def tell (effects : List Effect) : Handler σ Unit :=
  modify fun desk => { desk with effects := desk.effects ++ effects }

/-- Reports to the operator. -/
def notes (notices : List Notice) : Handler σ Unit :=
  tell (notices.map .note)

/-- Reports one thing to the operator. -/
def note (notice : Notice) : Handler σ Unit :=
  notes [notice]

/-- Sends a frame to the client. -/
def send (payload : Payload) : Handler σ Unit :=
  tell [.send payload]

/-- Stops: the request is refused. -/
def refuse {α : Type} (cause : AbortCause) : Handler σ α :=
  throw (.refused cause)

/-- Calls the store; a fault of it stops the handler. -/
def callStore {α : Type} (asked : Effect) (call : σ → Call σ α) : Handler σ α := do
  let answered := call (← get).store
  tell (asked :: (Event.ofCall answered).map Event.effect)
  modify fun desk => { desk with store := answered.store }
  match answered.outcome with
  | .ok answer => return answer
  | .error fault => throw (.failed fault)

section Store

variable [Store σ]

/-- Reads the entry for the client. -/
def readStore : Handler σ Reading := do
  let target := (← record).target
  callStore (.read target) fun store => Store.read store target true

/-- Writes the entry for the client. -/
def writeStore (data : List UInt8) : Handler σ Status := do
  let target := (← record).target
  callStore (.write target data) fun store => Store.write store target data true

/-- Reads the entry for the client; a refusal stops the handler. -/
def readChecked : Handler σ (List UInt8) := do
  let reading ← readStore
  match reading.status.abortCause? with
  | some cause =>
    note (.readRefused (← record).target reading.status)
    refuse cause
  | none => return reading.into []

/-- Reads the entry for an upload, which needs an octet at least. -/
def readValue : Handler σ (List UInt8) := do
  let value ← readChecked
  if value = [] then
    note (.nothingToUpload (← record).target)
    refuse .noData
  else return value

/-- Writes the entry for the client; a refusal stops the handler. -/
def writeChecked (data : List UInt8) : Handler σ Unit := do
  let status ← writeStore data
  match status.abortCause? with
  | some cause =>
    note (.writeRefused (← record).target data.length status)
    refuse cause
  | none => return

end Store

/-- Gives up whatever transfer is open, for one about another entry. -/
def supersede (target : Target) : Handler σ Unit := do
  assign Record.reset
  assign fun record => { record with target := target }

/-- The frame that tells the client of an abort. -/
def abortFrame (target : Target) (code : UInt32) : Payload :=
  (Payload.behindHeader (Octets.of32 code)).withHeader 0x80 target

/-- The client is told that the transfer is over, behind a reset. -/
def abandon (cause : AbortCause) : Handler σ Unit := do
  let record ← record
  note (.aborting record.target record.mode cause.code)
  assign Record.reset
  send (abortFrame record.target cause.code)

/-- The desk at the end of a request: whatever stops the handler, the transfer is given up. -/
def settle (handler : Handler σ Unit) : Handler σ Unit :=
  tryCatch handler fun
    | .refused cause => abandon cause
    | .failed fault => do
      let record ← record
      note (.storeFailed record.mode record.target fault.reason?)
      abandon .general

end Handler

end Canopen
