/-
**The console of a node.**

* `Station`: a node with its store, and the threshold of its notices.
* `Station.obey`: an order carried out.
* `Station.answer`: a line answered with one line, `OK` or `ERR` in front. A fault of the store
  leaves the line without an answer.

An operator reads and writes every entry, whatever the rights of clients are.
-/

import Canopen.Node
import Canopen.Order

namespace Canopen

/-- A node with its store, and the threshold of its notices. -/
structure Station (σ : Type) where
  node : Node
  store : σ
  level : Level

/-- The answer to a line, and the station after it. -/
structure Answer (σ : Type) where
  station : Station σ
  reply : Except Fault Text
  events : List Event

/-- The reply to an order: its result if it is met. -/
abbrev Reply := Except Complaint Text

/-- The reply in words. -/
def Reply.text : Reply → Text
  | .ok [] => Text.ofString "OK"
  | .ok result => Text.ofString "OK " ++ result
  | .error complaint => Text.ofString "ERR " ++ complaint.text

namespace Station

variable {σ : Type}

/-- An answer that leaves the store alone. -/
def reply (station : Station σ) (events : List Event) (reply : Reply) : Answer σ :=
  ⟨station, .ok reply.text, events⟩

/-- The answer that a call on the store leads to. -/
def conclude {α : Type} (station : Station σ) (call : Call σ α) (reply : α → Reply) : Answer σ :=
  ⟨{ station with store := call.store }, call.outcome.map fun answer => (reply answer).text,
    Event.ofCall call⟩

/-- The reply to a read. -/
def readReply (reading : Reading) : Reply :=
  if reading.status = .ok then .ok (Hex.encode (reading.into []))
  else .error (.refused reading.status)

/-- The reply to a write. -/
def writeReply (status : Status) : Reply :=
  if status = .ok then .ok [] else .error (.refused status)

/-- Carries out an order. -/
def obey [Store σ] (station : Station σ) : Order → Answer σ
  | .quit => station.reply [.note .quitting] (.ok [])
  | .status => station.reply [] (.ok station.node.statusText)
  | .level level => { station with level := level }.reply [] (.ok [])
  | .abort code =>
    let (node, events) := station.node.abort code
    { station with node := node }.reply events (.ok [])
  | .get target => station.conclude (Server.upload station.store target) readReply
  | .set target data => station.conclude (Server.download station.store target data) writeReply

/-- Answers a line. -/
def answer [Store σ] (station : Station σ) (line : Text) : Answer σ :=
  let received := .note (.orderReceived line)
  match Order.parse line with
  | .error .empty => station.reply [] (.error .empty)
  | .error (.unknown word) =>
    station.reply [received, .note (.unknownOrder word)] (.error (.unknown word))
  | .error complaint => station.reply [received] (.error complaint)
  | .ok order =>
    let answer := station.obey order
    { answer with events := received :: answer.events }

end Station

end Canopen
