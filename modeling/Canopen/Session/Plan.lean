/-
**What a request comes to.**

* `Move`: the session after a request, what is done meanwhile, and the cause if the transfer ends
  early.
* `Plan`: a move, or one call on the store and the move that follows from its answer. A request
  never calls the store twice.
* `Plan.run`: the move of a plan over a store. A fault of the store ends the transfer.
-/

import Canopen.Event
import Canopen.Session.Basic

namespace Canopen

/-- The session after a request, what is done meanwhile, and the cause if the transfer ends
early. -/
structure Move where
  session : Session
  events : List Event
  failure : Option AbortCause

namespace Move

/-- The request is met. -/
def done (session : Session) (events : List Event) : Move := ⟨session, events, none⟩

/-- The transfer ends early. -/
def fail (session : Session) (cause : AbortCause) (notices : List Notice) : Move :=
  ⟨session, notices.map Event.note, some cause⟩

/-- The move with something done before it. -/
def after (move : Move) (events : List Event) : Move :=
  { move with events := events ++ move.events }

end Move

/-- A move, or one call on the store about the session's target and the move that follows. -/
inductive Plan
  | finish (move : Move)
  | read (session : Session) (next : Reading → Move)
  | write (session : Session) (notices : List Notice) (data : List UInt8) (next : Status → Move)

namespace Plan

/-- The move that follows from a call, with what the call did before it. -/
def settle {σ α : Type} (session : Session) (events : List Event) (call : Call σ α)
    (next : α → Move) : Move × σ :=
  let events := events ++ Event.ofCall call
  match call.outcome with
  | .ok answer => ((next answer).after events, call.store)
  | .error fault =>
    let notice := .storeFailed session.mode session.target fault.reason?
    ((Move.fail session .general [notice]).after events, call.store)

/-- The move of a plan over a store, and the store after it. -/
def run {σ : Type} [Store σ] (store : σ) : Plan → Move × σ
  | finish move => (move, store)
  | read session next =>
    settle session [.read session.target] (Store.read store session.target true) next
  | write session notices data next =>
    settle session (notices.map Event.note ++ [.write session.target data])
      (Store.write store session.target data true) next

end Plan

end Canopen
