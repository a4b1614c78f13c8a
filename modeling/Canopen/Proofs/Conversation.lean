/-
**A client's requests, among what else happens to its server.**

* `Operation.isAside`: the operation is no part of the client's transfer. The session stays as it
  is, and nothing is answered (`Server.perform_aside`); the store may change.
* `Sends`: operations that bring requests in order, with others aside before any of them.
* `Event.payloads`: what the client gets to see.
-/

import Canopen.Proofs.Stream

namespace Canopen

/-- The operation is no part of a client's transfer: the store is used on this side, or the client
tells that it gave up, which ends nothing. -/
def Operation.isAside : Operation → Bool
  | .frame received _ => received.isAbort
  | .abort _ => false
  | .upload _ | .download _ _ => true

/-- Operations that bring requests in order; others may stand aside before any of them. -/
inductive Sends : List Operation → List Request → Prop
  | nil : Sends [] []
  | aside {operation : Operation} {operations : List Operation} {request : Request}
      {requests : List Request} (aside : operation.isAside = true)
      (later : Sends operations (request :: requests)) :
      Sends (operation :: operations) (request :: requests)
  | request {frame : Frame} {time : Nat} {operations : List Operation} {request : Request}
      {requests : List Request} (brings : frame.Brings request)
      (later : Sends operations requests) :
      Sends (.frame frame time :: operations) (request :: requests)

/-- Toggles alternate: that of the next place is the other one. -/
theorem Request.toggle_succ (place : Nat) :
    decide ((place + 1) % 2 = 1) = !decide (place % 2 = 1) := by
  rw [← decide_not, decide_eq_decide]
  omega

/-- The octets of the responses among events. -/
def Event.payloads (events : List Event) : List Payload :=
  (responses events).map Response.encode

namespace Server

variable {σ : Type} [Store σ]

theorem responses_run_cons (server : Server) (store : σ) (operation : Operation)
    (later : List Operation) :
    let first := server.perform store operation
    Event.responses (server.run store (operation :: later)).events =
      Event.responses first.events ++
        Event.responses (first.server.run first.store later).events :=
  Event.responses_append _ _

/-- **What is aside** leaves the session as it is, and is not answered. -/
theorem perform_aside (server : Server) (store : σ) {operation : Operation}
    (aside : operation.isAside = true) :
    let reaction := server.perform store operation
    reaction.server.session = server.session ∧ Event.responses reaction.events = [] := by
  cases operation with
  | frame frame time =>
    obtain ⟨same, -, silent⟩ := receive_isAbort server store time aside
    exact ⟨same, silent⟩
  | abort code => exact absurd aside Bool.false_ne_true
  | upload target => exact ⟨rfl, Event.responses_ofCall _⟩
  | download target data => exact ⟨rfl, Event.responses_ofCall _⟩

end Server

end Canopen
