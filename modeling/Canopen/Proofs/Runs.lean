/-
**Whole runs of a server.**

* `Operation`: what can be done to a server from outside.
* `Server.perform`, `Server.run`: one operation, and several in order.
* `Server.run_append`: operations behind others begin where those have led.
* `Server.receiveAll`: several frames in order.
* `Plan.Leaves`: whatever the store answers, a plan that does not fail leaves a session with a
  property.
* `Server.receive_leaves`: a frame leaves such a session, if sessions at rest have the property.
* `Server.run_keeps`: what every operation keeps, a run keeps.
-/

import Canopen.Server

namespace Canopen

/-- What can be done to a server from outside. -/
inductive Operation
  /-- A frame comes from the client at a time. -/
  | frame (frame : Frame) (time : Nat)
  /-- The transfer is ended on this side. -/
  | abort (code : UInt32)
  /-- An entry is read locally. -/
  | upload (target : Target)
  /-- An entry is written locally. -/
  | download (target : Target) (data : List UInt8)
  deriving DecidableEq, Repr

/-! ### What a plan leaves -/

section Leaves

variable {holds : Session → Prop}

/-- A move that does not fail leaves a session with the property. -/
def Move.Leaves (holds : Session → Prop) (move : Move) : Prop :=
  move.failure = none → holds move.session

/-- Whatever the store answers, the plan leaves a session with the property unless it fails. -/
def Plan.Leaves (holds : Session → Prop) : Plan → Prop
  | .finish move => move.Leaves holds
  | .read _ next => ∀ reading, (next reading).Leaves holds
  | .write _ _ _ next => ∀ status, (next status).Leaves holds

namespace Move

@[simp] theorem leaves_done {session : Session} {events : List Event} :
    (done session events).Leaves holds ↔ holds session := by
  simp only [Leaves, done, true_implies]

@[simp] theorem leaves_fail {session : Session} {cause : AbortCause} {notices : List Notice} :
    (fail session cause notices).Leaves holds := by
  intro unfailing
  exact absurd unfailing (by simp only [fail, reduceCtorEq, not_false_eq_true])

@[simp] theorem leaves_after {move : Move} {events : List Event} :
    (move.after events).Leaves holds ↔ move.Leaves holds := Iff.rfl

/-- Sessions at rest apart, a move is concluded as it leaves its session. -/
theorem leaves_conclude {move : Move} (atRest : ∀ target, holds (.idle target))
    (leaves : move.Leaves holds) : holds (Server.conclude move).1 := by
  unfold Server.conclude
  cases failure : move.failure with
  | none => exact leaves failure
  | some cause => exact atRest _

end Move

/-- An upload is refused, or goes on with a value that is not empty. -/
theorem Session.leaves_afterRead {session : Session} {reading : Reading}
    {next : List UInt8 → Move} (leaves : ∀ value ≠ [], (next value).Leaves holds) :
    (session.afterRead reading next).Leaves holds := by
  unfold Session.afterRead
  cases reading.status.abortCause? with
  | some cause => exact Move.leaves_fail
  | none =>
    by_cases empty : reading.into [] = []
    · simp only [if_pos empty, Move.leaves_fail]
    · simp only [if_neg empty]
      exact leaves _ empty

namespace Plan

theorem leaves_mono {holds weaker : Session → Prop}
    (weaken : ∀ session, holds session → weaker session) {plan : Plan}
    (leaves : plan.Leaves holds) : plan.Leaves weaker := by
  cases plan with
  | finish move => exact fun unfailing => weaken _ (leaves unfailing)
  | read session next => exact fun reading unfailing => weaken _ (leaves reading unfailing)
  | write session notices data next =>
    exact fun status unfailing => weaken _ (leaves status unfailing)

theorem leaves_settle {σ α : Type} {session : Session} {events : List Event} {call : Call σ α}
    {next : α → Move} (leaves : ∀ answer, (next answer).Leaves holds) :
    (settle session events call next).1.Leaves holds := by
  unfold settle
  split
  · exact Move.leaves_after.mpr (leaves _)
  · exact Move.leaves_after.mpr Move.leaves_fail

/-- A plan run over a store leaves what it leaves over every answer. -/
theorem leaves_run {σ : Type} [Store σ] {plan : Plan} (leaves : plan.Leaves holds) (store : σ) :
    (plan.run store).1.Leaves holds := by
  cases plan with
  | finish move => exact leaves
  | read session next => exact leaves_settle leaves
  | write session notices data next => exact leaves_settle leaves

end Plan

end Leaves

namespace Server

variable {σ : Type} [Store σ]

/-- **What a frame leaves**: the session that its plan leaves, or one at rest. -/
theorem receive_leaves {holds : Session → Prop} {server : Server} {frame : Frame}
    (atRest : ∀ target, holds (.idle target))
    (leaves : (server.session.plan (server.session.interpret frame.octets)).Leaves holds)
    (store : σ) (time : Nat) : holds (server.receive store frame time).server.session :=
  Move.leaves_conclude atRest (Plan.leaves_run leaves store)

/-! ### Runs -/

/-- One operation. -/
def perform (server : Server) (store : σ) : Operation → Reaction σ
  | .frame frame time => server.receive store frame time
  | .abort code => ⟨(server.abort code).1, store, (server.abort code).2⟩
  | .upload target =>
    let call := upload store target
    ⟨server, call.store, Event.ofCall call⟩
  | .download target data =>
    let call := download store target data
    ⟨server, call.store, Event.ofCall call⟩

/-- Several operations in order. -/
def run (server : Server) (store : σ) : List Operation → Reaction σ
  | [] => ⟨server, store, []⟩
  | operation :: later =>
    let first := server.perform store operation
    let rest := run first.server first.store later
    { rest with events := first.events ++ rest.events }

/-- One operation alone. -/
theorem run_singleton (server : Server) (store : σ) (operation : Operation) :
    server.run store [operation] = server.perform store operation :=
  congrArg (Reaction.mk _ _) (List.append_nil _)

/-- Operations behind others begin where those have led. -/
theorem run_append (server : Server) (store : σ) (first second : List Operation) :
    let reached := server.run store first
    let rest := reached.server.run reached.store second
    server.run store (first ++ second) = { rest with events := reached.events ++ rest.events } := by
  induction first generalizing server store with
  | nil => rfl
  | cons operation later ih =>
    have rest := ih (server.perform store operation).server (server.perform store operation).store
    intro reached ended
    rw [List.cons_append, run, rest]
    exact congrArg (Reaction.mk _ _) (List.append_assoc _ _ _).symm

/-- Handles frames in order, each with the time at which it comes. -/
def receiveAll (server : Server) (store : σ) (frames : List (Frame × Nat)) : Reaction σ :=
  server.run store (frames.map fun received => .frame received.1 received.2)

theorem receiveAll_cons (server : Server) (store : σ) (frame : Frame) (time : Nat)
    (later : List (Frame × Nat)) :
    server.receiveAll store ((frame, time) :: later) =
      let first := server.receive store frame time
      let rest := first.server.receiveAll first.store later
      { rest with events := first.events ++ rest.events } := rfl

/-- Frames behind others find the server where those have left it. -/
theorem receiveAll_append (server : Server) (store : σ) (first second : List (Frame × Nat)) :
    let reached := server.receiveAll store first
    let rest := reached.server.receiveAll reached.store second
    server.receiveAll store (first ++ second) =
      { rest with events := reached.events ++ rest.events } := by
  intro reached rest
  show server.run store (List.map _ (first ++ second)) = _
  rw [List.map_append]
  exact server.run_append store _ _

theorem sendId_run (server : Server) (store : σ) (operations : List Operation) :
    (server.run store operations).server.sendId = server.sendId := by
  induction operations generalizing server store with
  | nil => rfl
  | cons operation later ih =>
    refine (ih _ _).trans ?_
    cases operation <;> rfl

/-- **What every operation keeps, a run keeps.** -/
theorem run_keeps {holds : Session → Prop}
    (step : ∀ (server : Server) (store : σ) (operation : Operation), holds server.session →
      holds (server.perform store operation).server.session)
    {server : Server} (first : holds server.session) (store : σ) (operations : List Operation) :
    holds (server.run store operations).server.session := by
  induction operations generalizing server store with
  | nil => exact first
  | cons operation later ih => exact ih (step server store operation first) _

end Server

end Canopen
