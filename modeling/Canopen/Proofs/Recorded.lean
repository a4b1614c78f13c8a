/-
**A store with a record of the writes it is asked for.**

* `Recorded`: a store, and every call that asked it to write, the latest last.
* `Dictionary.single`: the smallest store that has something to say.
* `Plan.writes`: the one write that a plan asks for, if it asks for any. It is always checked.
* `Server.receive_recorded`: **the record changes nothing**, and grows by what the plan asks for.
* `Plan.run_interlock`, `Plan.run_interlock_locked`: an interlock lets a plan through unchanged, or
  keeps the store behind it as it is.
* `Plan.run_write`, `Plan.run_write_fault`: the move of a write that the store answers, and of one
  that it fails.
-/

import Canopen.Proofs.Reactions
import Canopen.Store.Dictionary
import Canopen.Store.Interlock

namespace Canopen

/-- A call that asks a store to write. -/
structure WriteCall where
  target : Target
  data : List UInt8
  checked : Bool
  deriving DecidableEq, Repr

/-- A store, and the calls that asked it to write. -/
structure Recorded (σ : Type) where
  inner : σ
  writes : List WriteCall

namespace Recorded

variable {σ : Type} [Store σ]

/-- Reads an entry. -/
def read (recorded : Recorded σ) (target : Target) (checked : Bool) :
    Call (Recorded σ) Reading :=
  let call := Store.read recorded.inner target checked
  ⟨⟨call.store, recorded.writes⟩, call.outcome, call.notices, call.observed⟩

/-- Writes an entry, and records it. -/
def write (recorded : Recorded σ) (target : Target) (data : List UInt8) (checked : Bool) :
    Call (Recorded σ) Status :=
  let call := Store.write recorded.inner target data checked
  ⟨⟨call.store, recorded.writes ++ [⟨target, data, checked⟩]⟩, call.outcome, call.notices,
    call.observed⟩

instance : Store (Recorded σ) := ⟨read, write⟩

end Recorded

/-- A dictionary with one entry, which a client may read and write. -/
def Dictionary.single (target : Target) (value : List UInt8) : Dictionary :=
  ⟨[(target, string [] .readWrite value 0)], [], []⟩

namespace Plan

/-- The write that a plan asks for. -/
def writes : Plan → List WriteCall
  | .write session _ data _ => [⟨session.target, data, true⟩]
  | _ => []

/-- A call is settled by what it answers and reports, whatever its store is. -/
theorem settle_store {σ τ α : Type} (session : Session) (events : List Event) (call : Call σ α)
    (store : τ) (next : α → Move) :
    settle session events ⟨store, call.outcome, call.notices, call.observed⟩ next =
      ((settle session events call next).1, store) := by
  obtain ⟨_, outcome, _, _⟩ := call
  cases outcome <;> rfl

theorem store_settle {σ α : Type} (session : Session) (events : List Event) (call : Call σ α)
    (next : α → Move) : (settle session events call next).2 = call.store := by
  obtain ⟨_, outcome, _, _⟩ := call
  cases outcome <;> rfl

variable {σ : Type} [Store σ]

/-- **The record changes nothing** of a plan, and grows by what the plan asks for. -/
theorem run_recorded (plan : Plan) (store : σ) (writes : List WriteCall) :
    plan.run (Recorded.mk store writes) =
      ((plan.run store).1, ⟨(plan.run store).2, writes ++ plan.writes⟩) := by
  cases plan with
  | finish move =>
    show (move, Recorded.mk store writes) = (move, ⟨store, writes ++ []⟩)
    rw [List.append_nil]
  | read session next =>
    show settle _ _ (Recorded.read ⟨store, writes⟩ _ _) next =
      ((settle _ _ (Store.read store session.target true) next).1,
        ⟨(settle _ _ _ _).2, writes ++ []⟩)
    rw [store_settle, List.append_nil]
    exact settle_store ..
  | write session notices data next =>
    show settle _ _ (Recorded.write ⟨store, writes⟩ _ _ _) next =
      ((settle _ _ (Store.write store session.target data true) next).1,
        ⟨(settle _ _ _ _).2, writes ++ [_]⟩)
    rw [store_settle]
    exact settle_store ..

/-- The entry that a plan asks the store about. -/
def target? : Plan → Option Target
  | .finish _ => none
  | .read session _ | .write session _ _ _ => some session.target

/-- An interlock changes nothing of a plan about an entry that it does not stand in front of. -/
theorem run_interlock (plan : Plan) {interlock : Interlock σ}
    (passes : ∀ target, plan.target? = some target →
      interlock.reading target = none ∧ interlock.writing target = none) :
    plan.run interlock =
      ((plan.run interlock.inner).1, { interlock with inner := (plan.run interlock.inner).2 }) := by
  cases plan with
  | finish move => rfl
  | read session next =>
    have through : Store.read interlock session.target true =
        interlock.lift (Store.read interlock.inner session.target true) := by
      show Interlock.read .. = _
      rw [Interlock.read, (passes _ rfl).1]
    rw [run, run, through, store_settle]
    exact settle_store ..
  | write session notices data next =>
    have through : Store.write interlock session.target data true =
        interlock.lift (Store.write interlock.inner session.target data true) := by
      show Interlock.write .. = _
      rw [Interlock.write, (passes _ rfl).2]
    rw [run, run, through, store_settle]
    exact settle_store ..

/-- An interlock keeps the store behind it from a plan about an entry that it stands in front of. -/
theorem run_interlock_locked (plan : Plan) {interlock : Interlock σ}
    (stands : ∀ target, plan.target? = some target →
      (interlock.reading target).isSome ∧ (interlock.writing target).isSome) :
    (plan.run interlock).2 = interlock := by
  cases plan with
  | finish move => rfl
  | read session next =>
    obtain ⟨status, locked⟩ := Option.isSome_iff_exists.mp (stands _ rfl).1
    have kept : Store.read interlock session.target true =
        .quiet interlock (.ok (.statusOnly status)) := by
      show Interlock.read .. = _
      rw [Interlock.read, locked]
    rw [run, store_settle, kept]
    rfl
  | write session notices data next =>
    obtain ⟨status, locked⟩ := Option.isSome_iff_exists.mp (stands _ rfl).2
    have kept : Store.write interlock session.target data true = .quiet interlock (.ok status) := by
      show Interlock.write .. = _
      rw [Interlock.write, locked]
    rw [run, store_settle, kept]
    rfl

/-- A write that the store answers. -/
theorem run_write {store : σ} {session : Session} {notices : List Notice} {data : List UInt8}
    {next : Status → Move} {status : Status}
    (answered : (Store.write store session.target data true).outcome = .ok status) :
    (Server.conclude ((Plan.write session notices data next).run store).1).1 =
        (Server.conclude (next status)).1 ∧
      ((Plan.write session notices data next).run store).1.responses =
        (next status).responses := by
  unfold Plan.run settle
  simp only [answered]
  refine ⟨Move.conclude_after _ _, Move.responses_after ?_⟩
  rw [Event.responses_append, Event.responses_append, Event.responses_notes,
    Event.responses_ofCall]
  rfl

/-- A write that the store fails. -/
theorem run_write_fault {store : σ} {session : Session} {notices : List Notice}
    {data : List UInt8} {next : Status → Move} {fault : Fault}
    (failed : (Store.write store session.target data true).outcome = .error fault) :
    (Server.conclude ((Plan.write session notices data next).run store).1).1 = session.reset ∧
      ((Plan.write session notices data next).run store).1.responses =
        [.abort session.target AbortCause.general.code] := by
  unfold Plan.run settle
  simp only [failed]
  refine ⟨Move.conclude_after _ _, (Move.responses_after ?_).trans (Move.responses_fail _ _ _)⟩
  rw [Event.responses_append, Event.responses_append, Event.responses_notes,
    Event.responses_ofCall]
  rfl

end Plan

/-- **The record changes nothing** of what a frame comes to. -/
theorem Server.receive_recorded {σ : Type} [Store σ] (server : Server) (store : σ)
    (writes : List WriteCall) (frame : Frame) (time : Nat) :
    let reaction := server.receive store frame time
    let plan := server.session.plan (server.session.interpret frame.octets)
    server.receive (Recorded.mk store writes) frame time =
      ⟨reaction.server, ⟨reaction.store, writes ++ plan.writes⟩, reaction.events⟩ := by
  intro reaction plan
  unfold Server.receive
  simp only [Plan.run_recorded]
  rfl

end Canopen
