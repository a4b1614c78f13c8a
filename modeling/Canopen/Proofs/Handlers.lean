/-
**Handlers against plans.**

* `Desk.Meets`: a desk is left as a move and its store leave it.
* `Handler.Meets`: at the end of a request a handler leaves its desk as a plan leaves it, over every
  store.
* `Handler.meets_done`, `Handler.meets_refuse`: a handler that ends, and one that stops early.
* `Handler.meets_assign`, `Handler.meets_notes`, `Handler.meets_send`: one thing before the rest of
  a handler.
* `Handler.meets_settle`: a call on the store before the rest of a handler.
* `Handler.meets_readValue`, `Handler.meets_writeChecked`: a read of a value, and a checked write.
* `Handler.meets_supersede`: an opening, whatever the record was before.
-/

import Canopen.Proofs.Encodings
import Canopen.Proofs.Figures
import Canopen.Proofs.Layout
import Canopen.Proofs.Reactions

namespace Canopen

/-- What is done before a move comes first in the end. -/
theorem Move.conclude_after_events (move : Move) (events : List Event) :
    (Server.conclude (move.after events)).2 = events ++ (Server.conclude move).2 := by
  obtain ⟨session, later, failure⟩ := move
  cases failure with
  | none => rfl
  | some cause => exact List.append_assoc events later _

/-- The desk is left as a move and its store leave it, with the same done behind `effects`. -/
def Desk.Meets {σ : Type} (left : Desk σ) (clientAbort : UInt32) (effects : List Effect)
    (outcome : Move × σ) : Prop :=
  let concluded := Server.conclude outcome.1
  left.record.Represents concluded.1 ∧
    left = ⟨left.record, outcome.2, clientAbort, effects ++ concluded.2.map Event.effect⟩

theorem Desk.meets_after {σ : Type} {left : Desk σ} {clientAbort : UInt32}
    {effects : List Effect} {events : List Event} {move : Move} {store : σ}
    (meets : left.Meets clientAbort (effects ++ events.map Event.effect) (move, store)) :
    left.Meets clientAbort effects (move.after events, store) := by
  simp only [Desk.Meets, Move.conclude_after, Move.conclude_after_events, List.map_append,
    ← List.append_assoc]
  exact meets

namespace Handler

variable {σ : Type} [Store σ]

/-- At the end of a request the handler leaves its desk as the plan leaves it, over every store. -/
def Meets (handler : Handler σ Unit) (record : Record) (plan : Plan) : Prop :=
  ∀ (store : σ) (clientAbort : UInt32) (effects : List Effect),
    (handler.settle.work ⟨record, store, clientAbort, effects⟩).2.Meets clientAbort effects
      (plan.run store)

variable {handler : Handler σ Unit} {record : Record} {session : Session}

/-- A handler that ends, on a record of the session. -/
theorem meets_done (represents : record.Represents session) :
    Meets (σ := σ) (pure ()) record (.finish (.done session [])) := by
  intro store clientAbort effects
  refine ⟨represents, ?_⟩
  show _ = Desk.mk _ _ _ (effects ++ [])
  rw [List.append_nil]
  rfl

/-- A handler that stops early. What it has changed of the record does not matter, as long as the
client is told of the right target. -/
theorem meets_refuse (cause : AbortCause) (target : record.target = session.target)
    (mode : record.mode = session.mode) :
    Meets (σ := σ) (refuse cause) record (.finish (.fail session cause [])) := by
  intro store clientAbort effects
  constructor
  · have represents := record.represents_reset
    rw [target] at represents
    exact represents
  · show Desk.mk _ _ _ _ = Desk.mk _ _ _ _
    congr 1
    show effects ++ [.note (.aborting record.target record.mode cause.code)] ++ [_] = _
    rw [target, mode, List.append_assoc]
    rfl

theorem meets_record {next : Record → Handler σ Unit} {plan : Plan}
    (meets : Meets (next record) record plan) :
    Meets (Handler.record >>= next) record plan := meets

theorem meets_assign {change : Record → Record} {plan : Plan}
    (meets : Meets handler (change record) plan) :
    Meets (assign change >>= fun _ => handler) record plan := meets

/-- A change of the record at the end of a handler. -/
theorem meets_assign_done {change : Record → Record}
    (represents : (change record).Represents session) :
    Meets (σ := σ) (assign change) record (.finish (.done session [])) :=
  meets_assign (meets_done represents)

/-- Something done before the rest of a handler. -/
theorem meets_tell {plan before : Plan} (events : List Event)
    (same : ∀ store : σ, before.run store = ((plan.run store).1.after events, (plan.run store).2))
    (meets : Meets handler record plan) :
    Meets (tell (events.map Event.effect) >>= fun _ => handler) record before := by
  intro store clientAbort effects
  rw [same]
  exact Desk.meets_after (meets store clientAbort (effects ++ events.map Event.effect))

section Finish

variable {events : List Event} {failure : Option AbortCause}

theorem meets_notes {notices : List Notice}
    (meets : Meets handler record (.finish ⟨session, events, failure⟩)) :
    Meets (notes notices >>= fun _ => handler) record
      (.finish ⟨session, notices.map Event.note ++ events, failure⟩) := by
  rw [notes, show (notices.map Effect.note) = (notices.map Event.note).map Event.effect by
    rw [List.map_map]; rfl]
  exact meets_tell _ (fun _ => rfl) meets

theorem meets_note {notice : Notice}
    (meets : Meets handler record (.finish ⟨session, events, failure⟩)) :
    Meets (note notice >>= fun _ => handler) record
      (.finish ⟨session, .note notice :: events, failure⟩) :=
  meets_notes meets

theorem meets_notes_fail {cause : AbortCause} {notices later : List Notice}
    (meets : Meets handler record (.finish (.fail session cause later))) :
    Meets (notes notices >>= fun _ => handler) record
      (.finish (.fail session cause (notices ++ later))) := by
  rw [Move.fail, List.map_append]
  exact meets_notes meets

theorem meets_send {payload : Payload} {response : Response} (octets : payload = response.encode)
    (meets : Meets handler record (.finish ⟨session, events, failure⟩)) :
    Meets (send payload >>= fun _ => handler) record
      (.finish ⟨session, .send response :: events, failure⟩) := by
  subst octets
  exact meets_tell [.send response] (fun _ => rfl) meets

end Finish

/-- Reports before a write of a handler. -/
theorem meets_notes_write {notices later all : List Notice} {data : List UInt8}
    {next : Status → Move} (split : all = notices ++ later)
    (meets : Meets handler record (.write session later data next)) :
    Meets (notes notices >>= fun _ => handler) record (.write session all data next) := by
  rw [split, notes, show (notices.map Effect.note) = (notices.map Event.note).map Event.effect by
    rw [List.map_map]; rfl]
  refine meets_tell _ (fun store => ?_) meets
  simp only [Plan.run, Plan.settle, List.map_append, List.append_assoc]
  split <;> simp only [Move.after, List.append_assoc]

/-- A call on the store before the rest of a handler, if the rest meets every answer. -/
theorem meets_settle {α : Type} {call : σ → Call σ α} {asked : Event} {rest : α → Handler σ Unit}
    {next : α → Move} {plan : Plan}
    (run : ∀ store, plan.run store = Plan.settle session [asked] (call store) next)
    (target : record.target = session.target) (mode : record.mode = session.mode)
    (meets : ∀ answer, Meets (rest answer) record (.finish (next answer))) :
    Meets (callStore asked.effect call >>= rest) record plan := by
  intro store clientAbort effects
  have once : (callStore asked.effect call >>= rest).settle.work
      ⟨record, store, clientAbort, effects⟩ =
    (callStore asked.effect (fun _ => call store) >>= rest).settle.work
      ⟨record, store, clientAbort, effects⟩ := rfl
  rw [run, once]
  generalize call store = answered
  obtain ⟨after, outcome, notices, seen⟩ := answered
  cases outcome with
  | ok answer => exact Desk.meets_after (meets answer after clientAbort _)
  | error fault =>
    have stopped : Meets (note (.storeFailed record.mode record.target fault.reason?) >>= fun _ =>
        refuse .general) record (.finish (.fail session .general
          [.storeFailed record.mode record.target fault.reason?])) :=
      meets_note (σ := σ) (meets_refuse .general target mode)
    refine Desk.meets_after ?_
    rw [← mode, ← target]
    exact stopped after clientAbort _

/-- A stop leaves the rest of a handler out. -/
theorem refuse_bind {σ α β : Type} (cause : AbortCause) (rest : α → Handler σ β) :
    refuse cause >>= rest = refuse cause := rfl

section Calls

variable (target : record.target = session.target) (mode : record.mode = session.mode)

include target mode

theorem meets_readStore {rest : Reading → Handler σ Unit} {next : Reading → Move}
    (meets : ∀ reading, Meets (rest reading) record (.finish (next reading))) :
    Meets (readStore >>= rest) record (.read session next) := by
  have run (store : σ) : (Plan.read session next).run store =
      Plan.settle session [.read record.target] (Store.read store record.target true) next := by
    rw [target]
    rfl
  have called := meets_settle run target mode meets
  rw [readStore, bind_assoc]
  exact meets_record called

theorem meets_writeStore {rest : Status → Handler σ Unit} {data : List UInt8} {next : Status → Move}
    (meets : ∀ status, Meets (rest status) record (.finish (next status))) :
    Meets (writeStore data >>= rest) record (.write session [] data next) := by
  have run (store : σ) : (Plan.write session [] data next).run store =
      Plan.settle session [.write record.target data] (Store.write store record.target data true)
        next := by
    rw [target]
    rfl
  have called := meets_settle run target mode meets
  rw [writeStore, bind_assoc]
  exact meets_record called

/-- A read of a value before the rest of a handler, which is met for every value with an octet. -/
theorem meets_readValue {rest : List UInt8 → Handler σ Unit} {next : List UInt8 → Move}
    (meets : ∀ value ≠ [], Meets (rest value) record (.finish (next value))) :
    Meets (readValue >>= rest) record
      (.read session fun reading => session.afterRead reading next) := by
  rw [readValue, readChecked]
  simp only [bind_assoc]
  refine meets_readStore target mode fun reading => ?_
  unfold Session.afterRead
  cases reading.status.abortCause? with
  | some cause =>
    simp only [bind_assoc, refuse_bind]
    refine meets_record ?_
    rw [target]
    exact meets_note (meets_refuse cause target mode)
  | none =>
    simp only [pure_bind]
    split
    · simp only [bind_assoc, refuse_bind]
      refine meets_record ?_
      rw [target]
      exact meets_note (meets_refuse .noData target mode)
    · next nonempty => exact meets _ nonempty

/-- A checked write before the rest of a handler, which is met if the store accepts it. -/
theorem meets_writeChecked {rest : Handler σ Unit} {data : List UInt8} {next : Status → Move}
    (refused : ∀ status cause, status.abortCause? = some cause →
      next status = .fail session cause [.writeRefused session.target data.length status])
    (accepted : ∀ status, status.abortCause? = none → Meets rest record (.finish (next status))) :
    Meets (writeChecked data >>= fun _ => rest) record (.write session [] data next) := by
  rw [writeChecked, bind_assoc]
  refine meets_writeStore target mode fun status => ?_
  cases outcome : status.abortCause? with
  | some cause =>
    simp only [bind_assoc, refuse_bind, refused status cause outcome]
    refine meets_record ?_
    rw [target]
    exact meets_note (meets_refuse cause target mode)
  | none => exact accepted status outcome

end Calls

/-- Behind an opening the record is as new, but for its target and its slots. -/
theorem meets_supersede {target : Target} {plan : Plan}
    (meets : ∀ pending : Slots, Meets handler { target := target, pending := pending } plan) :
    Meets (supersede target >>= fun _ => handler) record plan :=
  meets record.pending

theorem represents_idle (target : Target) (pending : Slots) :
    Record.Represents { target := target, pending := pending } (.idle target) :=
  ⟨pending, pending.hold_nil, rfl⟩

end Handler

end Canopen
