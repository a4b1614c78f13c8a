/-
**What a frame comes to.**

* `Move.responses`: what the client is sent by a move; a failed one sends an abort.
* `Plan.run_read`, `Plan.run_read_fault`: the move of a read that the store answers, and of one that
  it fails.
* `Server.receive_done`, `Server.receive_fail`: a frame whose plan needs no call on the store.
* `Server.Reaction.Aborted`: one abort tells the client that the transfer is over.
* `Session.interpret_of_ready`, `Session.interpret_of_brings`: a frame is decoded as a request, and
  brings its own, unless a block download is receiving.
-/

import Canopen.Proofs.Requests
import Canopen.Server

namespace Canopen

namespace Event

theorem responses_notes (notices : List Notice) : responses (notices.map note) = [] := by
  rw [responses, List.filterMap_map]
  exact List.filterMap_eq_nil_iff.mpr fun _ _ => rfl

/-- A call on a store reports nothing to the client. -/
@[simp] theorem responses_ofCall {σ α : Type} (call : Call σ α) : responses (ofCall call) = [] := by
  rw [ofCall, responses_append, responses_notes, List.nil_append, responses, List.filterMap_map]
  exact List.filterMap_eq_nil_iff.mpr fun _ _ => rfl

end Event

namespace Move

/-- What the client is sent by a move. -/
def responses (move : Move) : List Response :=
  Event.responses (Server.conclude move).2

@[simp] theorem responses_fail (session : Session) (cause : AbortCause) (notices : List Notice) :
    (fail session cause notices).responses = [.abort session.target cause.code] := by
  show Event.responses (notices.map Event.note ++ [_, .send _]) = _
  rw [Event.responses_append, Event.responses_notes]
  rfl

/-- What is done before a move does not change where it leads. -/
theorem conclude_after (move : Move) (events : List Event) :
    (Server.conclude (move.after events)).1 = (Server.conclude move).1 := by
  obtain ⟨session, later, failure⟩ := move
  cases failure <;> rfl

theorem responses_after {move : Move} {events : List Event}
    (silent : Event.responses events = []) : (move.after events).responses = move.responses := by
  obtain ⟨session, later, failure⟩ := move
  cases failure with
  | none =>
    show Event.responses (events ++ later) = Event.responses later
    rw [Event.responses_append, silent, List.nil_append]
  | some cause =>
    show Event.responses (events ++ later ++ _) = Event.responses (later ++ _)
    rw [List.append_assoc, Event.responses_append, silent, List.nil_append]
    rfl

end Move

namespace Server

variable {σ : Type} [Store σ] {server : Server} {frame : Frame}

/-- Behind a frame a server differs in its session, and in what it has noted of an abort. -/
theorem receive_server (store : σ) (time : Nat) :
    let reaction := server.receive store frame time
    reaction.server = { server with
      session := reaction.server.session
      clientAbort := server.noted (server.session.interpret frame.octets) } := rfl

/-- A frame comes to what its plan comes to. -/
theorem receive_run (store : σ) (time : Nat) {plan : Plan}
    (planned : server.session.plan (server.session.interpret frame.octets) = plan) :
    let reaction := server.receive store frame time
    reaction.server.session = (conclude (plan.run store).1).1 ∧
      reaction.store = (plan.run store).2 ∧
      Event.responses reaction.events = (plan.run store).1.responses := by
  subst planned
  exact ⟨rfl, rfl, rfl⟩

/-- A request that is met without a call on the store. -/
theorem receive_done (store : σ) (time : Nat) {session : Session} {events : List Event}
    (planned : server.session.plan (server.session.interpret frame.octets) =
      .finish (.done session events)) :
    let reaction := server.receive store frame time
    reaction.server.session = session ∧ reaction.store = store ∧
      Event.responses reaction.events = Event.responses events :=
  receive_run store time planned

/-- One abort tells the client that the transfer is over, and the session is at rest. -/
structure Reaction.Aborted (reaction : Reaction σ) (target : Target) (code : UInt32) : Prop where
  responses : Event.responses reaction.events = [.abort target code]
  session : reaction.server.session = .idle target

/-- A request that ends the transfer without a call on the store. -/
theorem receive_fail (store : σ) (time : Nat) {session : Session} {cause : AbortCause}
    {notices : List Notice}
    (planned : server.session.plan (server.session.interpret frame.octets) =
      .finish (.fail session cause notices)) :
    let reaction := server.receive store frame time
    reaction.Aborted session.target cause.code ∧ reaction.store = store := by
  obtain ⟨leads, kept, responses⟩ := receive_run store time planned
  exact ⟨⟨responses.trans (Move.responses_fail session cause notices), leads⟩, kept⟩

end Server

/-- A read that the store answers. -/
theorem Plan.run_read {σ : Type} [Store σ] {store : σ} {session : Session}
    {next : Reading → Move} {reading : Reading}
    (answered : (Store.read store session.target true).outcome = .ok reading) :
    (Server.conclude ((Plan.read session next).run store).1).1 =
        (Server.conclude (next reading)).1 ∧
      ((Plan.read session next).run store).1.responses = (next reading).responses := by
  unfold Plan.run settle
  simp only [answered]
  refine ⟨Move.conclude_after _ _, Move.responses_after ?_⟩
  rw [Event.responses_append, Event.responses_ofCall, List.append_nil]
  rfl

/-- A read that the store fails. -/
theorem Plan.run_read_fault {σ : Type} [Store σ] {store : σ} {session : Session}
    {next : Reading → Move} {fault : Fault}
    (failed : (Store.read store session.target true).outcome = .error fault) :
    (Server.conclude ((Plan.read session next).run store).1).1 = session.reset ∧
      ((Plan.read session next).run store).1.responses =
        [.abort session.target AbortCause.general.code] := by
  unfold Plan.run settle
  simp only [failed]
  refine ⟨Move.conclude_after _ _, (Move.responses_after ?_).trans (Move.responses_fail _ _ _)⟩
  rw [Event.responses_append, Event.responses_ofCall, List.append_nil]
  rfl

/-- A frame is decoded as a request unless a block download is receiving. -/
theorem Session.interpret_of_ready {session : Session} (ready : session.isReceiving = false)
    (octets : List UInt8) : session.interpret octets = Request.decode octets := by
  rw [interpret, ready, if_neg Bool.false_ne_true]

/-- A frame brings its request unless a block download is receiving. -/
theorem Session.interpret_of_brings {session : Session} {frame : Frame} {request : Request}
    (ready : session.isReceiving = false) (fits : request.Fits) (brings : frame.Brings request) :
    session.interpret frame.octets = request := by
  rw [interpret_of_ready ready]
  exact Request.decode_of_brings fits brings

end Canopen
