/-
**An opening makes the past irrelevant.**

* `Request.opens?`: the entry that a request opens a transfer of.
* `Event.deeds`: what is done, the notices to the operator apart.
* `Server.run_congr`: a server does what its session tells, and nothing else of its past.
* `Server.receive_opening`: from an opening on, two servers have the same session.
* `Server.receive_zero`: a frame that begins with zero ends a block download that is receiving.
* `Server.run_agrees_of_opening`: **behind an opening a server is as good as new**.
-/

import Canopen.Proofs.Recorded
import Canopen.Proofs.Runs

namespace Canopen

/-- The entry that a request opens a transfer of. -/
def Request.opens? : Request → Option Target
  | upload target | expedited target _ | download target _ | blockUpload target _ _
  | blockDownload target _ _ => some target
  | _ => none

namespace Event

/-- Something is done, rather than told to the operator. -/
def isDeed : Event → Bool
  | note _ => false
  | read _ | write _ _ | observed _ | send _ => true

/-- What is done, in order: calls on the store, values shown, and responses. -/
def deeds (events : List Event) : List Event :=
  events.filter isDeed

theorem deeds_append (first second : List Event) :
    deeds (first ++ second) = deeds first ++ deeds second :=
  List.filter_append _ _

/-- A response is something that is done. -/
theorem responses_deeds (events : List Event) : responses (deeds events) = responses events := by
  rw [responses, deeds, List.filterMap_filter]
  congr 1
  funext event
  cases event <;> rfl

end Event

namespace Session

/-- What an opening comes to does not depend on the session. -/
theorem plan_opening {request : Request} (opens : request.opens?.isSome = true)
    (one two : Session) : one.plan request = two.plan request := by
  cases request with
  | upload target => rfl
  | expedited target data => rfl
  | download target declared => rfl
  | blockUpload target checksummed blockSize => rfl
  | blockDownload target checksummed declared => rfl
  | _ => exact absurd opens Bool.false_ne_true

/-- While receiving, a segment with number zero is never expected. -/
theorem blockSegment_zero {session : Session} (receiving : session.isReceiving = true)
    {segment : Segment} (zero : segment.number = 0) :
    ∃ notices, session.blockSegment segment = .fail session .invalidSequence notices := by
  obtain ⟨target, download, rfl⟩ := blockDownload_of_isReceiving receiving
  have other : segment.number ≠ download.sequence + 1 := by
    rw [zero]
    exact Nat.ne_of_lt (Nat.succ_pos _)
  exact ⟨_, if_pos other⟩

end Session

namespace Server

/-- Two reactions in which the same is done, and which leave the same session and store. -/
structure Reaction.Agrees {σ : Type} (one two : Reaction σ) : Prop where
  session : one.server.session = two.server.session
  store : one.store = two.store
  deeds : Event.deeds one.events = Event.deeds two.events

variable {σ : Type} [Store σ]

/-- A server does what its session tells, and nothing else of its past. -/
theorem perform_congr {one two : Server} (same : one.session = two.session) (store : σ)
    (operation : Operation) :
    (one.perform store operation).Agrees (two.perform store operation) := by
  obtain ⟨_, session, _⟩ := one
  obtain ⟨_, other, _⟩ := two
  obtain rfl : session = other := same
  cases operation <;> exact ⟨rfl, rfl, rfl⟩

theorem run_cons_agrees {one two : Server} {store : σ} {operation : Operation}
    {later : List Operation}
    (first : (one.perform store operation).Agrees (two.perform store operation))
    (rest : Reaction.Agrees
      ((one.perform store operation).server.run (one.perform store operation).store later)
      ((two.perform store operation).server.run (two.perform store operation).store later)) :
    (one.run store (operation :: later)).Agrees (two.run store (operation :: later)) := by
  refine ⟨rest.session, rest.store, ?_⟩
  show Event.deeds (_ ++ _) = Event.deeds (_ ++ _)
  rw [Event.deeds_append, Event.deeds_append, first.deeds, rest.deeds]

theorem run_congr {one two : Server} (same : one.session = two.session) (store : σ)
    (operations : List Operation) :
    (one.run store operations).Agrees (two.run store operations) := by
  induction operations generalizing one two store with
  | nil => exact ⟨same, rfl, rfl⟩
  | cons operation later ih =>
    have first := perform_congr same store operation
    have rest := ih first.session (one.perform store operation).store
    refine run_cons_agrees first ?_
    rw [← first.store]
    exact rest

/-- Two frames that come to one plan agree. -/
theorem receive_agrees {one two : Server} {frame other : Frame}
    (plans : one.session.plan (one.session.interpret frame.octets) =
      two.session.plan (two.session.interpret other.octets)) (store : σ) (time moment : Nat) :
    (one.receive store frame time).Agrees (two.receive store other moment) := by
  refine ⟨?_, ?_, ?_⟩
  · simp only [receive, plans]
  · simp only [receive, plans]
  · simp only [receive, plans]
    rfl

/-- **From an opening on, two servers have the same session.** -/
theorem receive_opening {one two : Server} (ready : one.session.isReceiving = false)
    (also : two.session.isReceiving = false) {opening : Frame}
    (opens : (Request.decode opening.octets).opens?.isSome = true) (store : σ) (time : Nat) :
    (one.receive store opening time).Agrees (two.receive store opening time) := by
  refine receive_agrees ?_ store time time
  rw [Session.interpret, Session.interpret, ready, also, if_neg Bool.false_ne_true,
    Session.plan_opening opens one.session two.session]

/-- A frame that begins with zero ends a block download that is receiving. -/
theorem receive_zero {server : Server} (receiving : server.session.isReceiving = true)
    {frame : Frame} (zero : frame.octets.head? = some 0) (store : σ) (time : Nat) :
    let reaction := server.receive store frame time
    reaction.server.session = server.session.reset ∧ reaction.store = store ∧
      Event.deeds reaction.events = [.send (.abort server.session.target 0x05040003)] := by
  obtain ⟨rest, octets⟩ := List.head?_eq_some_iff.mp zero
  have number : (Segment.decode (.ofList frame.octets)).number = 0 := by
    rw [octets]
    exact show field 0 0 7 = 0 by decide
  have read : server.session.interpret frame.octets =
      .blockSegment (Segment.decode (.ofList frame.octets)) := by
    rw [Session.interpret, receiving, if_pos rfl, octets]
    rfl
  obtain ⟨notices, refused⟩ := Session.blockSegment_zero receiving number
  have silent : Event.deeds (notices.map Event.note) = [] := by
    rw [Event.deeds, List.filter_map]
    exact List.map_eq_nil_iff.mpr (List.filter_eq_nil_iff.mpr fun _ _ => Bool.false_ne_true)
  unfold receive
  simp only [read, Session.plan, refused, Plan.run, conclude, Move.fail]
  refine ⟨trivial, trivial, ?_⟩
  show Event.deeds (notices.map Event.note ++ _) = _
  rw [Event.deeds_append, silent]
  rfl

/-- **Behind an opening a server is as good as new.** Whatever came before, from an opening on it
does what a new server does over the same store, and has the same session after every step, as
`later` is any continuation. While a block download is receiving, this holds behind a frame that
begins with zero, which always ends that transfer. -/
theorem run_agrees_of_opening (server : Server) (store : σ) {opening : Frame}
    (opens : (Request.decode opening.octets).opens?.isSome = true) (time : Nat)
    (later : List Operation) :
    let operations := .frame opening time :: later
    let fresh := new server.sendId
    (server.session.isReceiving = false →
        (server.run store operations).Agrees (fresh.run store operations)) ∧
      (server.session.isReceiving = true → ∀ (zero : Frame) (before : Nat),
        zero.octets.head? = some 0 →
          let stopped := server.receive store zero before
          Event.deeds stopped.events = [.send (.abort server.session.target 0x05040003)] ∧
            (stopped.server.run stopped.store operations).Agrees (fresh.run store operations)) := by
  intro operations fresh
  have behind {reached : Server} (ready : reached.session.isReceiving = false) :
      (reached.run store operations).Agrees (fresh.run store operations) := by
    have first : (reached.perform store (.frame opening time)).Agrees
        (fresh.perform store (.frame opening time)) :=
      receive_opening ready (show fresh.session.isReceiving = false from rfl) opens store time
    refine run_cons_agrees first ?_
    rw [← first.store]
    exact run_congr first.session _ later
  refine ⟨behind, ?_⟩
  intro receiving zero before begins stopped
  obtain ⟨atRest, kept, deeds⟩ := receive_zero receiving begins store before
  refine ⟨deeds, ?_⟩
  rw [show stopped.store = store from kept]
  refine behind ?_
  rw [show stopped.server.session = _ from atRest]
  rfl

end Server

end Canopen
