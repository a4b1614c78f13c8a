/-
**An opening makes the past of an endpoint irrelevant.**

A reset leaves the slots as they are. What an endpoint does behind an opening still does not depend
on them, nor on anything else that came before.

* `Effect.deeds`: what is done, the notices to the operator apart.
* `Record.Alike`: two records that differ at most in slots that hold no frame of the window.
* `Record.Represents.alike`: records of one session are alike.
* `Endpoint.run_opening`: **behind an opening an endpoint is as good as new**, whatever its past.
-/

import Canopen.Proofs.Openings
import Canopen.Proofs.Refinement

namespace Canopen

namespace Effect

/-- Something is done, rather than told to the operator. -/
def isDeed : Effect → Bool
  | note _ => false
  | read _ | write _ _ | observed _ | send _ => true

/-- What is done, in order: calls on the store, values shown, and frames. -/
def deeds (effects : List Effect) : List Effect :=
  effects.filter isDeed

theorem deeds_effects (events : List Event) :
    deeds (events.map Event.effect) = (Event.deeds events).map Event.effect := by
  have same : isDeed ∘ Event.effect = Event.isDeed := by
    funext event
    cases event <;> rfl
  rw [deeds, List.filter_map, same, Event.deeds]

end Effect

namespace Record

/-- Two records that agree in all members but the slots, and in the slots of the window. -/
structure Alike (one two : Record) : Prop where
  members : { one with pending := two.pending } = two
  slots : ∀ place < one.pendingCount.toNat, one.pending[place]? = two.pending[place]?

/-- **Records of one session are alike**, since the window decides what the slots hold. -/
theorem Represents.alike {one two : Record} {session : Session}
    (represents : one.Represents session) (also : two.Represents session) : one.Alike two := by
  obtain ⟨pending, holds, rfl⟩ := represents
  obtain ⟨kept, keeps, rfl⟩ := also
  constructor
  · rw [Session.pending_layout]
    obtain ⟨target, transfer⟩ := session
    cases transfer <;> rfl
  · intro place inside
    have count : (session.layout pending).pendingCount = UInt8.ofNat session.window.length := by
      obtain ⟨target, transfer⟩ := session
      cases transfer <;> rfl
    have within : place < session.window.length := by
      rw [count, UInt8.toNat_ofNat'] at inside
      exact Nat.lt_of_lt_of_le inside (Nat.mod_le _ _)
    have segment := List.getElem?_eq_getElem within
    rw [Session.pending_layout, Session.pending_layout, holds.getElem? segment,
      keeps.getElem? segment]

end Record

namespace Endpoint

variable {σ : Type}

/-- Two reactions in which the same is done, and which leave the same store and alike records. -/
structure Reaction.Alike (one two : Reaction σ) : Prop where
  record : one.endpoint.record.Alike two.endpoint.record
  store : one.store = two.store
  deeds : Effect.deeds one.effects = Effect.deeds two.effects

/-- Endpoints that follow servers which agree react alike. -/
theorem Reaction.Follows.alike {one two : Reaction σ} {first second : Server.Reaction σ}
    (follows : one.Follows first) (also : two.Follows second) (agrees : first.Agrees second) :
    one.Alike two where
  record := by
    have represents := also.endpoint.represents
    rw [← agrees.session] at represents
    exact follows.endpoint.represents.alike represents
  store := by rw [follows.store, also.store, agrees.store]
  deeds := by
    rw [follows.effects, also.effects, Effect.deeds_effects, Effect.deeds_effects, agrees.deeds]

/-- **Behind an opening an endpoint is as good as new.** Whatever came before, from an opening on it
does what a new endpoint does over the same store, and its record is alike after every step, as
`later` is any continuation. While a block download is receiving, this holds behind a frame that
begins with zero, which always ends that transfer. -/
theorem run_opening {τ : Type} [Store τ] [Store σ] (sendId : UInt32) (origin : τ)
    (past : List Operation) (store : σ) {opening : Frame}
    (opens : (Request.decode opening.octets).opens?.isSome = true) (time : Nat)
    (later : List Operation) :
    let reached := ((new sendId).run origin past).endpoint
    let operations := .frame opening time :: later
    let fresh := (new sendId).run store operations
    (reached.record.isReceiving = false → (reached.run store operations).Alike fresh) ∧
      (reached.record.isReceiving = true → ∀ (zero : Frame) (before : Nat),
        zero.octets.head? = some 0 →
          let stopped := reached.receive store zero before
          Effect.deeds stopped.effects =
              [.send (.ofList (0x80 :: reached.record.target.octets ++ [0x03, 0x00, 0x04, 0x05]))] ∧
            (stopped.endpoint.run stopped.store operations).Alike fresh) := by
  intro reached operations fresh
  have follows := (run_follows sendId origin past).endpoint
  have sound := Server.sound_run sendId origin past
  generalize server_eq : ((Server.new sendId).run origin past).server = server at follows sound
  have same : server.sendId = sendId := by rw [← server_eq, Server.sendId_run]; rfl
  have also : fresh.Follows ((Server.new server.sendId).run store operations) := by
    rw [same]
    exact run_follows sendId store operations
  obtain ⟨ready, receiving⟩ := server.run_agrees_of_opening store opens time later
  constructor
  · intro idle
    rw [follows.represents.isReceiving] at idle
    exact (run_follows_of_follows follows sound store operations).alike also (ready idle)
  · intro running zero before begins stopped
    rw [follows.represents.isReceiving] at running
    obtain ⟨deeds, agrees⟩ := receiving running zero before begins
    have stops := receive_follows follows sound store zero before
    have stays := Server.sound_perform server store (.frame zero before) sound
    rw [← stops.store] at agrees
    refine ⟨?_, (run_follows_of_follows stops.endpoint stays _ operations).alike also agrees⟩
    rw [stops.effects, Effect.deeds_effects, deeds, follows.represents.target]
    rfl

/-- A new upload behind a block upload whose window is still kept, and behind a block download that
is receiving. -/
theorem run_opening_upload :
    let store := Dictionary.single ⟨0x2000, 1⟩ [1, 2, 3, 4, 5]
    let operations : List Operation :=
      [.frame (Request.upload ⟨0x2000, 1⟩).frame 3, .frame (Request.uploadSegment false).frame 4]
    let uploading := [.frame (Request.blockUpload ⟨0x2000, 1⟩ true 1).frame 1,
      .frame Request.blockUploadStart.frame 2]
    let receiving := [.frame (Request.blockDownload ⟨0x1018, 4⟩ true (some 9)).frame 1]
    let fresh := (new 0x582).run store operations
    let kept := ((new 0x582).run store uploading).endpoint
    let reached := ((new 0x582).run store receiving).endpoint
    let stopped := reached.receive store ⟨0x602, 1, .ofList [0]⟩ 2
    kept.record.pending[0]? = some (.ofList [0x81, 1, 2, 3, 4, 5]) ∧
      (kept.run store operations).Alike fresh ∧
      (stopped.endpoint.run stopped.store operations).Alike fresh := by
  intro store operations uploading receiving fresh kept reached stopped
  have opens : (Request.decode (Request.upload ⟨0x2000, 1⟩).frame.octets).opens?.isSome = true := by
    decide
  refine ⟨by decide +kernel, ?_, ?_⟩
  · exact (run_opening 0x582 store uploading store opens 3 _).1 (by decide +kernel)
  · exact ((run_opening 0x582 store receiving store opens 3 _).2 (by decide +kernel)
      ⟨0x602, 1, .ofList [0]⟩ 2 rfl).2

end Endpoint

end Canopen
