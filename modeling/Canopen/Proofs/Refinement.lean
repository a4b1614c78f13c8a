/-
**An endpoint does what a server does.**

An endpoint keeps one record, which its handlers assign member by member, and a server keeps of each
transfer only what that transfer is made of. A handler asks of the record that it represents a sound
session, and leaves one that represents the next session. A handler that stops early leaves a record
that represents none; the abort which it leads to resets it, so all that counts there is the target.

* `Handler.handle_meets`, `Handler.dispatch_meets`: what is done about a request leaves the record
  as the plan of the request leaves the session.
* `Endpoint.Follows`: an endpoint stands where a server stands.
* `Endpoint.Reaction.Follows`: it does what the server does, and so it sends the same frames, reports
  the same to the operator and shows the same values.
* `Endpoint.receive_follows`, `Endpoint.perform_follows`: **one frame, and one operation, take both
  on**, with the same done.
* `Endpoint.run_follows`: **a new endpoint follows a new server through every run**, over any store.
-/

import Canopen.Proofs.BlockDownloads
import Canopen.Proofs.BlockUploads
import Canopen.Proofs.SegmentTransfers

namespace Canopen

/-- Nothing is noted of a request other than an abort. -/
theorem Server.noted_of_ne {server : Server} {request : Request}
    (going : ∀ target code, request ≠ .aborted target code) :
    server.noted request = server.clientAbort := by
  cases request with
  | aborted target code => exact absurd rfl (going target code)
  | _ => rfl

namespace Handler

variable {σ : Type} [Store σ] {record : Record} {session : Session}

/-- What is done about a request other than an abort. Segments of a block download come only while
it is receiving. -/
theorem handle_meets (represents : record.Represents session) (sound : session.Sound)
    {request : Request} (going : ∀ target code, request ≠ .aborted target code)
    (timely : ∀ segment, request = .blockSegment segment → session.isReceiving = true) :
    Meets (σ := σ) (handle request) record (session.plan request) := by
  have stops (cause : AbortCause) :
      Meets (σ := σ) (refuse cause) record (.finish (.fail session cause [])) :=
    meets_refuse cause represents.target represents.mode
  cases request with
  | empty => exact stops .invalidCommand
  | upload target => exact initUpload_meets record target
  | uploadSegment toggle => exact segmentedUpload_meets represents sound toggle
  | expedited target data => exact initExpedited_meets record target data
  | download target declared => exact initDownload_meets record target declared
  | downloadSegment toggle data last => exact segmentedDownload_meets represents toggle data last
  | aborted target code => exact absurd rfl (going target code)
  | blockUpload target checksummed blockSize =>
    exact initBlockUpload_meets record target checksummed blockSize
  | blockUploadStart => exact startBlockUpload_meets represents sound
  | blockUploadAck count blockSize => exact blockUploadAck_meets represents sound count blockSize
  | blockUploadEnd => exact blockUploadEnd_meets represents
  | blockDownload target checksummed declared =>
    exact initBlockDownload_meets record target checksummed declared
  | blockSegment segment =>
    exact blockDownloadSegment_meets represents sound (timely segment rfl) segment
  | blockDownloadEnd padding checksum => exact endBlockDownload_meets represents padding checksum
  | unknown command => exact meets_note (stops .invalidCommand)

/-- **What is done about the octets of a frame.** An abort is noted, whatever the transfer. -/
theorem dispatch_meets (represents : record.Represents session) (sound : session.Sound)
    (octets : List UInt8) (sendId : UInt32) (store : σ) (clientAbort : UInt32)
    (effects : List Effect) :
    let request := session.interpret octets
    let left := ((dispatch octets).settle.work ⟨record, store, clientAbort, effects⟩).2
    left.Meets (Server.noted ⟨sendId, session, clientAbort⟩ request) effects
      ((session.plan request).run store) := by
  intro request
  have dispatched : (dispatch octets : Handler σ Unit).settle.work
        ⟨record, store, clientAbort, effects⟩ =
      (handle request).settle.work ⟨record, store, clientAbort, effects⟩ := by
    show ((if record.isReceiving then handle (Request.decodeSegment octets)
      else handle (Request.decode octets) : Handler σ Unit).settle).work _ = _
    rw [represents.isReceiving, ← apply_ite handle]
    rfl
  simp only [dispatched]
  by_cases aborts : ∃ target code, request = .aborted target code
  · obtain ⟨target, code, read⟩ := aborts
    have noted : Meets (σ := σ) (note (.abortedByClient target code) >>= fun _ => pure ()) record
        (.finish (.done session [.note (.abortedByClient target code)])) :=
      meets_note (meets_done represents)
    rw [read]
    exact noted store code effects
  · have going : ∀ target code, request ≠ .aborted target code :=
      fun target code read => aborts ⟨target, code, read⟩
    rw [Server.noted_of_ne going]
    exact handle_meets represents sound going
      (fun segment read => (Session.blockSegment_of_interpret read).1) store clientAbort effects

end Handler

namespace Endpoint

/-- The endpoint stands where the server stands. -/
structure Follows (endpoint : Endpoint) (server : Server) : Prop where
  sendId : endpoint.sendId = server.sendId
  represents : endpoint.record.Represents server.session
  clientAbort : endpoint.clientAbort = server.clientAbort

theorem new_follows (sendId : UInt32) : (new sendId).Follows (.new sendId) :=
  ⟨rfl, Record.represents_new, rfl⟩

/-- A reaction in which the same is done, octet by octet, and which leads to the same place. -/
structure Reaction.Follows {σ : Type} (reaction : Reaction σ) (other : Server.Reaction σ) :
    Prop where
  endpoint : reaction.endpoint.Follows other.server
  store : reaction.store = other.store
  effects : reaction.effects = other.events.map Event.effect

namespace Reaction.Follows

variable {σ : Type} {reaction : Reaction σ} {other : Server.Reaction σ}
  (follows : reaction.Follows other)

include follows

/-- A link is given the same frames. -/
theorem frames : reaction.endpoint.frames reaction.effects = other.server.frames other.events := by
  rw [follows.effects, Endpoint.frames, Server.frames, Event.responses, List.filterMap_map,
    List.map_filterMap]
  congr 1
  funext event
  cases event with
  | send response =>
    exact congrArg (fun id => some (Frame.full id response.encode)) follows.endpoint.sendId
  | _ => rfl

/-- The operator is told the same. -/
theorem reports (link : Text) (taken : Bool) :
    reaction.endpoint.reports link taken reaction.effects =
      other.server.reports link taken other.events := by
  rw [follows.effects, Endpoint.reports, Server.reports, List.flatMap_map]
  congr 1
  funext event
  cases event with
  | send response =>
    show Notice.responding response.encode :: (if taken then [] else [_]) = _
    rw [follows.endpoint.sendId]
    rfl
  | _ => rfl

/-- Observers see the same. -/
theorem sightings : Effect.sightings reaction.effects = Event.sightings other.events := by
  rw [follows.effects, Effect.sightings, Event.sightings, List.filterMap_map]
  congr 1
  funext event
  cases event <;> rfl

end Reaction.Follows

section Run

variable {σ : Type} [Store σ]

/-- One operation. -/
def perform (endpoint : Endpoint) (store : σ) : Operation → Reaction σ
  | .frame frame time => endpoint.receive store frame time
  | .abort code => endpoint.abort store code
  | .upload target =>
    let call := Server.upload store target
    ⟨endpoint, call.store, (Event.ofCall call).map Event.effect⟩
  | .download target data =>
    let call := Server.download store target data
    ⟨endpoint, call.store, (Event.ofCall call).map Event.effect⟩

/-- Several operations in order. -/
def run (endpoint : Endpoint) (store : σ) : List Operation → Reaction σ
  | [] => ⟨endpoint, store, []⟩
  | operation :: later =>
    let first := endpoint.perform store operation
    let rest := run first.endpoint first.store later
    { rest with effects := first.effects ++ rest.effects }

variable {endpoint : Endpoint} {server : Server}

/-- **One frame takes both on.** -/
theorem receive_follows (follows : endpoint.Follows server) (sound : server.session.Sound)
    (store : σ) (frame : Frame) (time : Nat) :
    (endpoint.receive store frame time).Follows (server.receive store frame time) := by
  obtain ⟨sendId, record, clientAbort⟩ := endpoint
  obtain ⟨_, session, _⟩ := server
  obtain ⟨rfl, represents, rfl⟩ := follows
  have received : Endpoint.receive ⟨sendId, record, clientAbort⟩ store frame time =
      let desk := ((Handler.dispatch frame.octets).settle.work ⟨record, store, clientAbort,
        [.note (.frameReceived frame.id time session.mode frame.octets)]⟩).2
      ⟨⟨sendId, desk.record, desk.clientAbort⟩, desk.store, desk.effects⟩ := by
    rw [← represents.mode]
    rfl
  obtain ⟨left, desk⟩ := Handler.dispatch_meets represents sound frame.octets sendId store
    clientAbort [.note (.frameReceived frame.id time session.mode frame.octets)]
  rw [received, desk]
  exact ⟨⟨rfl, left, rfl⟩, rfl, rfl⟩

/-- **One operation takes both on.** -/
theorem perform_follows (follows : endpoint.Follows server) (sound : server.session.Sound)
    (store : σ) (operation : Operation) :
    (endpoint.perform store operation).Follows (server.perform store operation) := by
  cases operation with
  | frame frame time => exact receive_follows follows sound store frame time
  | abort code =>
    have reset := endpoint.record.represents_reset
    rw [follows.represents.target] at reset
    refine ⟨⟨follows.sendId, reset, follows.clientAbort⟩, rfl, ?_⟩
    show [Effect.note (.abortingLocally endpoint.record.target endpoint.record.mode code),
      .send (Handler.abortFrame endpoint.record.target code)] = _
    rw [follows.represents.target, follows.represents.mode]
    rfl
  | upload target => exact ⟨follows, rfl, rfl⟩
  | download target data => exact ⟨follows, rfl, rfl⟩

/-- Through a run, an endpoint goes on following a server. -/
theorem run_follows_of_follows (follows : endpoint.Follows server) (sound : server.session.Sound)
    (store : σ) (operations : List Operation) :
    (endpoint.run store operations).Follows (server.run store operations) := by
  induction operations generalizing endpoint server store with
  | nil => exact ⟨follows, rfl, rfl⟩
  | cons operation later ih =>
    have first := perform_follows follows sound store operation
    have rest := ih first.endpoint (Server.sound_perform server store operation sound)
      (endpoint.perform store operation).store
    simp only [run, Server.run, ← first.store]
    refine ⟨rest.endpoint, rest.store, ?_⟩
    simp only [first.effects, rest.effects, List.map_append]

/-- **A new endpoint follows a new server through every run**, over any store. -/
theorem run_follows (sendId : UInt32) (store : σ) (operations : List Operation) :
    ((new sendId).run store operations).Follows ((Server.new sendId).run store operations) :=
  run_follows_of_follows (new_follows sendId) (Session.sound_idle _) store operations

end Run

end Endpoint

end Canopen
