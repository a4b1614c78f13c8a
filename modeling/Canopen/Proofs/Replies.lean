/-
**How a server answers.**

* `Plan.Yields`: what holds of the session and of the responses that a plan leads to, whatever the
  store answers and also if it fails.
* `Session.Replies`: the ways to answer a request. One abort, which resets the session; silence, in
  three cases; one other response; or a window of segments.
* `Session.replies_plan`: **a request that is read is answered in one of these ways**, one lemma for
  each request.
* `Server.receive_replies`: **the same for every frame in every run**, and what its frames are.
-/

import Canopen.Proofs.Delivery
import Canopen.Proofs.Openings

namespace Canopen

/-! ### Plans over every store -/

section Yields

variable {holds : Session → List Response → Prop}

/-- What holds of the session behind a move, and of what the client is sent. -/
def Move.Yields (holds : Session → List Response → Prop) (move : Move) : Prop :=
  holds (Server.conclude move).1 move.responses

/-- What holds of the session behind a plan, and of what the client is sent, whatever the store
answers and also if it fails. -/
def Plan.Yields (holds : Session → List Response → Prop) : Plan → Prop
  | .finish move => move.Yields holds
  | .read session next =>
    (∀ reading, (next reading).Yields holds) ∧ (Move.fail session .general []).Yields holds
  | .write session _ _ next =>
    (∀ status, (next status).Yields holds) ∧ (Move.fail session .general []).Yields holds

namespace Move

theorem yields_fail {session : Session} {cause : AbortCause} (notices : List Notice)
    (aborted : holds (.idle session.target) [.abort session.target cause.code]) :
    (fail session cause notices).Yields holds := by
  unfold Yields
  rw [responses_fail]
  exact aborted

theorem yields_after {move : Move} {events : List Event} (silent : Event.responses events = [])
    (yields : move.Yields holds) : (move.after events).Yields holds := by
  unfold Yields
  rw [conclude_after, responses_after silent]
  exact yields

end Move

namespace Plan

theorem yields_settle {σ α : Type} {session : Session} {events : List Event} {call : Call σ α}
    {next : α → Move} (silent : Event.responses events = [])
    (answers : ∀ answer, (next answer).Yields holds)
    (fails : (Move.fail session .general []).Yields holds) :
    (settle session events call next).1.Yields holds := by
  have quiet : Event.responses (events ++ Event.ofCall call) = [] := by
    rw [Event.responses_append, silent, Event.responses_ofCall, List.append_nil]
  unfold Move.Yields at fails
  rw [Move.responses_fail] at fails
  unfold settle
  split
  · exact Move.yields_after quiet (answers _)
  · exact Move.yields_after quiet (Move.yields_fail _ fails)

/-- A plan run over a store yields what it yields over every answer. -/
theorem yields_run {σ : Type} [Store σ] {plan : Plan} (yields : plan.Yields holds) (store : σ) :
    (plan.run store).1.Yields holds := by
  cases plan with
  | finish move => exact yields
  | read session next => exact yields_settle rfl yields.1 yields.2
  | write session notices data next =>
    refine yields_settle ?_ yields.1 yields.2
    rw [Event.responses_append, Event.responses_notes]
    rfl

end Plan

theorem Session.yields_afterRead {session : Session} {reading : Reading}
    {next : List UInt8 → Move}
    (fails : ∀ cause notices, (Move.fail session cause notices).Yields holds)
    (answers : ∀ value ≠ [], (next value).Yields holds) :
    (session.afterRead reading next).Yields holds := by
  unfold afterRead
  split
  · exact fails _ _
  · by_cases empty : reading.into [] = []
    · simp only [if_pos empty]
      exact fails _ _
    · simp only [if_neg empty]
      exact answers _ empty

end Yields

/-! ### The ways to answer -/

namespace Response

/-- The response ends the transfer early. -/
def isAbort : Response → Bool
  | abort _ _ => true
  | _ => false

/-- The response is a segment of a block upload. -/
def isSegment : Response → Bool
  | blockSegment _ => true
  | _ => false

/-- No other response looks like an abort. -/
theorem command_ne_abort {response : Response} (plain : response.isAbort = false)
    (whole : response.isSegment = false) : response.encode.command ≠ Request.abortCommand := by
  have apart {base marks : Nat} (other : (base + marks) % 256 ≠ 128) :
      command base marks ≠ Request.abortCommand := by
    intro same
    have number := congrArg UInt8.toNat same
    rw [command, UInt8.toNat_ofNat'] at number
    exact other number
  have toggled (toggle : Bool) : mark toggle 4 ≤ 16 := by cases toggle <;> decide
  have ended (last : Bool) : mark last 0 ≤ 1 := by cases last <;> decide
  cases response with
  | uploaded target value => exact apart (by omega)
  | uploadStarted target size => exact apart (by decide)
  | uploadSegment toggle data last =>
    have first := toggled toggle
    have second := ended last
    refine apart ?_
    simp only [segmentCapacity]
    omega
  | downloadAccepted target => exact apart (by decide)
  | downloadSegment toggle => cases toggle <;> exact apart (by decide)
  | blockUploadStarted target checksummed size => cases checksummed <;> exact apart (by decide)
  | blockUploadEnd unused checksum => exact apart (by omega)
  | blockDownloadStarted target checksummed => cases checksummed <;> exact apart (by decide)
  | blockDownloadAck count => exact apart (by decide)
  | blockDownloadEnd => exact apart (by decide)
  | blockSegment segment => exact absurd whole.symm Bool.false_ne_true
  | abort target code => exact absurd plain.symm Bool.false_ne_true

/-- An abort names its entry and its code. -/
theorem encode_abort (target : Target) (code : UInt32) :
    (abort target code).encode.target = target ∧ (abort target code).encode.double = code :=
  ⟨Payload.target_ofList _ _ _, Payload.double_ofList _ _ _ []⟩

end Response

namespace Session

/-- The ways in which a session answers a request: the session behind it, and the responses. -/
inductive Replies (session : Session) (request : Request) : Session → List Response → Prop
  /-- The transfer ends early, and the abort names the entry that the request opens, or the one of
  the session. -/
  | failed {code : UInt32} (nonzero : code ≠ 0) :
      Replies session request (.idle (request.opens?.getD session.target))
        [.abort (request.opens?.getD session.target) code]
  /-- The client gave up. -/
  | clientAborted {target : Target} {code : UInt32} (gone : request = .aborted target code) :
      Replies session request session []
  /-- A segment is taken that neither fills its window nor is the last one. -/
  | taken {segment : Segment} {next : Session} (brings : request = .blockSegment segment)
      (inner : segment.number < greatestWindow) (more : segment.last = false) :
      Replies session request next []
  /-- The client confirms the end of a block upload that is over. -/
  | confirmed (ends : request = .blockUploadEnd) (apart : session.mode ≠ .blockUpload) :
      Replies session request session []
  | answered {next : Session} {response : Response} (plain : response.isAbort = false)
      (whole : response.isSegment = false) : Replies session request next [response]
  /-- Segments of a block upload are sent, or sent again. -/
  | window {next : Session} {segments : List Segment}
      (asks : request = .blockUploadStart ∨
        ∃ count blockSize, request = .blockUploadAck count blockSize)
      (positive : 1 ≤ segments.length) (few : segments.length ≤ greatestWindow)
      (numbered : ∀ segment ∈ segments, 1 ≤ segment.number ∧ segment.number ≤ greatestWindow) :
      Replies session request next (segments.map .blockSegment)

variable {session : Session} {request : Request}

/-- A transfer that ends early is answered by one abort. -/
theorem replies_fail {other : Session} (names : other.target = request.opens?.getD session.target)
    (cause : AbortCause) (notices : List Notice) :
    (Move.fail other cause notices).Yields (session.Replies request) := by
  refine Move.yields_fail notices ?_
  rw [names]
  exact .failed cause.code_ne_zero

/-! ### Uploads and downloads by segments -/

theorem replies_openUpload (target : Target) :
    (openUpload target).Yields (session.Replies (.upload target)) := by
  refine ⟨fun reading => yields_afterRead (fun cause notices => replies_fail rfl cause notices) ?_,
    replies_fail rfl _ _⟩
  intro value _
  split
  · exact .answered rfl rfl
  · exact .answered rfl rfl

theorem replies_uploadSegment (toggle : Bool) :
    (session.uploadSegment toggle).Yields (session.Replies (.uploadSegment toggle)) := by
  unfold uploadSegment
  split
  · split
    · unfold nextSegment
      simp only
      split
      · exact .answered rfl rfl
      · exact .answered rfl rfl
    · exact replies_fail rfl _ _
  · exact replies_fail rfl _ _

theorem replies_expedited (target : Target) (data : List UInt8) :
    (expedited target data).Yields (session.Replies (.expedited target data)) := by
  refine ⟨fun status => ?_, replies_fail rfl _ _⟩
  cases status with
  | ok => exact .answered rfl rfl
  | _ => exact replies_fail rfl _ _

theorem replies_openDownload (target : Target) (declared : Option UInt32) :
    (openDownload target declared).Yields (session.Replies (.download target declared)) := by
  cases declared <;> exact .answered rfl rfl

theorem replies_downloadSegment (toggle : Bool) (data : List UInt8) (last : Bool) :
    (session.downloadSegment toggle data last).Yields
      (session.Replies (.downloadSegment toggle data last)) := by
  obtain ⟨target, transfer⟩ := session
  cases transfer with
  | download download =>
    simp only [downloadSegment, takeSegment]
    split
    · split
      · exact replies_fail rfl _ _
      · cases last with
        | true =>
          refine ⟨fun status => ?_, replies_fail rfl _ _⟩
          cases status with
          | ok => exact .answered rfl rfl
          | _ => exact replies_fail rfl _ _
        | false => exact .answered rfl rfl
    · exact replies_fail rfl _ _
  | _ => exact replies_fail rfl _ _

/-! ### Block uploads -/

section BlockUpload

variable {target : Target} {upload : BlockUpload} {first count : Nat}

theorem replies_openBlockUpload (target : Target) (checksummed : Bool) (blockSize : Nat) :
    (openBlockUpload target checksummed blockSize).Yields
      (session.Replies (.blockUpload target checksummed blockSize)) := by
  refine ⟨fun reading => yields_afterRead (fun cause notices => replies_fail rfl cause notices) ?_,
    replies_fail rfl _ _⟩
  intro value _
  exact .answered rfl rfl

/-- The segments of a window are numbered as segments are. -/
theorem numbered_window {value : List UInt8} (small : count ≤ greatestWindow) {segment : Segment}
    (inside : segment ∈ Segment.window value first count) :
    1 ≤ segment.number ∧ segment.number ≤ greatestWindow := by
  obtain ⟨place, below, rfl⟩ := Segment.mem_window inside
  exact ⟨Nat.le_add_left 1 place, Nat.le_trans below small⟩

theorem replies_sendWindow (stands : upload.Stands first count)
    (more : first + count < chunkCount upload.value)
    (asks : request = .blockUploadStart ∨
      ∃ count blockSize, request = .blockUploadAck count blockSize) :
    (sendWindow target upload).Yields (session.Replies request) := by
  have least := stands.least
  have most := stands.most
  unfold Move.Yields
  rw [responses_sendWindow stands more]
  refine .window asks ?_ ?_ fun segment => numbered_window (by omega)
  · rw [Segment.length_window]
    omega
  · rw [Segment.length_window]
    omega

theorem replies_closeBlockUpload :
    (closeBlockUpload target upload).Yields (session.Replies request) :=
  .answered rfl rfl

theorem replies_blockUploadStart (sound : session.Sound) :
    session.blockUploadStart.Yields (session.Replies .blockUploadStart) := by
  obtain ⟨target, transfer⟩ := session
  cases transfer with
  | blockUpload upload =>
    obtain ⟨first, count, stands⟩ := sound
    simp only [blockUploadStart]
    split
    · exact replies_fail rfl _ _
    · next waiting =>
      have idle : count = 0 := by
        rw [stands.started, decide_eq_true_eq] at waiting
        exact Nat.eq_zero_of_not_pos waiting
      refine replies_sendWindow stands ?_ (Or.inl rfl)
      rw [stands.fresh idle, idle]
      exact chunkCount_pos stands.nonempty
  | _ => exact replies_fail rfl _ _

theorem replies_continueUpload (stands : upload.Stands first count)
    (named : session.target = target) (acknowledged : Nat) (blockSize : Option Nat) :
    (continueUpload target upload acknowledged).Yields
      (session.Replies (.blockUploadAck acknowledged blockSize)) := by
  have asks : Request.blockUploadAck acknowledged blockSize = .blockUploadStart ∨
      ∃ count size, Request.blockUploadAck acknowledged blockSize = .blockUploadAck count size :=
    Or.inr ⟨_, _, rfl⟩
  rcases Nat.lt_trichotomy acknowledged count with missing | rfl | beyond
  · rw [continueUpload_again stands missing]
    have small := stands.small
    show Replies _ _ _ (Event.responses (.note _ :: sendSegments _))
    rw [show Event.responses (.note _ :: sendSegments _) = _ from responses_sendSegments _]
    refine .window asks ?_ ?_ fun segment member =>
      numbered_window small (List.mem_of_mem_drop member)
    · rw [List.length_drop, Segment.length_window]
      omega
    · rw [List.length_drop, Segment.length_window]
      omega
  · by_cases ends : first + acknowledged = chunkCount upload.value
    · rw [continueUpload_close stands ends]
      exact replies_closeBlockUpload
    · have more := Nat.lt_of_le_of_ne stands.within ends
      rw [continueUpload_next stands more]
      exact replies_sendWindow stands more asks
  · have length := stands.length_window
    unfold continueUpload
    simp only [length]
    rw [if_pos beyond]
    exact replies_fail named.symm _ _

theorem replies_blockUploadAck (sound : session.Sound) (acknowledged : Nat)
    (blockSize : Option Nat) : (session.blockUploadAck acknowledged blockSize).Yields
      (session.Replies (.blockUploadAck acknowledged blockSize)) := by
  obtain ⟨target, transfer⟩ := session
  cases transfer with
  | blockUpload upload =>
    obtain ⟨first, count, stands⟩ := sound
    simp only [blockUploadAck]
    split
    · exact replies_continueUpload (stands.resize _) rfl acknowledged blockSize
    · exact replies_fail rfl _ _
  | _ => exact replies_fail rfl _ _

theorem replies_blockUploadEnd :
    session.blockUploadEnd.Yields (session.Replies .blockUploadEnd) := by
  obtain ⟨target, transfer⟩ := session
  cases transfer with
  | blockUpload upload => exact replies_closeBlockUpload
  | _ => exact .confirmed rfl nofun

end BlockUpload

/-! ### Block downloads -/

theorem replies_blockSegment (segment : Segment) :
    (session.blockSegment segment).Yields (session.Replies (.blockSegment segment)) := by
  obtain ⟨target, transfer⟩ := session
  cases transfer with
  | blockDownload download =>
    simp only [blockSegment, takeBlockSegment]
    split
    · exact replies_fail rfl _ _
    · split
      · exact replies_fail rfl _ _
      · split
        · exact .answered rfl rfl
        · next inner =>
          rw [BlockDownload.closesWindow, Bool.or_eq_true, decide_eq_true_eq, not_or,
            Bool.not_eq_true] at inner
          exact .taken rfl (Nat.lt_of_not_le inner.1) inner.2
  | _ => exact replies_fail rfl _ _

theorem replies_blockDownloadEnd (padding : Nat) (checksum : UInt16) :
    (session.blockDownloadEnd padding checksum).Yields
      (session.Replies (.blockDownloadEnd padding checksum)) := by
  obtain ⟨target, transfer⟩ := session
  cases transfer with
  | blockDownload download =>
    simp only [blockDownloadEnd, closeBlockDownload]
    split
    · split
      · exact replies_fail rfl _ _
      · split
        · exact replies_fail rfl _ _
        · refine ⟨fun status => ?_, replies_fail rfl _ _⟩
          cases status with
          | ok => exact .answered rfl rfl
          | _ => exact replies_fail rfl _ _
    · exact replies_fail rfl _ _
  | _ => exact replies_fail rfl _ _

/-! ### Requests and runs -/

/-- **A request that is read is answered in one of these ways**, whatever the store answers. -/
theorem replies_plan (sound : session.Sound) (octets : List UInt8) :
    (session.plan (session.interpret octets)).Yields
      (session.Replies (session.interpret octets)) := by
  cases session.interpret octets with
  | empty => exact replies_fail rfl _ _
  | upload target => exact replies_openUpload target
  | uploadSegment toggle => exact replies_uploadSegment toggle
  | expedited target data => exact replies_expedited target data
  | download target declared => exact replies_openDownload target declared
  | downloadSegment toggle data last => exact replies_downloadSegment toggle data last
  | aborted target code => exact .clientAborted rfl
  | blockUpload target checksummed blockSize =>
    exact replies_openBlockUpload target checksummed blockSize
  | blockUploadStart => exact replies_blockUploadStart sound
  | blockUploadAck count blockSize => exact replies_blockUploadAck sound count blockSize
  | blockUploadEnd => exact replies_blockUploadEnd
  | blockDownload target checksummed declared => exact .answered rfl rfl
  | blockSegment segment => exact replies_blockSegment segment
  | blockDownloadEnd padding checksum => exact replies_blockDownloadEnd padding checksum
  | unknown command => exact replies_fail rfl _ _

/-- Only an abort looks like one. -/
theorem Replies.isAbort {next : Session} {responses : List Response}
    (replies : session.Replies request next responses) {response : Response}
    (member : response ∈ responses) (begins : response.encode.command = Request.abortCommand) :
    response.isAbort = true := by
  cases replies with
  | failed nonzero =>
    rw [List.mem_singleton.mp member]
    rfl
  | clientAborted gone => exact absurd member List.not_mem_nil
  | taken brings inner more => exact absurd member List.not_mem_nil
  | confirmed ends apart => exact absurd member List.not_mem_nil
  | answered plain whole =>
    rw [List.mem_singleton.mp member] at begins
    exact absurd begins (Response.command_ne_abort plain whole)
  | window asks positive few numbered =>
    obtain ⟨segment, inside, rfl⟩ := List.mem_map.mp member
    obtain ⟨least, most⟩ := numbered segment inside
    exact absurd begins (Segment.command_ne_abort least most)

/-- An abort is the only response. -/
theorem Replies.eq_singleton {next : Session} {responses : List Response}
    (replies : session.Replies request next responses) {target : Target} {code : UInt32}
    (member : .abort target code ∈ responses) : responses = [.abort target code] := by
  cases replies with
  | failed nonzero => rw [List.mem_singleton.mp member]
  | clientAborted gone => exact absurd member List.not_mem_nil
  | taken brings inner more => exact absurd member List.not_mem_nil
  | confirmed ends apart => exact absurd member List.not_mem_nil
  | answered plain whole => rw [List.mem_singleton.mp member]
  | window asks positive few numbered =>
    obtain ⟨segment, -, same⟩ := List.mem_map.mp member
    exact absurd same nofun

/-- A request that is not answered does not call the store. -/
theorem Replies.finish {next : Session} {responses : List Response}
    (replies : session.Replies request next responses) (silent : responses = []) :
    ∃ move, session.plan request = .finish move := by
  cases replies with
  | failed nonzero => exact absurd silent (List.cons_ne_nil _ _)
  | clientAborted gone =>
    rw [gone]
    exact ⟨_, rfl⟩
  | taken brings inner more =>
    rw [brings]
    exact ⟨_, rfl⟩
  | confirmed ends apart =>
    rw [ends]
    exact ⟨_, rfl⟩
  | answered plain whole => exact absurd silent (List.cons_ne_nil _ _)
  | window asks positive few numbered =>
    rw [List.map_eq_nil_iff.mp silent] at positive
    exact absurd positive (Nat.not_succ_le_zero 0)

end Session

/-- **How a server answers.** In every run, over any store, whatever the store answers and also if
it fails, a frame is answered in one of these ways. A frame that is not answered does not call the
store. What is sent are full frames of the server, and they begin like an abort exactly if they are
one; then they name an entry and a code, and nothing else is sent. -/
theorem Server.receive_replies {σ : Type} [Store σ] (sendId : UInt32) (store : σ)
    (operations : List Operation) (frame : Frame) (time : Nat) :
    let reached := (new sendId).run store operations
    let reaction := reached.server.receive reached.store frame time
    let request := reached.server.session.interpret frame.octets
    let responses := Event.responses reaction.events
    (∃ next, reached.server.session.Replies request next responses ∧
        reaction.server = { reached.server with
          session := next
          clientAbort := reached.server.noted request }) ∧
      (responses = [] → reaction.store = reached.store) ∧
      ∀ sent ∈ reached.server.frames reaction.events, sent.id = sendId ∧ sent.length = 8 ∧
        (sent.payload.command = Request.abortCommand →
          ∃ target code, .abort target code ∈ responses ∧
            sent.payload.target = target ∧ sent.payload.double = code) ∧
        ∀ target code, .abort target code ∈ responses →
          sent.payload = .ofList (0x80 :: target.octets ++ Octets.of32 code) ∧
            sent.payload.command = Request.abortCommand := by
  intro reached reaction request responses
  have sound : reached.server.session.Sound :=
    run_keeps sound_perform (Session.sound_idle _) store operations
  have yields := Session.replies_plan sound frame.octets
  have replies : reached.server.session.Replies request reaction.server.session responses :=
    Plan.yields_run yields reached.store
  refine ⟨⟨_, replies, rfl⟩, ?_, ?_⟩
  · intro silent
    obtain ⟨move, planned⟩ := replies.finish silent
    exact (receive_run reached.store time planned).2.1
  · intro sent member
    obtain ⟨response, here, rfl⟩ := List.mem_map.mp member
    refine ⟨sendId_run _ store operations, rfl, fun begins => ?_, fun target code aborts => ?_⟩
    · cases response with
      | abort target code =>
        obtain ⟨named, told⟩ := Response.encode_abort target code
        exact ⟨target, code, here, named, told⟩
      | _ => exact absurd (replies.isAbort here begins) Bool.false_ne_true
    · change response ∈ responses at here
      rw [replies.eq_singleton aborts, List.mem_singleton] at here
      subst here
      exact ⟨Response.octets_abort target code, rfl⟩

end Canopen
