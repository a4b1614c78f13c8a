/-
**When the window of a block upload was sent.**

* `Session.Alike`: two sessions are the same, the size of the next window apart.
* `Session.keeps_plan`: only a start and an acknowledgement send segments of a block upload.
* `Server.perform_window`: one operation leaves the window on its way as it is, or is a frame that
  is answered with the whole of a new one.
* `Server.Sent`: the frames that brought the window on its way, at their moment of the run.
* `Server.run_sent`: **every window on its way was sent at one moment of the run**, and the session
  has been the same ever since.
-/

import Canopen.Proofs.Replies
import Canopen.Proofs.Stream
import Mathlib.Data.List.Induction
import Mathlib.Data.List.Infix

namespace Canopen

/-- The frames that bring segments. -/
def Segment.frames (sendId : UInt32) (segments : List Segment) : List Frame :=
  segments.map fun segment => .full sendId (Response.blockSegment segment).encode

/-- The first octets of the frames of a window number them from one. -/
theorem Segment.numbers_frames (sendId : UInt32) (value : List UInt8) (first : Nat) {count : Nat}
    (small : count ≤ greatestWindow) :
    (frames sendId (window value first count)).map
        (fun frame => field frame.payload.command 0 7) = List.range' 1 count := by
  rw [frames, List.map_map, window, List.map_map, List.range'_eq_map_range]
  refine List.map_congr_left fun place member => ?_
  have inside : (ofChunk value first place).number ≤ greatestWindow :=
    Nat.le_trans (List.mem_range.mp member) small
  have number := congrArg Segment.number
    (decode_ofList inside (ofChunk value first place).data)
  exact number.trans (Nat.add_comm place 1)

/-! ### Sessions up to the block size -/

namespace Session

/-- The session with another block size, if a block upload is open. -/
def resized (session : Session) (blockSize : Nat) : Session :=
  match session.transfer with
  | .blockUpload upload => ⟨session.target, .blockUpload { upload with blockSize := blockSize }⟩
  | _ => session

/-- The sessions are the same, the size of the next window apart. -/
def Alike (one two : Session) : Prop := one.resized 0 = two.resized 0

theorem phase_resized (session : Session) (blockSize : Nat) :
    (session.resized blockSize).phase = session.phase := by
  obtain ⟨target, transfer⟩ := session
  cases transfer <;> rfl

theorem window_resized (session : Session) (blockSize : Nat) :
    (session.resized blockSize).window = session.window := by
  obtain ⟨target, transfer⟩ := session
  cases transfer <;> rfl

namespace Alike

variable {one two : Session}

theorem phase (alike : one.Alike two) : one.phase = two.phase := by
  rw [← phase_resized one 0, alike, phase_resized]

theorem window (alike : one.Alike two) : one.window = two.window := by
  rw [← window_resized one 0, alike, window_resized]

end Alike

theorem phase_blockDownload_ne {target : Target} {download : BlockDownload} :
    (⟨target, .blockDownload download⟩ : Session).phase ≠ .awaitingAck := by
  obtain ⟨_, _, _, _, _, complete⟩ := download
  cases complete <;> nofun

theorem blockUpload_of_awaitingAck {session : Session} (awaiting : session.phase = .awaitingAck) :
    ∃ target upload, session = ⟨target, .blockUpload upload⟩ ∧ upload.started = true := by
  obtain ⟨target, transfer⟩ := session
  cases transfer with
  | blockUpload upload =>
    refine ⟨target, upload, rfl, ?_⟩
    cases started : upload.started with
    | true => rfl
    | false => simp [Session.phase, started] at awaiting
  | blockDownload download => exact absurd awaiting phase_blockDownload_ne
  | _ => exact absurd awaiting nofun

/-! ### Requests that send no window -/

section Keeps

variable {session : Session}

/-- A window that waits behind a request has been waiting before it. -/
def Keeps (session next : Session) : Prop :=
  next.phase = .awaitingAck → next = session

theorem keeps_apart {next : Session} {events : List Event} (apart : next.phase ≠ .awaitingAck) :
    (Move.done next events).Leaves session.Keeps :=
  Move.leaves_done.mpr fun awaiting => absurd awaiting apart

theorem keeps_openUpload (target : Target) : (openUpload target).Leaves session.Keeps := by
  intro reading
  refine leaves_afterRead fun value _ => ?_
  split
  · exact keeps_apart nofun
  · exact keeps_apart nofun

theorem keeps_uploadSegment (toggle : Bool) :
    (session.uploadSegment toggle).Leaves session.Keeps := by
  unfold uploadSegment
  split
  · split
    · unfold nextSegment
      simp only
      split
      · exact keeps_apart nofun
      · exact keeps_apart nofun
    · exact Move.leaves_fail
  · exact Move.leaves_fail

theorem keeps_expedited (target : Target) (data : List UInt8) :
    (expedited target data).Leaves session.Keeps := by
  intro status
  simp only
  cases status.abortCause? with
  | some cause => exact Move.leaves_fail
  | none => exact keeps_apart nofun

theorem keeps_downloadSegment (toggle : Bool) (data : List UInt8) (last : Bool) :
    (session.downloadSegment toggle data last).Leaves session.Keeps := by
  unfold downloadSegment
  split
  · split
    · unfold takeSegment
      simp only
      split
      · exact Move.leaves_fail
      · split
        · intro status
          simp only
          cases status.abortCause? with
          | some cause => exact Move.leaves_fail
          | none => exact keeps_apart nofun
        · exact keeps_apart nofun
    · exact Move.leaves_fail
  · exact Move.leaves_fail

theorem keeps_openBlockUpload (target : Target) (checksummed : Bool) (blockSize : Nat) :
    (openBlockUpload target checksummed blockSize).Leaves session.Keeps := by
  intro reading
  exact leaves_afterRead fun value _ => keeps_apart nofun

theorem keeps_blockUploadEnd : session.blockUploadEnd.Leaves session.Keeps := by
  unfold blockUploadEnd
  split
  · exact keeps_apart nofun
  · exact Move.leaves_done.mpr fun _ => rfl

theorem keeps_blockSegment (segment : Segment) :
    (session.blockSegment segment).Leaves session.Keeps := by
  unfold blockSegment
  split
  · next download _ =>
    rcases takeBlockSegment_cases session.target download segment with
      ⟨cause, notices, refused⟩ | ⟨-, taken⟩
    · rw [refused]
      exact Move.leaves_fail
    · rw [taken]
      exact keeps_apart phase_blockDownload_ne
  · exact Move.leaves_fail

theorem keeps_blockDownloadEnd (padding : Nat) (checksum : UInt16) :
    (session.blockDownloadEnd padding checksum).Leaves session.Keeps := by
  unfold blockDownloadEnd
  split
  · split
    · unfold closeBlockDownload
      simp only
      split
      · exact Move.leaves_fail
      · split
        · exact Move.leaves_fail
        · intro status
          simp only
          split
          · exact keeps_apart nofun
          · exact Move.leaves_fail
    · exact Move.leaves_fail
  · exact Move.leaves_fail

/-- Only a start and an acknowledgement send segments of a block upload. -/
theorem keeps_plan {request : Request} (starts : request ≠ .blockUploadStart)
    (acks : ∀ count blockSize, request ≠ .blockUploadAck count blockSize) :
    (session.plan request).Leaves session.Keeps := by
  cases request with
  | empty => exact Move.leaves_fail
  | upload target => exact keeps_openUpload target
  | uploadSegment toggle => exact keeps_uploadSegment toggle
  | expedited target data => exact keeps_expedited target data
  | download target declared => exact keeps_apart nofun
  | downloadSegment toggle data last => exact keeps_downloadSegment toggle data last
  | aborted target code => exact Move.leaves_done.mpr fun _ => rfl
  | blockUpload target checksummed blockSize =>
    exact keeps_openBlockUpload target checksummed blockSize
  | blockUploadStart => exact absurd rfl starts
  | blockUploadAck count blockSize => exact absurd rfl (acks count blockSize)
  | blockUploadEnd => exact keeps_blockUploadEnd
  | blockDownload target checksummed declared => exact keeps_apart nofun
  | blockSegment segment => exact keeps_blockSegment segment
  | blockDownloadEnd padding checksum => exact keeps_blockDownloadEnd padding checksum
  | unknown command => exact Move.leaves_fail

end Keeps

/-! ### Requests that send a window -/

section Windows

variable {session : Session} {target : Target} {upload : BlockUpload} {first count : Nat}

/-- A window that waits behind a request has been waiting before it, or the responses to the request
are its segments. -/
def Windows (session next : Session) (responses : List Response) : Prop :=
  next.phase = .awaitingAck →
    session.Alike next ∨ ¬ session.Alike next ∧ responses = next.window.map .blockSegment

theorem windows_fail (session : Session) (cause : AbortCause) (notices : List Notice) :
    (Move.fail session cause notices).Yields session.Windows :=
  Move.yields_fail notices fun awaiting => absurd awaiting nofun

/-- The cursor moves on with a window. -/
theorem sent_lt_advance (stands : upload.Stands first count)
    (more : first + count < chunkCount upload.value) : upload.sent < upload.advance.sent := by
  have least := stands.least
  have before := stands.chunks_sent
  have behind := (stands.advance more).chunks_sent
  simp only [segmentCapacity] at before behind
  omega

/-- The next window, in a session that is the same up to its block size. -/
theorem windows_sendWindow (stands : upload.Stands first count)
    (more : first + count < chunkCount upload.value)
    (alike : session.Alike ⟨target, .blockUpload upload⟩) :
    (sendWindow target upload).Yields session.Windows := by
  intro _
  refine Or.inr ⟨fun same => ?_, ?_⟩
  · have cursors : upload.sent = upload.advance.sent :=
      congrArg (fun session => session.readout.cursor) (alike.symm.trans same)
    exact Nat.ne_of_lt (sent_lt_advance stands more) cursors
  · rw [responses_sendWindow stands more]
    exact congrArg _ (stands.advance more).window.symm

theorem windows_blockUploadStart (sound : session.Sound) :
    session.blockUploadStart.Yields session.Windows := by
  obtain ⟨target, transfer⟩ := session
  cases transfer with
  | blockUpload upload =>
    obtain ⟨first, count, stands⟩ := sound
    simp only [blockUploadStart]
    split
    · exact windows_fail _ _ _
    · next waiting =>
      have idle : count = 0 := by
        rw [stands.started, decide_eq_true_eq] at waiting
        exact Nat.eq_zero_of_not_pos waiting
      refine windows_sendWindow stands ?_ rfl
      rw [stands.fresh idle, idle]
      exact chunkCount_pos stands.nonempty
  | _ => exact windows_fail _ _ _

theorem windows_continueUpload (stands : upload.Stands first count)
    (alike : session.Alike ⟨target, .blockUpload upload⟩) (acknowledged : Nat) :
    (continueUpload target upload acknowledged).Yields session.Windows := by
  rcases Nat.lt_trichotomy acknowledged count with missing | rfl | beyond
  · rw [continueUpload_again stands missing]
    exact fun _ => Or.inl alike
  · by_cases ends : first + acknowledged = chunkCount upload.value
    · rw [continueUpload_close stands ends]
      exact fun awaiting => absurd awaiting nofun
    · rw [continueUpload_next stands (Nat.lt_of_le_of_ne stands.within ends)]
      exact windows_sendWindow stands (Nat.lt_of_le_of_ne stands.within ends) alike
  · have length := stands.length_window
    unfold continueUpload
    simp only [length]
    rw [if_pos beyond]
    exact Move.yields_fail _ fun awaiting => absurd awaiting nofun

theorem windows_blockUploadAck (sound : session.Sound) (acknowledged : Nat)
    (blockSize : Option Nat) :
    (session.blockUploadAck acknowledged blockSize).Yields session.Windows := by
  obtain ⟨target, transfer⟩ := session
  cases transfer with
  | blockUpload upload =>
    obtain ⟨first, count, stands⟩ := sound
    simp only [blockUploadAck]
    split
    · exact windows_continueUpload (stands.resize _) rfl acknowledged
    · exact windows_fail _ _ _
  | _ => exact windows_fail _ _ _

end Windows

end Session

namespace Server

variable {σ : Type} [Store σ] {server : Server}

/-- A frame leaves the window on its way as it is, or is answered with the whole of a new one. -/
theorem receive_window (sound : server.session.Sound) (store : σ) (frame : Frame) (time : Nat) :
    let reaction := server.receive store frame time
    server.session.Windows reaction.server.session (Event.responses reaction.events) := by
  cases read : server.session.interpret frame.octets with
  | blockUploadStart =>
    have yields : (server.session.plan (server.session.interpret frame.octets)).Yields
        server.session.Windows := by
      rw [read]
      exact Session.windows_blockUploadStart sound
    exact Plan.yields_run yields store
  | blockUploadAck count blockSize =>
    have yields : (server.session.plan (server.session.interpret frame.octets)).Yields
        server.session.Windows := by
      rw [read]
      exact Session.windows_blockUploadAck sound count blockSize
    exact Plan.yields_run yields store
  | _ =>
    have leaves : (server.session.plan (server.session.interpret frame.octets)).Leaves
        server.session.Keeps := by
      rw [read]
      exact Session.keeps_plan nofun nofun
    intro reaction awaiting
    have same := receive_leaves (fun _ awaiting => absurd awaiting nofun) leaves store time awaiting
    exact Or.inl (congrArg (Session.resized · 0) same.symm)

/-- **One operation** leaves the window on its way as it is, or is a frame that is answered with the
whole of a new one. -/
theorem perform_window (sound : server.session.Sound) (store : σ) (operation : Operation) :
    let reaction := server.perform store operation
    reaction.server.session.phase = .awaitingAck →
      server.session.Alike reaction.server.session ∨
        (∃ frame time, operation = .frame frame time) ∧
          ¬ server.session.Alike reaction.server.session ∧
          Event.responses reaction.events = reaction.server.session.window.map .blockSegment := by
  intro reaction awaiting
  cases operation with
  | frame frame time =>
    exact (receive_window sound store frame time awaiting).imp_right fun sent =>
      ⟨⟨frame, time, rfl⟩, sent⟩
  | abort code => exact absurd awaiting nofun
  | upload target => exact Or.inl rfl
  | download target data => exact Or.inl rfl

/-! ### Runs -/

/-- The frames that brought the window on its way: behind `before` a frame was answered with them,
which made the session another one, and it has been the same ever since, its block size apart. -/
def Sent (sendId : UInt32) (store : σ) (operations : List Operation) (frames : List Frame) : Prop :=
  ∃ before opening moment after, operations = before ++ .frame opening moment :: after ∧
    let earlier := (new sendId).run store before
    let sending := earlier.server.receive earlier.store opening moment
    let session := ((new sendId).run store operations).server.session
    ¬ earlier.server.session.Alike session ∧
      (∀ later, later <+: after →
        (sending.server.run sending.store later).server.session.Alike session) ∧
      earlier.server.frames sending.events = frames

theorem frames_of_responses {events : List Event} {segments : List Segment}
    (responses : Event.responses events = segments.map .blockSegment) :
    server.frames events = Segment.frames server.sendId segments := by
  rw [frames, responses, List.map_map]
  rfl

/-- What was done behind a frame is what its reaction has led to. -/
theorem run_behind (store : σ) (before : List Operation) (opening : Frame) (moment : Nat)
    (later : List Operation) :
    let earlier := server.run store before
    let sending := earlier.server.receive earlier.store opening moment
    (server.run store (before ++ .frame opening moment :: later)).server =
      (sending.server.run sending.store later).server := by
  rw [run_append]
  rfl

/-- **Every window on its way was sent at one moment of the run**, by induction on the operations
from behind: the last one that changed the session, its block size apart, has sent the window. -/
theorem run_sent (sendId : UInt32) (store : σ) (operations : List Operation)
    (awaiting : ((new sendId).run store operations).server.session.phase = .awaitingAck) :
    Sent sendId store operations
      (Segment.frames sendId ((new sendId).run store operations).server.session.window) := by
  induction operations using List.reverseRecOn with
  | nil => exact absurd awaiting nofun
  | append_singleton operations operation ih =>
    have last : ((new sendId).run store (operations ++ [operation])).server =
        (((new sendId).run store operations).server.perform
          ((new sendId).run store operations).store operation).server := by
      rw [run_append, run_singleton]
    rw [last] at awaiting
    rcases perform_window (sound_run sendId store operations) _ operation awaiting with
      alike | ⟨⟨frame, time, rfl⟩, other, responses⟩
    · obtain ⟨before, opening, moment, after, rfl, differs, since, frames⟩ :=
        ih (alike.phase.trans awaiting)
      refine ⟨before, opening, moment, after ++ [operation], ?_, ?_, ?_, ?_⟩
      · rw [List.append_assoc, List.cons_append]
      · rw [last]
        exact fun same => differs (same.trans alike.symm)
      · intro later within
        rw [last]
        rcases List.prefix_concat_iff.mp within with rfl | within
        · rw [← run_behind, ← List.cons_append, ← List.append_assoc, last]
          rfl
        · exact (since later within).trans alike
      · rw [last, ← alike.window]
        exact frames
    · refine ⟨operations, frame, time, [], rfl, ?_, ?_, ?_⟩
      · rw [last]
        exact other
      · intro later within
        rw [List.prefix_nil.mp within, last]
        rfl
      · rw [last]
        refine (frames_of_responses responses).trans ?_
        rw [sendId_run]
        rfl

end Server

end Canopen
