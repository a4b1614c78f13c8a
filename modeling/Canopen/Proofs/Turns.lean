/-
**What a request can do to a download.**

* `Session.Turns`: every way in which a request leaves a download open, or none at all.
* `Session.turns_plan`: **a request that is read turns the session in one of these ways**, whatever
  the store answers.
* `Session.Stores`: the three ways in which a request can ask for a write.
* `Session.stores_plan`: **a request that is read asks for no write, or for one in these ways**; the
  session is at rest behind it, and one response tells the client what came of it.
-/

import Canopen.Proofs.Stream

namespace Canopen

namespace Request

/-- A request that is taken without an answer, whatever transfer is open. -/
def isSilent : Request → Bool
  | aborted _ _ | blockUploadEnd => true
  | _ => false

end Request

namespace Session

/-- A download is open, of either kind. -/
def isDownload (session : Session) : Bool :=
  match session.transfer with
  | .download _ | .blockDownload _ => true
  | _ => false

/-- The ways in which a request turns a session into another one, as far as downloads go. -/
inductive Turns (session : Session) : Request → Session → Prop
  /-- No download is open behind the request. -/
  | apart {request : Request} {next : Session} (apart : next.isDownload = false) :
      Turns session request next
  /-- The request changes nothing. -/
  | silent {request : Request} (silent : request.isSilent = true) : Turns session request session
  | opened (target : Target) (declared : Option UInt32) :
      Turns session (.download target declared) ⟨target, .download ⟨[], declared, false⟩⟩
  | taken {target : Target} {download : Download} (data : List UInt8)
      (running : session = ⟨target, .download download⟩) :
      Turns session (.downloadSegment download.toggle data false)
        ⟨target, .download { download with
          received := download.received ++ data
          toggle := !download.toggle }⟩
  | blockOpened (target : Target) (checksummed : Bool) (declared : Option UInt32) :
      Turns session (.blockDownload target checksummed declared)
        ⟨target, .blockDownload ⟨[], declared, checksummed, 0, 0, false⟩⟩
  | blockTaken {target : Target} {download : BlockDownload} {segment : Segment}
      (running : session = ⟨target, .blockDownload download⟩)
      (receiving : download.complete = false)
      (expected : segment.number = download.sequence + 1) :
      Turns session (.blockSegment segment) ⟨target, .blockDownload (download.follow segment)⟩

section Turns

variable {session : Session}

/-- A move that leaves no download open. -/
theorem leaves_apart {request : Request} {next : Session} {events : List Event}
    (apart : next.isDownload = false) :
    (Move.done next events).Leaves (session.Turns request) :=
  Move.leaves_done.mpr (.apart apart)

theorem turns_openUpload (request : Request) (target : Target) :
    (openUpload target).Leaves (session.Turns request) := by
  intro reading
  refine leaves_afterRead fun value _ => ?_
  split
  · exact leaves_apart rfl
  · exact leaves_apart rfl

theorem turns_uploadSegment (request : Request) (toggle : Bool) :
    (session.uploadSegment toggle).Leaves (session.Turns request) := by
  unfold uploadSegment
  split
  · split
    · unfold nextSegment
      simp only
      split
      · exact leaves_apart rfl
      · exact leaves_apart rfl
    · exact Move.leaves_fail
  · exact Move.leaves_fail

theorem turns_expedited (request : Request) (target : Target) (data : List UInt8) :
    (expedited target data).Leaves (session.Turns request) := by
  intro status
  simp only
  cases status.abortCause? with
  | some cause => exact Move.leaves_fail
  | none => exact leaves_apart rfl

theorem turns_writeDownload (request : Request) (target : Target) (download : Download) :
    (writeDownload target download).Leaves (session.Turns request) := by
  intro status
  simp only
  cases status.abortCause? with
  | some cause => exact Move.leaves_fail
  | none => exact leaves_apart rfl

theorem turns_downloadSegment (toggle : Bool) (data : List UInt8) (last : Bool) :
    (session.downloadSegment toggle data last).Leaves
      (session.Turns (.downloadSegment toggle data last)) := by
  obtain ⟨target, transfer⟩ := session
  cases transfer with
  | download download =>
    simp only [downloadSegment, takeSegment]
    split
    · next alternates =>
      split
      · exact Move.leaves_fail
      · cases last with
        | true => exact turns_writeDownload _ target _
        | false =>
          rw [alternates]
          exact Move.leaves_done.mpr (.taken data rfl)
    · exact Move.leaves_fail
  | _ => exact Move.leaves_fail

theorem turns_blockUpload (request : Request) (target : Target) (checksummed : Bool)
    (blockSize : Nat) :
    (openBlockUpload target checksummed blockSize).Leaves (session.Turns request) := by
  intro reading
  exact leaves_afterRead fun value _ => leaves_apart rfl

theorem turns_blockUploadStart (request : Request) :
    session.blockUploadStart.Leaves (session.Turns request) := by
  unfold blockUploadStart
  split
  · split
    · exact Move.leaves_fail
    · exact leaves_apart rfl
  · exact Move.leaves_fail

theorem turns_blockUploadAck (request : Request) (acknowledged : Nat) (blockSize : Option Nat) :
    (session.blockUploadAck acknowledged blockSize).Leaves (session.Turns request) := by
  unfold blockUploadAck
  split
  · split
    · unfold continueUpload
      simp only
      split
      · exact Move.leaves_fail
      · split
        · exact leaves_apart rfl
        · split
          · exact leaves_apart rfl
          · exact leaves_apart rfl
    · exact Move.leaves_fail
  · exact Move.leaves_fail

theorem turns_blockUploadEnd :
    session.blockUploadEnd.Leaves (session.Turns .blockUploadEnd) := by
  unfold blockUploadEnd
  split
  · exact leaves_apart rfl
  · exact Move.leaves_done.mpr (.silent rfl)

theorem turns_blockSegment (receiving : session.isReceiving = true) (segment : Segment) :
    (session.blockSegment segment).Leaves (session.Turns (.blockSegment segment)) := by
  obtain ⟨target, transfer⟩ := session
  cases transfer with
  | blockDownload download =>
    rw [isReceiving_blockDownload, Bool.not_eq_true'] at receiving
    show (takeBlockSegment target download segment).Leaves _
    rcases takeBlockSegment_cases target download segment with
      ⟨cause, notices, refused⟩ | ⟨expected, taken⟩
    · rw [refused]
      exact Move.leaves_fail
    · rw [taken]
      exact Move.leaves_done.mpr (.blockTaken rfl receiving expected)
  | _ => exact Move.leaves_fail

theorem turns_blockDownloadEnd (request : Request) (padding : Nat) (checksum : UInt16) :
    (session.blockDownloadEnd padding checksum).Leaves (session.Turns request) := by
  unfold blockDownloadEnd
  split
  · split
    · unfold closeBlockDownload
      simp only
      split
      · exact Move.leaves_fail
      · split
        · exact Move.leaves_fail
        · intro status
          simp only
          split
          · exact leaves_apart rfl
          · exact Move.leaves_fail
    · exact Move.leaves_fail
  · exact Move.leaves_fail

/-- **A request that is read turns the session** in one of these ways, whatever the store answers,
unless it ends the transfer early. -/
theorem turns_plan (session : Session) (octets : List UInt8) :
    (session.plan (session.interpret octets)).Leaves
      (session.Turns (session.interpret octets)) := by
  cases read : session.interpret octets with
  | empty => exact Move.leaves_fail
  | upload target => exact turns_openUpload _ target
  | uploadSegment toggle => exact turns_uploadSegment _ toggle
  | expedited target data => exact turns_expedited _ target data
  | download target declared => exact Move.leaves_done.mpr (.opened target declared)
  | downloadSegment toggle data last => exact turns_downloadSegment toggle data last
  | aborted target code => exact Move.leaves_done.mpr (.silent rfl)
  | blockUpload target checksummed blockSize =>
    exact turns_blockUpload _ target checksummed blockSize
  | blockUploadStart => exact turns_blockUploadStart _
  | blockUploadAck count blockSize => exact turns_blockUploadAck _ count blockSize
  | blockUploadEnd => exact turns_blockUploadEnd
  | blockDownload target checksummed declared =>
    exact Move.leaves_done.mpr (.blockOpened target checksummed declared)
  | blockSegment segment => exact turns_blockSegment (blockSegment_of_interpret read).1 segment
  | blockDownloadEnd padding checksum => exact turns_blockDownloadEnd _ padding checksum
  | unknown command => exact Move.leaves_fail

end Turns

/-! ### Writes -/

/-- The ways in which a request asks for a write, and the response if the value is stored. -/
inductive Stores (session : Session) : Request → Target → List UInt8 → Response → Prop
  | expedited {target : Target} {data : List UInt8} (positive : 1 ≤ data.length)
      (few : data.length ≤ Request.expeditedCapacity) :
      Stores session (.expedited target data) target data (.downloadAccepted target)
  | download {target : Target} {download : Download} {data : List UInt8}
      (running : session = ⟨target, .download download⟩)
      (room : ∀ size, download.declared = some size →
        (download.received ++ data).length ≤ size.toNat) :
      Stores session (.downloadSegment download.toggle data true) target
        (download.received ++ data) (.downloadSegment download.toggle)
  | blockDownload {target : Target} {download : BlockDownload} {padding : Nat}
      {checksum : UInt16} (running : session = ⟨target, .blockDownload download⟩)
      (complete : download.complete = true)
      (room : ∀ size, download.declared = some size →
        (download.trimmed padding).length ≤ size.toNat)
      (checked : download.checksummed = true →
        checksum = Checksum.of (download.trimmed padding)) :
      Stores session (.blockDownloadEnd padding checksum) target (download.trimmed padding)
        .blockDownloadEnd

end Session

/-- The plan asks for no write, or for one of these; whatever the store answers, the session is at
rest behind it, and one response tells what came of it. -/
def Plan.Stores (holds : Target → List UInt8 → Response → Prop) : Plan → Prop
  | .write session _ data next => ∃ accepted, holds session.target data accepted ∧
    ∀ status, (Server.conclude (next status)).1 = .idle session.target ∧
      if status = .ok then (next status).responses = [accepted]
      else ∃ code, (next status).responses = [.abort session.target code]
  | _ => True

namespace Session

section Stores

variable {session : Session}

theorem stores_expedited (octets : List UInt8) {target : Target} {data : List UInt8}
    (read : session.interpret octets = .expedited target data) :
    (expedited target data).Stores (session.Stores (.expedited target data)) := by
  have size : 1 ≤ data.length ∧ data.length ≤ Request.expeditedCapacity := by
    unfold interpret at read
    split at read
    · rcases Request.decodeSegment_cases octets with other | ⟨_, _, other⟩ | ⟨_, other⟩ <;>
        exact absurd (other.symm.trans read) nofun
    · exact Request.length_of_decode read
  refine ⟨_, .expedited size.1 size.2, fun status => ?_⟩
  cases status with
  | ok => exact ⟨rfl, rfl⟩
  | _ => exact ⟨rfl, _, Move.responses_fail _ _ _⟩

theorem stores_downloadSegment (toggle : Bool) (data : List UInt8) (last : Bool) :
    (session.downloadSegment toggle data last).Stores
      (session.Stores (.downloadSegment toggle data last)) := by
  obtain ⟨target, transfer⟩ := session
  cases transfer with
  | download download =>
    simp only [downloadSegment, takeSegment]
    split
    · next alternates =>
      split
      · exact trivial
      · next fits =>
        cases last with
        | true =>
          rw [alternates]
          refine ⟨_, .download rfl fun size known => le_of_not_isExcess fits known, fun status => ?_⟩
          cases status with
          | ok => exact ⟨rfl, rfl⟩
          | _ => exact ⟨rfl, _, Move.responses_fail _ _ _⟩
        | false => exact trivial
    · exact trivial
  | _ => exact trivial

theorem stores_blockDownloadEnd (padding : Nat) (checksum : UInt16) :
    (session.blockDownloadEnd padding checksum).Stores
      (session.Stores (.blockDownloadEnd padding checksum)) := by
  obtain ⟨target, transfer⟩ := session
  cases transfer with
  | blockDownload download =>
    simp only [blockDownloadEnd, closeBlockDownload]
    split
    · next complete =>
      split
      · exact trivial
      · next fits =>
        split
        · exact trivial
        · next equal =>
          refine ⟨_, .blockDownload rfl complete
            (fun size known => le_of_not_isExcess fits known) (fun marked => ?_), fun status => ?_⟩
          · exact Decidable.not_not.mp fun other => equal ⟨marked, other⟩
          · cases status with
            | ok => exact ⟨rfl, rfl⟩
            | _ => exact ⟨rfl, _, Move.responses_fail _ _ _⟩
    · exact trivial
  | _ => exact trivial

/-- **A request that is read asks for no write**, or for one in these ways. -/
theorem stores_plan (session : Session) (octets : List UInt8) :
    (session.plan (session.interpret octets)).Stores
      (session.Stores (session.interpret octets)) := by
  cases read : session.interpret octets with
  | expedited target data => exact stores_expedited octets read
  | downloadSegment toggle data last => exact stores_downloadSegment toggle data last
  | blockDownloadEnd padding checksum => exact stores_blockDownloadEnd padding checksum
  | _ => exact trivial

end Stores

end Session

/-- **A frame asks for at most one write**, which is checked. Behind it the session is at rest, and
the client is told whether the value is stored. -/
theorem Server.receive_stores {σ : Type} [Store σ] (server : Server) (recorded : Recorded σ)
    (frame : Frame) (time : Nat) :
    let reaction := server.receive recorded frame time
    reaction.store.writes = recorded.writes ∨
      ∃ target data accepted,
        server.session.Stores (server.session.interpret frame.octets) target data accepted ∧
        reaction.store.writes = recorded.writes ++ [⟨target, data, true⟩] ∧
        reaction.server.session = .idle target ∧
        ((Store.write recorded.inner target data true).outcome = .ok .ok ∧
            Event.responses reaction.events = [accepted] ∨
          (Store.write recorded.inner target data true).outcome ≠ .ok .ok ∧
            ∃ code, Event.responses reaction.events = [.abort target code]) := by
  intro reaction
  have stores := Session.stores_plan server.session frame.octets
  generalize planned : server.session.plan (server.session.interpret frame.octets) = plan at stores
  obtain ⟨leads, kept, responses⟩ := receive_run recorded time planned
  have written : reaction.store.writes = recorded.writes ++ plan.writes := by
    rw [kept]
    exact congrArg (Recorded.writes ∘ Prod.snd) (Plan.run_recorded _ recorded.inner recorded.writes)
  cases plan with
  | finish move => exact Or.inl (written.trans (List.append_nil _))
  | read session next => exact Or.inl (written.trans (List.append_nil _))
  | write session notices data next =>
    obtain ⟨accepted, holds, answers⟩ := stores
    refine Or.inr ⟨session.target, data, accepted, holds, written, ?_⟩
    cases outcome : (Store.write recorded.inner session.target data true).outcome with
    | error fault =>
      have failed : (Store.write recorded session.target data true).outcome = .error fault := outcome
      obtain ⟨rest, answer⟩ := Plan.run_write_fault failed
      exact ⟨leads.trans rest, Or.inr ⟨nofun, _, responses.trans answer⟩⟩
    | ok status =>
      have answered : (Store.write recorded session.target data true).outcome = .ok status := outcome
      obtain ⟨next, answer⟩ := Plan.run_write answered
      obtain ⟨rest, told⟩ := answers status
      refine ⟨leads.trans (next.trans rest), ?_⟩
      by_cases stored : status = .ok
      · rw [if_pos stored] at told
        exact Or.inl ⟨congrArg _ stored, responses.trans (answer.trans told)⟩
      · rw [if_neg stored] at told
        obtain ⟨code, told⟩ := told
        exact Or.inr ⟨fun same => stored (Except.ok.inj same), code,
          responses.trans (answer.trans told)⟩

end Canopen
