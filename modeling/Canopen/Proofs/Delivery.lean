/-
**A block upload brings its client the value, however the client acknowledges.**

* `Exchange`: a server, its store and its client in the middle of a block upload.
* `Exchange.Follows`: the exchanges that follow from an opening: a start, then acknowledgements of
  some or all of the segments sent, each with any block size, and any change of the store between.
* `Exchange.Delivers`: what the client has by then, and what the server answers next.
* `Exchange.Tied`: what holds of the server and its client together; every step keeps it.
* `Server.receive_blockUpload_delivers`: **what follows from an opening delivers**.
-/

import Canopen.Proofs.Encodings
import Canopen.Proofs.Figures
import Canopen.Proofs.Receiver
import Canopen.Proofs.Recorded

namespace Canopen

/-- A server, its store and its client in the middle of a block upload. -/
structure Exchange (σ : Type) where
  server : Server
  store : σ
  receiver : Receiver
  /-- How many windows the client has acknowledged as a whole. -/
  windows : Nat

namespace Exchange

variable {σ : Type}

/-- The client takes a window for complete, and will start the next one. -/
def turn (exchange : Exchange σ) : Exchange σ :=
  { exchange with receiver := exchange.receiver.turn, windows := exchange.windows + 1 }

variable [Store σ]

/-- What the server answers to a frame. -/
def answers (exchange : Exchange σ) (frame : Frame) (time : Nat) : List Response :=
  Event.responses (exchange.server.receive exchange.store frame time).events

/-- The client sends a frame, and files what the server answers. -/
def hear (exchange : Exchange σ) (frame : Frame) (time : Nat) : Exchange σ :=
  let reaction := exchange.server.receive exchange.store frame time
  { exchange with
    server := reaction.server
    store := reaction.store
    receiver := exchange.receiver.fileAll ((exchange.answers frame time).map Response.encode) }

/-- What follows from an exchange. -/
inductive Follows (opened : Exchange σ) : Exchange σ → Prop
  | opened : Follows opened opened
  /-- The client asks for the first window. -/
  | start {exchange : Exchange σ} {frame : Frame} (time : Nat) (before : Follows opened exchange)
      (fresh : exchange.receiver.window = []) (brings : frame.Brings .blockUploadStart) :
      Follows opened (exchange.hear frame time)
  /-- The client acknowledges fewer segments than were sent. -/
  | again {exchange : Exchange σ} {frame : Frame} {acknowledged : Nat} (blockSize : UInt8)
      (time : Nat) (before : Follows opened exchange)
      (missing : acknowledged < exchange.receiver.window.length)
      (brings : frame.Brings (.blockUploadAck acknowledged (some blockSize.toNat))) :
      Follows opened (exchange.hear frame time)
  /-- The client acknowledges the whole window, which is not the last one. -/
  | next {exchange : Exchange σ} {frame : Frame} (blockSize : UInt8) (time : Nat)
      (before : Follows opened exchange) (arrived : exchange.receiver.window ≠ [])
      (more : exchange.receiver.complete = false)
      (brings : frame.Brings
        (.blockUploadAck exchange.receiver.window.length (some blockSize.toNat))) :
      Follows opened (exchange.turn.hear frame time)
  /-- The store changes on this side. -/
  | aside {exchange : Exchange σ} (before : Follows opened exchange) (store : σ) :
      Follows opened { exchange with store := store }

/-- The client has the first `first` chunks of the value and the `count` chunks behind them that
are on their way, and this is what the server answers next, with the octets of what it sends. -/
structure Delivers (target : Target) (value : List UInt8) (checksummed : Bool) (opening : UInt8)
    (exchange : Exchange σ) (first count : Nat) : Prop where
  filed : exchange.receiver.filed = value.take (segmentCapacity * first)
  window : exchange.receiver.window = (Segment.window value first count).map Segment.padded
  octets : ∀ segment ∈ Segment.window value first count,
    (Response.blockSegment segment).encode =
      .ofList ((if segment.last then UInt8.ofNat segment.number ||| 0x80
        else UInt8.ofNat segment.number) :: segment.data)
  complete : exchange.receiver.complete = true ↔ first + count = chunkCount value
  few : exchange.windows < chunkCount value
  start : exchange.receiver.window = [] → ∀ (frame : Frame) (time : Nat),
    frame.Brings .blockUploadStart → exchange.answers frame time =
      (Segment.window value 0 (min (BlockUpload.clamp opening.toNat) (chunkCount value))).map
        .blockSegment
  again : ∀ (frame : Frame) (time acknowledged : Nat) (blockSize : UInt8), acknowledged < count →
    frame.Brings (.blockUploadAck acknowledged (some blockSize.toNat)) →
      exchange.answers frame time =
        ((Segment.window value first count).drop acknowledged).map .blockSegment
  next : 0 < count → first + count < chunkCount value →
    ∀ (frame : Frame) (time : Nat) (blockSize : UInt8),
      frame.Brings (.blockUploadAck count (some blockSize.toNat)) →
        exchange.answers frame time = (Segment.window value (first + count)
          (min (BlockUpload.clamp blockSize.toNat)
            (chunkCount value - (first + count)))).map .blockSegment
  close : first + count = chunkCount value →
    ∀ (frame : Frame) (time : Nat) (blockSize : UInt8),
      frame.Brings (.blockUploadAck count (some blockSize.toNat)) →
        ∃ ending : Response, exchange.answers frame time = [ending] ∧
          ending = .blockUploadEnd (segmentCapacity * chunkCount value - value.length)
            (if checksummed then some (Checksum.of value) else none) ∧
          ending.encode = .ofList (((0xC1 : UInt8) |||
            UInt8.ofNat (segmentCapacity * chunkCount value - value.length) <<< 2) ::
              if checksummed then Octets.of16 (Checksum.of value) else []) ∧
          (exchange.hear frame time).server.session = .idle target ∧
          exchange.receiver.turn.value ending.encode = value

/-- What holds of a server and its client together: the client has filed what the server has sent,
and has acknowledged no more windows than chunks. -/
structure Tied (target : Target) (value : List UInt8) (checksummed : Bool) (opening : UInt8)
    (exchange : Exchange σ) (upload : BlockUpload) (first count : Nat) : Prop where
  session : exchange.server.session = ⟨target, .blockUpload upload⟩
  stands : upload.Stands first count
  source : upload.value = value
  mark : upload.checksummed = checksummed
  filed : exchange.receiver.filed = value.take (segmentCapacity * first)
  window : exchange.receiver.window = (Segment.window value first count).map Segment.padded
  complete : exchange.receiver.complete = (Segment.window value first count).any Segment.last
  paced : exchange.windows ≤ first
  opening : count = 0 → upload.blockSize = BlockUpload.clamp opening.toNat

end Exchange

/-! ### What the server answers -/

namespace Session

variable {target : Target} {upload : BlockUpload} {first count : Nat}

theorem isReceiving_blockUpload : isReceiving ⟨target, .blockUpload upload⟩ = false := by
  obtain ⟨_, _, _, _, _, started, _⟩ := upload
  cases started <;> rfl

theorem responses_sendSegments (segments : List Segment) :
    Event.responses (sendSegments segments) = segments.map .blockSegment := by
  rw [sendSegments, Event.responses, List.filterMap_map]
  exact congrFun List.filterMap_eq_map' segments

/-- The next window, and the session with it on the way. -/
theorem responses_sendWindow (stands : upload.Stands first count)
    (more : first + count < chunkCount upload.value) :
    (sendWindow target upload).responses = (Segment.window upload.value (first + count)
      (min upload.blockSize (chunkCount upload.value - (first + count)))).map .blockSegment := by
  have window := (stands.advance more).window
  show Event.responses (sendSegments upload.advance.window ++ [.note _]) = _
  rw [Event.responses_append, responses_sendSegments, window]
  exact List.append_nil _

variable {frame : Frame}

theorem plan_blockUploadStart (target : Target) (stands : upload.Stands 0 0)
    (brings : frame.Brings .blockUploadStart) :
    plan ⟨target, .blockUpload upload⟩ (interpret ⟨target, .blockUpload upload⟩ frame.octets) =
      .finish (sendWindow target upload) := by
  have waiting : upload.started = false := stands.started
  have fits : Request.blockUploadStart.Fits := trivial
  rw [interpret_of_brings isReceiving_blockUpload fits brings]
  show Plan.finish (if upload.started then _ else _) = _
  rw [waiting, if_neg Bool.false_ne_true]

theorem plan_blockUploadAck (target : Target) (stands : upload.Stands first count)
    (running : 0 < count) {acknowledged : Nat} (known : acknowledged ≤ count) {blockSize : UInt8}
    (brings : frame.Brings (.blockUploadAck acknowledged (some blockSize.toNat))) :
    plan ⟨target, .blockUpload upload⟩ (interpret ⟨target, .blockUpload upload⟩ frame.octets) =
      .finish (continueUpload target
        { upload with blockSize := BlockUpload.clamp blockSize.toNat } acknowledged) := by
  have small := stands.small
  have fits : (Request.blockUploadAck acknowledged (some blockSize.toNat)).Fits := by
    refine ⟨?_, blockSize.toNat_lt⟩
    simp only [greatestWindow, UInt8.size] at small ⊢
    omega
  have started : upload.started = true := by rw [stands.started, decide_eq_true running]
  rw [interpret_of_brings isReceiving_blockUpload fits brings]
  show Plan.finish (if upload.started then _ else _) = _
  rw [started, if_pos rfl]
  rfl

/-- Some of the segments are missing: they are sent again. -/
theorem continueUpload_again (stands : upload.Stands first count) {acknowledged : Nat}
    (missing : acknowledged < count) :
    continueUpload target upload acknowledged =
      .done ⟨target, .blockUpload upload⟩ (.note (.resending target acknowledged count) ::
        sendSegments ((Segment.window upload.value first count).drop acknowledged)) := by
  have length := stands.length_window
  unfold continueUpload
  simp only [length]
  rw [if_neg (Nat.not_lt.mpr (Nat.le_of_lt missing)), if_pos missing, stands.window]

/-- The window is there, and it was not the last one. -/
theorem continueUpload_next (stands : upload.Stands first count)
    (more : first + count < chunkCount upload.value) :
    continueUpload target upload count = sendWindow target upload := by
  have length := stands.length_window
  have rest : ¬ upload.rest = [] := by
    rw [stands.rest_eq_nil_iff]
    exact Nat.ne_of_lt more
  unfold continueUpload
  simp only [length]
  rw [if_neg (Nat.lt_irrefl _), if_neg (Nat.lt_irrefl _), if_neg rest]

/-- The window is there, and it was the last one. -/
theorem continueUpload_close (stands : upload.Stands first count)
    (ends : first + count = chunkCount upload.value) :
    continueUpload target upload count = closeBlockUpload target upload := by
  have length := stands.length_window
  unfold continueUpload
  simp only [length]
  rw [if_neg (Nat.lt_irrefl _), if_neg (Nat.lt_irrefl _), if_pos (stands.rest_eq_nil_iff.mpr ends)]

/-- **The end of a block upload** tells the octets that are not used and the checksum. -/
theorem responses_closeBlockUpload (stands : upload.Stands first count) (running : 0 < count)
    (ends : first + count = chunkCount upload.value) :
    (closeBlockUpload target upload).responses =
      [.blockUploadEnd (segmentCapacity * chunkCount upload.value - upload.value.length)
        (if upload.checksummed then some (Checksum.of upload.value) else none)] := by
  have sent : upload.value.take upload.sent = upload.value := by
    refine List.take_of_length_le (Nat.le_of_eq ?_)
    rw [stands.sent, ends, min_mul_chunkCount]
  have checksum := stands.checksum
  rw [sent] at checksum
  show [Response.blockUploadEnd upload.unused
    (if upload.checksummed then some upload.checksum else none)] = _
  rw [stands.unused running ends, checksum]
  cases upload.checksummed <;> rfl

/-- A value that is read is announced. -/
theorem run_openBlockUpload {σ : Type} [Store σ] {store : σ} {value : List UInt8}
    (checksummed : Bool) (blockSize : Nat)
    (read : (Store.read store target true).outcome = .ok (.supplied value))
    (nonempty : value ≠ []) :
    (Server.conclude ((openBlockUpload target checksummed blockSize).run store).1).1 =
        ⟨target, .blockUpload
          ⟨value, 0, BlockUpload.clamp blockSize, checksummed, 0, false, []⟩⟩ ∧
      ((openBlockUpload target checksummed blockSize).run store).1.responses =
        [.blockUploadStarted target checksummed value.length] := by
  have answered : (Store.read store (idle target).target true).outcome =
    .ok (.supplied value) := read
  have kept (next : List UInt8 → Move) :
      (idle target).afterRead (.supplied value) next = next value := if_neg nonempty
  unfold openBlockUpload
  obtain ⟨leads, answers⟩ := Plan.run_read answered
  rw [leads, answers, kept]
  exact ⟨rfl, rfl⟩

end Session

namespace Exchange

variable {σ : Type} {target : Target} {value : List UInt8} {checksummed : Bool}
  {opening blockSize : UInt8} {exchange : Exchange σ} {upload : BlockUpload} {first count : Nat}
  {frame : Frame}

/-- Segments that are answered are filed. -/
theorem receiver_hear [Store σ] {time : Nat} {segments : List Segment}
    (answers : exchange.answers frame time = segments.map .blockSegment) :
    (exchange.hear frame time).receiver =
      exchange.receiver.fileAll (Receiver.payloads segments) := by
  show exchange.receiver.fileAll ((exchange.answers frame time).map Response.encode) = _
  rw [answers, List.map_map]
  rfl

namespace Tied

/-- The client has a window exactly if one is on its way. -/
theorem length_window (tied : exchange.Tied target value checksummed opening upload first count) :
    exchange.receiver.window.length = count := by
  rw [tied.window, List.length_map, Segment.length_window]

theorem complete_iff (tied : exchange.Tied target value checksummed opening upload first count) :
    exchange.receiver.complete = true ↔ 0 < count ∧ first + count = chunkCount value := by
  have within := tied.stands.within
  rw [tied.source] at within
  rw [tied.complete, Segment.any_last_window within, decide_eq_true_eq]

/-- The window on its way starts inside the value. -/
theorem inner (tied : exchange.Tied target value checksummed opening upload first count) :
    first < chunkCount value := by
  have within := tied.stands.within
  have positive := chunkCount_pos tied.stands.nonempty
  rw [tied.source] at within positive
  rcases Nat.eq_zero_or_pos count with idle | running
  · rw [tied.stands.fresh idle]
    exact positive
  · omega

/-! ### One frame -/

variable [Store σ]

theorem hear_start (tied : exchange.Tied target value checksummed opening upload first 0)
    (brings : frame.Brings .blockUploadStart) (time : Nat) :
    (exchange.hear frame time).server.session = ⟨target, .blockUpload upload.advance⟩ ∧
      exchange.answers frame time = (Segment.window value 0
        (min (BlockUpload.clamp opening.toNat) (chunkCount value))).map .blockSegment := by
  obtain rfl := tied.source
  obtain rfl := tied.stands.fresh rfl
  have more : 0 + 0 < chunkCount upload.value := chunkCount_pos tied.stands.nonempty
  have planned := Session.plan_blockUploadStart target tied.stands brings
  rw [← tied.session] at planned
  obtain ⟨session, -, responses⟩ := Server.receive_run exchange.store time planned
  refine ⟨session, responses.trans ?_⟩
  rw [← tied.opening rfl]
  exact Session.responses_sendWindow tied.stands more

theorem hear_again (tied : exchange.Tied target value checksummed opening upload first count)
    {acknowledged : Nat} (missing : acknowledged < count)
    (brings : frame.Brings (.blockUploadAck acknowledged (some blockSize.toNat))) (time : Nat) :
    (exchange.hear frame time).server.session =
        ⟨target, .blockUpload { upload with blockSize := BlockUpload.clamp blockSize.toNat }⟩ ∧
      exchange.answers frame time =
        ((Segment.window value first count).drop acknowledged).map .blockSegment := by
  obtain rfl := tied.source
  have planned := Session.plan_blockUploadAck target tied.stands
    (Nat.zero_lt_of_lt missing) (Nat.le_of_lt missing) brings
  rw [← tied.session, Session.continueUpload_again (tied.stands.resize _) missing] at planned
  obtain ⟨session, -, responses⟩ := Server.receive_done exchange.store time planned
  exact ⟨session, responses.trans (Session.responses_sendSegments _)⟩

theorem hear_next (tied : exchange.Tied target value checksummed opening upload first count)
    (running : 0 < count) (more : first + count < chunkCount value)
    (brings : frame.Brings (.blockUploadAck count (some blockSize.toNat))) (time : Nat) :
    (exchange.hear frame time).server.session = ⟨target, .blockUpload
        { upload with blockSize := BlockUpload.clamp blockSize.toNat }.advance⟩ ∧
      exchange.answers frame time = (Segment.window value (first + count)
        (min (BlockUpload.clamp blockSize.toNat)
          (chunkCount value - (first + count)))).map .blockSegment := by
  obtain rfl := tied.source
  have resized := tied.stands.resize blockSize.toNat
  have planned := Session.plan_blockUploadAck target tied.stands running
    (Nat.le_refl _) brings
  rw [← tied.session, Session.continueUpload_next resized more] at planned
  obtain ⟨session, -, responses⟩ := Server.receive_run exchange.store time planned
  exact ⟨session, responses.trans (Session.responses_sendWindow resized more)⟩

theorem hear_close (tied : exchange.Tied target value checksummed opening upload first count)
    (running : 0 < count) (ends : first + count = chunkCount value)
    (brings : frame.Brings (.blockUploadAck count (some blockSize.toNat))) (time : Nat) :
    (exchange.hear frame time).server.session = .idle target ∧
      exchange.answers frame time =
        [.blockUploadEnd (segmentCapacity * chunkCount value - value.length)
          (if checksummed then some (Checksum.of value) else none)] := by
  obtain rfl := tied.source
  obtain rfl := tied.mark
  have resized := tied.stands.resize blockSize.toNat
  have planned := Session.plan_blockUploadAck target tied.stands running
    (Nat.le_refl _) brings
  rw [← tied.session, Session.continueUpload_close resized ends] at planned
  obtain ⟨session, -, responses⟩ := Server.receive_run exchange.store time planned
  exact ⟨session, responses.trans (Session.responses_closeBlockUpload resized running ends)⟩

/-! ### Every step keeps what holds -/

theorem start (tied : exchange.Tied target value checksummed opening upload first 0)
    (brings : frame.Brings .blockUploadStart) (time : Nat) :
    (exchange.hear frame time).Tied target value checksummed opening upload.advance 0
      (min (BlockUpload.clamp opening.toNat) (chunkCount value)) := by
  obtain ⟨session, answers⟩ := tied.hear_start brings time
  have first_eq := tied.stands.fresh rfl
  have stands := tied.stands.advance (by
    rw [first_eq]
    exact chunkCount_pos tied.stands.nonempty)
  rw [first_eq, tied.opening rfl, tied.source] at stands
  have fresh : exchange.receiver.window = [] := tied.window
  have unmarked : exchange.receiver.complete = false := tied.complete
  have receiver := (receiver_hear answers).trans
    (Receiver.fileAll_window exchange.receiver fresh stands.small)
  rw [unmarked, Bool.false_or] at receiver
  have filed := tied.filed
  rw [first_eq] at filed
  refine ⟨session, stands, tied.source, tied.mark, ?_, ?_, ?_, ?_, fun idle => ?_⟩
  · rw [receiver]
    exact filed
  · rw [receiver]
  · rw [receiver]
  · rw [← first_eq]
    exact tied.paced
  · have least := (BlockUpload.clamp_bounds opening.toNat).1
    have inner := tied.inner
    omega

theorem again (tied : exchange.Tied target value checksummed opening upload first count)
    {acknowledged : Nat} (missing : acknowledged < count)
    (brings : frame.Brings (.blockUploadAck acknowledged (some blockSize.toNat))) (time : Nat) :
    (exchange.hear frame time).Tied target value checksummed opening
      { upload with blockSize := BlockUpload.clamp blockSize.toNat } first count := by
  obtain ⟨session, answers⟩ := tied.hear_again missing brings time
  have receiver := (receiver_hear answers).trans
    (Receiver.fileAll_again tied.window tied.complete tied.stands.small acknowledged)
  refine ⟨session, tied.stands.resize _, tied.source, tied.mark, ?_, ?_, ?_, tied.paced,
    fun idle => absurd missing (by omega)⟩
  · rw [receiver, tied.filed]
  · rw [receiver, tied.window]
  · rw [receiver, tied.complete]

theorem next (tied : exchange.Tied target value checksummed opening upload first count)
    (running : 0 < count) (more : first + count < chunkCount value)
    (brings : frame.Brings (.blockUploadAck count (some blockSize.toNat))) (time : Nat) :
    (exchange.turn.hear frame time).Tied target value checksummed opening
      { upload with blockSize := BlockUpload.clamp blockSize.toNat }.advance (first + count)
      (min (BlockUpload.clamp blockSize.toNat) (chunkCount value - (first + count))) := by
  obtain ⟨session, answers⟩ := tied.hear_next running more brings time
  obtain rfl := tied.source
  have stands := (tied.stands.resize blockSize.toNat).advance more
  have unmarked : exchange.receiver.complete = false := by
    rw [← Bool.not_eq_true, tied.complete_iff]
    omega
  have turned : exchange.turn.answers frame time = _ := answers
  have marked : exchange.turn.receiver.complete = false := unmarked
  have receiver := (receiver_hear turned).trans
    (Receiver.fileAll_window exchange.turn.receiver rfl stands.small)
  rw [marked, Bool.false_or] at receiver
  have full : segmentCapacity * (first + count) - upload.value.length = 0 :=
    Nat.sub_eq_zero_of_le (Nat.le_of_lt (lt_chunkCount_iff.mp more))
  have filed := Receiver.filed_turn tied.filed tied.window tied.inner (Nat.le_of_lt more)
  rw [full, List.replicate_zero, List.append_nil] at filed
  have paced := tied.paced
  refine ⟨session, stands, rfl, tied.mark, ?_, ?_, ?_, ?_, fun idle => ?_⟩
  · rw [receiver]
    exact filed
  · rw [receiver]
  · rw [receiver]
  · show exchange.windows + 1 ≤ first + count
    omega
  · have least := (BlockUpload.clamp_bounds blockSize.toNat).1
    omega

/-- **What is tied delivers.** -/
theorem delivers (tied : exchange.Tied target value checksummed opening upload first count) :
    exchange.Delivers target value checksummed opening first count := by
  have inner := tied.inner
  have paced := tied.paced
  refine ⟨tied.filed, tied.window, ?_, ?_, by omega, ?_, ?_, ?_, ?_⟩
  · intro segment member
    obtain ⟨place, below, rfl⟩ := Segment.mem_window member
    exact Response.octets_blockSegment (Nat.le_trans below tied.stands.small)
  · rw [tied.complete_iff]
    omega
  · intro fresh frame time brings
    have idle : 0 = count := by rw [← tied.length_window, fresh, List.length_nil]
    subst idle
    exact (tied.hear_start brings time).2
  · intro frame time acknowledged blockSize missing brings
    exact (tied.hear_again missing brings time).2
  · intro running more frame time blockSize brings
    exact (tied.hear_next running more brings time).2
  · intro ends frame time blockSize brings
    have running : 0 < count := by omega
    obtain ⟨session, answers⟩ := tied.hear_close running ends brings time
    have fits : segmentCapacity * chunkCount value - value.length ≤ segmentCapacity := by
      simp only [chunkCount, segmentCapacity]
      omega
    have octets := Response.octets_blockUploadEnd fits
      (if checksummed then some (Checksum.of value) else none)
    refine ⟨_, answers, rfl, octets.trans ?_, session,
      Receiver.value_turn tied.filed tied.window inner ends _⟩
    cases checksummed <;> rfl

end Tied

variable [Store σ]

/-- **What follows from a tied opening is tied**, by induction on the steps. -/
theorem Follows.tied {opened : Exchange σ} (follows : opened.Follows exchange)
    (begins : opened.Tied target value checksummed opening upload 0 0) :
    ∃ upload first count, exchange.Tied target value checksummed opening upload first count := by
  induction follows with
  | opened => exact ⟨upload, 0, 0, begins⟩
  | start time before fresh brings ih =>
    obtain ⟨upload, first, count, tied⟩ := ih
    have idle : 0 = count := by rw [← tied.length_window, fresh, List.length_nil]
    subst idle
    exact ⟨_, _, _, tied.start brings time⟩
  | again blockSize time before missing brings ih =>
    obtain ⟨upload, first, count, tied⟩ := ih
    rw [tied.length_window] at missing
    exact ⟨_, _, _, tied.again missing brings time⟩
  | next blockSize time before arrived more brings ih =>
    obtain ⟨upload, first, count, tied⟩ := ih
    have within := tied.stands.within
    rw [tied.source] at within
    have running : 0 < count := by
      rw [← tied.length_window]
      exact List.length_pos_iff.mpr arrived
    have unfinished : first + count ≠ chunkCount value := fun ends =>
      Bool.false_ne_true (more.symm.trans (tied.complete_iff.mpr ⟨running, ends⟩))
    rw [tied.length_window] at brings
    exact ⟨_, _, _, tied.next running (Nat.lt_of_le_of_ne within unfinished) brings time⟩
  | aside before store ih =>
    obtain ⟨upload, first, count, tied⟩ := ih
    exact ⟨upload, first, count, { tied with }⟩

end Exchange

/-! ### The opening -/

namespace Server

variable {σ : Type} [Store σ] {server : Server} {store : σ} {frame : Frame} {target : Target}
  {checksummed : Bool} {opening : UInt8} {value : List UInt8}

/-- A value that is read is announced, and nothing of it is sent yet. -/
theorem receive_blockUpload (ready : server.session.isReceiving = false)
    (brings : frame.Brings (.blockUpload target checksummed opening.toNat))
    (read : (Store.read store target true).outcome = .ok (.supplied value))
    (nonempty : value ≠ []) (time : Nat) :
    let reaction := server.receive store frame time
    reaction.server.session = ⟨target, .blockUpload
        ⟨value, 0, BlockUpload.clamp opening.toNat, checksummed, 0, false, []⟩⟩ ∧
      Event.responses reaction.events = [.blockUploadStarted target checksummed value.length] := by
  have fits : (Request.blockUpload target checksummed opening.toNat).Fits := opening.toNat_lt
  have planned : server.session.plan (server.session.interpret frame.octets) =
      Session.openBlockUpload target checksummed opening.toNat := by
    rw [Session.interpret_of_brings ready fits brings]
    rfl
  obtain ⟨session, -, responses⟩ := receive_run store time planned
  obtain ⟨leads, answers⟩ := Session.run_openBlockUpload checksummed opening.toNat read nonempty
  exact ⟨session.trans leads, responses.trans answers⟩

/-- The size announced is read back by the client. -/
theorem double_blockUploadStarted (target : Target) (checksummed : Bool) {size : Nat}
    (small : size < UInt32.size) :
    (Response.blockUploadStarted target checksummed size).encode.double.toNat = size := by
  show (Octets.word32 (Octets.ofNat 4 size)).toNat = size
  rw [Octets.word32, Octets.toNat_ofNat, UInt32.toNat_ofNat']
  simp only [Octets.range, UInt32.size] at small ⊢
  omega

end Server

end Canopen
