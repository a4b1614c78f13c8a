/-
**What a block upload sends again.**

* `Frame.isAck`, `Frame.acknowledged`, `Frame.sizeAfter`: what an acknowledgement tells.
* `Session.plan_isAck`: an acknowledgement is taken with the block size behind it.
* `Server.receiveAll_again`: acknowledgements of some of a window change the block size alone.
* `Server.receive_whole`: an acknowledgement of the whole window does not look at the block size
  before it.
* `Server.receive_again`: **what is missing of a window is sent again**, as often as it is asked
  for, and the transfer goes on as if all of it had been acknowledged at once.
-/

import Canopen.Proofs.Sendings

namespace Canopen

/-! ### Acknowledgements -/

namespace Frame

/-- The frame acknowledges segments of a block upload. -/
def isAck (frame : Frame) : Bool :=
  frame.octets.head?.any fun command =>
    Family.ofCommand command == .blockUpload && field command 0 2 == 2

/-- How many segments the frame acknowledges; none if it is too short to tell. -/
def acknowledged (frame : Frame) : Nat :=
  (frame.octets[1]?.map UInt8.toNat).getD 0

/-- The block size behind the frame, which stays as it is if the frame is too short to choose. -/
def sizeAfter (frame : Frame) (blockSize : Nat) : Nat :=
  match frame.octets[2]? with
  | some chosen => BlockUpload.clamp chosen.toNat
  | none => blockSize

/-- The block size behind frames, of which each may choose another one. -/
def sizeBehind (frames : List (Frame × Nat)) (blockSize : Nat) : Nat :=
  frames.foldl (fun size received => received.1.sizeAfter size) blockSize

theorem decode_isAck {frame : Frame} (acks : frame.isAck = true) :
    Request.decode frame.octets =
      .blockUploadAck frame.acknowledged (frame.octets[2]?.map UInt8.toNat) := by
  obtain ⟨command, first, kind⟩ := Option.any_eq_true _ _ |>.mp acks
  obtain ⟨rest, octets⟩ := List.head?_eq_some_iff.mp first
  rw [Bool.and_eq_true, beq_iff_eq, beq_iff_eq] at kind
  rw [acknowledged, octets, Request.decode_cons]
  simp only [kind.1, Request.decodeBlockUpload, Payload.command_ofList, kind.2]

/-- A block size within bounds stays as it is when it is clamped. -/
theorem clamp_sizeAfter (frame : Frame) {blockSize : Nat} (least : 1 ≤ blockSize)
    (most : blockSize ≤ greatestWindow) :
    BlockUpload.clamp ((frame.octets[2]?.map UInt8.toNat).getD blockSize) =
      frame.sizeAfter blockSize := by
  unfold sizeAfter
  cases frame.octets[2]? with
  | some chosen => rfl
  | none =>
    simp only [Option.map_none, Option.getD_none, BlockUpload.clamp]
    omega

end Frame

namespace BlockUpload.Stands

variable {upload : BlockUpload} {first count : Nat}

theorem sizeAfter (stands : upload.Stands first count) (frame : Frame) :
    { upload with blockSize := frame.sizeAfter upload.blockSize }.Stands first count := by
  rw [← frame.clamp_sizeAfter stands.least stands.most]
  exact stands.resize _

theorem sizeBehind (stands : upload.Stands first count) (frames : List (Frame × Nat)) :
    { upload with blockSize := Frame.sizeBehind frames upload.blockSize }.Stands first count := by
  induction frames generalizing upload with
  | nil => exact stands
  | cons received later ih => exact ih (stands.sizeAfter received.1)

end BlockUpload.Stands

namespace Session

/-! ### What an acknowledgement comes to -/

section Acks

variable {upload : BlockUpload} {first count : Nat} {frame : Frame}

theorem interpret_isAck {target : Target} (acks : frame.isAck = true) :
    interpret ⟨target, .blockUpload upload⟩ frame.octets =
      .blockUploadAck frame.acknowledged (frame.octets[2]?.map UInt8.toNat) := by
  rw [interpret_of_ready isReceiving_blockUpload, Frame.decode_isAck acks]

/-- An acknowledgement is taken with the block size behind it. -/
theorem plan_isAck (target : Target) (stands : upload.Stands first count) (running : 0 < count)
    (acks : frame.isAck = true) :
    plan ⟨target, .blockUpload upload⟩ (interpret ⟨target, .blockUpload upload⟩ frame.octets) =
      .finish (continueUpload target
        { upload with blockSize := frame.sizeAfter upload.blockSize } frame.acknowledged) := by
  have started : upload.started = true := by rw [stands.started, decide_eq_true running]
  rw [interpret_isAck acks]
  show Plan.finish (if upload.started then _ else _) = _
  rw [started, if_pos rfl, frame.clamp_sizeAfter stands.least stands.most]

end Acks

end Session

namespace Server

variable {σ : Type} [Store σ] {server : Server}

/-! ### Acknowledgements of a part -/

section Acknowledgements

variable {target : Target} {upload : BlockUpload} {first count : Nat}

/-- An acknowledgement of some of a window changes the block size alone, and what is missing of the
window is sent again. -/
theorem receive_partial (running : server.session = ⟨target, .blockUpload upload⟩)
    (stands : upload.Stands first count) {frame : Frame} (acks : frame.isAck = true)
    (missing : frame.acknowledged < count) (store : σ) (time : Nat) :
    let reaction := server.receive store frame time
    reaction.server = { server with session := ⟨target, .blockUpload
        { upload with blockSize := frame.sizeAfter upload.blockSize }⟩ } ∧
      reaction.store = store ∧
      Event.responses reaction.events =
        (upload.window.drop frame.acknowledged).map .blockSegment := by
  have planned := Session.plan_isAck target stands (Nat.zero_lt_of_lt missing) acks
  rw [← running, Session.continueUpload_again (stands.sizeAfter frame) missing] at planned
  obtain ⟨session, kept, responses⟩ := receive_done store time planned
  refine ⟨?_, kept, responses.trans ?_⟩
  · rw [receive_server, session, running, Session.interpret_isAck acks]
    rfl
  · rw [stands.window]
    exact Session.responses_sendSegments _

/-- **Acknowledgements of some of a window change the block size alone**, by induction on them. -/
theorem receiveAll_again (running : server.session = ⟨target, .blockUpload upload⟩)
    (stands : upload.Stands first count) (frames : List (Frame × Nat))
    (missing : ∀ received ∈ frames,
      received.1.isAck = true ∧ received.1.acknowledged < count) (store : σ) :
    let reaction := server.receiveAll store frames
    reaction.server = { server with session := ⟨target, .blockUpload
        { upload with blockSize := Frame.sizeBehind frames upload.blockSize }⟩ } ∧
      reaction.store = store := by
  induction frames generalizing server upload with
  | nil =>
    refine ⟨?_, rfl⟩
    show server = { server with session := ⟨target, .blockUpload upload⟩ }
    rw [← running]
  | cons received later ih =>
    obtain ⟨frame, time⟩ := received
    obtain ⟨acks, few⟩ : frame.isAck = true ∧ frame.acknowledged < count :=
      missing _ List.mem_cons_self
    obtain ⟨leads, kept, -⟩ := receive_partial running stands acks few store time
    have running : (server.receive store frame time).server.session = ⟨target, .blockUpload
        { upload with blockSize := frame.sizeAfter upload.blockSize }⟩ := by rw [leads]
    have rest := ih running (stands.sizeAfter frame) fun received member =>
      missing received (List.mem_cons_of_mem _ member)
    rw [leads] at rest
    rw [receiveAll_cons]
    simp only [leads, kept]
    exact rest

/-- An acknowledgement of the whole window comes to the same, whatever the block size was before. -/
theorem receive_whole {full direct : Frame} {blockSize : Nat}
    (running : server.session = ⟨target, .blockUpload upload⟩) (stands : upload.Stands first count)
    (held : { upload with blockSize := blockSize }.Stands first count) (positive : 0 < count)
    (fullAcks : full.isAck = true) (directAcks : direct.isAck = true)
    (whole : full.acknowledged = direct.acknowledged)
    (sizes : full.sizeAfter blockSize = direct.sizeAfter upload.blockSize) (store : σ)
    (last moment : Nat) :
    let resized := { server with
      session := ⟨target, .blockUpload { upload with blockSize := blockSize }⟩ }
    let ended := resized.receive store full last
    let straight := server.receive store direct moment
    ended.server = straight.server ∧ ended.Agrees straight := by
  intro resized ended straight
  have plans : resized.session.plan (resized.session.interpret full.octets) =
      server.session.plan (server.session.interpret direct.octets) := by
    rw [running, Session.plan_isAck target stands positive directAcks, ← sizes, ← whole]
    exact Session.plan_isAck target held positive fullAcks
  have agrees : ended.Agrees straight := receive_agrees plans store last moment
  have noted : resized.noted (resized.session.interpret full.octets) =
      server.noted (server.session.interpret direct.octets) := by
    rw [running, Session.interpret_isAck directAcks, Session.interpret_isAck fullAcks]
    rfl
  refine ⟨?_, agrees⟩
  show Server.mk server.sendId ended.server.session _ = Server.mk server.sendId _ _
  rw [agrees.session, noted]
  rfl

end Acknowledgements

/-- **What is missing of a window is sent again.** In every run, over any store, an acknowledgement
of fewer segments than are on their way is answered with the very frames that brought the others, in
their order. Only the block size changes. However often this happens, an acknowledgement of the
whole window then comes to what it comes to at once with the same block size. -/
theorem receive_again {sendId : UInt32} {store : σ} {operations : List Operation}
    {reached : Reaction σ} (leads : (new sendId).run store operations = reached)
    (awaiting : reached.server.session.phase = .awaitingAck) {frame : Frame}
    (acks : frame.isAck = true)
    (missing : frame.acknowledged < reached.server.session.readout.sequence) (time : Nat) :
    let session := reached.server.session
    let reaction := reached.server.receive reached.store frame time
    (∃ sent, Sent sendId store operations sent ∧
        sent.map (fun frame => field frame.payload.command 0 7) =
          List.range' 1 session.readout.sequence ∧
        reached.server.frames reaction.events = sent.drop frame.acknowledged) ∧
      reaction.server = { reached.server with
        session := session.resized (frame.sizeAfter session.readout.blockSize) } ∧
      reaction.store = reached.store ∧
      ∀ (later : List (Frame × Nat)) (full direct : Frame) (last moment : Nat),
        (∀ received ∈ later, received.1.isAck = true ∧
          received.1.acknowledged < session.readout.sequence) →
        full.isAck = true → full.acknowledged = session.readout.sequence →
        direct.isAck = true → direct.acknowledged = session.readout.sequence →
        full.sizeAfter (Frame.sizeBehind ((frame, time) :: later) session.readout.blockSize) =
          direct.sizeAfter session.readout.blockSize →
        let repeated := reached.server.receiveAll reached.store ((frame, time) :: later)
        let ended := repeated.server.receive repeated.store full last
        let straight := reached.server.receive reached.store direct moment
        ended.server = straight.server ∧ ended.Agrees straight := by
  subst leads
  obtain ⟨target, upload, running, started⟩ := Session.blockUpload_of_awaitingAck awaiting
  have sound := sound_run sendId store operations
  rw [running] at sound
  obtain ⟨first, count, stands⟩ := sound
  have sequence :
      ((new sendId).run store operations).server.session.readout.sequence = count := by
    rw [running]
    exact stands.length_window
  have size :
      ((new sendId).run store operations).server.session.readout.blockSize = upload.blockSize := by
    rw [running]
    rfl
  simp only [sequence, size]
  rw [sequence] at missing
  obtain ⟨changes, kept, responses⟩ := receive_partial running stands acks missing
    ((new sendId).run store operations).store time
  refine ⟨⟨_, run_sent sendId store operations awaiting, ?_, ?_⟩, ?_, kept, ?_⟩
  · rw [running]
    show (Segment.frames sendId upload.window).map _ = _
    rw [stands.window]
    exact Segment.numbers_frames sendId upload.value first stands.small
  · rw [frames_of_responses responses, sendId_run, running]
    exact List.map_drop
  · rw [changes, running]
    rfl
  · intro later full direct last moment fewer fullAcks fullWhole directAcks directWhole sizes
    obtain ⟨repeats, still⟩ := receiveAll_again running stands ((frame, time) :: later)
      (List.forall_mem_cons.mpr ⟨⟨acks, missing⟩, fewer⟩)
      ((new sendId).run store operations).store
    rw [repeats, still]
    exact receive_whole running stands (stands.sizeBehind _) (Nat.zero_lt_of_lt missing) fullAcks
      directAcks (fullWhole.trans directWhole.symm) sizes _ last moment

/-- The second window of a value of thirty octets, of which the client has one segment of three, and
then two; it learns nothing else from an acknowledgement too short to choose a block size. -/
theorem receive_again_second :
    let store := Dictionary.single ⟨0x2000, 1⟩ ((List.range 30).map UInt8.ofNat)
    let operations : List Operation :=
      [.frame (Request.blockUpload ⟨0x2000, 1⟩ true 1).frame 0,
        .frame Request.blockUploadStart.frame 1,
        .frame (Request.blockUploadAck 1 (some 3)).frame 2]
    let reached := (new 0x582).run store operations
    let first := (Request.blockUploadAck 1 (some 200)).frame
    let second := (Request.blockUploadAck 2 (some 5)).frame
    let short : Frame := ⟨0x602, 2, .ofList [0xA2, 3]⟩
    let reaction := reached.server.receive reached.store first 3
    let repeated := reached.server.receiveAll reached.store [(first, 3), (second, 4)]
    let ended := repeated.server.receive repeated.store short 5
    let straight := reached.server.receive reached.store
      (Request.blockUploadAck 3 (some 5)).frame 6
    reached.server.session.phase = .awaitingAck ∧ reached.server.session.readout.sequence = 3 ∧
      (∃ sent, Sent 0x582 store operations sent ∧
        sent.map (fun frame => field frame.payload.command 0 7) = [1, 2, 3] ∧
        reached.server.frames reaction.events = sent.drop 1) ∧
      reaction.server.session = reached.server.session.resized 127 ∧
      ended.server = straight.server := by
  intro store operations reached first second short reaction repeated ended straight
  have leads : (new 0x582).run store operations = reached := rfl
  have awaiting : reached.server.session.phase = .awaitingAck := by decide
  have sequence : reached.server.session.readout.sequence = 3 := by decide
  have acks : first.isAck = true := by decide
  have missing : first.acknowledged < reached.server.session.readout.sequence := by decide
  obtain ⟨sent, changes, -, goesOn⟩ := receive_again leads awaiting acks missing 3
  refine ⟨awaiting, sequence, sent, congrArg Server.session changes, ?_⟩
  exact (goesOn [(second, 4)] short (Request.blockUploadAck 3 (some 5)).frame 5 6
    (by decide) (by decide) (by decide) (by decide) (by decide) (by decide)).1

end Server

end Canopen
