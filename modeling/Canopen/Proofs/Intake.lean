/-
**What a receiving block download takes in.**

* `Frame.carried`: the seven octets behind the first one, missing ones zero.
* `BlockDownload.appended`: a download with a segment behind what it has received.
* `Server.Reaction.TakesIn`: a segment is taken in, and acknowledged if it ends its window.
* `Server.interpret_isReceiving`: while a block download is receiving, a frame is an abort or a
  segment.
* `Server.receive_intake`: **in every run a frame is noted, refused or taken in** as its first
  octet, the segments received and the declared size tell.
-/

import Canopen.Proofs.Stream

namespace Canopen

namespace Frame

/-- The seven octets behind the first one; what the frame is too short for is zero. -/
def carried (frame : Frame) : List UInt8 :=
  frame.octets.tail ++ List.replicate (segmentCapacity - frame.octets.tail.length) 0

variable {frame : Frame}

theorem octets_eq_cons (positive : 1 ≤ frame.length.toNat) :
    frame.octets = frame.payload.command :: frame.octets.tail := by
  obtain ⟨count, size⟩ := Nat.exists_eq_add_of_le' positive
  rw [octets, size]
  rfl

/-- A frame that is not empty, read as a segment. -/
theorem decode_octets (positive : 1 ≤ frame.length.toNat) :
    Segment.decode (.ofList frame.octets) =
      ⟨field frame.payload.command 0 7, flag frame.payload.command 7, frame.carried⟩ := by
  have octets := octets_eq_cons positive
  have few : frame.octets.tail.length ≤ segmentCapacity := by
    rw [List.length_tail, Frame.octets, List.length_take, Payload.length_toList]
    simp only [segmentCapacity]
    omega
  have body : (Payload.ofList frame.octets).body = frame.carried := by
    rw [carried, octets, Payload.body_ofList, List.tail_cons, List.take_of_length_le few]
  rw [Segment.decode, body, octets]
  rfl

end Frame

/-! ### Downloads -/

namespace BlockDownload

/-- The download with a segment behind what it has received. The numbers restart behind a segment
that ends its window. -/
def appended (download : BlockDownload) (number : Nat) (last : Bool) (data : List UInt8) :
    BlockDownload :=
  { download with
    received := download.received ++ data
    checksum :=
      if download.checksummed then Checksum.update download.checksum data else download.checksum
    sequence := if number = greatestWindow ∨ last = true then 0 else number
    complete := last }

variable {download : BlockDownload}

/-- Every declared octet is here exactly if there are segments, and their octets are enough. -/
theorem isFilled_iff (aligned : segmentCapacity ∣ download.received.length) :
    download.isFilled = true ↔ ∃ declared, download.declared = some declared ∧
      1 ≤ download.received.length / segmentCapacity ∧
      declared.toNat ≤ segmentCapacity * (download.received.length / segmentCapacity) := by
  have whole := Nat.mul_div_cancel' aligned
  have nonempty : download.received.isEmpty = false ↔
      1 ≤ download.received.length / segmentCapacity := by
    rw [List.isEmpty_eq_false_iff, ← List.length_pos_iff]
    simp only [segmentCapacity] at whole ⊢
    omega
  rw [isFilled, Option.any_eq_true]
  simp only [Bool.and_eq_true, Bool.not_eq_true', decide_eq_true_eq, nonempty, whole]

/-- A window ends with the greatest number, or with the last segment. -/
theorem closesWindow_eq {segment : Segment} (small : segment.number ≤ greatestWindow) :
    closesWindow segment = decide (segment.number = greatestWindow ∨ segment.last = true) := by
  have full : greatestWindow ≤ segment.number ↔ segment.number = greatestWindow := by omega
  rw [closesWindow, Bool.decide_or, Bool.decide_eq_true, decide_eq_decide.mpr full]

theorem follow_eq_appended (receiving : download.complete = false) {segment : Segment}
    (small : segment.number ≤ greatestWindow) :
    download.follow segment = download.appended segment.number segment.last segment.data := by
  unfold follow appended
  rw [closesWindow_eq small]
  by_cases ends : segment.number = greatestWindow ∨ segment.last = true
  · simp only [decide_eq_true ends, if_true, if_pos ends]
    rfl
  · simp only [decide_eq_false ends, Bool.false_eq_true, if_false, if_neg ends]
    rw [(Bool.not_eq_true _).mp (not_or.mp ends).2, ← receiving]
    rfl

end BlockDownload

namespace Server

variable {σ : Type} [Store σ] {server : Server} {frame : Frame}

/-- The segment that a frame brings is taken in: its octets stand behind those received, and it is
acknowledged if it ends its window. -/
structure Reaction.TakesIn (server : Server) (frame : Frame) (reaction : Reaction σ) : Prop where
  session : ∃ target download, server.session = ⟨target, .blockDownload download⟩ ∧
    reaction.server = { server with session := ⟨target, .blockDownload
      (download.appended (field frame.payload.command 0 7) (flag frame.payload.command 7)
        frame.carried)⟩ }
  /-- The acknowledgement names the segment and a greatest window. -/
  frames : server.frames reaction.events =
    if field frame.payload.command 0 7 = greatestWindow ∨ flag frame.payload.command 7 = true then
      [⟨server.sendId, 8, .ofList
        [0xA2, UInt8.ofNat (field frame.payload.command 0 7), UInt8.ofNat greatestWindow]⟩]
    else []
  phase : reaction.server.session.phase =
    if flag frame.payload.command 7 = true then .awaitingEnd else .receiving

/-- What needs no call on the store comes to the same over every store. -/
theorem receive_finish {move : Move}
    (planned : server.session.plan (server.session.interpret frame.octets) = .finish move)
    (store : σ) (time : Nat) {τ : Type} [Store τ] (other : τ) :
    let reaction := server.receive store frame time
    let elsewhere := server.receive other frame time
    elsewhere.server = reaction.server ∧ elsewhere.events = reaction.events ∧
      elsewhere.store = other := by
  simp only [receive, planned, Plan.run, and_self]

/-- While a block download is receiving, a frame is an abort or a segment. -/
theorem interpret_isReceiving (receiving : server.session.isReceiving = true)
    (positive : 1 ≤ frame.length.toNat) :
    server.session.interpret frame.octets =
      if frame.payload.command = Request.abortCommand then
        .aborted (Payload.ofList frame.octets).target (Payload.ofList frame.octets).double
      else .blockSegment ⟨field frame.payload.command 0 7, flag frame.payload.command 7,
        frame.carried⟩ := by
  have octets := Frame.octets_eq_cons positive
  have nonempty : frame.octets ≠ [] := by
    rw [octets]
    exact List.cons_ne_nil _ _
  have command : (Payload.ofList frame.octets).command = frame.payload.command := by
    rw [octets]
    rfl
  rw [Session.interpret, if_pos receiving, Request.decodeSegment]
  simp only [if_neg nonempty, command, Frame.decode_octets positive]

variable {target : Target} {download : BlockDownload}

/-- An abort of the client is noted while receiving. -/
theorem receive_aborted_isReceiving (receiving : server.session.isReceiving = true)
    (positive : 1 ≤ frame.length.toNat) (gone : frame.payload.command = Request.abortCommand)
    (store : σ) (time : Nat) :
    let reaction := server.receive store frame time
    reaction.server = { server with clientAbort := (Payload.ofList frame.octets).double } ∧
      Event.responses reaction.events = [] := by
  have read := interpret_isReceiving receiving positive
  rw [if_pos gone] at read
  have planned : server.session.plan (server.session.interpret frame.octets) =
      .finish (.done server.session [.note (.abortedByClient
        (Payload.ofList frame.octets).target (Payload.ofList frame.octets).double)]) := by
    rw [read]
    rfl
  obtain ⟨same, -, silent⟩ := receive_done store time planned
  refine ⟨?_, silent⟩
  rw [receive_server, same, read]
  rfl

/-- Any other frame is a segment while receiving. -/
theorem plan_isReceiving (session : server.session = ⟨target, .blockDownload download⟩)
    (receiving : download.complete = false) (positive : 1 ≤ frame.length.toNat)
    (plain : frame.payload.command ≠ Request.abortCommand) :
    server.session.interpret frame.octets = .blockSegment ⟨field frame.payload.command 0 7,
        flag frame.payload.command 7, frame.carried⟩ ∧
      server.session.plan (server.session.interpret frame.octets) =
        .finish (Session.takeBlockSegment target download ⟨field frame.payload.command 0 7,
          flag frame.payload.command 7, frame.carried⟩) := by
  have ready : server.session.isReceiving = true := by
    rw [session, Session.isReceiving_blockDownload, receiving]
    rfl
  have read := interpret_isReceiving ready positive
  rw [if_neg plain] at read
  refine ⟨read, ?_⟩
  rw [read, session]
  rfl

/-- No frame calls the store while receiving. -/
theorem finish_isReceiving (receiving : server.session.isReceiving = true)
    (positive : 1 ≤ frame.length.toNat) :
    ∃ move, server.session.plan (server.session.interpret frame.octets) = .finish move := by
  rw [interpret_isReceiving receiving positive]
  split
  · exact ⟨_, rfl⟩
  · exact ⟨_, rfl⟩

/-- **A segment that is expected, and for which there is room, is taken in.** -/
theorem receive_takesIn (session : server.session = ⟨target, .blockDownload download⟩)
    (receiving : download.complete = false) (positive : 1 ≤ frame.length.toNat)
    (plain : frame.payload.command ≠ Request.abortCommand)
    (expected : field frame.payload.command 0 7 = download.sequence + 1)
    (room : download.isFilled = false) (store : σ) (time : Nat) :
    (server.receive store frame time).TakesIn server frame := by
  have small : field frame.payload.command 0 7 ≤ greatestWindow :=
    Nat.le_of_lt_succ (Nat.mod_lt _ (by decide))
  obtain ⟨read, planned⟩ := plan_isReceiving session receiving positive plain
  rw [Session.takeBlockSegment_expected expected room] at planned
  obtain ⟨leads, -, responses⟩ := receive_done store time planned
  rw [BlockDownload.follow_eq_appended receiving small] at leads
  refine ⟨⟨target, download, session, ?_⟩, ?_, ?_⟩
  · rw [receive_server, leads, read]
    rfl
  · rw [frames, responses, BlockDownload.responses_acks, BlockDownload.acks,
      BlockDownload.closesWindow_eq small]
    simp only [decide_eq_true_eq]
    split
    · rfl
    · rfl
  · rw [leads]
    rfl

/-- **What a receiving block download does with a frame.** In every run, over any store, an abort of
the client is noted; another frame is refused unless its first octet numbers the segment that is
next, and refused as well if the declared octets are all here; and otherwise it is taken in as a
segment. No store is called. -/
theorem receive_intake {sendId : UInt32} {store : σ} {operations : List Operation}
    {reached : Reaction σ} (leads : (new sendId).run store operations = reached)
    (receiving : reached.server.session.phase = .receiving) {frame : Frame}
    (positive : 1 ≤ frame.length.toNat) (time : Nat) :
    let session := reached.server.session
    let reaction := reached.server.receive reached.store frame time
    let held := session.readout.size / segmentCapacity
    let command := frame.payload.command
    let expected := field command 0 7 = held % greatestWindow + 1
    let filled := ∃ declared, session.readout.declared = some declared ∧ 1 ≤ held ∧
      declared.toNat ≤ segmentCapacity * held
    (command = 0x80 →
        reaction.server = { reached.server with
          clientAbort := (Payload.ofList frame.octets).double } ∧
        Event.responses reaction.events = []) ∧
      (command ≠ 0x80 → ¬ expected → reaction.Aborted session.target 0x05040003) ∧
      (command ≠ 0x80 → expected → filled → reaction.Aborted session.target 0x06070012) ∧
      (command ≠ 0x80 → expected → ¬ filled → reaction.TakesIn reached.server frame) ∧
      ∀ {τ : Type} [Store τ] (other : τ),
        let elsewhere := reached.server.receive other frame time
        elsewhere.server = reaction.server ∧ elsewhere.events = reaction.events ∧
          elsewhere.store = other := by
  subst leads
  have sound := sound_run sendId store operations
  have ready : ((new sendId).run store operations).server.session.isReceiving = true :=
    beq_iff_eq.mpr receiving
  obtain ⟨target, download, session⟩ := Session.blockDownload_of_isReceiving ready
  have incomplete : download.complete = false := by
    rw [session, Session.isReceiving_blockDownload, Bool.not_eq_true'] at ready
    exact ready
  rw [session] at sound
  have sequence := BlockDownload.Sound.sequence sound incomplete
  have filled : download.isFilled = true ↔ _ := BlockDownload.isFilled_iff sound.aligned
  have size : ((new sendId).run store operations).server.session.readout.size =
      download.received.length := by
    rw [session]
    rfl
  have declared : ((new sendId).run store operations).server.session.readout.declared =
      download.declared := by
    rw [session]
    rfl
  have names : ((new sendId).run store operations).server.session.target = target := by
    rw [session]
  simp only [size, declared, names, ← sequence, ← filled]
  refine ⟨fun gone => receive_aborted_isReceiving ready positive gone _ time, ?_, ?_, ?_, ?_⟩
  · intro plain other
    obtain ⟨-, planned⟩ := plan_isReceiving session incomplete positive plain
    rw [Session.takeBlockSegment_other other] at planned
    exact (receive_fail _ time planned).1
  · intro plain expected full
    obtain ⟨-, planned⟩ := plan_isReceiving session incomplete positive plain
    rw [Session.takeBlockSegment_filled expected full] at planned
    exact (receive_fail _ time planned).1
  · intro plain expected room
    exact receive_takesIn session incomplete positive plain expected
      ((Bool.not_eq_true _).mp room) _ time
  · intro τ _ other
    obtain ⟨move, planned⟩ := finish_isReceiving ready positive
    exact receive_finish planned _ time other

/-- The second segment of ten octets, in a frame of four octets whose first one looks like that of
an abort. -/
theorem receive_intake_short :
    let reached := (new 0x582).run (Dictionary.single ⟨0x2000, 1⟩ [])
      [.frame (Request.blockDownload ⟨0x2000, 1⟩ true (some 10)).frame 0,
        .frame (Request.blockSegment ⟨1, false, [1, 2, 3, 4, 5, 6, 7]⟩).frame 1]
    let frame : Frame := ⟨0x602, 4, .ofList [0x82, 8, 9, 10, 77]⟩
    let reaction := reached.server.receive reached.store frame 2
    reached.server.session.phase = .receiving ∧ 1 ≤ frame.length.toNat ∧
      Family.ofCommand frame.payload.command = .abort ∧
      frame.carried = [8, 9, 10, 0, 0, 0, 0] ∧ reaction.TakesIn reached.server frame ∧
      reached.server.frames reaction.events = [⟨0x582, 8, .ofList [0xA2, 2, 127]⟩] := by
  intro reached frame reaction
  have leads : (new 0x582).run (Dictionary.single ⟨0x2000, 1⟩ [])
      [.frame (Request.blockDownload ⟨0x2000, 1⟩ true (some 10)).frame 0,
        .frame (Request.blockSegment ⟨1, false, [1, 2, 3, 4, 5, 6, 7]⟩).frame 1] = reached := rfl
  have receiving : reached.server.session.phase = .receiving := by decide
  have positive : 1 ≤ frame.length.toNat := by decide
  obtain ⟨-, -, -, takes, -⟩ := receive_intake leads receiving positive 2
  have takesIn : reaction.TakesIn reached.server frame := by
    refine takes (by decide) (by decide) ?_
    rintro ⟨declared, known, -, enough⟩
    rw [← Option.some.inj known] at enough
    exact absurd enough (by decide)
  have last : field frame.payload.command 0 7 = greatestWindow ∨
      flag frame.payload.command 7 = true := by decide
  refine ⟨receiving, positive, by decide, by decide, takesIn, ?_⟩
  rw [takesIn.frames, if_pos last]
  decide

end Server

end Canopen
