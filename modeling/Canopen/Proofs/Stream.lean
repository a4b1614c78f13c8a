/-
**A block download stores what its client sends.**

* `Segment.stream`: the segments that bring a body, numbered from one in every window.
* `Carries`: frames that bring segments in order, with aborts of the client anywhere between them.
* `BlockDownload.Holds`: what a download holds behind the first segments of a body; every segment
  keeps it, and so does a whole stream (`Server.receiveAll_carries`).
* `Server.BringsBlocks`: the frames of a block download; what they bring is held at its end
  (`Server.BringsBlocks.held`).
* `Server.receive_blockDownload_stores`: **the value is written once, as it was sent.**
-/

import Canopen.Proofs.Chunks
import Canopen.Proofs.Encodings
import Canopen.Proofs.Figures
import Canopen.Proofs.Recorded

namespace Canopen

/-- The frame begins with the abort octet of a client. -/
def Frame.isAbort (frame : Frame) : Bool :=
  frame.octets.head? == some Request.abortCommand

namespace Segment

/-- The segment at a place of a stream, the first at zero. -/
def ofPlace (body : List UInt8) (place : Nat) : Segment where
  number := place % greatestWindow + 1
  last := place + 1 = chunkCount body
  data := chunk body place

theorem number_ofPlace_le (body : List UInt8) (place : Nat) :
    (ofPlace body place).number ≤ greatestWindow := by
  show place % greatestWindow + 1 ≤ greatestWindow
  simp only [greatestWindow]
  omega

/-- The segments that bring a body. -/
def stream (body : List UInt8) : List Segment :=
  (List.range (chunkCount body)).map (ofPlace body)

theorem length_stream (body : List UInt8) : (stream body).length = chunkCount body := by
  rw [stream, List.length_map, List.length_range]

/-- The next segment of a stream, and those behind it. -/
theorem drop_stream {body : List UInt8} {place : Nat} (inner : place < chunkCount body) :
    (stream body).drop place = ofPlace body place :: (stream body).drop (place + 1) := by
  rw [List.drop_eq_getElem_cons ((length_stream body).symm ▸ inner)]
  simp only [stream, List.getElem_map, List.getElem_range]

theorem getElem?_stream {body : List UInt8} {place : Nat} {segment : Segment}
    (here : (stream body)[place]? = some segment) :
    place < chunkCount body ∧ segment = ofPlace body place := by
  obtain ⟨inside, same⟩ := List.getElem?_eq_some_iff.mp here
  simp only [stream, List.length_map, List.length_range] at inside
  simp only [stream, List.getElem_map, List.getElem_range] at same
  exact ⟨inside, same.symm⟩

end Segment

/-- Frames that bring segments in order; aborts of the client may stand anywhere between them. -/
inductive Carries : List Frame → List Segment → Prop
  | nil : Carries [] []
  | aborted {frame : Frame} {frames : List Frame} {segments : List Segment}
      (gone : frame.isAbort = true) (later : Carries frames segments) :
      Carries (frame :: frames) segments
  | segment {frame : Frame} {frames : List Frame} {segment : Segment} {segments : List Segment}
      (brings : frame.Brings (.blockSegment segment)) (later : Carries frames segments) :
      Carries (frame :: frames) (segment :: segments)

namespace BlockDownload

/-- The transfer behind a segment that is expected. -/
def follow (download : BlockDownload) (segment : Segment) : BlockDownload :=
  let taken := download.take segment
  if closesWindow segment then taken.acknowledged segment.last else taken

/-- The segment is the one that is expected, and there is room for it. -/
def takes (download : BlockDownload) (segment : Segment) : Bool :=
  segment.number == download.sequence + 1 && !download.isFilled

theorem takes_iff {download : BlockDownload} {segment : Segment} :
    download.takes segment = true ↔
      segment.number = download.sequence + 1 ∧ download.isFilled = false := by
  rw [takes, Bool.and_eq_true, beq_iff_eq, Bool.not_eq_true']

/-- The answer to a segment that is expected. -/
def acks (segment : Segment) : List Response :=
  if closesWindow segment then [.blockDownloadAck segment.number] else []

theorem responses_acks (segment : Segment) :
    Event.responses ((acks segment).map .send) = acks segment := by
  rw [Event.responses, List.filterMap_map]
  exact List.filterMap_some

/-- What a download holds behind the first segments of a body. -/
structure Holds (declared : Option UInt32) (checksummed : Bool) (body : List UInt8) (place : Nat)
    (download : BlockDownload) : Prop where
  declared : download.declared = declared
  mark : download.checksummed = checksummed
  received : download.received = body.take (segmentCapacity * place)
  sequence : download.sequence = if place < chunkCount body then place % greatestWindow else 0
  complete : download.complete = decide (place = chunkCount body)

end BlockDownload

namespace Session

variable {target : Target} {download : BlockDownload} {segment : Segment}

/-- **A segment that is expected is taken**, and answered if it closes its window. -/
theorem takeBlockSegment_expected (expected : segment.number = download.sequence + 1)
    (unfilled : download.isFilled = false) :
    takeBlockSegment target download segment =
      .done ⟨target, .blockDownload (download.follow segment)⟩
        ((BlockDownload.acks segment).map .send) := by
  unfold takeBlockSegment BlockDownload.follow BlockDownload.acks
  simp only
  rw [if_neg (fun other => other expected), unfilled, if_neg Bool.false_ne_true]
  cases BlockDownload.closesWindow segment <;> rfl

/-- A segment with another number than the next one is refused. -/
theorem takeBlockSegment_other (other : segment.number ≠ download.sequence + 1) :
    takeBlockSegment target download segment =
      .fail ⟨target, .blockDownload download⟩ .invalidSequence
        [.segmentNotExpected target (download.sequence + 1) segment.number] :=
  if_pos other

/-- A segment is refused once the declared octets are all here. -/
theorem takeBlockSegment_filled (expected : segment.number = download.sequence + 1)
    (filled : download.isFilled = true) :
    takeBlockSegment target download segment =
      .fail ⟨target, .blockDownload download⟩ .lengthTooHigh
        [.moreThanDeclared target (download.declared.getD 0)] := by
  unfold takeBlockSegment
  simp only
  rw [if_neg (fun other => other expected), if_pos filled]

/-- Any other segment ends the download. -/
theorem takeBlockSegment_refused (target : Target) (refused : ¬ download.takes segment = true) :
    ∃ cause notices, takeBlockSegment target download segment =
      .fail ⟨target, .blockDownload download⟩ cause notices := by
  rw [BlockDownload.takes_iff, not_and, Bool.not_eq_false] at refused
  by_cases expected : segment.number = download.sequence + 1
  · exact ⟨_, _, takeBlockSegment_filled expected (refused expected)⟩
  · exact ⟨_, _, takeBlockSegment_other expected⟩

/-- A segment is refused, or it is the one that is expected, and is taken. -/
theorem takeBlockSegment_cases (target : Target) (download : BlockDownload) (segment : Segment) :
    (∃ cause notices, takeBlockSegment target download segment =
        .fail ⟨target, .blockDownload download⟩ cause notices) ∨
      segment.number = download.sequence + 1 ∧
        takeBlockSegment target download segment =
          .done ⟨target, .blockDownload (download.follow segment)⟩
            ((BlockDownload.acks segment).map .send) := by
  by_cases takes : download.takes segment = true
  · obtain ⟨expected, unfilled⟩ := BlockDownload.takes_iff.mp takes
    exact Or.inr ⟨expected, takeBlockSegment_expected expected unfilled⟩
  · exact Or.inl (takeBlockSegment_refused target takes)

end Session

/-! ### One segment -/

namespace BlockDownload

variable {declared : Option UInt32} {checksummed : Bool} {body : List UInt8} {place : Nat}
  {download : BlockDownload}

theorem holds_opened (declared : Option UInt32) (checksummed : Bool) {body : List UInt8}
    (positive : 0 < chunkCount body) :
    Holds declared checksummed body 0 ⟨[], declared, checksummed, 0, 0, false⟩ := by
  refine ⟨rfl, rfl, ?_, ?_, ?_⟩
  · rw [Nat.mul_zero, List.take_zero]
  · rw [Nat.zero_mod, ite_self]
  · exact (decide_eq_false (Nat.ne_of_lt positive)).symm

theorem closesWindow_ofPlace (body : List UInt8) (place : Nat) :
    closesWindow (Segment.ofPlace body place) =
      decide ((place + 1) % greatestWindow = 0 ∨ place + 1 = chunkCount body) := by
  have wrap : greatestWindow ≤ place % greatestWindow + 1 ↔ (place + 1) % greatestWindow = 0 := by
    simp only [greatestWindow]
    omega
  rw [closesWindow, Bool.decide_or]
  simp only [Segment.ofPlace, wrap]

/-- Before the last segment of a body there is room for one more. -/
theorem isFilled_eq_false (holds : download.Holds declared checksummed body place)
    (room : ∀ size, declared = some size → place ≠ 0 → segmentCapacity * place < size.toNat) :
    download.isFilled = false := by
  rw [isFilled, holds.declared]
  cases declared with
  | none => rfl
  | some size =>
    rw [Option.any_some, holds.received, Bool.and_eq_false_iff]
    by_cases first : place = 0
    · refine Or.inl ?_
      rw [first, Nat.mul_zero, List.take_zero]
      rfl
    · refine Or.inr (decide_eq_false ?_)
      have more := room size rfl first
      rw [List.length_take]
      omega

theorem Holds.incomplete (holds : download.Holds declared checksummed body place)
    (inner : place < chunkCount body) : download.complete = false := by
  rw [holds.complete, decide_eq_false_iff_not]
  exact Nat.ne_of_lt inner

/-- **The next segment of a body** is held behind those before it. -/
theorem Holds.follow (holds : download.Holds declared checksummed body place)
    (inner : place < chunkCount body) :
    (download.follow (Segment.ofPlace body place)).Holds declared checksummed body (place + 1) := by
  have incomplete := holds.incomplete inner
  have received : download.received ++ chunk body place =
      body.take (segmentCapacity * (place + 1)) := by
    rw [holds.received, chunk, Nat.mul_succ, List.take_add]
  unfold BlockDownload.follow
  rw [closesWindow_ofPlace]
  by_cases closes : (place + 1) % greatestWindow = 0 ∨ place + 1 = chunkCount body
  · simp only [decide_eq_true closes, if_true]
    refine ⟨holds.declared, holds.mark, received, ?_, rfl⟩
    show 0 = if place + 1 < chunkCount body then _ else 0
    rcases closes with full | ends
    · rw [full, ite_self]
    · rw [if_neg (Nat.not_lt.mpr (Nat.le_of_eq ends.symm))]
  · simp only [decide_eq_false closes, Bool.false_eq_true, if_false]
    rw [not_or] at closes
    refine ⟨holds.declared, holds.mark, received, ?_, ?_⟩
    · show place % greatestWindow + 1 = if place + 1 < chunkCount body then _ else 0
      rw [if_pos (Nat.lt_of_le_of_ne inner closes.2)]
      have inside := closes.1
      simp only [greatestWindow] at inside ⊢
      omega
    · show download.complete = _
      rw [incomplete]
      exact (decide_eq_false closes.2).symm

end BlockDownload

/-! ### One frame -/

namespace Server

variable {σ : Type} [Store σ] {server : Server} {frame : Frame} {target : Target}
  {declared : Option UInt32} {checksummed : Bool} {body : List UInt8} {place : Nat}
  {download : BlockDownload}

/-- An abort of the client is noted, whatever transfer is open. -/
theorem plan_isAbort (server : Server) (gone : frame.isAbort = true) :
    ∃ notice, server.session.plan (server.session.interpret frame.octets) =
      .finish (.done server.session [.note notice]) := by
  obtain ⟨rest, octets⟩ : ∃ rest, frame.octets = Request.abortCommand :: rest := by
    rw [Frame.isAbort, beq_iff_eq] at gone
    exact List.head?_eq_some_iff.mp gone
  have read : server.session.interpret frame.octets =
      .aborted (Payload.ofList frame.octets).target (Payload.ofList frame.octets).double := by
    rw [Session.interpret, octets]
    cases server.session.isReceiving with
    | true => rfl
    | false => exact Request.decode_cons _ _
  rw [read]
  exact ⟨_, rfl⟩

/-- An abort of the client is taken without an answer, and the transfer goes on. -/
theorem receive_isAbort (server : Server) (store : σ) (time : Nat) (gone : frame.isAbort = true) :
    let reaction := server.receive store frame time
    reaction.server.session = server.session ∧ reaction.store = store ∧
      Event.responses reaction.events = [] := by
  obtain ⟨notice, planned⟩ := plan_isAbort server gone
  exact receive_done store time planned

/-- A full segment is read as one while a download is receiving. -/
theorem plan_segment {segment : Segment}
    (session : server.session = ⟨target, .blockDownload download⟩)
    (receiving : download.complete = false) (counted : 1 ≤ segment.number)
    (small : segment.number ≤ greatestWindow) (full : segment.data.length = segmentCapacity)
    (brings : frame.Brings (.blockSegment segment)) :
    server.session.plan (server.session.interpret frame.octets) =
      .finish (Session.takeBlockSegment target download segment) := by
  obtain ⟨rest, octets⟩ := brings
  have read : server.session.interpret frame.octets = .blockSegment segment := by
    rw [Session.interpret, session, Session.isReceiving_blockDownload, receiving, ← octets]
    exact Request.decodeSegment_octets_append counted small full rest
  rw [read, session]
  rfl

/-- A segment of a body is read as the one that is expected next. -/
theorem plan_blockSegment (session : server.session = ⟨target, .blockDownload download⟩)
    (holds : download.Holds declared checksummed body place) (inner : place < chunkCount body)
    (whole : body.length = segmentCapacity * chunkCount body)
    (brings : frame.Brings (.blockSegment (Segment.ofPlace body place))) :
    server.session.plan (server.session.interpret frame.octets) =
      .finish (Session.takeBlockSegment target download (Segment.ofPlace body place)) := by
  have full : (Segment.ofPlace body place).data.length = segmentCapacity := by
    show (chunk body place).length = segmentCapacity
    rw [length_chunk, whole]
    simp only [segmentCapacity]
    omega
  exact plan_segment session (holds.incomplete inner) (Nat.le_add_left _ _)
    (Segment.number_ofPlace_le body place) full brings

/-- **A segment of a body** is taken, and answered if it closes its window. -/
theorem receive_segment (session : server.session = ⟨target, .blockDownload download⟩)
    (holds : download.Holds declared checksummed body place) (inner : place < chunkCount body)
    (whole : body.length = segmentCapacity * chunkCount body)
    (unfilled : download.isFilled = false)
    (brings : frame.Brings (.blockSegment (Segment.ofPlace body place))) (store : σ)
    (time : Nat) :
    let reaction := server.receive store frame time
    reaction.server.session =
        ⟨target, .blockDownload (download.follow (Segment.ofPlace body place))⟩ ∧
      reaction.store = store ∧
      Event.responses reaction.events = BlockDownload.acks (Segment.ofPlace body place) := by
  have expected : (Segment.ofPlace body place).number = download.sequence + 1 := by
    rw [holds.sequence, if_pos inner]
    rfl
  have planned := plan_blockSegment session holds inner whole brings
  rw [Session.takeBlockSegment_expected expected unfilled] at planned
  obtain ⟨leads, kept, responses⟩ := receive_done store time planned
  exact ⟨leads, kept, responses.trans (BlockDownload.responses_acks _)⟩

/-- **A stream is taken segment by segment**: behind each of its first frames the server holds what
they bring, and has not called its store. -/
theorem receiveAll_carries {frames : List (Frame × Nat)} {segments : List Segment}
    (carries : Carries (frames.map Prod.fst) segments)
    (whole : body.length = segmentCapacity * chunkCount body)
    (room : ∀ place < chunkCount body, ∀ size, declared = some size → place ≠ 0 →
      segmentCapacity * place < size.toNat)
    (session : server.session = ⟨target, .blockDownload download⟩)
    (holds : download.Holds declared checksummed body place)
    (next : segments <+: (Segment.stream body).drop place) (store : σ) :
    (server.receiveAll store frames).store = store ∧
      ∃ download : BlockDownload,
        (server.receiveAll store frames).server.session = ⟨target, .blockDownload download⟩ ∧
        download.Holds declared checksummed body (place + segments.length) := by
  generalize names : frames.map Prod.fst = named at carries
  induction carries generalizing frames server place download store with
  | nil =>
    obtain rfl := List.map_eq_nil_iff.mp names
    exact ⟨rfl, download, session, holds⟩
  | aborted gone later ih =>
    obtain ⟨⟨frame, time⟩, rest, rfl, rfl, rfl⟩ := List.map_eq_cons_iff.mp names
    obtain ⟨same, kept, -⟩ := receive_isAbort server store time gone
    have later := ih (same.trans session) holds next (server.receive store frame time).store rfl
    exact ⟨later.1.trans kept, later.2⟩
  | @segment _ _ segment segments brings later ih =>
    obtain ⟨⟨frame, time⟩, rest, rfl, rfl, rfl⟩ := List.map_eq_cons_iff.mp names
    obtain ⟨more, split⟩ := next
    have here : (Segment.stream body)[place]? = some segment := by
      rw [← Nat.add_zero place, ← List.getElem?_drop, ← split]
      rfl
    obtain ⟨inner, rfl⟩ := Segment.getElem?_stream here
    have beyond : segments <+: (Segment.stream body).drop (place + 1) := by
      rw [← List.drop_drop, ← split]
      exact List.prefix_append segments more
    obtain ⟨leads, kept, -⟩ := receive_segment session holds inner whole
      (BlockDownload.isFilled_eq_false holds (room place inner)) brings store time
    have later := ih leads (holds.follow inner) beyond (server.receive store frame time).store rfl
    rw [Nat.add_assoc, Nat.add_comm 1] at later
    exact ⟨later.1.trans kept, later.2⟩

end Server

/-! ### Every frame of a stream -/

/-- No segment of a stream looks like an abort. -/
theorem Segment.isAbort_eq_false {frame : Frame} {body : List UInt8} {place : Nat}
    (brings : frame.Brings (.blockSegment (ofPlace body place))) : frame.isAbort = false := by
  have small := number_ofPlace_le body place
  obtain ⟨rest, octets⟩ := brings
  rw [Frame.isAbort, ← octets, beq_eq_false_iff_ne]
  intro same
  exact command_ne_abort (Nat.le_add_left _ _) small (Option.some.inj same)

/-- The frames before one of them bring as many segments as there are frames that are no aborts. -/
theorem Carries.split {body : List UInt8} {before after : List Frame} {segments : List Segment}
    (carries : Carries (before ++ after) segments)
    (known : ∀ segment ∈ segments, ∃ place, segment = .ofPlace body place) :
    ∃ first rest, segments = first ++ rest ∧ Carries before first ∧ Carries after rest ∧
      first.length = (before.filter fun frame => !frame.isAbort).length := by
  induction before generalizing segments with
  | nil => exact ⟨[], segments, rfl, .nil, carries, rfl⟩
  | cons frame before ih =>
    cases carries with
    | aborted gone later =>
      obtain ⟨first, rest, parts, early, late, length⟩ := ih later known
      refine ⟨first, rest, parts, .aborted gone early, late, ?_⟩
      rw [length, List.filter_cons, gone]
      rfl
    | @segment _ _ segment segments brings later =>
      obtain ⟨first, rest, rfl, early, late, length⟩ := ih later fun segment member =>
        known segment (List.mem_cons_of_mem _ member)
      obtain ⟨place, rfl⟩ := known segment List.mem_cons_self
      refine ⟨_ :: first, rest, rfl, .segment brings early, late, ?_⟩
      rw [List.length_cons, length, List.filter_cons, Segment.isAbort_eq_false brings]
      rfl

theorem Segment.mem_stream {body : List UInt8} {segment : Segment}
    (member : segment ∈ stream body) : ∃ place, segment = ofPlace body place := by
  obtain ⟨place, -, same⟩ := List.mem_map.mp member
  exact ⟨place, same.symm⟩

namespace Server

variable {σ : Type} [Store σ] {server : Server} {target : Target} {declared : Option UInt32}
  {checksummed : Bool} {body : List UInt8} {download : BlockDownload}

/-- **The answer to every frame of a stream**: every full window is acknowledged, and the last one,
and nothing else is answered. -/
theorem responses_carries {before after : List (Frame × Nat)} {frame : Frame} {time : Nat}
    (carries : Carries ((before ++ (frame, time) :: after).map Prod.fst) (Segment.stream body))
    (whole : body.length = segmentCapacity * chunkCount body)
    (room : ∀ place < chunkCount body, ∀ size, declared = some size → place ≠ 0 →
      segmentCapacity * place < size.toNat)
    (session : server.session = ⟨target, .blockDownload download⟩)
    (holds : download.Holds declared checksummed body 0) (store : σ) :
    let place := (before.filter fun received => !received.1.isAbort).length
    let reached := server.receiveAll store before
    Event.responses (reached.server.receive reached.store frame time).events =
      if frame.isAbort then [] else BlockDownload.acks (Segment.ofPlace body place) := by
  intro place reached
  rw [List.map_append, List.map_cons] at carries
  obtain ⟨first, rest, parts, early, late, length⟩ :=
    carries.split fun _ => Segment.mem_stream
  rw [List.filter_map, List.length_map] at length
  change first.length = place at length
  obtain ⟨-, download, leads, held⟩ := receiveAll_carries early whole room session holds
    ⟨rest, parts.symm⟩ store
  rw [Nat.zero_add, length] at held
  cases late with
  | aborted gone later =>
    rw [if_pos gone]
    exact (receive_isAbort reached.server reached.store time gone).2.2
  | @segment _ _ segment segments brings later =>
    have here : (Segment.stream body)[place]? = some segment := by
      rw [parts, ← length, List.getElem?_append_right (Nat.le_refl _), Nat.sub_self]
      rfl
    obtain ⟨inner, rfl⟩ := Segment.getElem?_stream here
    rw [if_neg (by rw [Segment.isAbort_eq_false brings]; exact Bool.false_ne_true)]
    exact (receive_segment leads held inner whole
      (BlockDownload.isFilled_eq_false held (room place inner)) brings reached.store time).2.2

end Server

/-! ### The end -/

namespace Session

variable {download : BlockDownload} {data padding : List UInt8}

/-- The padding is dropped. -/
theorem trimmed_of_received (received : download.received = data ++ padding) :
    download.trimmed padding.length = data := by
  rw [BlockDownload.trimmed, received, List.length_append, Nat.add_sub_cancel, List.take_left]

/-- A value that is as long and as checked as it should be is written. -/
theorem closeBlockDownload_write (target : Target) (received : download.received = data ++ padding)
    (room : ∀ size, download.declared = some size → data.length ≤ size.toNat) :
    ∃ notices, closeBlockDownload target download padding.length (Checksum.of data) =
      writeBlockDownload target download data notices := by
  have trimmed := trimmed_of_received received
  have fits : isExcess data.length download.declared = false := isExcess_eq_false room
  unfold closeBlockDownload
  simp only [trimmed, fits, Bool.false_eq_true, if_false, ne_eq, not_true_eq_false, and_false]
  exact ⟨_, rfl⟩

/-- **What a write of a block download comes to**: the session is at rest, and the client is told
whether the value is stored. -/
theorem run_writeBlockDownload {σ : Type} [Store σ] (store : σ) (target : Target)
    (download : BlockDownload) (data : List UInt8) (notices : List Notice) :
    let move := ((writeBlockDownload target download data notices).run store).1
    (Server.conclude move).1 = idle target ∧
      move.responses = match (Store.write store target data true).outcome with
        | .ok .ok => [.blockDownloadEnd]
        | .ok _ => [.abort target 0x08000020]
        | .error _ => [.abort target 0x08000000] := by
  cases outcome : (Store.write store target data true).outcome with
  | error fault => exact Plan.run_write_fault outcome
  | ok status =>
    have answered : (Store.write store (Session.mk target (.blockDownload download)).target data
      true).outcome = .ok status := outcome
    unfold writeBlockDownload
    obtain ⟨leads, responses⟩ := Plan.run_write answered
    refine ⟨leads.trans ?_, responses.trans ?_⟩
    · cases status <;> rfl
    · cases status <;> rfl

end Session

namespace Server

variable {σ : Type} [Store σ] {server : Server} {store : σ} {writes : List WriteCall}
  {opening ending : Frame} {target : Target} {declared : Option UInt32} {checksummed : Bool}
  {data padding : List UInt8} {frames : List (Frame × Nat)} {download : BlockDownload}

theorem receive_blockDownload (ready : server.session.isReceiving = false)
    (opens : opening.Brings (.blockDownload target checksummed declared)) (store : σ)
    (time : Nat) :
    let reaction := server.receive store opening time
    reaction.server.session =
        ⟨target, .blockDownload ⟨[], declared, checksummed, 0, 0, false⟩⟩ ∧
      reaction.store = store ∧
      Event.responses reaction.events = [.blockDownloadStarted target checksummed] := by
  have fits : (Request.blockDownload target checksummed declared).Fits := trivial
  have planned : server.session.plan (server.session.interpret opening.octets) =
      .finish (Session.openBlockDownload target checksummed declared) := by
    rw [Session.interpret_of_brings ready fits opens]
    rfl
  exact receive_done store time planned

/-- The end of a block download asks for one write, and tells the client what comes of it. -/
theorem receive_blockDownloadEnd (session : server.session = ⟨target, .blockDownload download⟩)
    (complete : download.complete = true) (received : download.received = data ++ padding)
    (few : padding.length ≤ segmentCapacity)
    (room : ∀ size, download.declared = some size → data.length ≤ size.toNat)
    (ends : ending.Brings (.blockDownloadEnd padding.length (Checksum.of data)))
    (recorded : Recorded σ) (time : Nat) :
    let reaction := server.receive recorded ending time
    reaction.server.session = .idle target ∧
      reaction.store.writes = recorded.writes ++ [⟨target, data, true⟩] ∧
      Event.responses reaction.events =
        match (Store.write recorded.inner target data true).outcome with
        | .ok .ok => [.blockDownloadEnd]
        | .ok _ => [.abort target 0x08000020]
        | .error _ => [.abort target 0x08000000] := by
  have ready : server.session.isReceiving = false := by
    rw [session, Session.isReceiving_blockDownload, complete]
    rfl
  have fits : (Request.blockDownloadEnd padding.length (Checksum.of data)).Fits := few
  obtain ⟨notices, write⟩ := Session.closeBlockDownload_write target received room
  have planned : server.session.plan (server.session.interpret ending.octets) =
      Session.writeBlockDownload target download data notices := by
    rw [Session.interpret_of_brings ready fits ends, session, ← write]
    exact if_pos complete
  obtain ⟨leads, kept, responses⟩ := receive_run recorded time planned
  obtain ⟨rest, answer⟩ :=
    Session.run_writeBlockDownload recorded target download data notices
  refine ⟨leads.trans rest, ?_, responses.trans answer⟩
  rw [kept]
  exact congrArg (Recorded.writes ∘ Prod.snd) (Plan.run_recorded _ recorded.inner recorded.writes)

/-- A body fills whole segments, at least one of them. -/
theorem chunkCount_body
    (whole : (data ++ padding).length = segmentCapacity * max 1 (chunkCount data)) :
    chunkCount (data ++ padding) = max 1 (chunkCount data) := by
  generalize max 1 (chunkCount data) = count at whole ⊢
  simp only [chunkCount, segmentCapacity] at whole ⊢
  omega

/-- No more is filled up than one segment. -/
theorem length_padding_le
    (whole : (data ++ padding).length = segmentCapacity * max 1 (chunkCount data)) :
    padding.length ≤ segmentCapacity := by
  rw [List.length_append] at whole
  simp only [chunkCount, segmentCapacity] at whole ⊢
  omega

/-- The frames of a block download whose segments bring a value, filled up to whole ones, and whose
end brings a checksum. The value is not longer than it is declared. -/
structure BringsBlocks (server : Server) (target : Target) (declared : Option UInt32)
    (checksummed : Bool) (data padding : List UInt8) (checksum : UInt16) (opening : Frame)
    (frames : List (Frame × Nat)) (ending : Frame) : Prop where
  ready : server.session.isReceiving = false
  opens : opening.Brings (.blockDownload target checksummed declared)
  room : ∀ size, declared = some size → data.length ≤ size.toNat
  whole : (data ++ padding).length = segmentCapacity * max 1 (chunkCount data)
  carries : Carries (frames.map Prod.fst) (Segment.stream (data ++ padding))
  ends : ending.Brings (.blockDownloadEnd padding.length checksum)

/-- **What a block download brings is held**: its opening is answered, its full windows and the last
one are acknowledged, and the store is not called. -/
theorem BringsBlocks.held {checksum : UInt16}
    (brings : server.BringsBlocks target declared checksummed data padding checksum opening frames
      ending) (store : σ) (time : Nat) :
    let opened := server.receive store opening time
    let filled := opened.server.receiveAll opened.store frames
    Event.responses opened.events = [.blockDownloadStarted target checksummed] ∧
      (∀ before frame time after, frames = before ++ (frame, time) :: after →
        let place := (before.filter fun received => !received.1.isAbort).length
        let reached := opened.server.receiveAll opened.store before
        Event.responses (reached.server.receive reached.store frame time).events =
          if frame.isAbort = false ∧
              ((place + 1) % greatestWindow = 0 ∨ place + 1 = max 1 (chunkCount data))
            then [.blockDownloadAck (place % greatestWindow + 1)] else []) ∧
      filled.store = store ∧
      ∃ download : BlockDownload,
        filled.server.session = ⟨target, .blockDownload download⟩ ∧
        download.complete = true ∧ download.received = data ++ padding ∧
        download.declared = declared ∧ download.checksummed = checksummed := by
  obtain ⟨ready, opens, room, whole, carries, ends⟩ := brings
  intro opened filled
  have count := chunkCount_body whole
  have filling : 0 < chunkCount (data ++ padding) := by
    rw [count]
    exact Nat.le_max_left 1 _
  rw [← count] at whole
  have inside : ∀ place < chunkCount (data ++ padding), ∀ size, declared = some size →
      place ≠ 0 → segmentCapacity * place < size.toNat := by
    intro place below size known later
    have bound := room size known
    have more : segmentCapacity * place < data.length := lt_chunkCount_iff.mp (by omega)
    omega
  obtain ⟨session, kept, responses⟩ := receive_blockDownload ready opens store time
  have holds := BlockDownload.holds_opened declared checksummed filling
  obtain ⟨still, download, leads, held⟩ := receiveAll_carries carries whole inside session holds
    (List.prefix_refl _) opened.store
  rw [Segment.length_stream, Nat.zero_add] at held
  have received := held.received
  rw [← whole, List.take_length] at received
  refine ⟨responses, ?_, still.trans kept, download, leads,
    held.complete.trans (decide_eq_true rfl), received, held.declared, held.mark⟩
  rintro before frame moment after rfl
  refine (responses_carries carries whole inside session holds opened.store).trans ?_
  rw [BlockDownload.acks, BlockDownload.closesWindow_ofPlace, count]
  cases frame.isAbort with
  | true => rw [if_pos rfl, if_neg fun both => Bool.false_ne_true both.1.symm]
  | false =>
    rw [if_neg Bool.false_ne_true]
    simp only [decide_eq_true_eq, true_and]
    rfl

/-- **A block download stores what its client sends.** The client brings its value, filled up to
whole segments, in the segments of a stream; the aborts that it sends between them change nothing.
Every full window and the last one are acknowledged. The value is written once, checked and as it
was sent, and the client is told whether it is stored. -/
theorem receive_blockDownload_stores (ready : server.session.isReceiving = false)
    (opens : opening.Brings (.blockDownload target checksummed declared))
    (room : ∀ size, declared = some size → data.length ≤ size.toNat)
    (whole : (data ++ padding).length = segmentCapacity * max 1 (chunkCount data))
    (carries : Carries (frames.map Prod.fst) (Segment.stream (data ++ padding)))
    (ends : ending.Brings (.blockDownloadEnd padding.length (Checksum.of data)))
    (store : σ) (writes : List WriteCall) (first last : Nat) :
    let opened := server.receive (Recorded.mk store writes) opening first
    let filled := opened.server.receiveAll opened.store frames
    let closed := filled.server.receive filled.store ending last
    (∃ started : Response, Event.responses opened.events = [started] ∧
        started = .blockDownloadStarted target checksummed ∧
        started.encode = .ofList ((0xA0 ||| if checksummed then 0x04 else 0) ::
          target.octets ++ [127]) ∧
        started.encode.fifth.toNat = greatestWindow) ∧
      (∀ before frame time after, frames = before ++ (frame, time) :: after →
        let place := (before.filter fun received => !received.1.isAbort).length
        let count := place % greatestWindow + 1
        let reached := opened.server.receiveAll opened.store before
        let answers := Event.responses (reached.server.receive reached.store frame time).events
        let due := frame.isAbort = false ∧
          ((place + 1) % greatestWindow = 0 ∨ place + 1 = max 1 (chunkCount data))
        answers = (if due then [.blockDownloadAck count] else []) ∧
          answers.map Response.encode =
            if due then [.ofList [0xA2, UInt8.ofNat count, 127]] else []) ∧
      filled.store.writes = writes ∧
      closed.store.writes = writes ++ [⟨target, data, true⟩] ∧
      closed.server.session = .idle target ∧
      (Event.responses closed.events = match (Store.write store target data true).outcome with
        | .ok .ok => [.blockDownloadEnd]
        | .ok _ => [.abort target 0x08000020]
        | .error _ => [.abort target 0x08000000]) ∧
      (Event.responses closed.events).map Response.encode =
        match (Store.write store target data true).outcome with
        | .ok .ok => [.ofList [0xA1]]
        | .ok _ => [.ofList (0x80 :: target.octets ++ [0x20, 0x00, 0x00, 0x08])]
        | .error _ => [.ofList (0x80 :: target.octets ++ [0x00, 0x00, 0x00, 0x08])] := by
  intro opened filled closed
  have brings : server.BringsBlocks target declared checksummed data padding (Checksum.of data)
      opening frames ending := ⟨ready, opens, room, whole, carries, ends⟩
  obtain ⟨started, acks, kept, download, leads, complete, received, known, -⟩ :=
    brings.held (Recorded.mk store writes) first
  obtain ⟨atRest, written, answer⟩ := receive_blockDownloadEnd leads complete received
    (length_padding_le whole) (known ▸ room) ends filled.store last
  have same : filled.store = Recorded.mk store writes := kept
  have told : Event.responses closed.events = match (Store.write store target data true).outcome with
      | .ok .ok => [.blockDownloadEnd]
      | .ok _ => [.abort target 0x08000020]
      | .error _ => [.abort target 0x08000000] := by
    refine answer.trans ?_
    rw [same]
  refine ⟨⟨_, started, rfl, Response.octets_blockDownloadStarted target checksummed, rfl⟩, ?_,
    congrArg Recorded.writes same, written.trans ?_, atRest, told, ?_⟩
  · intro before frame time after split place count reached answers due
    have acked : answers = if due then [.blockDownloadAck count] else [] :=
      acks before frame time after split
    refine ⟨acked, ?_⟩
    rw [acked, apply_ite (List.map Response.encode)]
    rfl
  · rw [same]
  · rw [told]
    split <;> rfl

/-- Three octets in one segment, with an abort of the client before and behind it. -/
theorem receive_blockDownload_stores_single :
    ∃ opened filled closed : Reaction (Recorded Dictionary),
      opened = (new 0x582).receive (Recorded.mk (Dictionary.single ⟨0x2000, 1⟩ []) [])
        (Request.blockDownload ⟨0x2000, 1⟩ true (some 3)).frame 0 ∧
      filled = opened.server.receiveAll opened.store
        [((Request.aborted ⟨0x2000, 1⟩ 0x08000000).frame, 1),
          ((Request.blockSegment ⟨1, true, [1, 2, 3, 0, 0, 0, 0]⟩).frame, 2),
          ((Request.aborted ⟨0x2000, 1⟩ 0x08000000).frame, 3)] ∧
      closed = filled.server.receive filled.store
        (Request.blockDownloadEnd 4 (Checksum.of [1, 2, 3])).frame 4 ∧
      closed.store.writes = [⟨⟨0x2000, 1⟩, [1, 2, 3], true⟩] ∧
      Event.responses closed.events = [.blockDownloadEnd] := by
  have ready : (new 0x582).session.isReceiving = false := rfl
  have opens : (Request.blockDownload ⟨0x2000, 1⟩ true (some 3)).frame.Brings
      (.blockDownload ⟨0x2000, 1⟩ true (some 3)) := Request.brings_frame (by decide)
  have room : ∀ size : UInt32, some 3 = some size → [(1 : UInt8), 2, 3].length ≤ size.toNat :=
    fun _ known => Option.some.inj known ▸ Nat.le_refl 3
  have whole : ([(1 : UInt8), 2, 3] ++ [0, 0, 0, 0]).length =
      segmentCapacity * max 1 (chunkCount [1, 2, 3]) := rfl
  have carries : Carries
      ([((Request.aborted ⟨0x2000, 1⟩ 0x08000000).frame, 1),
        ((Request.blockSegment ⟨1, true, [1, 2, 3, 0, 0, 0, 0]⟩).frame, 2),
        ((Request.aborted ⟨0x2000, 1⟩ 0x08000000).frame, 3)].map Prod.fst)
      (Segment.stream ([1, 2, 3] ++ [0, 0, 0, 0])) :=
    .aborted (by decide) (.segment (Request.brings_frame (by decide))
      (.aborted (by decide) .nil))
  have ends : (Request.blockDownloadEnd 4 (Checksum.of [1, 2, 3])).frame.Brings
      (.blockDownloadEnd [(0 : UInt8), 0, 0, 0].length (Checksum.of [1, 2, 3])) :=
    Request.brings_frame (by decide)
  obtain ⟨-, -, -, written, -, answer, -⟩ := receive_blockDownload_stores ready opens room whole
    carries ends (Dictionary.single ⟨0x2000, 1⟩ []) [] 0 4
  have stored : (Store.write (Dictionary.single ⟨0x2000, 1⟩ []) ⟨0x2000, 1⟩ [1, 2, 3]
    true).outcome = .ok .ok := rfl
  rw [stored] at answer
  exact ⟨_, _, _, rfl, rfl, rfl, written, answer⟩

/-- A write that the store neither stores nor refuses, because the store itself fails, is not told
to the client as a value that is not stored. -/
theorem receive_blockDownload_not_always_notStored :
    ¬ ∀ (store : Dictionary) (opening ending : Frame) (frames : List (Frame × Nat))
      (target : Target) (checksummed : Bool) (declared : Option UInt32)
      (data padding : List UInt8),
      opening.Brings (.blockDownload target checksummed declared) →
      (∀ size, declared = some size → data.length ≤ size.toNat) →
      (data ++ padding).length = segmentCapacity * max 1 (chunkCount data) →
      Carries (frames.map Prod.fst) (Segment.stream (data ++ padding)) →
      ending.Brings (.blockDownloadEnd padding.length (Checksum.of data)) →
      let opened := (new 0x582).receive store opening 0
      let filled := opened.server.receiveAll opened.store frames
      let closed := filled.server.receive filled.store ending 0
      (Store.write store target data true).outcome ≠ .ok .ok →
        Event.responses closed.events = [.abort target 0x08000020] := by
  intro always
  have answer := always
    ((Dictionary.single ⟨0x2000, 1⟩ []).observe (.on ⟨0x2000, none⟩ (some .bare)))
    (Request.blockDownload ⟨0x2000, 1⟩ false none).frame
    (Request.blockDownloadEnd 4 (Checksum.of [1, 2, 3])).frame
    [((Request.blockSegment ⟨1, true, [1, 2, 3, 0, 0, 0, 0]⟩).frame, 0)]
    ⟨0x2000, 1⟩ false none [1, 2, 3] [0, 0, 0, 0] (Request.brings_frame (by decide)) nofun rfl
    (.segment (Request.brings_frame (by decide)) .nil) (Request.brings_frame (by decide))
    (show (Except.error Fault.bare : Except Fault Status) ≠ .ok .ok from nofun)
  exact absurd answer (by decide)

end Server

end Canopen
