/-
**A download that is answered with success is in the dictionary.**

* `Event.Unaborted`: no response is an abort.
* `Request.segments`, `Request.blocks`: the requests that bring a value behind an opening.
* `Server.receive_stored`: a write that is not answered with an abort is stored.
* `Session.Awaits`: the requests of a download that are still to come, when the session holds what
  those before them have brought. Every request keeps this (`Session.Awaits.step`), up to the last
  one, which stores the value (`Session.Awaits.run`).
* `Server.Downloads`: operations that download a value, in any of the ways there are.
* `Server.Downloads.offers`: **behind a download the entry offers its value.**
-/

import Canopen.Proofs.Conversation
import Canopen.Proofs.Entries
import Canopen.Proofs.Replies
import Canopen.Proofs.Turns

namespace Canopen

/-- No response is an abort. -/
def Event.Unaborted (events : List Event) : Prop :=
  ∀ response ∈ responses events, response.isAbort = false

instance (events : List Event) : Decidable (Event.Unaborted events) :=
  inferInstanceAs (Decidable (∀ response ∈ Event.responses events, response.isAbort = false))

theorem Event.unaborted_iff {events : List Event} {response : Response}
    (answer : responses events = [response]) : Unaborted events ↔ response.isAbort = false := by
  unfold Unaborted
  rw [answer]
  exact List.forall_mem_singleton

theorem Event.unaborted_append {first second : List Event} :
    Unaborted (first ++ second) ↔ Unaborted first ∧ Unaborted second := by
  unfold Unaborted
  rw [responses_append]
  exact List.forall_mem_append

namespace Request

/-- The segments that bring pieces of a value with toggles that alternate, only the last of them
marked. -/
def segments (toggle : Bool) : List (List UInt8) → List Request
  | [] => []
  | piece :: rest => .downloadSegment toggle piece rest.isEmpty :: segments (!toggle) rest

/-- The segments that bring a body behind the first `place` chunks of it, and the end. -/
def blocks (body : List UInt8) (place padding : Nat) (checksum : UInt16) : List Request :=
  ((Segment.stream body).drop place).map .blockSegment ++ [.blockDownloadEnd padding checksum]

end Request

/-- The frame writes a value at once; four octets also without telling how many they are. -/
inductive Frame.Expedites (frame : Frame) (target : Target) (data : List UInt8) : Prop
  | sized (positive : 1 ≤ data.length) (few : data.length ≤ Request.expeditedCapacity)
      (brings : frame.Brings (.expedited target data))
  | unsized (full : data.length = Request.expeditedCapacity)
      (brings : 0x22 :: (target.octets ++ data) <+: frame.octets)

theorem Session.interpret_of_expedites {session : Session} {frame : Frame} {target : Target}
    {data : List UInt8} (ready : session.isReceiving = false)
    (expedites : frame.Expedites target data) :
    session.interpret frame.octets = .expedited target data := by
  cases expedites with
  | sized positive few brings => exact interpret_of_brings ready ⟨positive, few⟩ brings
  | unsized full brings =>
    obtain ⟨rest, octets⟩ := brings
    rw [interpret_of_ready ready, ← octets]
    show Request.decode (0x22 :: (target.octets ++ data ++ rest)) = _
    rw [List.append_assoc, Request.decode_cons, show Family.ofCommand 0x22 = .download by decide]
    simp only [Request.decodeDownload, Payload.command_ofList, Payload.target_ofList,
      show flag 0x22 1 = true by decide, show flag 0x22 0 = false by decide, if_true,
      Bool.false_eq_true, if_false]
    rw [← full, Payload.take_tail_ofList _ _ (Nat.le_of_eq full)]

/-! ### Answers -/

namespace Server

variable {server : Server} {frame : Frame} {time : Nat}

theorem not_unaborted_of_fail {σ : Type} [Store σ] {store : σ} {session : Session}
    {cause : AbortCause} {notices : List Notice}
    (planned : server.session.plan (server.session.interpret frame.octets) =
      .finish (.fail session cause notices)) :
    ¬ Event.Unaborted (server.receive store frame time).events := by
  obtain ⟨-, -, responses⟩ := receive_run store time planned
  rw [Event.unaborted_iff (responses.trans (Move.responses_fail session cause notices))]
  exact Bool.false_ne_true.symm

/-- A write that is not answered with an abort is stored. -/
theorem receive_stored {dictionary : Dictionary} {target : Target} {data : List UInt8}
    (asks : (server.session.plan (server.session.interpret frame.octets)).writes =
      [⟨target, data, true⟩])
    (unaborted : Event.Unaborted (server.receive dictionary frame time).events) :
    (server.receive dictionary frame time).store = dictionary.set target data := by
  have stores := Session.stores_plan server.session frame.octets
  generalize planned : server.session.plan (server.session.interpret frame.octets) = plan
    at asks stores
  obtain ⟨-, kept, responses⟩ := receive_run dictionary time planned
  cases plan with
  | finish move => exact absurd asks.symm (List.cons_ne_nil _ _)
  | read session next => exact absurd asks.symm (List.cons_ne_nil _ _)
  | write session notices value next =>
    obtain ⟨rfl, rfl, -⟩ := WriteCall.mk.inj (List.singleton_inj.mp asks)
    rw [Plan.run, Plan.store_settle] at kept
    rcases dictionary.write_cases session.target value true with
      ⟨-, status, refused, outcome⟩ | ⟨entry, -, -, taken⟩
    · obtain ⟨accepted, -, answers⟩ := stores
      have told := (answers status).2
      rw [if_neg refused] at told
      obtain ⟨code, told⟩ := told
      rw [Event.unaborted_iff (responses.trans ((Plan.run_write outcome).2.trans told))]
        at unaborted
      exact absurd unaborted.symm Bool.false_ne_true
    · exact kept.trans (congrArg Call.store taken)

/-- While a block download is receiving, a frame is not answered, or with an acknowledgement or an
abort. -/
theorem responses_of_isReceiving {σ : Type} [Store σ]
    (receiving : server.session.isReceiving = true) (store : σ) (frame : Frame) (time : Nat) :
    let responses := Event.responses (server.receive store frame time).events
    responses = [] ∨ (∃ count, responses = [.blockDownloadAck count]) ∨
      ∃ target code, responses = [.abort target code] := by
  intro responses
  have read : server.session.interpret frame.octets = Request.decodeSegment frame.octets :=
    if_pos receiving
  have failed {session : Session} {cause : AbortCause} {notices : List Notice}
      (planned : server.session.plan (server.session.interpret frame.octets) =
        .finish (.fail session cause notices)) :
      ∃ target code, responses = [.abort target code] :=
    ⟨_, _, (receive_run store time planned).2.2.trans (Move.responses_fail session cause notices)⟩
  rcases Request.decodeSegment_cases frame.octets with empty | ⟨target, code, gone⟩ |
    ⟨segment, brought⟩
  · rw [read, empty] at failed
    exact Or.inr (Or.inr (failed rfl))
  · have planned : server.session.plan (server.session.interpret frame.octets) =
        .finish (.done server.session [.note (.abortedByClient target code)]) := by
      rw [read, gone]
      rfl
    exact Or.inl (receive_done store time planned).2.2
  · obtain ⟨target, download, current⟩ := Session.blockDownload_of_isReceiving receiving
    have planned : server.session.plan (server.session.interpret frame.octets) =
        .finish (Session.takeBlockSegment target download segment) := by
      rw [read, brought, current]
      rfl
    rcases Session.takeBlockSegment_cases target download segment with
      ⟨cause, notices, refused⟩ | ⟨-, taken⟩
    · rw [refused] at planned
      exact Or.inr (Or.inr (failed planned))
    · rw [taken] at planned
      have answer : responses = BlockDownload.acks segment :=
        (receive_done store time planned).2.2.trans (BlockDownload.responses_acks segment)
      unfold BlockDownload.acks at answer
      split at answer
      · exact Or.inr (Or.inl ⟨_, answer⟩)
      · exact Or.inl answer

/-- A server that gives any other answer is not receiving. -/
theorem not_receiving_of_responses {σ : Type} [Store σ] {store : σ} {response : Response}
    (responses : Event.responses (server.receive store frame time).events = [response])
    (plain : response.isAbort = false) (other : ∀ count, response ≠ .blockDownloadAck count) :
    server.session.isReceiving = false := by
  rw [Bool.eq_false_iff]
  intro receiving
  have answers := responses_of_isReceiving receiving store frame time
  simp only [responses] at answers
  rcases answers with silent | ⟨count, ack⟩ | ⟨target, code, abort⟩
  · exact List.cons_ne_nil _ _ silent
  · exact other count (List.singleton_inj.mp ack)
  · rw [List.singleton_inj.mp abort] at plain
    exact Bool.false_ne_true plain.symm

/-! ### The requests of a download -/

variable {dictionary : Dictionary} {target : Target}

/-- A segment of an open download is told by its toggle. -/
theorem plan_downloadSegment {download : Download} {toggle : Bool} {piece : List UInt8}
    {last : Bool} (session : server.session = ⟨target, .download download⟩)
    (few : piece.length ≤ segmentCapacity)
    (brings : frame.Brings (.downloadSegment toggle piece last)) :
    server.session.plan (server.session.interpret frame.octets) =
      if toggle = download.toggle then Session.takeSegment target download piece last
      else .finish (.fail ⟨target, .download download⟩ .toggleNotAlternated []) := by
  have ready : server.session.isReceiving = false := by
    rw [session]
    rfl
  have fits : (Request.downloadSegment toggle piece last).Fits := few
  rw [Session.interpret_of_brings ready fits brings, session]
  rfl

/-- A segment that is not answered with an abort is taken, and the last one is stored. -/
theorem receive_downloadSegment {download : Download} {piece : List UInt8} {last : Bool}
    (session : server.session = ⟨target, .download download⟩)
    (few : piece.length ≤ segmentCapacity)
    (brings : frame.Brings (.downloadSegment download.toggle piece last))
    (unaborted : Event.Unaborted (server.receive dictionary frame time).events) :
    let reaction := server.receive dictionary frame time
    if last then reaction.store = dictionary.set target (download.received ++ piece)
    else reaction.store = dictionary ∧ reaction.server.session = ⟨target, .download { download with
      received := download.received ++ piece
      toggle := !download.toggle }⟩ := by
  have planned := plan_downloadSegment session few brings
  rw [if_pos rfl] at planned
  unfold Session.takeSegment at planned
  simp only at planned
  split at planned
  · exact absurd unaborted (not_unaborted_of_fail planned)
  · cases last with
    | true =>
      rw [if_pos rfl]
      refine receive_stored ?_ unaborted
      rw [planned]
      rfl
    | false =>
      obtain ⟨leads, kept, -⟩ := receive_done dictionary time planned
      rw [if_neg Bool.false_ne_true]
      exact ⟨kept, leads⟩

/-- The end of a block download that is not answered with an abort is stored. -/
theorem receive_blockDownloadEnd_stored {download : BlockDownload} {data padding : List UInt8}
    {checksum : UInt16} (session : server.session = ⟨target, .blockDownload download⟩)
    (complete : download.complete = true) (received : download.received = data ++ padding)
    (few : padding.length ≤ segmentCapacity)
    (brings : frame.Brings (.blockDownloadEnd padding.length checksum))
    (unaborted : Event.Unaborted (server.receive dictionary frame time).events) :
    (server.receive dictionary frame time).store = dictionary.set target data := by
  have ready : server.session.isReceiving = false := by
    rw [session, Session.isReceiving_blockDownload, complete]
    rfl
  have fits : (Request.blockDownloadEnd padding.length checksum).Fits := few
  have planned : server.session.plan (server.session.interpret frame.octets) =
      Session.closeBlockDownload target download padding.length checksum := by
    rw [Session.interpret_of_brings ready fits brings, session]
    exact if_pos complete
  unfold Session.closeBlockDownload at planned
  simp only [Session.trimmed_of_received received] at planned
  split at planned
  · exact absurd unaborted (not_unaborted_of_fail planned)
  · split at planned
    · exact absurd unaborted (not_unaborted_of_fail planned)
    · refine receive_stored ?_ unaborted
      rw [planned]
      rfl

end Server

/-- The requests of a download that are still to come, when the session holds what those before
them have brought. -/
inductive Session.Awaits (target : Target) (data : List UInt8) : List Request → Session → Prop
  | segments {download : Download} {pieces : List (List UInt8)} (nonempty : pieces ≠ [])
      (few : ∀ piece ∈ pieces, piece.length ≤ segmentCapacity)
      (whole : download.received ++ pieces.flatten = data) :
      Awaits target data (Request.segments download.toggle pieces) ⟨target, .download download⟩
  | blocks {download : BlockDownload} {declared : Option UInt32} {checksummed : Bool}
      {padding : List UInt8} {place : Nat} {checksum : UInt16}
      (few : padding.length ≤ segmentCapacity)
      (whole : (data ++ padding).length = segmentCapacity * chunkCount (data ++ padding))
      (within : place ≤ chunkCount (data ++ padding))
      (holds : download.Holds declared checksummed (data ++ padding) place) :
      Awaits target data (Request.blocks (data ++ padding) place padding.length checksum)
        ⟨target, .blockDownload download⟩

namespace Session.Awaits

variable {target : Target} {data : List UInt8} {request : Request} {requests : List Request}
  {server : Server} {dictionary : Dictionary} {frame : Frame} {time : Nat}

theorem ne_nil {session : Session} (awaits : session.Awaits target data requests) :
    requests ≠ [] := by
  cases awaits with
  | @segments download pieces nonempty few whole =>
    cases pieces with
    | nil => exact absurd rfl nonempty
    | cons piece rest => exact List.cons_ne_nil _ _
  | blocks few whole within holds =>
    exact List.append_ne_nil_of_right_ne_nil _ (List.cons_ne_nil _ _)

/-- **The next request** of a download is the last one, and stores the value, or the others are
still to come. -/
theorem step (awaits : server.session.Awaits target data (request :: requests))
    (brings : frame.Brings request)
    (unaborted : Event.Unaborted (server.receive dictionary frame time).events) :
    let reaction := server.receive dictionary frame time
    requests = [] ∧ reaction.store = dictionary.set target data ∨
      reaction.server.session.Awaits target data requests ∧ reaction.store = dictionary := by
  generalize all : request :: requests = remaining at awaits
  generalize current : server.session = session at awaits
  -- The request is known by what is still to come: another piece of the value, or the end.
  cases awaits with
  | @segments download pieces nonempty few whole =>
    cases pieces with
    | nil => exact absurd rfl nonempty
    | cons piece rest =>
      obtain ⟨rfl, rfl⟩ := List.cons.inj all
      have reaction := Server.receive_downloadSegment current (few piece List.mem_cons_self)
        brings unaborted
      cases rest with
      | nil =>
        rw [List.flatten_singleton] at whole
        rw [← whole]
        exact Or.inl ⟨rfl, reaction⟩
      | cons next others =>
        obtain ⟨kept, leads⟩ := reaction
        refine Or.inr ⟨?_, kept⟩
        rw [leads]
        refine @segments target data
          ⟨download.received ++ piece, download.declared, !download.toggle⟩ (next :: others)
          (List.cons_ne_nil _ _)
          (fun other member => few other (List.mem_cons_of_mem _ member)) ?_
        exact (List.append_assoc _ _ _).trans whole
  | @blocks download declared checksummed padding place checksum few whole within holds =>
    unfold Request.blocks at all
    by_cases inner : place < chunkCount (data ++ padding)
    · rw [Segment.drop_stream inner] at all
      obtain ⟨rfl, rfl⟩ := List.cons.inj all
      have planned := Server.plan_blockSegment current holds inner whole brings
      rcases takeBlockSegment_cases target download (Segment.ofPlace (data ++ padding) place) with
        ⟨cause, notices, refused⟩ | ⟨-, taken⟩
      · rw [refused] at planned
        exact absurd unaborted (Server.not_unaborted_of_fail planned)
      · rw [taken] at planned
        obtain ⟨leads, kept, -⟩ := Server.receive_done dictionary time planned
        refine Or.inr ⟨?_, kept⟩
        rw [leads]
        exact .blocks few whole inner (holds.follow inner)
    · obtain rfl : place = chunkCount (data ++ padding) := by omega
      rw [← Segment.length_stream, List.drop_length] at all
      obtain ⟨rfl, rfl⟩ := List.cons.inj all
      have received := holds.received
      rw [← whole, List.take_length] at received
      exact Or.inl ⟨rfl, Server.receive_blockDownloadEnd_stored current
        (holds.complete.trans (decide_eq_true rfl)) received few brings unaborted⟩

/-- **The requests still to come store the value**, by induction on the operations that bring them:
only the last request changes what the session awaits into a value that is stored. -/
theorem run {operations : List Operation} {value : Option (List UInt8)}
    (awaits : server.session.Awaits target data requests) (sends : Sends operations requests)
    (offers : dictionary.Offers target value)
    (unaborted : Event.Unaborted (server.run dictionary operations).events) :
    (server.run dictionary operations).store.Offers target (some data) := by
  induction sends generalizing server dictionary value with
  | nil => exact absurd rfl awaits.ne_nil
  | @aside operation operations _ _ aside later ih =>
    obtain ⟨same, -⟩ := Server.perform_aside server dictionary aside
    obtain ⟨value, offers⟩ := offers.perform server operation
    rw [← same] at awaits
    exact ih awaits offers (Event.unaborted_append.mp unaborted).2
  | @request frame time operations _ requests brings later ih =>
    obtain ⟨first, rest⟩ := Event.unaborted_append.mp unaborted
    rcases awaits.step brings first with ⟨rfl, stored⟩ | ⟨awaits, kept⟩
    · cases later with
      | nil =>
        show (server.receive dictionary frame time).store.Offers target _
        rw [stored]
        exact offers.set_self data
    · rw [← kept] at offers
      exact ih awaits offers rest

end Session.Awaits

/-! ### Downloads -/

/-- Operations that download a value, and are answered with success: its opening is accepted, and
nothing is answered with an abort. -/
inductive Server.Downloads (server : Server) (dictionary : Dictionary) (target : Target)
    (data : List UInt8) : List Operation → Prop
  /-- A client writes the value at once. -/
  | expedited {frame : Frame} {time : Nat} (expedites : frame.Expedites target data)
      (accepted : Event.responses (server.receive dictionary frame time).events =
        [.downloadAccepted target]) :
      Downloads server dictionary target data [.frame frame time]
  /-- A client brings the value in segments, however it is cut. -/
  | segmented {opening : Frame} {time : Nat} {declared : Option UInt32}
      {pieces : List (List UInt8)} {operations : List Operation}
      (opens : opening.Brings (.download target declared)) (nonempty : pieces ≠ [])
      (few : ∀ piece ∈ pieces, piece.length ≤ segmentCapacity) (whole : pieces.flatten = data)
      (sends : Sends operations (Request.segments false pieces))
      (accepted : Event.responses (server.receive dictionary opening time).events =
        [.downloadAccepted target])
      (unaborted : Event.Unaborted
        (server.run dictionary (.frame opening time :: operations)).events) :
      Downloads server dictionary target data (.frame opening time :: operations)
  /-- A client brings the value in blocks, filled up to whole segments. -/
  | blocks {opening : Frame} {time : Nat} {declared : Option UInt32} {checksummed : Bool}
      {padding : List UInt8} {checksum : UInt16} {operations : List Operation}
      (opens : opening.Brings (.blockDownload target checksummed declared))
      (whole : (data ++ padding).length = segmentCapacity * max 1 (chunkCount data))
      (sends : Sends operations (Request.blocks (data ++ padding) 0 padding.length checksum))
      (accepted : Event.responses (server.receive dictionary opening time).events =
        [.blockDownloadStarted target checksummed])
      (unaborted : Event.Unaborted
        (server.run dictionary (.frame opening time :: operations)).events) :
      Downloads server dictionary target data (.frame opening time :: operations)
  /-- The value is written on this side. -/
  | locally (stored : (Server.download dictionary target data).outcome = .ok .ok) :
      Downloads server dictionary target data [.download target data]

namespace Server

variable {server : Server} {dictionary : Dictionary} {target : Target} {data : List UInt8}
  {frame : Frame} {time : Nat}

/-- A download that is opened is accepted, and calls on nothing. -/
theorem receive_download {σ : Type} [Store σ] (ready : server.session.isReceiving = false)
    {declared : Option UInt32} (opens : Request.decode frame.octets = .download target declared)
    (store : σ) (time : Nat) :
    let reaction := server.receive store frame time
    reaction.server.session = ⟨target, .download ⟨[], declared, false⟩⟩ ∧
      reaction.store = store ∧ Event.responses reaction.events = [.downloadAccepted target] := by
  have planned : server.session.plan (server.session.interpret frame.octets) =
      .finish (Session.openDownload target declared) := by
    rw [Session.interpret_of_ready ready, opens]
    rfl
  obtain ⟨leads, kept, responses⟩ := receive_done store time planned
  refine ⟨leads, kept, responses.trans ?_⟩
  cases declared <;> rfl

theorem receive_expedites (ready : server.session.isReceiving = false)
    (expedites : frame.Expedites target data)
    (unaborted : Event.Unaborted (server.receive dictionary frame time).events) :
    (server.receive dictionary frame time).store = dictionary.set target data := by
  refine receive_stored ?_ unaborted
  rw [Session.interpret_of_expedites ready expedites]
  rfl

/-- **Behind a download the entry offers its value.** -/
theorem Downloads.offers {operations : List Operation} {value : Option (List UInt8)}
    (downloads : server.Downloads dictionary target data operations)
    (offers : dictionary.Offers target value) :
    (server.run dictionary operations).store.Offers target (some data) := by
  cases downloads with
  | @expedited frame time expedites accepted =>
    have ready := not_receiving_of_responses accepted rfl nofun
    have stored := receive_expedites ready expedites ((Event.unaborted_iff accepted).mpr rfl)
    show (server.receive dictionary frame time).store.Offers target _
    rw [stored]
    exact offers.set_self data
  | @segmented opening time declared pieces operations opens nonempty few whole sends accepted
      unaborted =>
    have ready := not_receiving_of_responses accepted rfl nofun
    obtain ⟨leads, kept, -⟩ :=
      receive_download ready (Request.decode_of_brings trivial opens) dictionary time
    have awaits : (server.receive dictionary opening time).server.session.Awaits target data
        (Request.segments false pieces) := by
      rw [leads]
      exact @Session.Awaits.segments target data ⟨[], declared, false⟩ pieces nonempty few whole
    rw [← kept] at offers
    exact awaits.run sends offers (Event.unaborted_append.mp unaborted).2
  | @blocks opening time declared checksummed padding checksum operations opens whole sends accepted
      unaborted =>
    have ready := not_receiving_of_responses accepted rfl nofun
    obtain ⟨leads, kept, -⟩ := receive_blockDownload ready opens dictionary time
    have count := chunkCount_body whole
    have positive : 0 < chunkCount (data ++ padding) := by
      rw [count]
      exact Nat.le_max_left 1 _
    have few := length_padding_le whole
    have awaits : (server.receive dictionary opening time).server.session.Awaits target data
        (Request.blocks (data ++ padding) 0 padding.length checksum) := by
      rw [leads]
      exact .blocks few (count ▸ whole) (Nat.zero_le _)
        (BlockDownload.holds_opened declared checksummed positive)
    rw [← kept] at offers
    exact awaits.run sends offers (Event.unaborted_append.mp unaborted).2
  | locally stored =>
    rcases dictionary.write_cases target data false with
      ⟨-, status, refused, outcome⟩ | ⟨entry, -, -, taken⟩
    · exact absurd (Except.ok.inj (outcome.symm.trans stored)) refused
    · show (dictionary.write target data false).store.Offers target _
      rw [taken]
      exact offers.set_self data

end Server

end Canopen
