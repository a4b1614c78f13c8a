/-
**A download stores the same value, however it is cut.**

* `Server.answers`: the responses to frames in order, for each of them apart.
* `Request.unmarked`: segments with toggles that alternate, none of them the last one.
* `Server.receiveAll_unmarked`: **such segments are taken one after the other**, as long as there is
  room for them, and the store is not called.
* `Server.receiveAll_aborted`: a segment that ends the download, and those behind it.
* `Response.ofWrite`: the answer to the last segment, by what the write comes to.
* `Server.Stores`, `Server.Refuses`: frames that write a value with the last of them, and frames
  that end the download at one of them and write nothing.
* `Server.receive_download_gathers`: **behind an opening the pieces of a value are stored as one.**
-/

import Mathlib.Data.List.Flatten
import Mathlib.Data.List.Forall2
import Mathlib.Data.List.Induction
import Canopen.Proofs.Copies

namespace Canopen

/-! ### Frames in order -/

namespace Server

variable {σ : Type} [Store σ]

/-- The responses to frames in order, for each of them apart. -/
def answers (server : Server) (store : σ) : List (Frame × Nat) → List (List Response)
  | [] => []
  | (frame, time) :: later =>
    let reaction := server.receive store frame time
    Event.responses reaction.events :: reaction.server.answers reaction.store later

theorem answers_append (server : Server) (store : σ) (first second : List (Frame × Nat)) :
    let reached := server.receiveAll store first
    server.answers store (first ++ second) =
      server.answers store first ++ reached.server.answers reached.store second := by
  induction first generalizing server store with
  | nil => rfl
  | cons received later ih =>
    obtain ⟨frame, time⟩ := received
    exact congrArg (List.cons _) (ih _ _)

end Server

/-- Frames that bring requests are those that bring the first of them, and the others. -/
theorem BringAll.split {frames : List (Frame × Nat)} {first second : List Request}
    (brings : BringAll frames (first ++ second)) :
    ∃ early late, frames = early ++ late ∧ BringAll early first ∧ BringAll late second :=
  ⟨frames.take first.length, frames.drop first.length, (List.take_append_drop _ _).symm,
    List.forall₂_take_append _ _ _ brings, List.forall₂_drop_append _ _ _ brings⟩

namespace Request

/-- Segments with toggles that alternate from a place on, none of them marked as the last one. -/
def unmarked (place : Nat) : List (List UInt8) → List Request
  | [] => []
  | piece :: rest =>
    .downloadSegment (decide (place % 2 = 1)) piece false :: unmarked (place + 1) rest

theorem length_unmarked (place : Nat) (pieces : List (List UInt8)) :
    (unmarked place pieces).length = pieces.length := by
  induction pieces generalizing place with
  | nil => rfl
  | cons piece rest ih => exact congrArg Nat.succ (ih _)

theorem take_unmarked (place count : Nat) (pieces : List (List UInt8)) :
    (unmarked place pieces).take count = unmarked place (pieces.take count) := by
  induction pieces generalizing place count with
  | nil => rw [unmarked, List.take_nil, List.take_nil, unmarked]
  | cons piece rest ih =>
    cases count with
    | zero => rfl
    | succ count => rw [unmarked, List.take_succ_cons, ih, List.take_succ_cons, unmarked]

/-- The segments before one of them are not marked. -/
theorem segments_split (place : Nat) (before : List (List UInt8)) (piece : List UInt8)
    (after : List (List UInt8)) :
    segments (decide (place % 2 = 1)) (before ++ piece :: after) =
      unmarked place before ++
        .downloadSegment (decide ((place + before.length) % 2 = 1)) piece after.isEmpty ::
          segments (decide ((place + before.length + 1) % 2 = 1)) after := by
  induction before generalizing place with
  | nil => rw [List.nil_append, segments, ← toggle_succ]; rfl
  | cons first rest ih =>
    have more : (rest ++ piece :: after).isEmpty = false := by cases rest <;> rfl
    rw [List.cons_append, segments, more, ← toggle_succ, ih, unmarked, List.length_cons,
      List.cons_append, Nat.add_right_comm place 1, Nat.add_assoc place]

end Request

namespace Response

/-- The answers to segments that are taken, from a place on. -/
def acks (place count : Nat) : List (List Response) :=
  (List.range' place count).map fun place => [downloadSegment (decide (place % 2 = 1))]

theorem acks_succ (place count : Nat) :
    acks place (count + 1) =
      [downloadSegment (decide (place % 2 = 1))] :: acks (place + 1) count := by
  rw [acks, List.range'_succ, List.map_cons, ← acks]

/-- The answer to the last segment of a download: the value is taken, or the client is told why it
is not. -/
def ofWrite (target : Target) (toggle : Bool) : Except Fault Status → Response
  | .ok .ok => .downloadSegment toggle
  | .ok status => .abort target status.abortCode
  | .error _ => .abort target 0x08000000

/-- The answer to a segment that is taken is its toggle. -/
theorem toList_downloadSegment (toggle : Bool) :
    (downloadSegment toggle).encode.toList =
      (0x20 ||| (if toggle then 0x10 else 0)) :: List.replicate 7 0 := by
  cases toggle <;> rfl

end Response

/-! ### One segment -/

/-- The session of a download behind some of its segments. -/
def Session.gathering (target : Target) (declared : Option UInt32) (received : List UInt8)
    (place : Nat) : Session :=
  ⟨target, .download ⟨received, declared, decide (place % 2 = 1)⟩⟩

/-- What comes of the write of a download. -/
theorem Session.run_writeDownload {σ : Type} [Store σ] (store : σ) (target : Target)
    (download : Download) :
    let written := Store.write store target download.received true
    let ran := (writeDownload target download).run store
    (Server.conclude ran.1).1 = idle target ∧
      ran.1.responses = [.ofWrite target download.toggle written.outcome] ∧
      ran.2 = written.store := by
  intro written ran
  have kept : ran.2 = written.store := Plan.store_settle ..
  cases outcome : written.outcome with
  | error fault =>
    have failed : (Store.write store (Session.mk target (.download download)).target
      download.received true).outcome = .error fault := outcome
    obtain ⟨leads, responses⟩ := Plan.run_write_fault failed
    exact ⟨leads, responses, kept⟩
  | ok status =>
    have answered : (Store.write store (Session.mk target (.download download)).target
      download.received true).outcome = .ok status := outcome
    obtain ⟨leads, responses⟩ := Plan.run_write answered
    refine ⟨leads.trans ?_, responses.trans ?_, kept⟩
    · cases status <;> rfl
    · cases status <;> rfl

namespace Server

variable {σ : Type} [Store σ] {server : Server} {frame : Frame} {target : Target}
  {declared : Option UInt32} {received piece : List UInt8} {place : Nat} {toggle last : Bool}

/-- A segment for which there is room is taken, and answered with its toggle. -/
theorem receive_unmarked (session : server.session = .gathering target declared received place)
    (few : piece.length ≤ segmentCapacity)
    (room : ∀ bound, declared = some bound → (received ++ piece).length ≤ bound.toNat)
    (brings : frame.Brings (.downloadSegment (decide (place % 2 = 1)) piece false))
    (store : σ) (time : Nat) :
    let reaction := server.receive store frame time
    reaction.server.session = .gathering target declared (received ++ piece) (place + 1) ∧
      reaction.store = store ∧
      Event.responses reaction.events = [.downloadSegment (decide (place % 2 = 1))] := by
  rw [Session.gathering, Request.toggle_succ]
  exact receive_done store time (plan_piece session few room brings)

/-- The last segment writes the value, if there is room for it. -/
theorem receive_marked (session : server.session = .gathering target declared received place)
    (few : piece.length ≤ segmentCapacity)
    (room : ∀ bound, declared = some bound → (received ++ piece).length ≤ bound.toNat)
    (brings : frame.Brings (.downloadSegment (decide (place % 2 = 1)) piece true))
    (store : σ) (time : Nat) :
    let reaction := server.receive store frame time
    let written := Store.write store target (received ++ piece) true
    reaction.server.session = .idle target ∧ reaction.store = written.store ∧
      Event.responses reaction.events =
        [.ofWrite target (decide (place % 2 = 1)) written.outcome] := by
  obtain ⟨leads, kept, responses⟩ := receive_run store time (plan_piece session few room brings)
  obtain ⟨ends, answer, stored⟩ :=
    Session.run_writeDownload store target ⟨received ++ piece, declared, decide (place % 2 = 1)⟩
  exact ⟨leads.trans ends, kept.trans stored, responses.trans answer⟩

/-- A segment that goes past the declared size ends the download, also if it is the last one. -/
theorem receive_excess {bound : UInt32}
    (session : server.session = .gathering target (some bound) received place)
    (few : piece.length ≤ segmentCapacity) (excess : bound.toNat < (received ++ piece).length)
    (brings : frame.Brings (.downloadSegment (decide (place % 2 = 1)) piece last))
    (store : σ) (time : Nat) :
    let reaction := server.receive store frame time
    reaction.Aborted target 0x06070012 ∧ reaction.store = store := by
  have planned := plan_downloadSegment session few brings
  have past : Session.isExcess (received ++ piece).length (some bound) = true :=
    decide_eq_true excess
  unfold Session.takeSegment at planned
  simp only [past, if_true] at planned
  exact receive_fail store time planned

/-- A segment with another toggle than the expected one ends the download, whatever it carries. -/
theorem receive_untoggled (session : server.session = .gathering target declared received place)
    (few : piece.length ≤ segmentCapacity) (other : toggle ≠ decide (place % 2 = 1))
    (brings : frame.Brings (.downloadSegment toggle piece last)) (store : σ) (time : Nat) :
    let reaction := server.receive store frame time
    reaction.Aborted target 0x05030000 ∧ reaction.store = store := by
  have planned := plan_downloadSegment session few brings
  rw [if_neg other] at planned
  exact receive_fail store time planned

/-! ### Several segments -/

variable {frames : List (Frame × Nat)} {requests : List Request} {pieces : List (List UInt8)}

/-- **Segments that are not marked are taken one after the other**, as long as there is room for
them, by induction on the pieces. -/
theorem receiveAll_unmarked (session : server.session = .gathering target declared received place)
    (few : ∀ piece ∈ pieces, piece.length ≤ segmentCapacity)
    (room : ∀ bound, declared = some bound → (received ++ pieces.flatten).length ≤ bound.toNat)
    (brings : BringAll frames (Request.unmarked place pieces)) (store : σ) :
    let reached := server.receiveAll store frames
    server.answers store frames = Response.acks place pieces.length ∧
      reached.server.session =
        .gathering target declared (received ++ pieces.flatten) (place + pieces.length) ∧
      reached.store = store := by
  induction pieces generalizing server received place frames store with
  | nil =>
    cases brings
    rw [List.flatten_nil, List.append_nil]
    exact ⟨rfl, session, rfl⟩
  | cons piece rest ih =>
    rw [List.forall_mem_cons] at few
    rw [List.flatten_cons, ← List.append_assoc] at room ⊢
    have here (bound : UInt32) (known : declared = some bound) :
        (received ++ piece).length ≤ bound.toNat := by
      have all := room bound known
      rw [List.length_append] at all
      omega
    cases brings with
    | @cons first _ _ _ brings later =>
      obtain ⟨frame, time⟩ := first
      obtain ⟨leads, kept, answer⟩ := receive_unmarked session few.1 here brings store time
      obtain ⟨answers, ends, still⟩ :=
        ih leads few.2 room later (server.receive store frame time).store
      refine ⟨?_, ?_, still.trans kept⟩
      · rw [Server.answers, answer, answers, List.length_cons, Response.acks_succ]
      · rw [Nat.add_assoc, Nat.add_comm 1] at ends
        exact ends

/-- Behind some of the segments that are taken the store is as it was before them. -/
theorem store_take_unmarked (session : server.session = .gathering target declared received place)
    (few : ∀ piece ∈ pieces, piece.length ≤ segmentCapacity)
    (room : ∀ bound, declared = some bound → (received ++ pieces.flatten).length ≤ bound.toNat)
    (brings : BringAll frames (Request.unmarked place pieces)) (store : σ) (count : Nat) :
    (server.receiveAll store (frames.take count)).store = store := by
  have first := List.forall₂_take count brings
  rw [Request.take_unmarked] at first
  refine (receiveAll_unmarked session ?_ ?_ first store).2.2
  · intro piece member
    exact few piece (List.mem_of_mem_take member)
  · intro bound known
    have all := room bound known
    have shorter := (List.take_sublist count pieces).flatten.length_le
    rw [List.length_append] at all ⊢
    omega

/-- **Segments that no download is open for** are answered with an abort each. -/
theorem receiveAll_atRest (atRest : server.session = .idle target)
    (segments : ∀ request ∈ requests, request.IsSegment) (brings : BringAll frames requests)
    (store : σ) :
    let reached := server.receiveAll store frames
    server.answers store frames = List.replicate frames.length [.abort target 0x08000000] ∧
      reached.server.session = .idle target ∧ reached.store = store := by
  induction brings generalizing server store with
  | nil => exact ⟨rfl, atRest, rfl⟩
  | @cons received request frames requests first rest ih =>
    obtain ⟨frame, time⟩ := received
    rw [List.forall_mem_cons] at segments
    obtain ⟨aborted, kept⟩ := receive_fail store time (plan_idle atRest segments.1 first)
    obtain ⟨answers, ends, still⟩ :=
      ih aborted.session segments.2 (server.receive store frame time).store
    refine ⟨?_, ends, still.trans kept⟩
    rw [Server.answers, aborted.responses, answers, List.length_cons, List.replicate_succ]
    rfl

/-- A segment that ends the download is answered with its abort, and those behind it find no
download open. -/
theorem receiveAll_aborted {code : UInt32} {store : σ} {time : Nat}
    (aborted : (server.receive store frame time).Aborted target code)
    (still : (server.receive store frame time).store = store)
    (segments : ∀ request ∈ requests, request.IsSegment) (brings : BringAll frames requests) :
    let ended := server.receiveAll store ((frame, time) :: frames)
    server.answers store ((frame, time) :: frames) =
        [.abort target code] :: List.replicate frames.length [.abort target 0x08000000] ∧
      ended.server.session = .idle target ∧ ended.store = store := by
  obtain ⟨answers, ends, kept⟩ := receiveAll_atRest aborted.session segments brings
    (server.receive store frame time).store
  refine ⟨?_, ends, kept.trans still⟩
  rw [Server.answers, aborted.responses, answers]

/-! ### Whole downloads -/

/-- Frames that write a value with the last of them: each is answered with its toggle, the last one
by what the write comes to. -/
structure Stores (opened : Reaction (Recorded σ)) (target : Target) (data : List UInt8)
    (frames : List (Frame × Nat)) : Prop where
  answers : opened.server.answers opened.store frames =
    Response.acks 0 (frames.length - 1) ++
      [[.ofWrite target (decide ((frames.length - 1) % 2 = 1))
        (Store.write opened.store.inner target data true).outcome]]
  session : (opened.server.receiveAll opened.store frames).server.session = .idle target
  /-- The value is written once. -/
  store : (opened.server.receiveAll opened.store frames).store =
    ⟨(Store.write opened.store.inner target data true).store,
      opened.store.writes ++ [⟨target, data, true⟩]⟩
  /-- It is not written before the last frame. -/
  early : ∀ count < frames.length,
    (opened.server.receiveAll opened.store (frames.take count)).store = opened.store

/-- Frames that end the download at one of them and write nothing: those before it are answered with
their toggles, and those behind it find no download open. -/
structure Refuses (opened : Reaction (Recorded σ)) (target : Target) (place : Nat) (code : UInt32)
    (frames : List (Frame × Nat)) : Prop where
  answers : opened.server.answers opened.store frames =
    Response.acks 0 place ++ [.abort target code] ::
      List.replicate (frames.length - (place + 1)) [.abort target 0x08000000]
  /-- The session is at rest behind the frame that ends the download, and stays so. -/
  session : ∀ count, place < count →
    (opened.server.receiveAll opened.store (frames.take count)).server.session = .idle target
  store : ∀ count,
    (opened.server.receiveAll opened.store (frames.take count)).store = opened.store

section Opened

variable {opened : Reaction (Recorded σ)} {before : List (List UInt8)}

/-- **Segments for which there is room write their value.** -/
theorem stores_of_room (session : opened.server.session = .gathering target declared [] 0)
    (pieced : pieces ≠ []) (few : ∀ piece ∈ pieces, piece.length ≤ segmentCapacity)
    (room : ∀ bound, declared = some bound → pieces.flatten.length ≤ bound.toNat)
    (brings : BringAll frames (Request.segments false pieces)) :
    Stores opened target pieces.flatten frames := by
  -- Only the last piece is marked, so the others are taken as they come.
  obtain ⟨before, piece, rfl⟩ := (List.eq_nil_or_concat pieces).resolve_left pieced
  rw [List.concat_eq_append] at few room brings ⊢
  rw [List.forall_mem_append, List.forall_mem_singleton] at few
  rw [List.flatten_append, List.flatten_singleton] at room ⊢
  have split := Request.segments_split 0 before piece []
  rw [Nat.zero_add] at split
  obtain ⟨early, late, rfl, front, back⟩ := BringAll.split (split ▸ brings)
  cases back with
  | @cons received _ _ _ marked ended =>
    cases ended
    obtain ⟨frame, time⟩ := received
    have length : early.length = before.length := by
      rw [front.length_eq, Request.length_unmarked]
    have inside (bound : UInt32) (known : declared = some bound) :
        ([] ++ before.flatten).length ≤ bound.toNat := by
      have all := room bound known
      rw [List.length_append] at all
      rw [List.nil_append]
      omega
    obtain ⟨answers, leads, kept⟩ :=
      receiveAll_unmarked session few.1 inside front opened.store
    rw [Nat.zero_add, List.nil_append] at leads
    obtain ⟨ends, stored, answer⟩ := receive_marked leads few.2 room marked
      (opened.server.receiveAll opened.store early).store time
    have whole := receiveAll_append opened.server opened.store early [(frame, time)]
    have count : (early ++ [(frame, time)]).length - 1 = before.length := by
      rw [List.length_append, length]
      rfl
    rw [kept] at stored answer
    refine ⟨?_, ?_, ?_, ?_⟩
    · rw [answers_append, answers, count, Server.answers, kept, answer]
      rfl
    · rw [whole]
      exact ends
    · rw [whole]
      show ((opened.server.receiveAll opened.store early).server.receive
        (opened.server.receiveAll opened.store early).store frame time).store = _
      rw [kept]
      exact stored
    · intro count less
      have within : count ≤ early.length := by
        rw [List.length_append] at less
        exact Nat.le_of_lt_succ less
      rw [List.take_append_of_le_length within]
      exact store_take_unmarked session few.1 inside front opened.store count

/-- **Segments end at one that is refused**, and nothing is written. -/
theorem refuses_of_aborted {request : Request} {code : UInt32}
    (session : opened.server.session = .gathering target declared [] 0)
    (few : ∀ piece ∈ before, piece.length ≤ segmentCapacity)
    (room : ∀ bound, declared = some bound → before.flatten.length ≤ bound.toNat)
    (refused : ∀ (server : Server) (frame : Frame) (time : Nat) (store : Recorded σ),
      server.session = .gathering target declared before.flatten before.length →
      frame.Brings request →
      (server.receive store frame time).Aborted target code ∧
        (server.receive store frame time).store = store)
    (segments : ∀ request ∈ requests, request.IsSegment)
    (brings : BringAll frames (Request.unmarked 0 before ++ request :: requests)) :
    Refuses opened target before.length code frames := by
  obtain ⟨early, late, rfl, front, back⟩ := brings.split
  have length : early.length = before.length := by
    rw [front.length_eq, Request.length_unmarked]
  obtain ⟨answers, leads, kept⟩ := receiveAll_unmarked session few room front opened.store
  rw [Nat.zero_add, List.nil_append] at leads
  cases back with
  | @cons received _ late _ brings later =>
    obtain ⟨frame, time⟩ := received
    obtain ⟨aborted, still⟩ := refused _ frame time
      (opened.server.receiveAll opened.store early).store leads brings
    -- Some of the frames are some before the one that is refused, or that one and some behind it.
    have behind (count : Nat) (past : before.length < count) :
        let reached := opened.server.receiveAll opened.store
          ((early ++ (frame, time) :: late).take count)
        reached.server.session = .idle target ∧ reached.store = opened.store := by
      obtain ⟨more, rfl⟩ := Nat.exists_eq_add_of_lt past
      obtain ⟨-, ends, rest⟩ := receiveAll_aborted aborted still
        (fun request member => segments request (List.mem_of_mem_take member))
        (List.forall₂_take more later)
      rw [← length, Nat.add_assoc, List.take_length_add_append, List.take_succ_cons,
        receiveAll_append opened.server opened.store early ((frame, time) :: late.take more)]
      exact ⟨ends, rest.trans kept⟩
    refine ⟨?_, fun count past => (behind count past).1, ?_⟩
    · obtain ⟨rest, -, -⟩ := receiveAll_aborted aborted still segments later
      have count : (early ++ (frame, time) :: late).length - (before.length + 1) =
          late.length := by
        rw [List.length_append, List.length_cons, length]
        omega
      rw [answers_append, answers, rest, count]
    · intro count
      by_cases past : before.length < count
      · exact (behind count past).2
      · rw [List.take_append_of_le_length (length ▸ Nat.le_of_not_lt past)]
        exact store_take_unmarked session few room front opened.store count

/-- Pieces that are too long as a whole become so at one of them. -/
theorem exists_excess {bound : Nat} (excess : bound < pieces.flatten.length) :
    ∃ before piece after, pieces = before ++ piece :: after ∧ before.flatten.length ≤ bound ∧
      bound < (before.flatten ++ piece).length := by
  induction pieces using List.reverseRecOn with
  | nil => exact absurd excess (Nat.not_lt_zero bound)
  | append_singleton pieces piece ih =>
    by_cases sooner : bound < pieces.flatten.length
    · obtain ⟨before, first, after, rfl, fits, past⟩ := ih sooner
      exact ⟨before, first, after ++ [piece], List.append_assoc _ _ _, fits, past⟩
    · refine ⟨pieces, piece, [], rfl, Nat.le_of_not_lt sooner, ?_⟩
      rw [List.flatten_append, List.flatten_singleton] at excess
      exact excess

/-- What the segments behind an opening come to. -/
structure Gathers (opened : Reaction (Recorded σ)) (target : Target) (declared : Option UInt32) :
    Prop where
  /-- Pieces for which there is room are written as one value. -/
  stored : ∀ pieces frames, pieces ≠ [] → (∀ piece ∈ pieces, piece.length ≤ segmentCapacity) →
    (∀ bound, declared = some bound → pieces.flatten.length ≤ bound.toNat) →
    BringAll frames (Request.segments false pieces) → Stores opened target pieces.flatten frames
  /-- The piece that goes past the declared size is refused. -/
  refused : ∀ before piece after bound frames, declared = some bound →
    (∀ other ∈ before ++ piece :: after, other.length ≤ segmentCapacity) →
    before.flatten.length ≤ bound.toNat → bound.toNat < (before.flatten ++ piece).length →
    BringAll frames (Request.segments false (before ++ piece :: after)) →
    Refuses opened target before.length 0x06070012 frames
  /-- A segment with another toggle than the expected one is refused, whatever it carries. -/
  untoggled : ∀ before toggle piece last later frames,
    (∀ other ∈ before, other.length ≤ segmentCapacity) → piece.length ≤ segmentCapacity →
    (∀ bound, declared = some bound → before.flatten.length ≤ bound.toNat) →
    toggle ≠ decide (before.length % 2 = 1) → (∀ request ∈ later, request.IsSegment) →
    BringAll frames (Request.unmarked 0 before ++ .downloadSegment toggle piece last :: later) →
    Refuses opened target before.length 0x05030000 frames
  /-- Two cuttings of a value leave the same store, whether there is room for it or not. -/
  uncut : ∀ pieces others frames lines, pieces ≠ [] → others ≠ [] →
    pieces.flatten = others.flatten → (∀ piece ∈ pieces, piece.length ≤ segmentCapacity) →
    (∀ piece ∈ others, piece.length ≤ segmentCapacity) →
    BringAll frames (Request.segments false pieces) →
    BringAll lines (Request.segments false others) →
    (opened.server.receiveAll opened.store frames).store =
      (opened.server.receiveAll opened.store lines).store

/-- **The segments behind an opening** come to the value that their pieces make. -/
theorem gathers_of_session (session : opened.server.session = .gathering target declared [] 0) :
    Gathers opened target declared := by
  have refused (before : List (List UInt8)) (piece : List UInt8) (after : List (List UInt8))
      (bound : UInt32) (frames : List (Frame × Nat)) (known : declared = some bound)
      (few : ∀ other ∈ before ++ piece :: after, other.length ≤ segmentCapacity)
      (fits : before.flatten.length ≤ bound.toNat)
      (past : bound.toNat < (before.flatten ++ piece).length)
      (brings : BringAll frames (Request.segments false (before ++ piece :: after))) :
      Refuses opened target before.length 0x06070012 frames := by
    rw [List.forall_mem_append, List.forall_mem_cons] at few
    have split := Request.segments_split 0 before piece after
    rw [Nat.zero_add] at split
    refine refuses_of_aborted session few.1 ?_ ?_
      (Request.isSegment_of_mem_segments few.2.2) (split ▸ brings)
    · rintro other same
      rwa [← Option.some.inj (known.symm.trans same)]
    · intro server frame time store reached brings
      rw [known] at reached
      exact receive_excess reached few.2.1 past brings store time
  refine ⟨fun pieces frames => stores_of_room session, refused, ?_, ?_⟩
  · intro before toggle piece last later frames few small room other segments brings
    refine refuses_of_aborted session few room ?_ segments brings
    intro server frame time store reached brings
    exact receive_untoggled reached small other brings store time
  · intro pieces others frames lines pieced apart same few small brings bring
    by_cases room : ∀ bound, declared = some bound → pieces.flatten.length ≤ bound.toNat
    · have first := stores_of_room session pieced few room brings
      have second := stores_of_room session apart small (same ▸ room) bring
      rw [first.store, second.store, same]
    · simp only [not_forall] at room
      obtain ⟨bound, known, many⟩ := room
      have excess := Nat.lt_of_not_le many
      have kept {pieces : List (List UInt8)} {frames : List (Frame × Nat)}
          (few : ∀ piece ∈ pieces, piece.length ≤ segmentCapacity)
          (excess : bound.toNat < pieces.flatten.length)
          (brings : BringAll frames (Request.segments false pieces)) :
          (opened.server.receiveAll opened.store frames).store = opened.store := by
        obtain ⟨before, piece, after, rfl, fits, past⟩ := exists_excess excess
        have all := (refused before piece after bound frames known few fits past brings).store
          frames.length
        rwa [List.take_length] at all
      rw [kept few excess brings, kept small (same ▸ excess) bring]

end Opened

/-- **A download stores the same value, however it is cut.** An opening is accepted, and calls on
nothing. Segments of it that alternate their toggles are answered with them; the last one writes
what all of them brought, once and checked, if there is room for it, and the session is at rest. A
segment that goes past the declared size ends the download with an abort, and one with the wrong
toggle does; nothing is written then. -/
theorem receive_download_gathers (ready : server.session.isReceiving = false) {opening : Frame}
    (opens : Request.decode opening.octets = .download target declared) (store : σ)
    (writes : List WriteCall) (time : Nat) :
    let opened := server.receive (Recorded.mk store writes) opening time
    Event.responses opened.events = [.downloadAccepted target] ∧ opened.store = ⟨store, writes⟩ ∧
      (∀ toggle, (Response.downloadSegment toggle).encode.toList =
        (0x20 ||| (if toggle then 0x10 else 0)) :: List.replicate 7 0) ∧
      Gathers opened target declared := by
  intro opened
  obtain ⟨leads, kept, responses⟩ := receive_download ready opens (Recorded.mk store writes) time
  exact ⟨responses, kept, Response.toList_downloadSegment, gathers_of_session leads⟩

/-- Three octets in two pieces and in three of them, one of which is empty. -/
theorem receive_download_gathers_cut :
    let opened := (new 0x582).receive (Recorded.mk (Dictionary.single ⟨0x2000, 1⟩ []) [])
      (Request.download ⟨0x2000, 1⟩ (some 3)).frame 0
    Stores opened ⟨0x2000, 1⟩ [1, 2, 3]
        [((Request.downloadSegment false [1, 2] false).frame, 1),
          ((Request.downloadSegment true [3] true).frame, 2)] ∧
      Stores opened ⟨0x2000, 1⟩ [1, 2, 3]
        [((Request.downloadSegment false [1] false).frame, 1),
          ((Request.downloadSegment true [] false).frame, 2),
          ((Request.downloadSegment false [2, 3] true).frame, 3)] := by
  intro opened
  have opens : Request.decode (Request.download ⟨0x2000, 1⟩ (some 3)).frame.octets =
      .download ⟨0x2000, 1⟩ (some 3) :=
    Request.decode_of_brings trivial (Request.brings_frame (by decide))
  have room (bound : UInt32) (known : some 3 = some bound) : [1, 2, 3].length ≤ bound.toNat :=
    Option.some.inj known ▸ Nat.le_refl 3
  have ready : (new 0x582).session.isReceiving = false := rfl
  obtain ⟨-, -, -, gathers⟩ := receive_download_gathers ready opens
    (Dictionary.single ⟨0x2000, 1⟩ []) [] 0
  refine ⟨?_, ?_⟩
  · exact gathers.stored [[1, 2], [3]] _ (List.cons_ne_nil _ _) (by decide) room
      (.cons (Request.brings_frame (by decide)) (.cons (Request.brings_frame (by decide)) .nil))
  · exact gathers.stored [[1], [], [2, 3]] _ (List.cons_ne_nil _ _) (by decide) room
      (.cons (Request.brings_frame (by decide)) (.cons (Request.brings_frame (by decide))
        (.cons (Request.brings_frame (by decide)) .nil)))

end Server

end Canopen
