/-
**Lost and repeated segments of a download.**

* `Request.copies`: requests in order, each as often as it arrives.
* `Request.Arrive`: each but the last arrives once, and the last one at least once.
* `Server.plan_piece`: the next segment of a download, if there is room for it.
* `Server.asksAll_idle`: segments that no download is open for ask for nothing.
* `Server.asksAll_copies`: **what the copies of segments ask for**, by induction on the pieces. The
  toggle tells a segment from the one before it, so it meets every repetition and every gap.
* `Server.receiveAll_copies`: **a value is written once and whole, or not at all**, and it is
  written exactly if its segments arrive.
-/

import Mathlib.Data.Bool.Basic
import Mathlib.Data.List.Defs
import Mathlib.Logic.Basic
import Canopen.Proofs.Downloads

namespace Canopen

namespace Request

/-- Requests in order, each as often as it arrives. -/
def copies (counts : List Nat) (requests : List Request) : List Request :=
  (List.zipWith List.replicate counts requests).flatten

/-- Each request but the last arrives once, and the last one at least once. -/
def Arrive (counts : List Nat) : Prop :=
  (∀ count ∈ counts.dropLast, count = 1) ∧ 1 ≤ counts.getLastD 0

instance (counts : List Nat) : Decidable (Arrive counts) :=
  inferInstanceAs (Decidable (_ ∧ _))

theorem arrive_singleton {count : Nat} : Arrive [count] ↔ 1 ≤ count :=
  and_iff_right (List.forall_mem_nil _)

theorem arrive_cons_cons {first second : Nat} {rest : List Nat} :
    Arrive (first :: second :: rest) ↔ first = 1 ∧ Arrive (second :: rest) := by
  unfold Arrive
  rw [List.dropLast_cons_cons, List.forall_mem_cons, and_assoc]
  rfl

/-- The request brings a segment of a download. -/
def IsSegment (request : Request) : Prop :=
  ∃ toggle data last, request = .downloadSegment toggle data last ∧
    data.length ≤ segmentCapacity

theorem isSegment_of_mem_segments {pieces : List (List UInt8)} {toggle : Bool}
    (few : ∀ piece ∈ pieces, piece.length ≤ segmentCapacity) :
    ∀ request ∈ segments toggle pieces, request.IsSegment := by
  induction pieces generalizing toggle with
  | nil => exact List.forall_mem_nil _
  | cons piece rest ih =>
    rw [List.forall_mem_cons] at few
    exact List.forall_mem_cons.mpr ⟨⟨toggle, piece, rest.isEmpty, rfl, few.1⟩, ih few.2⟩

theorem mem_of_mem_copies {counts : List Nat} {requests : List Request} {request : Request}
    (member : request ∈ copies counts requests) : request ∈ requests := by
  induction counts generalizing requests with
  | nil => exact absurd member List.not_mem_nil
  | cons count others ih =>
    cases requests with
    | nil => exact absurd member List.not_mem_nil
    | cons first rest =>
      rcases List.mem_append.mp member with same | later
      · rw [List.eq_of_mem_replicate same]
        exact List.mem_cons_self
      · exact List.mem_cons_of_mem _ (ih later)

theorem isSegment_of_mem_copies {pieces : List (List UInt8)}
    (few : ∀ piece ∈ pieces, piece.length ≤ segmentCapacity) (toggle : Bool)
    (counts : List Nat) :
    ∀ request ∈ copies counts (segments toggle pieces), request.IsSegment :=
  fun request member => isSegment_of_mem_segments few request (mem_of_mem_copies member)

end Request

/-- Frames that bring requests in order, one each. -/
abbrev BringAll (frames : List (Frame × Nat)) (requests : List Request) : Prop :=
  List.Forall₂ (fun received request => received.1.Brings request) frames requests

namespace Server

variable {σ : Type} [Store σ] {server : Server} {frame : Frame} {time : Nat}
  {frames : List (Frame × Nat)} {requests : List Request} {target : Target} {download : Download}
  {toggle : Bool} {piece : List UInt8} {last : Bool}

/-- Behind a write that is asked for the session is at rest. -/
theorem receive_asked {call : WriteCall} (asked : server.asks (.frame frame time) = [call])
    (store : σ) : (server.receive store frame time).server.session = .idle call.target := by
  have recorded := receive_recorded server store [] frame time
  have stores := server.receive_stores (Recorded.mk store []) frame time
  change (server.session.plan (server.session.interpret frame.octets)).writes = [call] at asked
  simp only [recorded, asked] at stores
  rcases stores with untouched | ⟨target, data, accepted, -, written, rest, -⟩
  · exact absurd untouched (List.cons_ne_nil _ _)
  · rw [List.singleton_inj.mp written]
    exact rest

/-! ### One segment -/

/-- A segment that no download is open for ends in an abort. -/
theorem plan_idle (atRest : server.session = .idle target) {request : Request}
    (segment : request.IsSegment) (brings : frame.Brings request) :
    server.session.plan (server.session.interpret frame.octets) =
      .finish (.fail (.idle target) .general [.downloadNotOpen]) := by
  obtain ⟨toggle, data, last, rfl, few⟩ := segment
  have ready : server.session.isReceiving = false := by
    rw [atRest]
    rfl
  have fits : (Request.downloadSegment toggle data last).Fits := few
  rw [Session.interpret_of_brings ready fits brings, atRest]
  rfl

/-- The next segment, if there is room for it, is taken or writes the value. -/
theorem plan_piece {declared : Option UInt32} {received : List UInt8}
    (session : server.session = ⟨target, .download ⟨received, declared, toggle⟩⟩)
    (few : piece.length ≤ segmentCapacity)
    (room : ∀ size, declared = some size → (received ++ piece).length ≤ size.toNat)
    (brings : frame.Brings (.downloadSegment toggle piece last)) :
    server.session.plan (server.session.interpret frame.octets) =
      if last then Session.writeDownload target ⟨received ++ piece, declared, toggle⟩
      else .finish (.done ⟨target, .download ⟨received ++ piece, declared, !toggle⟩⟩
        [.send (.downloadSegment toggle)]) := by
  rw [plan_downloadSegment session few brings, if_pos rfl]
  exact if_neg (Bool.eq_false_iff.mp (Session.isExcess_eq_false room))

/-- The next segment is taken, and asks for nothing unless it is the last one. -/
theorem receive_piece {declared : Option UInt32} {received : List UInt8}
    (session : server.session = ⟨target, .download ⟨received, declared, toggle⟩⟩)
    (few : piece.length ≤ segmentCapacity)
    (room : ∀ size, declared = some size → (received ++ piece).length ≤ size.toNat)
    (brings : frame.Brings (.downloadSegment toggle piece last)) (store : σ) (time : Nat) :
    let next := (server.receive store frame time).server.session
    if last then
      server.asks (.frame frame time) = [⟨target, received ++ piece, true⟩] ∧ next = .idle target
    else
      server.asks (.frame frame time) = [] ∧
        next = ⟨target, .download ⟨received ++ piece, declared, !toggle⟩⟩ := by
  intro next
  have planned := plan_piece session few room brings
  cases last with
  | true =>
    have asked : server.asks (.frame frame time) = [⟨target, received ++ piece, true⟩] :=
      congrArg Plan.writes planned
    exact ⟨asked, receive_asked asked store⟩
  | false =>
    obtain ⟨leads, -, -⟩ := receive_done store time planned
    exact ⟨congrArg Plan.writes planned, leads⟩

/-! ### Several segments -/

/-- **Segments that no download is open for** ask for nothing. -/
theorem asksAll_idle (atRest : server.session = .idle target)
    (segments : ∀ request ∈ requests, request.IsSegment) (brings : BringAll frames requests)
    (store : σ) : server.asksAll store frames = [] := by
  induction brings generalizing server store with
  | nil => rfl
  | @cons received request frames requests first rest ih =>
    obtain ⟨frame, time⟩ := received
    rw [List.forall_mem_cons] at segments
    have planned := plan_idle atRest segments.1 first
    obtain ⟨leads, -, -⟩ := receive_run store time planned
    rw [asksAll_finish planned]
    exact ih leads segments.2 _

/-- **A segment with the other toggle** gives the download up, and those behind it ask for
nothing. -/
theorem asksAll_other (session : server.session = ⟨target, .download download⟩)
    (few : piece.length ≤ segmentCapacity) (other : toggle ≠ download.toggle)
    (segments : ∀ request ∈ requests, request.IsSegment)
    (brings : BringAll frames (.downloadSegment toggle piece last :: requests)) (store : σ) :
    server.asksAll store frames = [] := by
  cases brings with
  | @cons received _ _ _ first rest =>
    obtain ⟨frame, time⟩ := received
    have planned := plan_downloadSegment session few first
    rw [if_neg other] at planned
    obtain ⟨leads, -, -⟩ := receive_run store time planned
    rw [asksAll_finish planned]
    exact asksAll_idle leads segments rest _

/-- Behind copies of the last segment the value is written, if there is one. -/
theorem asksAll_last {declared : Option UInt32} {received : List UInt8} {count : Nat}
    (session : server.session = ⟨target, .download ⟨received, declared, toggle⟩⟩)
    (few : piece.length ≤ segmentCapacity)
    (room : ∀ size, declared = some size → (received ++ piece).length ≤ size.toNat)
    (brings : BringAll frames (Request.copies [count] (Request.segments toggle [piece])))
    (store : σ) :
    server.asksAll store frames =
      if 1 ≤ count then [⟨target, received ++ piece, true⟩] else [] := by
  cases count with
  | zero =>
    cases brings
    rfl
  | succ count =>
    cases brings with
    | @cons copy _ _ _ brings later =>
      obtain ⟨frame, time⟩ := copy
      obtain ⟨asked, leads⟩ := receive_piece session few room brings store time
      have segments := Request.isSegment_of_mem_copies (List.forall_mem_singleton.mpr few) toggle
        [count]
      rw [asksAll, asked, if_pos (Nat.le_add_left 1 count), asksAll_idle leads segments later]
      rfl

/-- **What the copies of segments ask for**: the value is written once, with the first copy of the
last segment, exactly if the segments arrive. -/
theorem asksAll_copies {pieces : List (List UInt8)} {counts : List Nat} {declared : Option UInt32}
    {received : List UInt8}
    (session : server.session = ⟨target, .download ⟨received, declared, toggle⟩⟩)
    (pieced : pieces ≠ []) (few : ∀ piece ∈ pieces, piece.length ≤ segmentCapacity)
    (room : ∀ size, declared = some size → (received ++ pieces.flatten).length ≤ size.toNat)
    (length : counts.length = pieces.length)
    (apart : counts.IsChain fun first second => first ≠ 0 ∨ second ≠ 0)
    (brings : BringAll frames (Request.copies counts (Request.segments toggle pieces)))
    (store : σ) :
    server.asksAll store frames =
      if Request.Arrive counts then [⟨target, received ++ pieces.flatten, true⟩] else [] := by
  induction pieces generalizing received toggle counts frames server store with
  | nil => exact absurd rfl pieced
  | cons piece rest ih =>
    obtain ⟨count, others, rfl⟩ := List.exists_cons_of_length_eq_add_one length
    cases rest with
    | nil =>
      obtain rfl := List.length_eq_zero_iff.mp (Nat.succ.inj length)
      rw [List.flatten_singleton] at room ⊢
      have all := asksAll_last session (few piece List.mem_cons_self) room brings store
      exact all.trans (if_congr Request.arrive_singleton.symm rfl rfl)
    | cons next rest =>
      obtain ⟨second, others, rfl⟩ := List.exists_cons_of_length_eq_add_one (Nat.succ.inj length)
      rw [List.isChain_cons_cons] at apart
      obtain ⟨first, later⟩ := List.forall_mem_cons.mp few
      rw [List.flatten_cons, ← List.append_assoc] at room ⊢
      have here (size : UInt32) (known : declared = some size) :
          (received ++ piece).length ≤ size.toNat := by
        have all := room size known
        rw [List.length_append] at all
        omega
      -- The first piece is lost, arrives once, or arrives again before the next one does.
      match count with
      | 0 =>
        obtain ⟨copies, rfl⟩ := Nat.exists_eq_add_one_of_ne_zero (apart.1.resolve_left (absurd rfl))
        rw [if_neg fun arrive => Nat.zero_ne_one (Request.arrive_cons_cons.mp arrive).1]
        exact asksAll_other session (later next List.mem_cons_self) (Bool.not_ne_self toggle)
          (Request.isSegment_of_mem_copies later (!toggle) (copies :: others)) brings store
      | 1 =>
        cases brings with
        | @cons copy _ _ _ brings more =>
          obtain ⟨frame, time⟩ := copy
          obtain ⟨asked, leads⟩ := receive_piece session first here brings store time
          rw [asksAll, asked]
          refine (ih leads (List.cons_ne_nil _ _) later room (Nat.succ.inj length) apart.2 more
            _).trans ?_
          exact if_congr (Request.arrive_cons_cons.trans (and_iff_right rfl)).symm rfl rfl
      | copies + 2 =>
        rw [if_neg fun arrive => absurd (Request.arrive_cons_cons.mp arrive).1 (by omega)]
        cases brings with
        | @cons copy _ _ _ brings more =>
          obtain ⟨frame, time⟩ := copy
          obtain ⟨asked, leads⟩ := receive_piece session first here brings store time
          rw [asksAll, asked]
          exact asksAll_other leads first (Bool.self_ne_not toggle)
            (Request.isSegment_of_mem_copies few toggle (copies :: second :: others)) more _

/-- **Segments that are lost or repeated.** Behind an opening that is accepted each segment of a
value arrives any number of times, but never are two neighbours lost. The value is written once, as
it was sent, if each segment but the last one arrives once and the last one at least once; otherwise
nothing is written. -/
theorem receiveAll_copies {opening : Frame} {declared : Option UInt32} {pieces : List (List UInt8)}
    {counts : List Nat} {store : σ}
    (opens : Request.decode opening.octets = .download target declared)
    (accepted : Event.responses (server.receive store opening time).events =
      [.downloadAccepted target])
    (pieced : pieces ≠ []) (few : ∀ piece ∈ pieces, piece.length ≤ segmentCapacity)
    (room : ∀ size, declared = some size → pieces.flatten.length ≤ size.toNat)
    (length : counts.length = pieces.length)
    (apart : counts.IsChain fun first second => first ≠ 0 ∨ second ≠ 0)
    (brings : BringAll frames (Request.copies counts (Request.segments false pieces)))
    (writes : List WriteCall) :
    let opened := server.receive (Recorded.mk store writes) opening time
    let ended := opened.server.receiveAll opened.store frames
    ended.store.writes =
      writes ++ if Request.Arrive counts then [⟨target, pieces.flatten, true⟩] else [] := by
  intro opened ended
  have ready := not_receiving_of_responses accepted rfl nofun
  obtain ⟨leads, kept, -⟩ := receive_download ready opens (Recorded.mk store writes) time
  have recorded := receiveAll_recorded opened.server store writes frames
  rw [← kept] at recorded
  refine (congrArg (fun reaction => reaction.store.writes) recorded).trans ?_
  exact congrArg (writes ++ ·)
    (asksAll_copies leads pieced few room length apart brings store)

/-- The first of two segments arrives once and the second one twice. -/
theorem receiveAll_copies_repeated :
    ∃ opened ended : Reaction (Recorded Dictionary),
      opened = (new 0x582).receive (Recorded.mk (Dictionary.single ⟨0x2000, 1⟩ []) [])
        (Request.download ⟨0x2000, 1⟩ (some 3)).frame 0 ∧
      ended = opened.server.receiveAll opened.store
        [((Request.downloadSegment false [1, 2] false).frame, 1),
          ((Request.downloadSegment true [3] true).frame, 2),
          ((Request.downloadSegment true [3] true).frame, 3)] ∧
      ended.store.writes = [⟨⟨0x2000, 1⟩, [1, 2, 3], true⟩] := by
  have opens : Request.decode (Request.download ⟨0x2000, 1⟩ (some 3)).frame.octets =
      .download ⟨0x2000, 1⟩ (some 3) :=
    Request.decode_of_brings trivial (Request.brings_frame (by decide))
  have accepted : Event.responses ((new 0x582).receive (Dictionary.single ⟨0x2000, 1⟩ [])
      (Request.download ⟨0x2000, 1⟩ (some 3)).frame 0).events =
        [.downloadAccepted ⟨0x2000, 1⟩] := by decide
  have room : ∀ size : UInt32, some 3 = some size → [[(1 : UInt8), 2], [3]].flatten.length ≤
      size.toNat := fun _ known => Option.some.inj known ▸ Nat.le_refl 3
  have apart : [1, 2].IsChain fun first second => first ≠ 0 ∨ second ≠ 0 :=
    .cons_cons (Or.inl (by decide)) (.singleton 2)
  have brings : BringAll
      [((Request.downloadSegment false [1, 2] false).frame, 1),
        ((Request.downloadSegment true [3] true).frame, 2),
        ((Request.downloadSegment true [3] true).frame, 3)]
      (Request.copies [1, 2] (Request.segments false [[1, 2], [3]])) :=
    .cons (Request.brings_frame (by decide)) (.cons (Request.brings_frame (by decide))
      (.cons (Request.brings_frame (by decide)) .nil))
  have written := receiveAll_copies opens accepted (List.cons_ne_nil _ _) (by decide) room rfl
    apart brings []
  exact ⟨_, _, rfl, rfl, written⟩

end Server

end Canopen
