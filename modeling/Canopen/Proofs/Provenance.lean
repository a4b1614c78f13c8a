/-
**Where the values come from that a server writes.**

* `Server.requests`: frames as the server reads them, each in the session in which it comes.
* `Session.Traced`: an open download goes back to the request that opened it, and holds what the
  requests since then have brought, in order.
* `Session.traced_turns`, `Server.traced_receiveAll`: every request keeps this, and so does a run.
* `Provenance`: what was read before a write, and what is written.
* `Server.receive_provenance`: **every write of every run has a provenance**.
-/

import Canopen.Proofs.Turns

namespace Canopen

namespace Request

/-- The requests that are not taken without an answer. -/
def heard (requests : List Request) : List Request :=
  requests.filter fun request => !request.isSilent

theorem heard_append_silent (requests : List Request) {request : Request}
    (silent : request.isSilent = true) : heard (requests ++ [request]) = heard requests := by
  rw [heard, List.filter_append, List.filter_cons, silent]
  exact List.append_nil _

theorem heard_append (requests : List Request) {request : Request}
    (loud : request.isSilent = false) :
    heard (requests ++ [request]) = heard requests ++ [request] := by
  rw [heard, List.filter_append, List.filter_cons, loud]
  rfl

/-- The segments that bring pieces of a value with toggles that alternate from zero, none of them
the last. -/
def alternating (pieces : List (List UInt8)) : List Request :=
  pieces.zipIdx.map fun piece => .downloadSegment (decide (piece.2 % 2 = 1)) piece.1 false

theorem alternating_append (pieces : List (List UInt8)) (piece : List UInt8) :
    alternating (pieces ++ [piece]) =
      alternating pieces ++ [.downloadSegment (decide (pieces.length % 2 = 1)) piece false] := by
  rw [alternating, List.zipIdx_append, List.map_append, Nat.zero_add]
  rfl

end Request

/-! ### Open downloads -/

/-- A block download holds what segments bring: they are numbered in order, and only the last one
of a complete download is marked. -/
structure BlockDownload.Traces (segments : List Segment) (download : BlockDownload) : Prop where
  numbered : ∀ place segment, segments[place]? = some segment →
    segment.number = place % greatestWindow + 1
  marked : ∀ place segment, segments[place]? = some segment →
    segment.last = (download.complete && decide (place + 1 = segments.length))
  received : download.received = Segment.join segments
  sequence : download.complete = false → download.sequence = segments.length % greatestWindow
  nonempty : download.complete = true → segments ≠ []

namespace BlockDownload

variable {download : BlockDownload} {segments : List Segment} {segment : Segment}

theorem traces_opened (declared : Option UInt32) (checksummed : Bool) :
    Traces [] ⟨[], declared, checksummed, 0, 0, false⟩ :=
  ⟨nofun, nofun, rfl, fun _ => rfl, nofun⟩

theorem complete_follow (receiving : download.complete = false) :
    (download.follow segment).complete = segment.last := by
  unfold follow
  cases closes : closesWindow segment with
  | true => rfl
  | false =>
    rw [closesWindow, Bool.or_eq_false_iff] at closes
    exact receiving.trans closes.2.symm

theorem received_follow :
    (download.follow segment).received = download.received ++ segment.data := by
  unfold follow
  cases closesWindow segment <;> rfl

theorem declared_follow : (download.follow segment).declared = download.declared := by
  unfold follow
  cases closesWindow segment <;> rfl

theorem checksummed_follow : (download.follow segment).checksummed = download.checksummed := by
  unfold follow
  cases closesWindow segment <;> rfl

/-- The number of the next segment of a window. -/
theorem sequence_follow {count : Nat} (number : segment.number = count % greatestWindow + 1)
    (inner : segment.last = false) :
    (download.follow segment).sequence = (count + 1) % greatestWindow := by
  unfold follow
  simp only [greatestWindow] at number ⊢
  by_cases full : greatestWindow ≤ segment.number
  · have closes : closesWindow segment = true := by
      rw [closesWindow, decide_eq_true full, Bool.true_or]
    rw [closes, if_pos rfl]
    show 0 = _
    simp only [greatestWindow] at full
    omega
  · have continues : closesWindow segment = false := by
      rw [closesWindow, decide_eq_false full, inner, Bool.or_false]
    rw [continues, if_neg Bool.false_ne_true]
    show segment.number = _
    simp only [greatestWindow] at full
    omega

/-- **The next segment** is traced behind those before it. -/
theorem traces_follow (traces : download.Traces segments) (receiving : download.complete = false)
    (expected : segment.number = download.sequence + 1) :
    (download.follow segment).Traces (segments ++ [segment]) := by
  have number : segment.number = segments.length % greatestWindow + 1 := by
    rw [expected, traces.sequence receiving]
  -- A segment of the longer list is one of the old ones or the new one behind them.
  have split : ∀ place other, (segments ++ [segment])[place]? = some other →
      segments[place]? = some other ∧ place < segments.length ∨
        other = segment ∧ place = segments.length := by
    intro place other here
    by_cases old : place < segments.length
    · rw [List.getElem?_append_left old] at here
      exact Or.inl ⟨here, old⟩
    · rw [List.getElem?_append_right (Nat.le_of_not_lt old)] at here
      obtain ⟨inside, same⟩ := List.getElem?_eq_some_iff.mp here
      rw [List.length_singleton] at inside
      rw [List.getElem_singleton] at same
      exact Or.inr ⟨same.symm, by omega⟩
  refine ⟨?_, ?_, ?_, ?_, fun _ => List.append_ne_nil_of_right_ne_nil _ (List.cons_ne_nil _ _)⟩
  · intro place other here
    rcases split place other here with ⟨old, -⟩ | ⟨rfl, rfl⟩
    · exact traces.numbered place other old
    · exact number
  · intro place other here
    rw [complete_follow receiving, List.length_append, List.length_singleton]
    rcases split place other here with ⟨old, below⟩ | ⟨rfl, rfl⟩
    · rw [traces.marked place other old, receiving, Bool.false_and,
        decide_eq_false (by omega), Bool.and_false]
    · rw [decide_eq_true rfl, Bool.and_true]
  · rw [received_follow, traces.received, Segment.join, Segment.join, List.flatMap_append,
      List.flatMap_singleton]
  · intro inner
    rw [complete_follow receiving] at inner
    rw [sequence_follow number inner, List.length_append, List.length_singleton]

end BlockDownload

namespace Session

/-- An open download goes back to the request that opened it, and holds what was brought since. -/
def Traced (past : List Request) (session : Session) : Prop :=
  match session.transfer with
  | .download download => ∃ earlier between pieces,
    past = earlier ++ .download session.target download.declared :: between ∧
      Request.heard between = Request.alternating pieces ∧
      download.received = pieces.flatten ∧
      download.toggle = decide (pieces.length % 2 = 1)
  | .blockDownload download => ∃ earlier between segments,
    past = earlier ++
        .blockDownload session.target download.checksummed download.declared :: between ∧
      Request.heard between = segments.map .blockSegment ∧ download.Traces segments
  | _ => True

variable {past : List Request} {session next : Session} {request : Request}

theorem traced_apart (apart : session.isDownload = false) : session.Traced past := by
  obtain ⟨target, transfer⟩ := session
  cases transfer with
  | download download => exact absurd apart.symm Bool.false_ne_true
  | blockDownload download => exact absurd apart.symm Bool.false_ne_true
  | _ => exact trivial

/-- What changes nothing leaves an open download as it is. -/
theorem traced_silent (traced : session.Traced past) (silent : request.isSilent = true) :
    session.Traced (past ++ [request]) := by
  obtain ⟨target, transfer⟩ := session
  cases transfer with
  | download download =>
    obtain ⟨earlier, between, pieces, rfl, inOrder, held⟩ := traced
    refine ⟨earlier, between ++ [request], pieces, List.append_assoc .., ?_, held⟩
    rw [Request.heard_append_silent between silent, inOrder]
  | blockDownload download =>
    obtain ⟨earlier, between, segments, rfl, inOrder, traces⟩ := traced
    refine ⟨earlier, between ++ [request], segments, List.append_assoc .., ?_, traces⟩
    rw [Request.heard_append_silent between silent, inOrder]
  | _ => exact trivial

/-- **Every request keeps an open download traced.** -/
theorem traced_turns (traced : session.Traced past) (turns : session.Turns request next) :
    next.Traced (past ++ [request]) := by
  cases turns with
  | apart apart => exact traced_apart apart
  | silent silent => exact traced_silent traced silent
  | opened target declared => exact ⟨past, [], [], rfl, rfl, rfl, rfl⟩
  | blockOpened target checksummed declared =>
    exact ⟨past, [], [], rfl, rfl, BlockDownload.traces_opened declared checksummed⟩
  | @taken target download data running =>
    subst running
    obtain ⟨earlier, between, pieces, rfl, inOrder, received, toggle⟩ := traced
    refine ⟨earlier, between ++ [.downloadSegment download.toggle data false], pieces ++ [data],
      List.append_assoc .., ?_, ?_, ?_⟩
    · rw [Request.heard_append between rfl, inOrder, Request.alternating_append, toggle]
    · rw [List.flatten_append, List.flatten_singleton, ← received]
    · show (!download.toggle) = _
      rw [toggle, List.length_append, List.length_singleton]
      by_cases odd : pieces.length % 2 = 1
      · rw [decide_eq_true odd, decide_eq_false (by omega), Bool.not_true]
      · rw [decide_eq_false odd, decide_eq_true (by omega), Bool.not_false]
  | @blockTaken target download segment running receiving expected =>
    subst running
    obtain ⟨earlier, between, segments, rfl, inOrder, traces⟩ := traced
    refine ⟨earlier, between ++ [.blockSegment segment], segments ++ [segment], ?_, ?_,
      BlockDownload.traces_follow traces receiving expected⟩
    · rw [BlockDownload.checksummed_follow, BlockDownload.declared_follow]
      exact List.append_assoc ..
    · rw [Request.heard_append between rfl, inOrder, List.map_append, List.map_singleton]

end Session

namespace Server

variable {σ : Type} [Store σ] {server : Server}

/-- Frames as the server reads them, each in the session in which it comes. -/
def requests (server : Server) (store : σ) : List (Frame × Nat) → List Request
  | [] => []
  | (frame, time) :: later =>
    let reaction := server.receive store frame time
    server.session.interpret frame.octets :: requests reaction.server reaction.store later

/-- **A run keeps an open download traced**, by induction on the frames. -/
theorem traced_receiveAll {past : List Request} (traced : server.session.Traced past) (store : σ)
    (frames : List (Frame × Nat)) :
    (server.receiveAll store frames).server.session.Traced
      (past ++ server.requests store frames) := by
  induction frames generalizing server store past with
  | nil =>
    rw [requests, List.append_nil]
    exact traced
  | cons received later ih =>
    obtain ⟨frame, time⟩ := received
    have turned := receive_leaves (fun target => Session.traced_apart rfl)
      (Plan.leaves_mono (fun next turns => Session.traced_turns traced turns)
        (Session.turns_plan server.session frame.octets)) store time
    have rest := ih turned (server.receive store frame time).store
    rw [List.append_assoc] at rest
    exact rest

end Server

/-! ### Writes -/

/-- What was read before a request that asks for a write, what is written, and the response if it is
stored. -/
inductive Provenance (past : List Request) :
    Request → Target → List UInt8 → Response → Prop
  /-- Up to four octets are written at once. -/
  | expedited {target : Target} {data : List UInt8} (least : 1 ≤ data.length)
      (most : data.length ≤ Request.expeditedCapacity) :
      Provenance past (.expedited target data) target data (.downloadAccepted target)
  /-- The pieces of a download by segments are written with the last of them. -/
  | download {target : Target} {declared : Option UInt32} {earlier between : List Request}
      {pieces : List (List UInt8)} {last : List UInt8}
      (opened : past = earlier ++ .download target declared :: between)
      (inOrder : Request.heard between = Request.alternating pieces)
      (room : ∀ size, declared = some size →
        (pieces ++ [last]).flatten.length ≤ size.toNat) :
      Provenance past (.downloadSegment (decide (pieces.length % 2 = 1)) last true) target
        (pieces ++ [last]).flatten (.downloadSegment (decide (pieces.length % 2 = 1)))
  /-- The segments of a block download are written with its end, less the padding. -/
  | blockDownload {target : Target} {checksummed : Bool} {declared : Option UInt32}
      {earlier between : List Request} {segments : List Segment} {padding : Nat}
      {checksum : UInt16} {data : List UInt8}
      (opened : past = earlier ++ .blockDownload target checksummed declared :: between)
      (inOrder : Request.heard between = segments.map .blockSegment)
      (nonempty : segments ≠ [])
      (numbered : ∀ place segment, segments[place]? = some segment →
        segment.number = place % greatestWindow + 1)
      (marked : ∀ place segment, segments[place]? = some segment →
        segment.last = decide (place + 1 = segments.length))
      (trimmed : data = (Segment.join segments).take ((Segment.join segments).length - padding))
      (room : ∀ size, declared = some size → data.length ≤ size.toNat)
      (checked : checksummed = true → checksum = Checksum.of data) :
      Provenance past (.blockDownloadEnd padding checksum) target data .blockDownloadEnd

/-- What a traced session stores has a provenance. -/
theorem Session.Traced.provenance {past : List Request} {session : Session} {request : Request}
    {target : Target} {data : List UInt8} {accepted : Response} (traced : session.Traced past)
    (stores : session.Stores request target data accepted) :
    Provenance past request target data accepted := by
  cases stores with
  | expedited least most => exact .expedited least most
  | @download target download data running room =>
    subst running
    obtain ⟨earlier, between, pieces, opened, inOrder, received, toggle⟩ := traced
    have whole : download.received ++ data = (pieces ++ [data]).flatten := by
      rw [List.flatten_append, List.flatten_singleton, ← received]
    rw [whole] at room ⊢
    rw [toggle]
    exact .download opened inOrder room
  | @blockDownload target download padding checksum running complete room checked =>
    subst running
    obtain ⟨earlier, between, segments, opened, inOrder, traces⟩ := traced
    refine .blockDownload opened inOrder (traces.nonempty complete) traces.numbered ?_ ?_ room
      checked
    · intro place segment here
      rw [traces.marked place segment here, complete, Bool.true_and]
    · rw [BlockDownload.trimmed, traces.received]

/-- **Every write has a provenance.** In every run of a new server, over any store, a frame asks for
no write, or for one that is checked and has a provenance in what was read before. Behind that write
the session is at rest, and one response tells the client whether the value is stored. -/
theorem Server.receive_provenance {σ : Type} [Store σ] (sendId : UInt32) (store : σ)
    (before : List (Frame × Nat)) (frame : Frame) (time : Nat) :
    let start := Recorded.mk store []
    let reached := (new sendId).receiveAll start before
    let reaction := reached.server.receive reached.store frame time
    reaction.store.writes = reached.store.writes ∨
      ∃ target data accepted,
        Provenance ((new sendId).requests start before)
          (reached.server.session.interpret frame.octets) target data accepted ∧
        reaction.store.writes = reached.store.writes ++ [⟨target, data, true⟩] ∧
        reaction.server.session = .idle target ∧
        ((Store.write reached.store.inner target data true).outcome = .ok .ok ∧
            Event.responses reaction.events = [accepted] ∨
          (Store.write reached.store.inner target data true).outcome ≠ .ok .ok ∧
            ∃ code, Event.responses reaction.events = [.abort target code]) := by
  intro start reached reaction
  have fresh : (new sendId).session.Traced [] := trivial
  have traced := traced_receiveAll fresh start before
  rw [List.nil_append] at traced
  rcases receive_stores reached.server reached.store frame time with
    untouched | ⟨target, data, accepted, stores, rest⟩
  · exact Or.inl untouched
  · exact Or.inr ⟨target, data, accepted, traced.provenance stores, rest⟩

end Canopen
