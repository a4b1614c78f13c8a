/-
**Lost segments of a block download.**

The server gives the download up at the first gap, but the client goes on with its window. What it
still sends is read as requests, and some numbers are commands to write at once.

* `Request.family_decode`: a request is of the family that its command tells.
* `Segment.isMistakable`, `Segment.writes`: the numbers that are such commands, and what they write.
* `Segment.Ascends`, `BlockDownload.Window`: segments with numbers that run up; a whole window.
* `BlockDownload.strays`: the segments behind the one with which a download is given up.
* `Session.Stray`: no segment behind it is taken into a download. Every stray keeps this, and asks
  for what `Segment.writes` says (`Server.asksAll_strays`).
* `Server.receiveAll_window`: **what is written when segments of a window are lost**: what the
  strays are mistaken for, and nothing else.
-/

import Canopen.Proofs.Entries
import Canopen.Proofs.Turns

namespace Canopen

open Response (mark)

/-! ### Requests by their command -/

namespace Request

/-- The family of a request that is read. -/
def family : Request → Family
  | upload _ => .upload
  | uploadSegment _ => .uploadSegment
  | expedited _ _ | download _ _ => .download
  | downloadSegment _ _ _ => .downloadSegment
  | aborted _ _ => .abort
  | blockUpload _ _ _ | blockUploadStart | blockUploadAck _ _ | blockUploadEnd => .blockUpload
  | blockDownload _ _ _ | blockDownloadEnd _ _ => .blockDownload
  | empty | blockSegment _ | unknown _ => .unknown

/-- **A request is of the family that its command tells.** -/
theorem family_decode (command : UInt8) (rest : List UInt8) :
    (decode (command :: rest)).family = Family.ofCommand command := by
  rw [decode_cons]
  cases Family.ofCommand command with
  | download =>
    simp only [decodeDownload]
    split <;> rfl
  | blockUpload =>
    simp only [decodeBlockUpload]
    split <;> rfl
  | blockDownload =>
    simp only [decodeBlockDownload]
    split <;> rfl
  | _ => rfl

theorem flag_of_decodeDownload {payload : Payload} {target : Target} {data : List UInt8}
    (read : decodeDownload payload = expedited target data) : flag payload.command 1 = true := by
  unfold decodeDownload at read
  by_cases set : flag payload.command 1 = true
  · exact set
  · simp only [if_neg set] at read
    exact absurd read nofun

/-- Only a command with bit one set writes at once. -/
theorem flag_of_expedited {command : UInt8} {rest : List UInt8} {target : Target}
    {data : List UInt8} (read : decode (command :: rest) = expedited target data) :
    flag command 1 = true := by
  have family := family_decode command rest
  rw [read] at family
  rw [decode_cons, ← family] at read
  exact flag_of_decodeDownload read

end Request

namespace Segment

variable {segment : Segment} {above : Nat}

/-- The command of a segment. -/
def command (segment : Segment) : UInt8 :=
  Response.command segment.number (mark segment.last 7)

/-- The number and the mark of a segment tell which requests its command resembles. -/
theorem family_of_number (small : segment.number ≤ greatestWindow) :
    (Family.ofCommand segment.command = .downloadSegment → segment.number < 32) ∧
      (Family.ofCommand segment.command = .download ↔
        segment.last = false ∧ segment.number / 32 = 1) ∧
      (Family.ofCommand segment.command = .blockDownload → segment.last = true) := by
  have table : ∀ high < 8,
      (Family.ofCommand (Response.command 0 (32 * high)) = .downloadSegment ↔ high = 0) ∧
        (Family.ofCommand (Response.command 0 (32 * high)) = .download ↔ high = 1) ∧
        (Family.ofCommand (Response.command 0 (32 * high)) = .blockDownload ↔ high = 6) := by
    decide
  have split : (segment.number + mark segment.last 7) / 32 =
      segment.number / 32 + 4 * segment.last.toNat := by
    rw [mark_last]
    omega
  simp only [greatestWindow] at small
  rw [command, family_command (command_lt small) _ split]
  obtain ⟨first, second, third⟩ := table (segment.number / 32 + 4 * segment.last.toNat) (by
    have one := segment.last.toNat_le
    omega)
  rw [first, second, third]
  cases segment.last with
  | false =>
    simp only [Bool.toNat_false, Nat.mul_zero, Nat.add_zero, true_and, Bool.false_eq_true]
    exact ⟨fun low => by omega, fun high => by omega⟩
  | true =>
    simp only [Bool.toNat_true, Bool.true_eq_false, false_and, implies_true, and_true]
    exact ⟨fun low => by omega, iff_of_false (by omega) id⟩

/-- The command of the segment is one to write at once. -/
def isMistakable (segment : Segment) : Bool :=
  !segment.last && segment.number / 32 == 1 && segment.number / 2 % 2 == 1

theorem isMistakable_iff (small : segment.number ≤ greatestWindow) :
    segment.isMistakable = true ↔
      Family.ofCommand segment.command = .download ∧ flag segment.command 1 = true := by
  rw [(family_of_number small).2.1, isMistakable, Bool.and_eq_true, Bool.and_eq_true,
    Bool.not_eq_true', beq_iff_eq, beq_iff_eq]
  refine and_congr_right fun ⟨plain, _⟩ => ?_
  rw [command, flag_command (command_lt small), plain, Nat.shiftRight_eq_div_pow]
  exact decide_eq_true_iff.symm

example : (List.range' 1 127).filter (fun number => isMistakable ⟨number, false, []⟩) =
    [34, 35, 38, 39, 42, 43, 46, 47, 50, 51, 54, 55, 58, 59, 62, 63] := by decide

/-- What a segment asks to write when it is read as a request: the first three of its octets name
the entry, and its number tells how many of the others are the value. -/
def writes (segment : Segment) : List WriteCall :=
  if segment.isMistakable then
    let size := if segment.number % 2 = 1 then 4 - segment.number / 4 % 4 else 4
    [⟨⟨Octets.word16 (segment.data.take 2), segment.data.getD 2 0⟩, (segment.data.drop 3).take size,
      true⟩]
  else []

/-- Segments with numbers that run up from above one of them; only the last one may be marked. -/
inductive Ascends : Nat → List Segment → Prop
  | nil {above : Nat} : Ascends above []
  | cons {above : Nat} {segment : Segment} {later : List Segment} (beyond : above < segment.number)
      (small : segment.number ≤ greatestWindow) (full : segment.data.length = segmentCapacity)
      (marked : segment.last = true → later = []) (rest : Ascends segment.number later) :
      Ascends above (segment :: later)

namespace Ascends

variable {segments : List Segment}

theorem mono {below : Nat} (ascends : Ascends above segments) (lower : below ≤ above) :
    Ascends below segments := by
  cases ascends with
  | nil => exact .nil
  | cons beyond small full marked rest =>
    exact .cons (Nat.lt_of_le_of_lt lower beyond) small full marked rest

/-- What is left when some segments are lost still runs up. -/
theorem sublist {delivered : List Segment} (ascends : Ascends above segments)
    (lost : delivered.Sublist segments) : Ascends above delivered := by
  induction lost generalizing above with
  | slnil => exact .nil
  | cons segment _ ih =>
    cases ascends with
    | cons beyond small full marked rest => exact ih (rest.mono (Nat.le_of_lt beyond))
  | cons_cons segment kept ih =>
    cases ascends with
    | cons beyond small full marked rest =>
      refine .cons beyond small full (fun last => ?_) (ih rest)
      rw [marked last] at kept
      exact List.sublist_nil.mp kept

end Ascends

end Segment

namespace BlockDownload

/-- A window as a client sends it: full segments with numbers from the next one on, of which only
the final one may be marked as the last of the transfer. -/
structure Window (download : BlockDownload) (window : List Segment) : Prop where
  numbered : window.map Segment.number = List.range' (download.sequence + 1) window.length
  small : download.sequence + window.length ≤ greatestWindow
  full : ∀ segment ∈ window, segment.data.length = segmentCapacity
  marked : ∀ segment ∈ window, segment.last = true →
    segment.number = download.sequence + window.length

theorem ascends_of_numbered {start : Nat} {window : List Segment}
    (numbered : window.map Segment.number = List.range' (start + 1) window.length)
    (small : start + window.length ≤ greatestWindow)
    (full : ∀ segment ∈ window, segment.data.length = segmentCapacity)
    (marked : ∀ segment ∈ window, segment.last = true → segment.number = start + window.length) :
    Segment.Ascends start window := by
  induction window generalizing start with
  | nil => exact .nil
  | cons segment later ih =>
    rw [List.map_cons, List.length_cons, List.range'_succ] at numbered
    obtain ⟨number, others⟩ := List.cons.inj numbered
    rw [List.length_cons] at small marked
    refine .cons (by omega) (by omega) (full segment List.mem_cons_self) (fun last => ?_) ?_
    · have final := marked segment List.mem_cons_self last
      exact List.length_eq_zero_iff.mp (by omega)
    · rw [number]
      refine ih others (by omega) (fun other member => full other (List.mem_cons_of_mem _ member))
        fun other member last => ?_
      rw [marked other (List.mem_cons_of_mem _ member) last]
      omega

theorem Window.ascends {download : BlockDownload} {window : List Segment}
    (runs : download.Window window) : Segment.Ascends download.sequence window :=
  ascends_of_numbered runs.numbered runs.small runs.full runs.marked

/-- The segments behind the first one that is not taken. -/
def strays (download : BlockDownload) : List Segment → List Segment
  | [] => []
  | segment :: later =>
    if download.takes segment then (download.follow segment).strays later else later

end BlockDownload

/-! ### Segments that are read as requests -/

/-- Seven octets behind a command, as an entry and the octets at the end. -/
theorem Payload.header_ofList (command : UInt8) {data : List UInt8}
    (full : data.length = segmentCapacity) (rest : List UInt8) :
    let payload := ofList (command :: (data ++ rest))
    payload.target = ⟨Octets.word16 (data.take 2), data.getD 2 0⟩ ∧
      payload.tail = data.drop 3 := by
  intro payload
  have body : payload.body = data := by
    have back := take_body_ofList command (Nat.le_of_eq full) rest
    rw [full] at back
    exact (List.take_of_length_le (Nat.le_refl 7)).symm.trans back
  clear_value payload
  subst body
  exact ⟨rfl, rfl⟩

/-- A segment whose number is a command to write at once is read as one. -/
theorem Segment.decode_mistakable {segment : Segment} (small : segment.number ≤ greatestWindow)
    (mistaken : segment.isMistakable = true) (full : segment.data.length = segmentCapacity)
    (rest : List UInt8) :
    ∃ target data, Request.decode (segment.command :: (segment.data ++ rest)) =
        .expedited target data ∧ segment.writes = [⟨target, data, true⟩] := by
  obtain ⟨family, set⟩ := (isMistakable_iff small).mp mistaken
  have plain := ((family_of_number small).2.1.mp family).1
  have sized : flag segment.command 0 = decide (segment.number % 2 = 1) := by
    rw [command, flag_command (command_lt small), plain]
    rfl
  have unused : field segment.command 2 2 = segment.number / 4 % 4 := by
    rw [command, field_command (command_lt small), plain, Nat.shiftRight_eq_div_pow]
    rfl
  unfold writes
  rw [if_pos mistaken]
  obtain ⟨target, tail⟩ := Payload.header_ofList segment.command full rest
  refine ⟨_, _, ?_, rfl⟩
  rw [Request.decode_cons, family]
  simp only [Request.decodeDownload, Payload.command_ofList, set, if_true, sized, unused, target,
    tail, decide_eq_true_eq, Request.expeditedCapacity]

/-- No download is open that a segment with a greater number could go on. -/
structure Session.Stray (session : Session) (above : Nat) : Prop where
  apart : ∀ download, session.transfer ≠ .blockDownload download
  late : ∀ download, session.transfer = .download download → 32 ≤ above

namespace Session.Stray

variable {session : Session} {above : Nat} {segment : Segment} {frame : Frame}

theorem of_apart (apart : session.isDownload = false) : session.Stray above := by
  unfold isDownload at apart
  refine ⟨fun download current => ?_, fun download current => ?_⟩
  · rw [current] at apart
    exact absurd apart Bool.noConfusion
  · rw [current] at apart
    exact absurd apart Bool.noConfusion

theorem ready (stray : session.Stray above) : session.isReceiving = false := by
  rw [Bool.eq_false_iff]
  intro receiving
  obtain ⟨target, download, current⟩ := blockDownload_of_isReceiving receiving
  exact stray.apart download (congrArg Session.transfer current)

/-- A stray is read as a request. -/
theorem interpret (stray : session.Stray above) (brings : frame.Brings (.blockSegment segment)) :
    ∃ rest, session.interpret frame.octets =
      Request.decode (segment.command :: (segment.data ++ rest)) := by
  obtain ⟨rest, octets⟩ := brings
  refine ⟨rest, ?_⟩
  rw [Session.interpret_of_ready stray.ready, ← octets]
  rfl

/-- **A stray asks for no write**, unless its number is a command to write at once. -/
theorem writes (stray : session.Stray above) (beyond : above < segment.number)
    (small : segment.number ≤ greatestWindow) (full : segment.data.length = segmentCapacity)
    (brings : frame.Brings (.blockSegment segment)) :
    (session.plan (session.interpret frame.octets)).writes = segment.writes := by
  obtain ⟨rest, read⟩ := stray.interpret brings
  by_cases mistaken : segment.isMistakable = true
  · obtain ⟨target, data, expedited, same⟩ := Segment.decode_mistakable small mistaken full rest
    rw [read, expedited, same]
    rfl
  · have family := Request.family_decode segment.command (segment.data ++ rest)
    have stores := stores_plan session frame.octets
    rw [Segment.writes, if_neg mistaken]
    generalize planned : session.plan (session.interpret frame.octets) = plan at stores ⊢
    cases plan with
    | finish move => rfl
    | read current next => rfl
    | write current notices value next =>
      obtain ⟨accepted, holds, -⟩ := stores
      rw [read] at holds
      generalize request : Request.decode (segment.command :: (segment.data ++ rest)) = brought
        at holds family
      cases holds with
      | expedited positive few =>
        refine absurd ((Segment.isMistakable_iff small).mpr ⟨family.symm, ?_⟩) mistaken
        exact Request.flag_of_expedited request
      | @download target download data running room =>
        have early := (Segment.family_of_number small).1 family.symm
        have late := stray.late download (congrArg Session.transfer running)
        omega
      | blockDownload running complete room checked =>
        exact absurd (congrArg Session.transfer running) (stray.apart _)

/-- **Behind a stray** only strays follow, unless it was marked. -/
theorem receive {σ : Type} [Store σ] {server : Server} (stray : server.session.Stray above)
    (beyond : above < segment.number) (small : segment.number ≤ greatestWindow)
    (unmarked : segment.last = false) (brings : frame.Brings (.blockSegment segment)) (store : σ)
    (time : Nat) : (server.receive store frame time).server.session.Stray segment.number := by
  obtain ⟨rest, read⟩ := stray.interpret brings
  have family := Request.family_decode segment.command (segment.data ++ rest)
  rw [← read] at family
  have leaves : (server.session.plan (server.session.interpret frame.octets)).Leaves
      fun next => next.Stray segment.number := by
    refine Plan.leaves_mono ?_ (turns_plan server.session frame.octets)
    intro next turns
    generalize server.session.interpret frame.octets = request at turns family
    cases turns with
    | apart apart => exact of_apart apart
    | silent silent =>
      exact ⟨stray.apart, fun download current =>
        Nat.le_trans (stray.late download current) (Nat.le_of_lt beyond)⟩
    | opened target declared =>
      have high := ((Segment.family_of_number small).2.1.mp family.symm).2
      exact ⟨nofun, fun _ _ => by omega⟩
    | @taken target download data running =>
      have late := stray.late download (congrArg Session.transfer running)
      exact ⟨nofun, fun _ _ => by omega⟩
    | blockOpened target checksummed declared =>
      have marked := (Segment.family_of_number small).2.2 family.symm
      rw [unmarked] at marked
      exact absurd marked Bool.noConfusion
    | blockTaken running receiving expected =>
      exact absurd (congrArg Session.transfer running) (stray.apart _)
  refine Server.receive_leaves ?_ leaves store time
  exact fun target => of_apart rfl

end Session.Stray

namespace Server

variable {σ : Type} [Store σ] {server : Server} {frames : List (Frame × Nat)}
  {segments : List Segment} {target : Target} {download : BlockDownload}

/-- Aborts of the client ask for nothing. -/
theorem asksAll_aborts (carries : Carries (frames.map Prod.fst) []) (store : σ) :
    server.asksAll store frames = [] := by
  generalize names : frames.map Prod.fst = named at carries
  generalize ended : ([] : List Segment) = segments at carries
  induction carries generalizing frames server store with
  | nil =>
    obtain rfl := List.map_eq_nil_iff.mp names
    rfl
  | aborted gone later ih =>
    obtain ⟨⟨frame, time⟩, rest, rfl, rfl, rfl⟩ := List.map_eq_cons_iff.mp names
    obtain ⟨notice, planned⟩ := plan_isAbort server gone
    rw [asksAll_finish planned]
    exact ih _ rfl ended
  | segment brings later ih => exact absurd ended (List.cons_ne_nil _ _).symm

/-- **What strays ask for**, by induction on them: what each of them is mistaken for. -/
theorem asksAll_strays {above : Nat} (stray : server.session.Stray above)
    (ascends : Segment.Ascends above segments) (carries : Carries (frames.map Prod.fst) segments)
    (store : σ) : server.asksAll store frames = segments.flatMap Segment.writes := by
  generalize names : frames.map Prod.fst = named at carries
  induction carries generalizing frames server store above with
  | nil =>
    obtain rfl := List.map_eq_nil_iff.mp names
    rfl
  | aborted gone later ih =>
    obtain ⟨⟨frame, time⟩, rest, rfl, rfl, rfl⟩ := List.map_eq_cons_iff.mp names
    obtain ⟨notice, planned⟩ := plan_isAbort server gone
    obtain ⟨same, -, -⟩ := receive_isAbort server store time gone
    rw [asksAll_finish planned]
    exact ih (same.symm ▸ stray) ascends _ rfl
  | @segment _ _ segment segments brings later ih =>
    obtain ⟨⟨frame, time⟩, rest, rfl, rfl, rfl⟩ := List.map_eq_cons_iff.mp names
    cases ascends with
    | cons beyond small full marked ascends =>
      have asked : server.asks (.frame frame time) = segment.writes :=
        stray.writes beyond small full brings
      rw [asksAll, List.flatMap_cons, asked]
      cases last : segment.last with
      | true =>
        obtain rfl := marked last
        rw [asksAll_aborts later, List.flatMap_nil]
      | false =>
        exact congrArg _ (ih (stray.receive beyond small last brings store time) ascends _ rfl)

/-- A segment that closes its window is the final one of segments with numbers that run up. -/
theorem ascends_closed {segment : Segment} {later : List Segment}
    (closes : BlockDownload.closesWindow segment = true)
    (marked : segment.last = true → later = [])
    (ascends : Segment.Ascends segment.number later) : later = [] := by
  rw [BlockDownload.closesWindow, Bool.or_eq_true, decide_eq_true_iff] at closes
  rcases closes with full | last
  · cases ascends with
    | nil => rfl
    | cons beyond small _ _ _ => omega
  · exact marked last

/-- **What segments of a window ask for**, by induction on them: nothing up to the first one that is
not taken, and behind it what the strays are mistaken for. -/
theorem asksAll_window (session : server.session = ⟨target, .blockDownload download⟩)
    (receiving : download.complete = false)
    (ascends : Segment.Ascends download.sequence segments)
    (carries : Carries (frames.map Prod.fst) segments) (store : σ) :
    server.asksAll store frames = (download.strays segments).flatMap Segment.writes := by
  generalize names : frames.map Prod.fst = named at carries
  induction carries generalizing frames server store download with
  | nil =>
    obtain rfl := List.map_eq_nil_iff.mp names
    rfl
  | aborted gone later ih =>
    obtain ⟨⟨frame, time⟩, rest, rfl, rfl, rfl⟩ := List.map_eq_cons_iff.mp names
    obtain ⟨notice, planned⟩ := plan_isAbort server gone
    obtain ⟨same, -, -⟩ := receive_isAbort server store time gone
    rw [asksAll_finish planned]
    exact ih (same.trans session) receiving ascends _ rfl
  | @segment _ _ segment segments brings later ih =>
    obtain ⟨⟨frame, time⟩, rest, rfl, rfl, rfl⟩ := List.map_eq_cons_iff.mp names
    cases ascends with
    | cons beyond small full marked ascends =>
      have planned := plan_segment session receiving (Nat.one_le_of_lt beyond) small full brings
      rw [asksAll_finish planned, BlockDownload.strays]
      by_cases takes : download.takes segment = true
      · obtain ⟨expected, unfilled⟩ := BlockDownload.takes_iff.mp takes
        rw [Session.takeBlockSegment_expected expected unfilled] at planned
        obtain ⟨leads, -, -⟩ := receive_done store time planned
        rw [if_pos takes]
        by_cases closes : BlockDownload.closesWindow segment = true
        · obtain rfl := ascends_closed closes marked ascends
          rw [asksAll_aborts later]
          rfl
        · have follow : download.follow segment = download.take segment := if_neg closes
          rw [follow] at leads ⊢
          exact ih leads receiving ascends _ rfl
      · obtain ⟨cause, notices, refused⟩ := Session.takeBlockSegment_refused target takes
        rw [refused] at planned
        obtain ⟨leads, -, -⟩ := receive_run store time planned
        rw [if_neg takes]
        refine asksAll_strays ?_ ascends later _
        rw [leads]
        exact .of_apart rfl

/-- **What is written when segments of a window are lost.** Up to the first segment that is not
taken nothing is written. The others are read as requests; those with a number that is a command to
write at once do so, with their octets as the entry and the value, and no other one changes the
store. -/
theorem receiveAll_window {window delivered : List Segment}
    (session : server.session = ⟨target, .blockDownload download⟩)
    (receiving : download.complete = false) (runs : download.Window window)
    (lost : delivered.Sublist window) (carries : Carries (frames.map Prod.fst) delivered)
    (store : σ) (writes : List WriteCall) :
    let asked := (download.strays delivered).flatMap Segment.writes
    let ended := server.receiveAll (Recorded.mk store writes) frames
    ended.store.writes = writes ++ asked ∧
      (Store.Still σ → ended.store.inner = asked.foldl WriteCall.on store) ∧
      ((∀ stray ∈ download.strays delivered, stray.isMistakable = false) →
        ended.store.writes = writes ∧ (Store.Still σ → ended.store.inner = store)) := by
  intro asked ended
  have asks : server.asksAll store frames = asked :=
    asksAll_window session receiving (runs.ascends.sublist lost) carries store
  have recorded := receiveAll_recorded server store writes frames
  have written : ended.store.writes = writes ++ asked := by
    rw [← asks]
    exact congrArg (fun reaction => reaction.store.writes) recorded
  have inner : Store.Still σ → ended.store.inner = asked.foldl WriteCall.on store := by
    intro still
    rw [← asks, ← receiveAll_still still]
    exact congrArg (fun reaction => reaction.store.inner) recorded
  refine ⟨written, inner, fun harmless => ?_⟩
  have unasked : asked = [] := by
    refine List.flatMap_eq_nil_iff.mpr fun stray member => ?_
    rw [Segment.writes, harmless stray member, if_neg Bool.false_ne_true]
  rw [unasked] at written inner
  exact ⟨written.trans (List.append_nil _), inner⟩

/-- The second of three segments is lost; the third one is not taken, and nothing is written. -/
theorem receiveAll_window_gap :
    ∃ ended : Reaction (Recorded Dictionary),
      ended = Server.receiveAll
        ⟨0x582, ⟨⟨0x2000, 1⟩, .blockDownload ⟨[], none, false, 0, 0, false⟩⟩, 0⟩
        (Recorded.mk (Dictionary.single ⟨0x2000, 1⟩ []) [])
        [((Request.blockSegment ⟨1, false, [1, 2, 3, 4, 5, 6, 7]⟩).frame, 0),
          ((Request.blockSegment ⟨3, true, [1, 2, 3, 4, 5, 6, 7]⟩).frame, 1)] ∧
      ended.store.writes = [] ∧ ended.store.inner = Dictionary.single ⟨0x2000, 1⟩ [] := by
  have session : (Server.mk 0x582
      ⟨⟨0x2000, 1⟩, .blockDownload ⟨[], none, false, 0, 0, false⟩⟩ 0).session =
        ⟨⟨0x2000, 1⟩, .blockDownload ⟨[], none, false, 0, 0, false⟩⟩ := rfl
  have runs : BlockDownload.Window ⟨[], none, false, 0, 0, false⟩
      [⟨1, false, [1, 2, 3, 4, 5, 6, 7]⟩, ⟨2, false, [1, 2, 3, 4, 5, 6, 7]⟩,
        ⟨3, true, [1, 2, 3, 4, 5, 6, 7]⟩] := ⟨rfl, by decide, by decide, by decide⟩
  have carries : Carries
      ([((Request.blockSegment ⟨1, false, [1, 2, 3, 4, 5, 6, 7]⟩).frame, 0),
        ((Request.blockSegment ⟨3, true, [1, 2, 3, 4, 5, 6, 7]⟩).frame, 1)].map Prod.fst)
      [⟨1, false, [1, 2, 3, 4, 5, 6, 7]⟩, ⟨3, true, [1, 2, 3, 4, 5, 6, 7]⟩] :=
    .segment (Request.brings_frame (by decide)) (.segment (Request.brings_frame (by decide)) .nil)
  obtain ⟨-, -, harmless⟩ := receiveAll_window session rfl runs (by decide) carries
    (Dictionary.single ⟨0x2000, 1⟩ []) []
  obtain ⟨written, kept⟩ := harmless (by decide)
  exact ⟨_, rfl, written, kept Dictionary.still⟩

/-- A segment that is still on its way when the download is given up can be written to the entry
that its octets name. -/
theorem receiveAll_window_not_always_kept :
    ¬ ∀ (server : Server) (target : Target) (download : BlockDownload)
      (window delivered : List Segment) (frames : List (Frame × Nat)) (dictionary : Dictionary),
      server.session = ⟨target, .blockDownload download⟩ → download.complete = false →
      download.Window window → delivered.Sublist window →
      Carries (frames.map Prod.fst) delivered →
        (server.receiveAll (Recorded.mk dictionary []) frames).store.writes = [] := by
  intro always
  have runs : BlockDownload.Window ⟨[], none, false, 0, 0, false⟩
      ((List.range' 1 127).map fun number => ⟨number, false, [0x00, 0x20, 1, 7, 7, 7, 7]⟩) := by
    refine ⟨?_, ?_, ?_, ?_⟩
    · rw [List.map_map, List.length_map, List.length_range']
      exact List.map_id _
    · rw [List.length_map, List.length_range']
      exact Nat.le_refl _
    · intro other member
      obtain ⟨number, -, rfl⟩ := List.mem_map.mp member
      rfl
    · intro other member last
      obtain ⟨number, -, rfl⟩ := List.mem_map.mp member
      exact absurd last Bool.false_ne_true
  have lost : [33, 34].Sublist (List.range' 1 127) := by decide +kernel
  have carries : Carries
      ([((Request.blockSegment ⟨33, false, [0x00, 0x20, 1, 7, 7, 7, 7]⟩).frame, 0),
        ((Request.blockSegment ⟨34, false, [0x00, 0x20, 1, 7, 7, 7, 7]⟩).frame, 0)].map Prod.fst)
      [⟨33, false, [0x00, 0x20, 1, 7, 7, 7, 7]⟩, ⟨34, false, [0x00, 0x20, 1, 7, 7, 7, 7]⟩] :=
    .segment (Request.brings_frame (by decide)) (.segment (Request.brings_frame (by decide)) .nil)
  have written := always ⟨0x582, ⟨⟨0x2000, 1⟩, .blockDownload ⟨[], none, false, 0, 0, false⟩⟩, 0⟩
    ⟨0x2000, 1⟩ ⟨[], none, false, 0, 0, false⟩ _ _ _ (Dictionary.single ⟨0x2000, 1⟩ []) rfl rfl
    runs (lost.map _) carries
  exact absurd written (by decide)

end Server

end Canopen
