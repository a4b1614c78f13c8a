/-
**A client of a normal upload has the value, once it has asked for all of it.**

* `Request.asks`: the requests for segments, with toggles that alternate.
* `Upload.reassemble`, `Upload.obtain?`: what a client makes of what it is answered. It takes only
  what has the form, the toggle and the size that it expects.
* `Server.run_asks`: the segments that are asked for bring the rest of the value.
* `Server.run_upload`: **the client has the value, exactly when it has asked for all of it.**
* `Server.receive_supplied_empty`: an empty value is not uploaded.
-/

import Canopen.Proofs.Conversation

namespace Canopen

/-- The requests for segments of an upload, with toggles that alternate. -/
def Request.asks (toggle : Bool) : (count : Nat) → List Request
  | 0 => []
  | count + 1 => .uploadSegment toggle :: asks (!toggle) count

namespace Upload

/-- What a client reads from segments with toggles that alternate, up to the last one. -/
def reassemble (toggle : Bool) : List Payload → Option (List UInt8)
  | [] => none
  | payload :: rest =>
    if field payload.command 5 3 = 0 ∧ flag payload.command 4 = toggle then
      let data := payload.body.take (segmentCapacity - field payload.command 1 3)
      if flag payload.command 0 then some data
      else (reassemble (!toggle) rest).map (data ++ ·)
    else none

/-- The value that a client obtains from the answers to its upload: in the first of them, or in the
segments behind it, which must have the size that it tells. -/
def obtain? (target : Target) : List Payload → Option (List UInt8)
  | [] => none
  | opening :: rest =>
    if field opening.command 5 3 = 2 ∧ opening.target = target then
      if flag opening.command 1 then
        some (opening.tail.take (Request.expeditedCapacity - field opening.command 2 2))
      else (reassemble false rest).filter fun value => value.length = opening.double.toNat
    else none

/-- How many segments a client asks for. -/
def rounds (value : List UInt8) : Nat :=
  if value.length ≤ Request.expeditedCapacity then 0 else chunkCount value

/-! ### What the client reads -/

open Response (command mark)

variable {target : Target} {data : List UInt8}

/-- A segment is read as it was sent. -/
theorem reassemble_cons (toggle last : Bool) (fits : data.length ≤ segmentCapacity)
    (rest : List Payload) :
    reassemble toggle ((Response.uploadSegment toggle data last).encode :: rest) =
      if last then some data else (reassemble (!toggle) rest).map (data ++ ·) := by
  have encoded : (Response.uploadSegment toggle data last).encode =
      .ofList (command 0 (mark toggle 4 + 2 * (segmentCapacity - data.length) + mark last 0) ::
        (data ++ [])) := by
    rw [List.append_nil]
    rfl
  obtain ⟨kind, alternates, size, closes⟩ := Request.fields_segment toggle last fits
  rw [encoded, reassemble]
  simp only [Payload.command_ofList, Payload.take_body_ofList _ fits, kind, alternates, size,
    closes, and_self, if_true]

/-- A value in the first answer is read as it was sent. -/
theorem obtain?_uploaded (positive : 1 ≤ data.length)
    (few : data.length ≤ Request.expeditedCapacity) (rest : List Payload) :
    obtain? target ((Response.uploaded target data).encode :: rest) = some data := by
  have encoded : (Response.uploaded target data).encode =
      .ofList (command 0x43 (4 * (4 - data.length)) :: (target.octets ++ (data ++ []))) := by
    rw [List.append_nil]
    rfl
  have small : 0x43 + 4 * (4 - data.length) < UInt8.size := by
    simp only [UInt8.size]
    omega
  have kind : (0x43 + 4 * (4 - data.length)) >>> 5 % (1 <<< 3) = 2 := by
    simp only [Nat.reduceShiftLeft]
    omega
  have size : Request.expeditedCapacity - (0x43 + 4 * (4 - data.length)) >>> 2 % (1 <<< 2) =
      data.length := by
    simp only [Request.expeditedCapacity, Nat.reduceShiftLeft] at few ⊢
    omega
  rw [encoded, obtain?]
  simp only [Payload.command_ofList, Payload.target_ofList, Payload.take_tail_ofList _ _ few,
    field_command small, flag_command small, kind, size, and_self, if_true]
  rw [if_pos (decide_eq_true (by omega))]

/-- The answer that opens an upload tells the size of what is read behind it. -/
theorem obtain?_uploadStarted {size : Nat} (small : size < UInt32.size) (rest : List Payload) :
    obtain? target ((Response.uploadStarted target size).encode :: rest) =
      (reassemble false rest).filter fun value => value.length = size := by
  have double : (Response.uploadStarted target size).encode.double.toNat = size := by
    show (Octets.word32 (Octets.ofNat 4 size)).toNat = size
    rw [Octets.word32, Octets.toNat_ofNat, UInt32.toNat_ofNat']
    simp only [Octets.range, UInt32.size] at small ⊢
    omega
  have named : (Response.uploadStarted target size).encode.target = target :=
    Payload.target_ofList _ _ _
  have command : (Response.uploadStarted target size).encode.command = 0x41 := rfl
  rw [obtain?, command, named, if_pos ⟨by decide, rfl⟩, if_neg (by decide), double]

end Upload

/-! ### Segments -/

namespace Session

variable {target : Target} {value : List UInt8} {place : Nat} {toggle : Bool}

/-- The next segment carries the next chunk, and only the last one ends the upload. -/
theorem nextSegment_chunk (inner : place < chunkCount value) :
    nextSegment target ⟨value, segmentCapacity * place, toggle⟩ =
      if place + 1 = chunkCount value then
        .done (idle target) [.send (.uploadSegment toggle (chunk value place) true),
          .note (.uploadComplete target value.length)]
      else .done ⟨target, .upload ⟨value, segmentCapacity * (place + 1), !toggle⟩⟩
        [.send (.uploadSegment toggle (chunk value place) false)] := by
  have length := length_chunk value place
  have more := lt_chunkCount_iff.mp inner
  unfold nextSegment
  simp only
  rw [← chunk]
  by_cases ends : place + 1 = chunkCount value
  · have sent : segmentCapacity * place + (chunk value place).length = value.length := by
      rw [length]
      simp only [chunkCount, segmentCapacity] at ends more ⊢
      omega
    rw [if_pos ends, sent, beq_self_eq_true, if_pos rfl]
  · have sent : segmentCapacity * place + (chunk value place).length =
        segmentCapacity * (place + 1) := by
      rw [length]
      simp only [chunkCount, segmentCapacity] at ends more ⊢
      omega
    have further : segmentCapacity * (place + 1) ≠ value.length :=
      Nat.ne_of_lt (lt_chunkCount_iff.mp (Nat.lt_of_le_of_ne inner ends))
    rw [if_neg ends, sent, beq_false_of_ne further, if_neg Bool.false_ne_true]

end Session

namespace Server

variable {σ : Type} [Store σ] {server : Server} {frame : Frame} {target : Target}
  {value : List UInt8} {place count : Nat} {toggle : Bool} {operations : List Operation}

/-- **A segment that is asked for** carries the next chunk. -/
theorem receive_uploadSegment (session : server.session =
      ⟨target, .upload ⟨value, segmentCapacity * place, toggle⟩⟩)
    (inner : place < chunkCount value) (brings : frame.Brings (.uploadSegment toggle)) (store : σ)
    (time : Nat) :
    let reaction := server.receive store frame time
    reaction.server.session = (if place + 1 = chunkCount value then .idle target
        else ⟨target, .upload ⟨value, segmentCapacity * (place + 1), !toggle⟩⟩) ∧
      reaction.store = store ∧
      Event.responses reaction.events =
        [.uploadSegment toggle (chunk value place) (place + 1 = chunkCount value)] := by
  have ready : server.session.isReceiving = false := by
    rw [session]
    rfl
  have fits : (Request.uploadSegment toggle).Fits := trivial
  have planned : server.session.plan (server.session.interpret frame.octets) =
      .finish (Session.nextSegment target ⟨value, segmentCapacity * place, toggle⟩) := by
    rw [Session.interpret_of_brings ready fits brings, session]
    exact congrArg Plan.finish (if_pos rfl)
  rw [Session.nextSegment_chunk inner] at planned
  by_cases ends : place + 1 = chunkCount value
  · rw [if_pos ends] at planned
    rw [if_pos ends, decide_eq_true ends]
    exact receive_done store time planned
  · rw [if_neg ends] at planned
    rw [if_neg ends, decide_eq_false ends]
    exact receive_done store time planned

/-- **The segments that are asked for bring the rest of the value**, by induction on the operations:
each request finds the session where the one before it has left it. -/
theorem run_asks (session : server.session =
      ⟨target, .upload ⟨value, segmentCapacity * place, toggle⟩⟩)
    (inner : place < chunkCount value) (sends : Sends operations (Request.asks toggle count))
    (store : σ) :
    Upload.reassemble toggle (Event.payloads (server.run store operations).events) =
      if chunkCount value ≤ place + count then some (value.drop (segmentCapacity * place))
      else none := by
  generalize asked : Request.asks toggle count = requests at sends
  induction sends generalizing server place toggle count store with
  | nil =>
    cases count with
    | zero =>
      rw [Nat.add_zero, if_neg (Nat.not_le.mpr inner)]
      rfl
    | succ count => exact absurd asked (List.cons_ne_nil _ _)
  | @aside operation operations _ _ aside later ih =>
    obtain ⟨same, silent⟩ := perform_aside server store aside
    rw [Event.payloads, responses_run_cons, silent, List.nil_append]
    exact ih (same.trans session) inner _ asked
  | @request frame time operations request requests brings later ih =>
    cases count with
    | zero => exact absurd asked.symm (List.cons_ne_nil _ _)
    | succ count =>
      obtain ⟨rfl, rfl⟩ := List.cons.inj asked
      obtain ⟨leads, -, responses⟩ := receive_uploadSegment session inner brings store time
      have read := Upload.reassemble_cons toggle (decide (place + 1 = chunkCount value))
        (length_chunk_le value place)
      rw [Event.payloads, responses_run_cons, List.map_append, perform, responses]
      refine (read _).trans ?_
      -- The last chunk ends what the client reads, whatever it goes on to ask for.
      by_cases ends : place + 1 = chunkCount value
      · have all : value.drop (segmentCapacity * (place + 1)) = [] :=
          drop_eq_nil_iff_chunkCount_le.mpr (Nat.le_of_eq ends.symm)
        rw [if_pos (decide_eq_true ends), if_pos (by omega), ← chunk_append_drop, all,
          List.append_nil]
      · rw [if_neg ends] at leads
        have later := ih leads (Nat.lt_of_le_of_ne inner ends)
          (server.receive store frame time).store rfl
        rw [if_neg (fun last => ends (of_decide_eq_true last))]
        refine (congrArg (Option.map _) later).trans ?_
        rw [Nat.add_assoc, Nat.add_comm 1, ← chunk_append_drop value place]
        split <;> rfl

/-! ### The opening -/

variable {store : σ} {next : List UInt8 → Move}

/-- A value that is read for an upload of either kind. -/
theorem receive_supplied
    (planned : server.session.plan (server.session.interpret frame.octets) =
      .read (.idle target) fun reading => (Session.idle target).afterRead reading next)
    (read : (Store.read store target true).outcome = .ok (.supplied value)) (nonempty : value ≠ [])
    (time : Nat) :
    let reaction := server.receive store frame time
    reaction.server.session = (conclude (next value)).1 ∧
      Event.responses reaction.events = (next value).responses := by
  have answered : (Store.read store (Session.idle target).target true).outcome =
    .ok (.supplied value) := read
  have kept : (Session.idle target).afterRead (.supplied value) next = next value :=
    if_neg nonempty
  obtain ⟨session, -, responses⟩ := receive_run store time planned
  obtain ⟨leads, answers⟩ := Plan.run_read answered
  refine ⟨session.trans (leads.trans ?_), responses.trans (answers.trans ?_)⟩
  · exact congrArg (fun move => (conclude move).1) kept
  · exact congrArg Move.responses kept

/-- An empty value ends an upload of either kind. -/
theorem receive_supplied_empty
    (planned : server.session.plan (server.session.interpret frame.octets) =
      .read (.idle target) fun reading => (Session.idle target).afterRead reading next)
    (read : (Store.read store target true).outcome = .ok (.supplied [])) (time : Nat) :
    Event.responses (server.receive store frame time).events =
      [.abort target AbortCause.noData.code] := by
  have answered : (Store.read store (Session.idle target).target true).outcome =
    .ok (.supplied []) := read
  obtain ⟨-, -, responses⟩ := receive_run store time planned
  exact responses.trans (Plan.run_read answered).2

theorem plan_upload (ready : server.session.isReceiving = false)
    (opens : frame.Brings (.upload target)) :
    server.session.plan (server.session.interpret frame.octets) = Session.openUpload target := by
  have fits : (Request.upload target).Fits := trivial
  rw [Session.interpret_of_brings ready fits opens]
  rfl

/-- **A client has the value, exactly when it has asked for all of it.** Whatever happens aside
between its requests, it obtains nothing else. -/
theorem run_upload (ready : server.session.isReceiving = false)
    (opens : frame.Brings (.upload target))
    (read : (Store.read store target true).outcome = .ok (.supplied value))
    (nonempty : value ≠ []) (small : value.length < UInt32.size)
    (sends : Sends operations (Request.asks false count)) (time : Nat) :
    Upload.obtain? target
        (Event.payloads (server.run store (.frame frame time :: operations)).events) =
      if Upload.rounds value ≤ count then some value else none := by
  obtain ⟨session, responses⟩ := receive_supplied (plan_upload ready opens) read nonempty time
  unfold Event.payloads Upload.rounds
  rw [responses_run_cons]
  show Upload.obtain? target
    ((Event.responses (server.receive store frame time).events ++ _).map _) = _
  by_cases short : value.length ≤ Request.expeditedCapacity
  · rw [if_pos short] at responses ⊢
    rw [responses, if_pos (Nat.zero_le count)]
    exact Upload.obtain?_uploaded (List.length_pos_iff.mpr nonempty) short _
  · rw [if_neg short] at session responses ⊢
    have opened : (server.receive store frame time).server.session =
      ⟨target, .upload ⟨value, segmentCapacity * 0, false⟩⟩ := session
    have rest := run_asks opened (chunkCount_pos nonempty) sends
      (server.receive store frame time).store
    rw [Nat.zero_add, Nat.mul_zero, List.drop_zero] at rest
    rw [responses]
    refine (Upload.obtain?_uploadStarted small _).trans ?_
    refine (congrArg (Option.filter _) rest).trans ?_
    split
    · exact if_pos (decide_eq_true rfl)
    · rfl

end Server

end Canopen
