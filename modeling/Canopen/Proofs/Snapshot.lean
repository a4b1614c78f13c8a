/-
**An upload hands out the value that its entry had when it was opened.**

* `Logged`: a store, and every call on it; `Operation.calls` are the calls of this side.
* `Upload.segmentOf`: the response that carries the chunk at a place.
* `Server.run_asked`: **segments that are asked for in order bring the chunks in order**, whatever
  happens aside, and the store is only called from this side meanwhile.
* `Server.HandsOut`: what a client gets behind the answer that opens an upload by segments.
* `Server.receive_upload_snapshot`: **the value is read once, and handed out whole.**
-/

import Canopen.Proofs.Uploads

namespace Canopen

/-! ### A store with a log -/

/-- A call on a store. -/
inductive StoreCall
  | read (target : Target) (checked : Bool)
  | write (target : Target) (data : List UInt8) (checked : Bool)
  deriving DecidableEq, Repr

/-- A store, and every call on it, the latest last. -/
structure Logged (σ : Type) where
  inner : σ
  calls : List StoreCall

namespace Logged

variable {σ : Type} [Store σ]

/-- Reads an entry, and logs it. -/
def read (logged : Logged σ) (target : Target) (checked : Bool) : Call (Logged σ) Reading :=
  let call := Store.read logged.inner target checked
  ⟨⟨call.store, logged.calls ++ [.read target checked]⟩, call.outcome, call.notices, call.observed⟩

/-- Writes an entry, and logs it. -/
def write (logged : Logged σ) (target : Target) (data : List UInt8) (checked : Bool) :
    Call (Logged σ) Status :=
  let call := Store.write logged.inner target data checked
  ⟨⟨call.store, logged.calls ++ [.write target data checked]⟩, call.outcome, call.notices,
    call.observed⟩

instance : Store (Logged σ) := ⟨read, write⟩

end Logged

/-- The calls on a store that an operation of this side makes. -/
def Operation.calls : Operation → List StoreCall
  | .upload target => [.read target false]
  | .download target data => [.write target data false]
  | .frame _ _ | .abort _ => []

/-! ### The answers to an upload -/

namespace Payload

/-- The octets of a segment that count. -/
def carried (payload : Payload) : List UInt8 :=
  payload.body.take (segmentCapacity - field payload.command 1 3)

end Payload

namespace Upload

/-- The response that carries the chunk at a place, the first at zero. -/
def segmentOf (value : List UInt8) (place : Nat) : Response :=
  .uploadSegment (decide (place % 2 = 1)) (chunk value place)
    (decide (place + 1 = chunkCount value))

variable {value : List UInt8} {place count : Nat}

/-- The first octet of a segment tells its toggle, and whether it is the last one; what it carries
is its chunk. -/
theorem encode_segmentOf (value : List UInt8) (place : Nat) :
    let payload := (segmentOf value place).encode
    field payload.command 5 3 = 0 ∧ flag payload.command 4 = decide (place % 2 = 1) ∧
      flag payload.command 0 = decide (place + 1 = chunkCount value) ∧
      payload.carried = chunk value place := by
  intro payload
  have encoded : payload = .ofList (Response.command 0
      (Response.mark (decide (place % 2 = 1)) 4 +
        2 * (segmentCapacity - (chunk value place).length) +
        Response.mark (decide (place + 1 = chunkCount value)) 0) ::
          (chunk value place ++ [])) := by
    rw [List.append_nil]
    rfl
  obtain ⟨kind, alternates, size, closes⟩ := Request.fields_segment (decide (place % 2 = 1))
    (decide (place + 1 = chunkCount value)) (length_chunk_le value place)
  refine ⟨kind, alternates, closes, ?_⟩
  rw [Payload.carried, encoded, Payload.command_ofList, size,
    Payload.take_body_ofList _ (length_chunk_le value place)]

/-- The first chunks are the start of the value. -/
theorem flatMap_chunk (value : List UInt8) (count : Nat) :
    (List.range count).flatMap (chunk value) = value.take (segmentCapacity * count) := by
  induction count with
  | zero => rw [List.range_zero, List.flatMap_nil, Nat.mul_zero, List.take_zero]
  | succ count ih =>
    rw [List.range_succ, List.flatMap_append, ih, List.flatMap_singleton, Nat.mul_succ,
      List.take_add, chunk]

/-- All chunks are the value. -/
theorem take_chunkCount (value : List UInt8) :
    value.take (segmentCapacity * chunkCount value) = value := by
  refine List.take_of_length_le ?_
  simp only [chunkCount, segmentCapacity]
  omega

end Upload

/-! ### Segments that are asked for -/

/-- The session of an upload behind its first chunks. Behind all of them it is at rest. -/
def Session.uploading (target : Target) (value : List UInt8) (place : Nat) : Session :=
  if place = chunkCount value then .idle target
  else ⟨target, .upload ⟨value, segmentCapacity * place, decide (place % 2 = 1)⟩⟩

namespace Server

variable {σ : Type} [Store σ] {server : Server} {target : Target} {value : List UInt8}

/-- What is aside makes the calls of this side, and no others. -/
theorem perform_aside_calls (server : Server) (store : Logged σ) {operation : Operation}
    (aside : operation.isAside = true) :
    (server.perform store operation).store.calls = store.calls ++ operation.calls := by
  cases operation with
  | frame frame time =>
    obtain ⟨-, kept, -⟩ := receive_isAbort server store time aside
    rw [perform, kept, Operation.calls, List.append_nil]
  | abort code => exact absurd aside Bool.false_ne_true
  | upload target => rfl
  | download target data => rfl

/-- **A segment that is asked for** is the chunk at its place. -/
theorem receive_uploading {place : Nat} {frame : Frame}
    (session : server.session = .uploading target value place) (inner : place < chunkCount value)
    (brings : frame.Brings (.uploadSegment (decide (place % 2 = 1)))) (store : σ) (time : Nat) :
    let reaction := server.receive store frame time
    reaction.server.session = .uploading target value (place + 1) ∧ reaction.store = store ∧
      Event.responses reaction.events = [Upload.segmentOf value place] := by
  rw [Session.uploading, if_neg (Nat.ne_of_lt inner)] at session
  have reaction := receive_uploadSegment session inner brings store time
  rw [← Request.toggle_succ] at reaction
  exact reaction

/-- **Segments that are asked for in order bring the chunks in order**, by induction on the
operations: what is aside changes neither the session nor what it still has to send. -/
theorem run_asked {place count : Nat} {operations : List Operation}
    (session : server.session = .uploading target value place)
    (within : place + count ≤ chunkCount value)
    (sends : Sends operations (Request.asks (decide (place % 2 = 1)) count)) (store : Logged σ) :
    let ended := server.run store operations
    Event.responses ended.events = (List.range' place count).map (Upload.segmentOf value) ∧
      ended.store.calls = store.calls ++ operations.flatMap Operation.calls ∧
      ended.server.session = .uploading target value (place + count) := by
  generalize asked : Request.asks (decide (place % 2 = 1)) count = requests at sends
  induction sends generalizing server place count store with
  | nil =>
    cases count with
    | zero => exact ⟨rfl, (List.append_nil _).symm, session⟩
    | succ count => exact absurd asked (List.cons_ne_nil _ _)
  | @aside operation operations _ _ aside later ih =>
    obtain ⟨same, silent⟩ := perform_aside server store aside
    obtain ⟨responses, calls, leads⟩ :=
      ih (same.trans session) within (server.perform store operation).store asked
    refine ⟨?_, ?_, leads⟩
    · rw [responses_run_cons, silent, List.nil_append]
      exact responses
    · rw [List.flatMap_cons, ← List.append_assoc, ← perform_aside_calls server store aside]
      exact calls
  | @request frame time operations request requests brings later ih =>
    cases count with
    | zero => exact absurd asked.symm (List.cons_ne_nil _ _)
    | succ count =>
      obtain ⟨rfl, rfl⟩ := List.cons.inj asked
      have inner : place < chunkCount value := by omega
      obtain ⟨leads, kept, answer⟩ := receive_uploading session inner brings store time
      rw [← Request.toggle_succ] at ih
      have rest := ih leads (by omega) (server.receive store frame time).store rfl
      rw [kept, Nat.add_assoc, Nat.add_comm 1] at rest
      obtain ⟨responses, calls, ends⟩ := rest
      refine ⟨?_, ?_, ?_⟩
      · rw [responses_run_cons, perform, answer, kept, responses, List.range'_succ, List.map_cons,
          List.singleton_append]
      · rw [run, perform, kept]
        exact calls
      · rw [run, perform, kept]
        exact ends

end Server

/-! ### The opening -/

namespace Session

/-- The answer to an upload of a value that is not empty. -/
def answerUpload (target : Target) (value : List UInt8) : Move :=
  if value.length ≤ Request.expeditedCapacity then
    .done (idle target) [.note (.expeditedUpload target), .send (.uploaded target value)]
  else
    .done ⟨target, .upload ⟨value, 0, false⟩⟩
      [.note (.uploadStarted target value.length), .send (.uploadStarted target value.length)]

variable {session : Session} {reading : Reading} {next : List UInt8 → Move}

/-- A refusal ends an upload with the code of its status. -/
theorem afterRead_refused (refused : reading.status ≠ .ok) :
    ∃ cause notices, session.afterRead reading next = .fail session cause notices ∧
      cause.code = reading.status.abortCode := by
  unfold afterRead Status.abortCode
  cases known : reading.status.abortCause? with
  | none => exact absurd (Status.abortCause?_eq_none.mp known) refused
  | some cause => exact ⟨cause, _, rfl, rfl⟩

theorem afterRead_empty (accepted : reading.status = .ok) (empty : reading.into [] = []) :
    session.afterRead reading next =
      .fail session .noData [.nothingToUpload session.target] := by
  unfold afterRead
  simp only [Status.abortCause?_eq_none.mpr accepted, if_pos empty]

theorem afterRead_value (accepted : reading.status = .ok) (nonempty : reading.into [] ≠ []) :
    session.afterRead reading next = next (reading.into []) := by
  unfold afterRead
  simp only [Status.abortCause?_eq_none.mpr accepted, if_neg nonempty]

end Session

namespace Response

variable {target : Target} {value : List UInt8}

/-- A short value stands in the answer, behind the number of octets that it leaves unused. -/
theorem toList_uploaded (positive : 1 ≤ value.length) (few : value.length ≤ 4) :
    (uploaded target value).encode.toList =
      UInt8.ofNat (0x43 ||| (4 - value.length) <<< 2) ::
        (target.octets ++ value ++ List.replicate (4 - value.length) 0) := by
  have marks : command 0x43 (4 * (4 - value.length)) =
      UInt8.ofNat (0x43 ||| (4 - value.length) <<< 2) := by
    have all : ∀ unused < 4, command 0x43 (4 * unused) =
        UInt8.ofNat (0x43 ||| unused <<< 2) := by
      decide
    exact all _ (by omega)
  have length : (target.octets ++ value).length = 3 + value.length := by
    rw [List.length_append]
    rfl
  show (Payload.ofList (command 0x43 _ :: (target.octets ++ value))).toList = _
  rw [Payload.toList_ofList, List.length_cons, length, marks, List.take_of_length_le]
  · rw [List.cons_append]
    congr 3
    simp only [Frame.capacity]
    omega
  · rw [List.length_cons, length]
    simp only [Frame.capacity]
    omega

/-- The answer that opens an upload by segments tells the size of the value. -/
theorem toList_uploadStarted (target : Target) (small : value.length < UInt32.size) :
    ∃ size, (uploadStarted target value.length).encode.toList = 0x41 :: (target.octets ++ size) ∧
      size.length = 4 ∧ Octets.toNat size = value.length := by
  refine ⟨Octets.ofNat 4 value.length, ?_, Octets.length_ofNat 4 _, ?_⟩
  · show (Payload.ofList (0x41 :: (target.octets ++ Octets.ofNat 4 value.length))).toList = _
    rfl
  · rw [Octets.toNat_ofNat]
    exact Nat.mod_eq_of_lt small

end Response

namespace Server

/-- What a client gets behind the answer that opens an upload by segments, from operations in which
it asks for so many segments. -/
structure HandsOut {σ : Type} [Store σ] (opened : Reaction (Logged σ)) (target : Target)
    (value : List UInt8) (count : Nat) (operations : List Operation) : Prop where
  /-- Every request has an answer. -/
  answered : (Event.payloads (opened.server.run opened.store operations).events).length = count
  /-- A segment echoes the toggle, and only the last one is marked. -/
  formed : ∀ place payload,
    (Event.payloads (opened.server.run opened.store operations).events)[place]? = some payload →
      field payload.command 5 3 = 0 ∧ flag payload.command 4 = decide (place % 2 = 1) ∧
        flag payload.command 0 = decide (place + 1 = chunkCount value)
  /-- The segments carry the start of the value. -/
  carried : (Event.payloads (opened.server.run opened.store operations).events).flatMap
    Payload.carried = value.take (segmentCapacity * count)
  /-- All of them carry the value. -/
  whole : count = chunkCount value →
    (Event.payloads (opened.server.run opened.store operations).events).flatMap Payload.carried =
      value
  /-- The upload is over exactly when all segments are sent. -/
  ended : (opened.server.run opened.store operations).server.session = .idle target ↔
    count = chunkCount value
  /-- The store is called from this side only. -/
  calls : (opened.server.run opened.store operations).store.calls =
    opened.store.calls ++ operations.flatMap Operation.calls

variable {σ : Type} [Store σ] {server : Server} {target : Target} {value : List UInt8}

theorem handsOut_of_uploading {opened : Reaction (Logged σ)}
    (session : opened.server.session = .uploading target value 0) {count : Nat}
    (within : count ≤ chunkCount value) {operations : List Operation}
    (sends : Sends operations (Request.asks false count)) :
    HandsOut opened target value count operations := by
  obtain ⟨responses, calls, ends⟩ :=
    run_asked session (by rwa [Nat.zero_add]) sends opened.store
  rw [← List.range_eq_range'] at responses
  rw [Nat.zero_add] at ends
  have payloads : Event.payloads (opened.server.run opened.store operations).events =
      (List.range count).map fun place => (Upload.segmentOf value place).encode := by
    rw [Event.payloads, responses, List.map_map]
    rfl
  have carried : (Event.payloads (opened.server.run opened.store operations).events).flatMap
      Payload.carried = value.take (segmentCapacity * count) := by
    rw [payloads, List.flatMap_map, ← Upload.flatMap_chunk]
    congr 1
    funext place
    exact (Upload.encode_segmentOf value place).2.2.2
  refine ⟨?_, ?_, carried, ?_, ?_, calls⟩
  · rw [payloads, List.length_map, List.length_range]
  · intro place payload here
    rw [payloads, List.getElem?_map, Option.map_eq_some_iff] at here
    obtain ⟨other, there, rfl⟩ := here
    obtain ⟨inside, rfl⟩ := List.getElem?_eq_some_iff.mp there
    rw [List.getElem_range]
    obtain ⟨kind, alternates, closes, -⟩ := Upload.encode_segmentOf value place
    exact ⟨kind, alternates, closes⟩
  · rintro rfl
    rw [carried, Upload.take_chunkCount]
  · rw [ends, Session.uploading]
    split
    · next all => exact iff_of_true rfl all
    · next more =>
      refine iff_of_false (fun same => ?_) more
      exact Mode.noConfusion (congrArg Session.mode same)

/-- An upload that is opened reads its entry once, and goes on with the answer. -/
theorem receive_openUpload (ready : server.session.isReceiving = false) {opening : Frame}
    (opens : Request.decode opening.octets = .upload target) (store : σ)
    (calls : List StoreCall) (time : Nat) :
    let opened := server.receive (Logged.mk store calls) opening time
    let call := Store.read store target true
    opened.store = ⟨call.store, calls ++ [.read target true]⟩ ∧
      (∀ fault, call.outcome = .error fault → opened.Aborted target 0x08000000) ∧
      ∀ reading, call.outcome = .ok reading →
        let move := (Session.idle target).afterRead reading (Session.answerUpload target)
        opened.server.session = (conclude move).1 ∧
          Event.responses opened.events = move.responses := by
  intro opened call
  have planned : server.session.plan (server.session.interpret opening.octets) =
      Session.openUpload target := by
    rw [Session.interpret_of_ready ready, opens]
    rfl
  obtain ⟨session, kept, responses⟩ := receive_run (Logged.mk store calls) time planned
  refine ⟨?_, ?_, ?_⟩
  · rw [Session.openUpload, Plan.run, Plan.store_settle] at kept
    exact kept
  · intro fault failed
    obtain ⟨ends, answers⟩ :=
      @Plan.run_read_fault _ _ (Logged.mk store calls) (.idle target) _ fault failed
    exact ⟨responses.trans answers, session.trans ends⟩
  · intro reading answered
    obtain ⟨ends, answers⟩ := @Plan.run_read _ _ (Logged.mk store calls) (.idle target)
      (fun reading => (Session.idle target).afterRead reading _) reading answered
    exact ⟨session.trans ends, responses.trans answers⟩

/-- **An upload hands out a snapshot.** The store is read once, checked, when an upload is opened. A
refusal ends the upload, and so does an empty value. A value of up to four octets is in the answer;
of a longer one the answer tells the size, and a client that asks for its segments with toggles that
alternate gets it whole, whatever is read and written on this side between its requests, and the
store is not called for it again. -/
theorem receive_upload_snapshot (ready : server.session.isReceiving = false) {opening : Frame}
    (opens : Request.decode opening.octets = .upload target) (store : σ)
    (calls : List StoreCall) (time : Nat) :
    let opened := server.receive (Logged.mk store calls) opening time
    let call := Store.read store target true
    opened.store = ⟨call.store, calls ++ [.read target true]⟩ ∧
      (∀ fault, call.outcome = .error fault → opened.Aborted target 0x08000000) ∧
      ∀ reading, call.outcome = .ok reading →
        (reading.status ≠ .ok → opened.Aborted target reading.status.abortCode) ∧
        ∀ value, reading.status = .ok → reading.into [] = value →
          (value = [] → opened.Aborted target 0x08000024) ∧
          (1 ≤ value.length → value.length ≤ 4 →
            opened.server.session = .idle target ∧
            ∃ payload, Event.payloads opened.events = [payload] ∧
              payload.toList = UInt8.ofNat (0x43 ||| (4 - value.length) <<< 2) ::
                (target.octets ++ value ++ List.replicate (4 - value.length) 0)) ∧
          (4 < value.length → value.length < UInt32.size →
            (∃ payload size, Event.payloads opened.events = [payload] ∧
              payload.toList = 0x41 :: (target.octets ++ size) ∧
              size.length = 4 ∧ Octets.toNat size = value.length) ∧
            ∀ count ≤ chunkCount value, ∀ operations,
              Sends operations (Request.asks false count) →
                HandsOut opened target value count operations) := by
  intro opened call
  obtain ⟨kept, fails, answers⟩ := receive_openUpload ready opens store calls time
  refine ⟨kept, fails, fun reading answered => ?_⟩
  obtain ⟨leads, told⟩ := answers reading answered
  refine ⟨?_, ?_⟩
  · intro refused
    obtain ⟨cause, notices, fails, code⟩ := Session.afterRead_refused refused
    rw [fails] at leads told
    refine ⟨told.trans ?_, leads⟩
    rw [Move.responses_fail, code]
    rfl
  rintro value accepted rfl
  refine ⟨?_, ?_, ?_⟩
  · intro empty
    rw [Session.afterRead_empty accepted empty] at leads told
    exact ⟨told.trans (Move.responses_fail _ _ _), leads⟩
  · intro least most
    have few : (reading.into []).length ≤ Request.expeditedCapacity := most
    rw [Session.afterRead_value accepted (List.length_pos_iff.mp least), Session.answerUpload,
      if_pos few] at leads told
    exact ⟨leads, _, congrArg (List.map Response.encode) told,
      Response.toList_uploaded least most⟩
  · intro long small
    have nonempty : reading.into [] ≠ [] := List.length_pos_iff.mp (by omega)
    have many : ¬ (reading.into []).length ≤ Request.expeditedCapacity := Nat.not_le.mpr long
    rw [Session.afterRead_value accepted nonempty, Session.answerUpload, if_neg many] at leads told
    refine ⟨?_, fun count within operations sends => ?_⟩
    · obtain ⟨size, octets, width, number⟩ := Response.toList_uploadStarted target small
      exact ⟨_, size, congrArg (List.map Response.encode) told, octets, width, number⟩
    · have first : opened.server.session = .uploading target (reading.into []) 0 := by
        rw [Session.uploading, if_neg (Nat.ne_of_lt (chunkCount_pos nonempty))]
        exact leads
      exact handsOut_of_uploading first within sends

/-- Ten octets in two segments, and the entry is written on this side before each of them. -/
theorem receive_upload_snapshot_overwritten :
    let opened := (new 0x582).receive
      (Logged.mk (Dictionary.single ⟨0x2000, 1⟩ [1, 2, 3, 4, 5, 6, 7, 8, 9, 10]) [])
      (Request.upload ⟨0x2000, 1⟩).frame 0
    HandsOut opened ⟨0x2000, 1⟩ [1, 2, 3, 4, 5, 6, 7, 8, 9, 10] 2
      [.download ⟨0x2000, 1⟩ [9], .frame (Request.uploadSegment false).frame 1,
        .upload ⟨0x2000, 1⟩, .download ⟨0x2000, 1⟩ [],
        .frame (Request.uploadSegment true).frame 2] := by
  intro opened
  have opens : Request.decode (Request.upload ⟨0x2000, 1⟩).frame.octets = .upload ⟨0x2000, 1⟩ :=
    Request.decode_of_brings trivial (Request.brings_frame (by decide))
  have sends : Sends [.download ⟨0x2000, 1⟩ [9], .frame (Request.uploadSegment false).frame 1,
      .upload ⟨0x2000, 1⟩, .download ⟨0x2000, 1⟩ [],
      .frame (Request.uploadSegment true).frame 2] (Request.asks false 2) :=
    .aside rfl (.request (Request.brings_frame (by decide)) (.aside rfl (.aside rfl
      (.request (Request.brings_frame (by decide)) .nil))))
  have ready : (new 0x582).session.isReceiving = false := rfl
  obtain ⟨-, -, answers⟩ := receive_upload_snapshot ready opens
    (Dictionary.single ⟨0x2000, 1⟩ [1, 2, 3, 4, 5, 6, 7, 8, 9, 10]) [] 0
  obtain ⟨-, -, long⟩ := (answers (.supplied _) rfl).2 _ rfl rfl
  exact (long (by decide) (by decide)).2 2 (by decide) _ sends

end Server

end Canopen
