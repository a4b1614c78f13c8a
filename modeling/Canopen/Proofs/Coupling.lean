/-
**What holds of the record of an endpoint at all times.**

* `Record.OfUpload`, `Record.OfDownload`, `Record.OfBlockUpload`, `Record.OfBlockDownload`: how the
  members are coupled while a transfer is open.
* `Record.Coupled`: they are, by the mode; at rest every member has its first value, but for the
  target and the slots.
* `Record.Represents.coupled`: a record of a sound session is coupled.
* `Endpoint.run_coupled`: **the record is coupled after every run**, over any store.
* `Endpoint.run_readout`: the figures that a server shows are those that the record holds.
-/

import Canopen.Proofs.Refinement

namespace Canopen

namespace Record

/-- The members during an upload by segments. -/
structure OfUpload (record : Record) : Prop where
  phase : record.phase = .none
  declared : record.declared = none
  long : Request.expeditedCapacity < record.buffer.length
  unfinished : record.cursor < record.buffer.length
  aligned : segmentCapacity ∣ record.cursor
  toggle : record.toggle.toNat = record.cursor / segmentCapacity % 2

/-- The members during a download by segments. -/
structure OfDownload (record : Record) : Prop where
  phase : record.phase = .none
  cursor : record.cursor = 0
  toggle : record.toggle = 0 ∨ record.toggle = 1
  room : ∀ declared, record.declared = some declared → record.buffer.length ≤ declared.toNat

/-- The members of a block upload whose first window is not asked for yet. -/
structure Initiated (record : Record) : Prop where
  phase : record.phase = .initiated
  cursor : record.cursor = 0
  sequence : record.sequence = 0
  pendingCount : record.pendingCount = 0
  lastLength : record.lastLength = 0

/-- How many chunks of the value are sent. -/
def chunksSent (record : Record) : Nat :=
  (record.cursor + (segmentCapacity - 1)) / segmentCapacity

/-- The frame of a chunk of the value, at a place of a window behind the first `first` chunks: its
number, with the highest bit set for the last chunk of the value, and its octets. -/
def chunkFrame (record : Record) (first place : Nat) : Payload :=
  let number := UInt8.ofNat (place + 1)
  let last := first + place + 1 = chunkCount record.buffer
  .ofList ((if last then number ||| 0x80 else number) :: chunk record.buffer (first + place))

/-- The members of a block upload whose window waits for an acknowledgement: the first slots hold
the frames of the last `sequence` chunks before the cursor. -/
structure AwaitingAck (record : Record) : Prop where
  phase : record.phase = .awaitingAck
  running : 1 ≤ record.sequence.toNat
  most : record.sequence.toNat ≤ greatestWindow
  pendingCount : record.pendingCount = record.sequence
  started : 0 < record.cursor
  within : record.cursor ≤ record.buffer.length
  aligned : segmentCapacity ∣ record.cursor ∨ record.cursor = record.buffer.length
  reached : record.sequence.toNat ≤ record.chunksSent
  slots : ∀ place < record.sequence.toNat, record.pending[place]? =
    some (record.chunkFrame (record.chunksSent - record.sequence.toNat) place)
  lastLength : record.lastLength =
    if record.cursor = record.buffer.length then
      record.buffer.length - segmentCapacity * (chunkCount record.buffer - 1)
    else 0

/-- The members during a block upload. -/
structure OfBlockUpload (record : Record) : Prop where
  nonempty : record.buffer ≠ []
  declared : record.declared = some (UInt32.ofNat record.buffer.length)
  least : 1 ≤ record.blockSize.toNat
  most : record.blockSize.toNat ≤ greatestWindow
  checksum : record.checksum =
    if record.checksummed then Checksum.of (record.buffer.take record.cursor) else 0
  stage : record.Initiated ∨ record.AwaitingAck

/-- The members during a block download. -/
structure OfBlockDownload (record : Record) : Prop where
  cursor : record.cursor = 0
  blockSize : record.blockSize = 127
  pendingCount : record.pendingCount = 0
  lastLength : record.lastLength = 0
  aligned : segmentCapacity ∣ record.buffer.length
  room : ∀ declared, record.declared = some declared →
    record.buffer.length ≤ segmentCapacity ∨
      record.buffer.length < declared.toNat + segmentCapacity
  checksum : record.checksum = if record.checksummed then Checksum.of record.buffer else 0
  stage :
    record.phase = .receiving ∧
        record.sequence.toNat = record.buffer.length / segmentCapacity % greatestWindow ∨
      record.phase = .awaitingEnd ∧ record.sequence = 0 ∧ 0 < record.buffer.length

/-- The members are coupled as the mode tells. -/
def Coupled (record : Record) : Prop :=
  match record.mode with
  | .idle => record = { target := record.target, pending := record.pending }
  | .segmentedUpload => record.OfUpload
  | .segmentedDownload => record.OfDownload
  | .blockUpload => record.OfBlockUpload
  | .blockDownload => record.OfBlockDownload

section Layouts

variable {target : Target} (pending : Slots)

theorem ofUpload_layout {upload : Upload} (sound : upload.Sound) :
    (Session.layout ⟨target, .upload upload⟩ pending).OfUpload where
  phase := rfl
  declared := rfl
  long := sound.long
  unfinished := sound.unfinished
  aligned := sound.aligned
  toggle := by
    show upload.toggle.toUInt8.toNat = upload.sent / segmentCapacity % 2
    rw [sound.toggle]
    rcases Nat.mod_two_eq_zero_or_one (upload.sent / segmentCapacity) with even | odd
    · rw [even]
      rfl
    · rw [odd]
      rfl

theorem ofDownload_layout {download : Download} (sound : download.Sound) :
    (Session.layout ⟨target, .download download⟩ pending).OfDownload where
  phase := rfl
  cursor := rfl
  toggle := by
    show download.toggle.toUInt8 = 0 ∨ download.toggle.toUInt8 = 1
    cases download.toggle with
    | false => exact Or.inl rfl
    | true => exact Or.inr rfl
  room := sound

section BlockUpload

variable {upload : BlockUpload} {first count : Nat}

theorem initiated_layout (stands : upload.Stands first count) (waiting : count = 0) :
    (Session.layout ⟨target, .blockUpload upload⟩ pending).Initiated := by
  have window : upload.window = [] := by
    rw [← List.length_eq_zero_iff, stands.length_window, waiting]
  refine ⟨?_, ?_, ?_, ?_, ?_⟩
  · rw [Session.phase_layout]
    show (if upload.started then Phase.awaitingAck else .initiated) = _
    rw [stands.started, waiting]
    rfl
  · show upload.sent = 0
    rw [stands.sent, stands.fresh waiting, waiting]
    exact Nat.zero_min _
  · show UInt8.ofNat upload.window.length = 0
    rw [window]
    rfl
  · show UInt8.ofNat upload.window.length = 0
    rw [window]
    rfl
  · show upload.lastLength = 0
    rw [BlockUpload.lastLength, window]
    rfl

theorem awaitingAck_layout (stands : upload.Stands first count) (running : 0 < count)
    (holds : pending.Hold upload.window) :
    (Session.layout ⟨target, .blockUpload upload⟩ pending).AwaitingAck := by
  have small := stands.small
  have sequence := stands.sequence_layout target pending
  have chunks : (Session.layout ⟨target, .blockUpload upload⟩ pending).chunksSent =
      first + count := stands.chunks_sent
  have sent := stands.sent
  have within := stands.within
  have ends : upload.sent = upload.value.length ↔ first + count = chunkCount upload.value := by
    simp only [chunkCount, segmentCapacity] at sent within ⊢
    omega
  refine ⟨?_, ?_, ?_, rfl, ?_, ?_, ?_, ?_, ?_, ?_⟩
  · rw [Session.phase_layout]
    show (if upload.started then Phase.awaitingAck else .initiated) = _
    rw [stands.started, decide_eq_true running]
    rfl
  · rw [sequence]
    exact running
  · rw [sequence]
    exact small
  · show 0 < upload.sent
    simp only [chunkCount, segmentCapacity] at sent within
    omega
  · show upload.sent ≤ upload.value.length
    omega
  · show segmentCapacity ∣ upload.sent ∨ upload.sent = upload.value.length
    simp only [segmentCapacity] at sent ⊢
    omega
  · rw [sequence, chunks]
    exact Nat.le_add_left _ _
  · rw [sequence, chunks, Nat.add_sub_cancel]
    intro place inside
    have segment : upload.window[place]? = some (.ofChunk upload.value first place) := by
      rw [stands.window, Segment.getElem?_window inside]
    rw [Session.pending_layout, holds.getElem? segment,
      Segment.payload, Response.octets_blockSegment (Nat.le_trans inside small), chunkFrame]
    simp only [Segment.ofChunk, decide_eq_true_eq]
    rfl
  · show upload.lastLength = if upload.sent = upload.value.length then _ else 0
    rw [stands.lastLength running]
    simp only [ends]
    rfl

theorem ofBlockUpload_layout (stands : upload.Stands first count)
    (holds : pending.Hold upload.window) :
    (Session.layout ⟨target, .blockUpload upload⟩ pending).OfBlockUpload := by
  refine ⟨stands.nonempty, rfl, ?_, ?_, stands.checksum, ?_⟩
  · rw [stands.blockSize_layout]
    exact stands.least
  · rw [stands.blockSize_layout]
    exact stands.most
  · by_cases running : 0 < count
    · exact Or.inr (awaitingAck_layout pending stands running holds)
    · exact Or.inl (initiated_layout pending stands (Nat.eq_zero_of_not_pos running))

end BlockUpload

theorem ofBlockDownload_layout {download : BlockDownload} (sound : download.Sound) :
    (Session.layout ⟨target, .blockDownload download⟩ pending).OfBlockDownload where
  cursor := rfl
  blockSize := rfl
  pendingCount := rfl
  lastLength := rfl
  aligned := sound.aligned
  room := sound.room
  checksum := sound.checksum
  stage := by
    rw [Session.phase_layout]
    show (if download.complete then Phase.awaitingEnd else .receiving) = _ ∧
        (UInt8.ofNat download.sequence).toNat =
          download.received.length / segmentCapacity % greatestWindow ∨
      (if download.complete then Phase.awaitingEnd else .receiving) = _ ∧
        UInt8.ofNat download.sequence = 0 ∧ 0 < download.received.length
    rcases sound.stage with ⟨receiving, sequence⟩ | ⟨complete, sequence, filled⟩
    · refine Or.inl ⟨?_, ?_⟩
      · rw [receiving]
        rfl
      · rw [sequence]
        exact toNat_ofNat_of_le (Nat.le_of_lt (Nat.mod_lt _ (by decide)))
    · refine Or.inr ⟨?_, ?_, filled⟩
      · rw [complete]
        rfl
      · rw [sequence]
        rfl

end Layouts

/-- **A record of a sound session is coupled.** -/
theorem Represents.coupled {record : Record} {session : Session}
    (represents : record.Represents session) (sound : session.Sound) : record.Coupled := by
  obtain ⟨pending, holds, rfl⟩ := represents
  obtain ⟨target, transfer⟩ := session
  cases transfer with
  | idle => exact (rfl : Session.layout ⟨target, .idle⟩ pending = _)
  | upload upload => exact ofUpload_layout pending sound
  | download download => exact ofDownload_layout pending sound
  | blockUpload upload =>
    obtain ⟨first, count, stands⟩ := sound
    exact ofBlockUpload_layout pending stands holds
  | blockDownload download => exact ofBlockDownload_layout pending sound

/-- The figures of a sound session are those that a record of it holds. -/
theorem Represents.readout_eq {record : Record} {session : Session}
    (represents : record.Represents session) (sound : session.Sound) :
    record.readout = session.readout := by
  obtain ⟨pending, holds, rfl⟩ := represents
  obtain ⟨target, transfer⟩ := session
  cases transfer with
  | idle => rfl
  | upload upload =>
    obtain ⟨value, sent, toggle⟩ := upload
    cases toggle <;> rfl
  | download download =>
    obtain ⟨received, declared, toggle⟩ := download
    cases toggle <;> rfl
  | blockUpload upload =>
    obtain ⟨first, count, stands⟩ := sound
    have pendingCount : (Session.layout ⟨target, .blockUpload upload⟩ pending).pendingCount.toNat =
        count := stands.sequence_layout target pending
    simp only [readout, stands.sequence_layout, stands.blockSize_layout, pendingCount,
      Session.readout, stands.length_window]
    rfl
  | blockDownload download =>
    have small : download.sequence ≤ greatestWindow := by
      rcases sound.stage with ⟨-, sequence⟩ | ⟨-, sequence, -⟩
      · exact sequence ▸ Nat.le_of_lt (Nat.mod_lt _ (by decide))
      · exact sequence ▸ Nat.zero_le _
    simp only [readout, Session.layout, toNat_ofNat_of_le small, Session.readout]
    rfl

end Record

namespace Endpoint

/-- **The record is coupled after every run**, over any store: whatever the client sends, whatever
is done on this side, and whatever the store answers. -/
theorem run_coupled {σ : Type} [Store σ] (sendId : UInt32) (store : σ)
    (operations : List Operation) : ((new sendId).run store operations).endpoint.record.Coupled :=
  (run_follows sendId store operations).endpoint.represents.coupled
    (Server.sound_run sendId store operations)

/-- After every run the figures that a server shows, those that its transfer does not keep included,
are those in the record of the endpoint. -/
theorem run_readout {σ : Type} [Store σ] (sendId : UInt32) (store : σ)
    (operations : List Operation) :
    ((new sendId).run store operations).endpoint.record.readout =
      ((Server.new sendId).run store operations).server.session.readout :=
  (run_follows sendId store operations).endpoint.represents.readout_eq
    (Server.sound_run sendId store operations)

end Endpoint

end Canopen
