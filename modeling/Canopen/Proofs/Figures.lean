/-
**What holds of the transfer of a server at all times.**

* `Upload.Sound`, `Download.Sound`, `BlockDownload.Sound`: how the figures of an open transfer are
  coupled. Those of a block upload stand as `BlockUpload.Stands` says.
* `Session.Sound`: this holds of the transfer that is open.
* `Session.sound_plan`: what a request read from a frame comes to leaves a sound session.
* `Server.sound_run`: **a server is sound after every run**, over any store.
-/

import Canopen.Proofs.Requests
import Canopen.Proofs.Runs
import Canopen.Proofs.Windows

namespace Canopen

/-- An upload by segments has more to send, and has sent whole segments. -/
structure Upload.Sound (upload : Upload) : Prop where
  long : Request.expeditedCapacity < upload.value.length
  unfinished : upload.sent < upload.value.length
  aligned : segmentCapacity ∣ upload.sent
  toggle : upload.toggle = decide (upload.sent / segmentCapacity % 2 = 1)

/-- A download by segments keeps to its declared size. -/
def Download.Sound (download : Download) : Prop :=
  ∀ declared, download.declared = some declared → download.received.length ≤ declared.toNat

/-- A block download has whole segments, and knows how many of them belong to the window. -/
structure BlockDownload.Sound (download : BlockDownload) : Prop where
  aligned : segmentCapacity ∣ download.received.length
  room : ∀ declared, download.declared = some declared →
    download.received.length ≤ segmentCapacity ∨
      download.received.length < declared.toNat + segmentCapacity
  checksum : download.checksum =
    if download.checksummed then Checksum.of download.received else 0
  stage :
    download.complete = false ∧
        download.sequence = download.received.length / segmentCapacity % greatestWindow ∨
      download.complete = true ∧ download.sequence = 0 ∧ 0 < download.received.length

/-- The number of the last segment while more of them are expected. -/
theorem BlockDownload.Sound.sequence {download : BlockDownload} (sound : download.Sound)
    (receiving : download.complete = false) :
    download.sequence = download.received.length / segmentCapacity % greatestWindow := by
  rcases sound.stage with ⟨-, sequence⟩ | ⟨complete, -⟩
  · exact sequence
  · exact absurd (receiving.symm.trans complete) Bool.false_ne_true

namespace Session

/-- The figures of the open transfer are coupled. -/
def Sound (session : Session) : Prop :=
  match session.transfer with
  | .idle => True
  | .upload upload => upload.Sound
  | .download download => download.Sound
  | .blockUpload upload => ∃ first count, upload.Stands first count
  | .blockDownload download => download.Sound

theorem sound_idle (target : Target) : (idle target).Sound := trivial

/-! ### Uploads and downloads by segments -/

theorem sound_openUpload (target : Target) : (openUpload target).Leaves Sound := by
  intro reading
  refine leaves_afterRead fun value _ => ?_
  by_cases short : value.length ≤ Request.expeditedCapacity
  · simp only [if_pos short, Move.leaves_done]
    exact sound_idle target
  · simp only [if_neg short, Move.leaves_done]
    have long := Nat.lt_of_not_le short
    exact ⟨long, Nat.zero_lt_of_lt long, Nat.dvd_zero _,
      (decide_eq_false (show ¬ 0 / segmentCapacity % 2 = 1 by decide)).symm⟩

theorem sound_nextSegment {target : Target} {upload : Upload}
    (sound : Sound ⟨target, .upload upload⟩) : (nextSegment target upload).Leaves Sound := by
  obtain ⟨long, unfinished, aligned, toggle⟩ : upload.Sound := sound
  unfold nextSegment
  simp only [List.length_take, List.length_drop]
  split
  · exact Move.leaves_done.mpr (sound_idle target)
  · next more =>
    rw [beq_iff_eq] at more
    have size : min segmentCapacity (upload.value.length - upload.sent) = segmentCapacity := by
      omega
    rw [size] at more ⊢
    refine Move.leaves_done.mpr ⟨long, ?_, Nat.dvd_add aligned (Nat.dvd_refl _), ?_⟩
    · show upload.sent + segmentCapacity < upload.value.length
      omega
    · show (!upload.toggle) = decide ((upload.sent + segmentCapacity) / segmentCapacity % 2 = 1)
      rw [toggle, Nat.add_div_right _ (by decide)]
      by_cases odd : upload.sent / segmentCapacity % 2 = 1
      · have even : ¬ (upload.sent / segmentCapacity).succ % 2 = 1 := by omega
        rw [decide_eq_true odd, decide_eq_false even, Bool.not_true]
      · have even : (upload.sent / segmentCapacity).succ % 2 = 1 := by omega
        rw [decide_eq_false odd, decide_eq_true even, Bool.not_false]

theorem sound_uploadSegment {session : Session} (sound : session.Sound) (toggle : Bool) :
    (session.uploadSegment toggle).Leaves Sound := by
  obtain ⟨target, transfer⟩ := session
  cases transfer with
  | upload upload =>
    simp only [uploadSegment]
    split
    · exact sound_nextSegment sound
    · exact Move.leaves_fail
  | _ => exact Move.leaves_fail

theorem sound_expedited (target : Target) (data : List UInt8) :
    (expedited target data).Leaves Sound := by
  intro status
  simp only
  cases status.abortCause? with
  | some cause => exact Move.leaves_fail
  | none => exact Move.leaves_done.mpr (sound_idle target)

theorem sound_openDownload (target : Target) (declared : Option UInt32) :
    (openDownload target declared).Leaves Sound :=
  Move.leaves_done.mpr fun _ _ => Nat.zero_le _

theorem sound_writeDownload (target : Target) (download : Download) :
    (writeDownload target download).Leaves Sound := by
  intro status
  simp only
  cases status.abortCause? with
  | some cause => exact Move.leaves_fail
  | none => exact Move.leaves_done.mpr (sound_idle target)

/-- What is not in excess fits in the declared size. -/
theorem le_of_not_isExcess {size : Nat} {declared : Option UInt32}
    (fits : ¬ isExcess size declared = true) {bound : UInt32} (known : declared = some bound) :
    size ≤ bound.toNat := by
  subst known
  simp only [isExcess, Option.any_some, decide_eq_true_eq] at fits
  exact Nat.le_of_not_lt fits

theorem isExcess_eq_false {size : Nat} {declared : Option UInt32}
    (room : ∀ bound, declared = some bound → size ≤ bound.toNat) :
    isExcess size declared = false := by
  cases declared with
  | none => rfl
  | some bound => exact decide_eq_false (Nat.not_lt.mpr (room bound rfl))

theorem sound_downloadSegment {session : Session} (toggle : Bool) (data : List UInt8)
    (last : Bool) : (session.downloadSegment toggle data last).Leaves Sound := by
  obtain ⟨target, transfer⟩ := session
  cases transfer with
  | download download =>
    simp only [downloadSegment, takeSegment]
    split
    · split
      · exact Move.leaves_fail
      · next fits =>
        split
        · exact sound_writeDownload target _
        · exact Move.leaves_done.mpr fun _ known => le_of_not_isExcess fits known
    · exact Move.leaves_fail
  | _ => exact Move.leaves_fail

/-! ### Block uploads -/

section BlockUpload

variable {target : Target} {upload : BlockUpload}

variable {first count : Nat}

theorem sound_openBlockUpload (target : Target) (checksummed : Bool) (blockSize : Nat) :
    (openBlockUpload target checksummed blockSize).Leaves Sound := by
  intro reading
  exact leaves_afterRead fun value nonempty => Move.leaves_done.mpr
    ⟨0, 0, BlockUpload.stands_opened nonempty blockSize checksummed⟩

theorem sound_sendWindow (stands : upload.Stands first count)
    (more : first + count < chunkCount upload.value) :
    (sendWindow target upload).Leaves Sound :=
  Move.leaves_done.mpr ⟨_, _, stands.advance more⟩

theorem sound_closeBlockUpload : (closeBlockUpload target upload).Leaves Sound :=
  Move.leaves_done.mpr (sound_idle target)

theorem sound_continueUpload (stands : upload.Stands first count) (acknowledged : Nat) :
    (continueUpload target upload acknowledged).Leaves Sound := by
  unfold continueUpload
  simp only
  split
  · exact Move.leaves_fail
  · split
    · exact Move.leaves_done.mpr ⟨_, _, stands⟩
    · split
      · exact sound_closeBlockUpload
      · next more =>
        rw [stands.rest_eq_nil_iff] at more
        exact sound_sendWindow stands (Nat.lt_of_le_of_ne stands.within more)

theorem sound_blockUploadStart {session : Session} (sound : session.Sound) :
    session.blockUploadStart.Leaves Sound := by
  obtain ⟨target, transfer⟩ := session
  cases transfer with
  | blockUpload upload =>
    obtain ⟨first, count, stands⟩ := sound
    simp only [blockUploadStart]
    split
    · exact Move.leaves_fail
    · next waiting =>
      have idle : count = 0 := by
        rw [stands.started, decide_eq_true_eq] at waiting
        exact Nat.eq_zero_of_not_pos waiting
      refine sound_sendWindow stands ?_
      rw [stands.fresh idle, idle]
      exact chunkCount_pos stands.nonempty
  | _ => exact Move.leaves_fail

theorem sound_blockUploadAck {session : Session} (sound : session.Sound) (acknowledged : Nat)
    (blockSize : Option Nat) : (session.blockUploadAck acknowledged blockSize).Leaves Sound := by
  obtain ⟨target, transfer⟩ := session
  cases transfer with
  | blockUpload upload =>
    obtain ⟨first, count, stands⟩ := sound
    simp only [blockUploadAck]
    split
    · exact sound_continueUpload (stands.resize _) acknowledged
    · exact Move.leaves_fail
  | _ => exact Move.leaves_fail

theorem sound_blockUploadEnd {session : Session} (sound : session.Sound) :
    session.blockUploadEnd.Leaves Sound := by
  obtain ⟨target, transfer⟩ := session
  cases transfer with
  | blockUpload upload => exact sound_closeBlockUpload
  | _ => exact Move.leaves_done.mpr sound

end BlockUpload

/-! ### Block downloads -/

section BlockDownload

variable {target : Target} {download : BlockDownload}

theorem isReceiving_blockDownload :
    isReceiving ⟨target, .blockDownload download⟩ = !download.complete := by
  obtain ⟨_, _, _, _, _, complete⟩ := download
  cases complete <;> rfl

theorem sound_openBlockDownload (target : Target) (checksummed : Bool)
    (declared : Option UInt32) : (openBlockDownload target checksummed declared).Leaves Sound := by
  refine Move.leaves_done.mpr ⟨Nat.dvd_zero _, fun _ _ => Or.inl (Nat.zero_le _), ?_,
    Or.inl ⟨rfl, show 0 = 0 / segmentCapacity % greatestWindow by decide⟩⟩
  show 0 = if checksummed then Checksum.of [] else 0
  rw [Checksum.of, Checksum.update_nil, ite_self]

/-- What is received is not beyond the declared size before the last segment. -/
theorem lt_of_not_isFilled (unfilled : ¬ download.isFilled = true) {bound : UInt32}
    (known : download.declared = some bound) :
    download.received.length = 0 ∨ download.received.length < bound.toNat := by
  rw [BlockDownload.isFilled, known, Option.any_some, Bool.and_eq_true, decide_eq_true_eq,
    Bool.not_eq_true', List.isEmpty_eq_false_iff, ← List.length_pos_iff] at unfilled
  omega

/-- The checksum register goes on over a segment. -/
theorem checksum_take (segment : Segment)
    (checksum : download.checksum =
      if download.checksummed then Checksum.of download.received else 0) :
    (download.take segment).checksum =
      if download.checksummed then Checksum.of (download.received ++ segment.data) else 0 := by
  show (if download.checksummed then Checksum.update download.checksum segment.data
    else download.checksum) = _
  rw [checksum]
  cases download.checksummed with
  | true => rw [if_pos rfl, if_pos rfl, if_pos rfl, Checksum.of, Checksum.of,
      Checksum.update_append]
  | false => rw [if_neg Bool.false_ne_true, if_neg Bool.false_ne_true,
      if_neg Bool.false_ne_true]

section Segment

variable {segment : Segment}

/-- A full segment is one more. -/
theorem count_take (full : segment.data.length = segmentCapacity) :
    (download.received ++ segment.data).length / segmentCapacity =
      download.received.length / segmentCapacity + 1 := by
  rw [List.length_append, full, Nat.add_div_right _ (by decide)]

/-- The number of a segment inside a window tells how many there are in it. -/
theorem number_inner (full : segment.data.length = segmentCapacity)
    (number : segment.number =
      download.received.length / segmentCapacity % greatestWindow + 1)
    (inner : ¬ BlockDownload.closesWindow segment = true) :
    segment.number =
      (download.received ++ segment.data).length / segmentCapacity % greatestWindow := by
  rw [BlockDownload.closesWindow, Bool.or_eq_true, decide_eq_true_eq, not_or] at inner
  have below := inner.1
  rw [count_take full]
  simp only [greatestWindow] at below number ⊢
  omega

/-- Behind a full window the numbers begin anew. -/
theorem number_closed (full : segment.data.length = segmentCapacity)
    (number : segment.number =
      download.received.length / segmentCapacity % greatestWindow + 1)
    (closes : BlockDownload.closesWindow segment = true) (more : segment.last = false) :
    0 = (download.received ++ segment.data).length / segmentCapacity % greatestWindow := by
  rw [BlockDownload.closesWindow, more, Bool.or_false, decide_eq_true_eq] at closes
  rw [count_take full]
  simp only [greatestWindow] at closes number ⊢
  omega

/-- **A segment keeps a block download sound.** -/
theorem sound_takeBlockSegment (sound : download.Sound)
    (receiving : download.complete = false) (full : segment.data.length = segmentCapacity) :
    (takeBlockSegment target download segment).Leaves Sound := by
  have sequence := sound.sequence receiving
  unfold takeBlockSegment
  simp only
  split
  · exact Move.leaves_fail
  next expected =>
  split
  · exact Move.leaves_fail
  next unfilled =>
  have number := sequence ▸ Decidable.not_not.mp expected
  have length : (download.received ++ segment.data).length =
      download.received.length + segmentCapacity := by rw [List.length_append, full]
  have more : segmentCapacity ∣ (download.received ++ segment.data).length := by
    rw [length]
    exact Nat.dvd_add sound.aligned (Nat.dvd_refl _)
  have room : ∀ bound, download.declared = some bound →
      (download.received ++ segment.data).length ≤ segmentCapacity ∨
        (download.received ++ segment.data).length < bound.toNat + segmentCapacity := by
    intro bound known
    have := lt_of_not_isFilled unfilled known
    omega
  have checksum := checksum_take segment sound.checksum
  split
  · next closes =>
    refine Move.leaves_done.mpr ⟨more, room, checksum, ?_⟩
    cases last : segment.last with
    | true =>
      refine Or.inr ⟨rfl, rfl, ?_⟩
      show 0 < (download.received ++ segment.data).length
      rw [length]
      exact Nat.add_pos_right _ (by decide)
    | false => exact Or.inl ⟨rfl, number_closed full number closes last⟩
  · next inner =>
    exact Move.leaves_done.mpr ⟨more, room, checksum,
      Or.inl ⟨receiving, number_inner full number inner⟩⟩

end Segment

theorem sound_writeBlockDownload (target : Target) (download : BlockDownload)
    (data : List UInt8) (notices : List Notice) :
    (writeBlockDownload target download data notices).Leaves Sound := by
  intro status
  simp only
  split
  · exact Move.leaves_done.mpr (sound_idle target)
  · exact Move.leaves_fail

theorem sound_blockDownloadEnd (session : Session) (padding : Nat) (checksum : UInt16) :
    (session.blockDownloadEnd padding checksum).Leaves Sound := by
  obtain ⟨target, transfer⟩ := session
  cases transfer with
  | blockDownload download =>
    simp only [blockDownloadEnd, closeBlockDownload]
    split
    · split
      · exact Move.leaves_fail
      · split
        · exact Move.leaves_fail
        · exact sound_writeBlockDownload target download _ _
    · exact Move.leaves_fail
  | _ => exact Move.leaves_fail

end BlockDownload

/-! ### Requests and runs -/

/-- **Whatever request is read from a frame, what it comes to leaves a sound session.** -/
theorem sound_plan {session : Session} (sound : session.Sound) (octets : List UInt8) :
    (session.plan (session.interpret octets)).Leaves Sound := by
  cases read : session.interpret octets with
  | empty => exact Move.leaves_fail
  | upload target => exact sound_openUpload target
  | uploadSegment toggle => exact sound_uploadSegment sound toggle
  | expedited target data => exact sound_expedited target data
  | download target declared => exact sound_openDownload target declared
  | downloadSegment toggle data last => exact sound_downloadSegment toggle data last
  | aborted target code => exact Move.leaves_done.mpr sound
  | blockUpload target checksummed blockSize =>
    exact sound_openBlockUpload target checksummed blockSize
  | blockUploadStart => exact sound_blockUploadStart sound
  | blockUploadAck count blockSize => exact sound_blockUploadAck sound count blockSize
  | blockUploadEnd => exact sound_blockUploadEnd sound
  | blockDownload target checksummed declared =>
    exact sound_openBlockDownload target checksummed declared
  | blockSegment segment =>
    obtain ⟨receiving, rfl⟩ := blockSegment_of_interpret read
    obtain ⟨target, transfer⟩ := session
    cases transfer with
    | blockDownload download =>
      rw [isReceiving_blockDownload, Bool.not_eq_true'] at receiving
      exact sound_takeBlockSegment sound receiving rfl
    | _ => exact Move.leaves_fail
  | blockDownloadEnd padding checksum => exact sound_blockDownloadEnd session padding checksum
  | unknown command => exact Move.leaves_fail

end Session

namespace Server

variable {σ : Type} [Store σ]

/-- **One operation keeps a server sound.** -/
theorem sound_perform (server : Server) (store : σ) (operation : Operation)
    (sound : server.session.Sound) : (server.perform store operation).server.session.Sound := by
  cases operation with
  | frame frame time =>
    exact receive_leaves Session.sound_idle (Session.sound_plan sound frame.octets) store time
  | abort code => exact Session.sound_idle _
  | upload target => exact sound
  | download target data => exact sound

/-- **A server is sound after every run**, over any store: whatever the client sends, whatever is
done on this side, and whatever the store answers, the figures of the open transfer stay coupled. -/
theorem sound_run (sendId : UInt32) (store : σ) (operations : List Operation) :
    ((new sendId).run store operations).server.session.Sound :=
  run_keeps sound_perform (Session.sound_idle _) store operations

end Server

end Canopen
