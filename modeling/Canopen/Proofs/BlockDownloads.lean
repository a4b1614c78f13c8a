/-
**Block downloads, handlers against plans.**

* `Handler.initBlockDownload_meets`: the start.
* `Handler.blockDownloadSegment_meets`: a segment, whose number fits in an octet.
* `Handler.endBlockDownload_meets`: the end, with its checks and the write.
-/

import Canopen.Proofs.Handlers

namespace Canopen.Handler

variable {σ : Type} [Store σ] {record : Record} {session : Session}

theorem initBlockDownload_meets (record : Record) (target : Target) (checksummed : Bool)
    (declared : Option UInt32) :
    Meets (σ := σ) (initBlockDownload target checksummed declared) record
      (.finish (Session.openBlockDownload target checksummed declared)) := by
  refine meets_supersede fun pending => meets_assign (meets_note (meets_record ?_))
  refine meets_send ?_ (meets_done ⟨pending, pending.hold_nil, rfl⟩)
  rw [Response.octets_blockDownloadStarted, Payload.withHeader_behindHeader]

/-- A window is closed by its greatest number, also in an octet, and by the last segment. -/
theorem closes_iff {segment : Segment} (small : segment.number ≤ greatestWindow) :
    (127 ≤ UInt8.ofNat segment.number ∨ segment.last = true) ↔
      BlockDownload.closesWindow segment = true := by
  rw [BlockDownload.closesWindow, Bool.or_eq_true, decide_eq_true_eq, UInt8.le_iff_toNat_le,
    toNat_ofNat_of_le small]
  rfl

/-- A segment while more of them are expected. -/
theorem blockDownloadSegment_meets (represents : record.Represents session)
    (sound : session.Sound) (receiving : session.isReceiving = true) (segment : Segment) :
    Meets (σ := σ) (blockDownloadSegment segment) record
      (.finish (session.blockSegment segment)) := by
  obtain ⟨pending, holds, rfl⟩ := represents
  obtain ⟨target, download, rfl⟩ := Session.blockDownload_of_isReceiving receiving
  have incomplete : download.complete = false := by
    rw [Session.isReceiving_blockDownload, Bool.not_eq_true'] at receiving
    exact receiving
  have sequence : download.sequence < greatestWindow := by
    rw [BlockDownload.Sound.sequence sound incomplete]
    exact Nat.mod_lt _ (by decide)
  have counted : (UInt8.ofNat download.sequence).toNat = download.sequence :=
    toNat_ofNat_of_le (Nat.le_of_lt sequence)
  refine meets_record ?_
  simp only [Session.layout, Session.mode, Session.phase, incomplete, Bool.false_eq_true, if_false,
    counted, Session.blockSegment, Session.takeBlockSegment]
  split
  · exact meets_note (meets_refuse .invalidSequence rfl rfl)
  next expected =>
  split
  · next full =>
    change download.isFilled = true at full
    rw [if_pos full]
    exact meets_note (meets_refuse .lengthTooHigh rfl rfl)
  next room =>
  change ¬ download.isFilled = true at room
  have number := Decidable.not_not.mp expected
  rw [if_neg room]
  refine meets_assign ?_
  simp only [closes_iff (number ▸ sequence : segment.number ≤ greatestWindow)]
  split
  · refine meets_send (Response.octets_blockDownloadAck _).symm (meets_assign ?_)
    cases last : segment.last with
    | true =>
      rw [if_pos rfl]
      exact meets_assign_done ⟨pending, holds, rfl⟩
    | false => exact meets_done ⟨pending, holds, rfl⟩
  · refine meets_done ⟨pending, holds, ?_⟩
    simp only [Session.layout, Session.mode, Session.phase, BlockDownload.take, incomplete,
      Bool.false_eq_true, if_false]
    rfl

section End

variable {target : Target} {download : BlockDownload}

/-- A write of a block download, each refusal of which has the same cause. -/
theorem writeBlockDownload_meets (names : record.target = target)
    (mode : record.mode = .blockDownload) (data : List UInt8) :
    Meets (σ := σ) (writeBlockDownload data) record
      (Session.writeBlockDownload target download data []) := by
  subst names
  refine meets_record (meets_writeStore rfl mode fun status => ?_)
  by_cases stored : status = .ok
  · rw [if_neg (Decidable.not_not.mpr stored), if_pos stored]
    refine meets_send Response.octets_blockDownloadEnd.symm (meets_note (meets_assign_done ?_))
    exact Record.represents_reset _
  · rw [if_pos stored, if_neg stored]
    exact meets_note (meets_refuse .notStored rfl mode)

/-- The end behind the last segment. -/
theorem closeBlockDownload_meets (complete : download.complete = true) (pending : Slots)
    (padding : Nat) (checksum : UInt16) :
    Meets (σ := σ) (closeBlockDownload (download.trimmed padding) checksum)
      (Session.layout ⟨target, .blockDownload download⟩ pending)
      (Session.closeBlockDownload target download padding checksum) := by
  refine meets_assign (meets_record ?_)
  simp only [Session.layout, Session.mode, Session.phase, complete, if_true,
    Session.closeBlockDownload]
  split
  · exact meets_refuse .lengthTooHigh rfl rfl
  simp only [compareChecksum, bind_assoc]
  cases checksummed : download.checksummed with
  | true =>
    simp only [if_true, true_and]
    by_cases equal : checksum = Checksum.of (download.trimmed padding)
    · rw [if_neg (Decidable.not_not.mpr equal)]
      refine meets_notes_write rfl (meets_record ?_)
      simp only [if_true, bind_assoc, if_neg (Decidable.not_not.mpr equal)]
      exact meets_notes_write rfl (writeBlockDownload_meets rfl rfl _)
    · rw [if_pos equal]
      refine meets_notes_fail (meets_record ?_)
      simp only [if_true, bind_assoc, if_pos equal, refuse_bind]
      exact meets_note (meets_refuse .checksum rfl rfl)
  | false =>
    simp only [Bool.false_eq_true, if_false, false_and]
    refine meets_notes_write rfl (meets_record ?_)
    exact writeBlockDownload_meets rfl rfl _

theorem endBlockDownload_meets (represents : record.Represents session)
    (padding : Nat) (checksum : UInt16) :
    Meets (σ := σ) (endBlockDownload padding checksum) record
      (session.blockDownloadEnd padding checksum) := by
  obtain ⟨pending, holds, rfl⟩ := represents
  obtain ⟨target, transfer⟩ := session
  refine meets_record ?_
  cases transfer with
  | blockDownload download =>
    by_cases complete : download.complete = true
    · simp only [Session.mode_layout, Session.phase_layout, Session.mode, Session.phase, complete,
        if_true, ne_eq, not_true_eq_false, or_false, if_false, Session.blockDownloadEnd]
      exact closeBlockDownload_meets complete pending padding checksum
    · simp only [Session.mode_layout, Session.phase_layout, Session.mode, Session.phase, complete,
        Session.blockDownloadEnd]
      exact meets_note (meets_refuse .invalidCommand rfl rfl)
  | _ => exact meets_note (meets_refuse .invalidCommand rfl rfl)

end End

end Canopen.Handler
