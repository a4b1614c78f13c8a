/-
**Expedited and segmented transfers, handlers against plans.**

* `Handler.initUpload_meets`, `Handler.segmentedUpload_meets`: uploads.
* `Handler.initExpedited_meets`, `Handler.initDownload_meets`, `Handler.segmentedDownload_meets`:
  downloads.
-/

import Canopen.Proofs.Handlers

namespace Canopen.Handler

variable {σ : Type} [Store σ] {record : Record} {session : Session}

theorem initUpload_meets (record : Record) (target : Target) :
    Meets (σ := σ) (initUpload target) record (Session.openUpload target) := by
  refine meets_supersede fun pending => meets_readValue rfl rfl fun value _ => ?_
  split
  · refine meets_note (meets_send ?_ (meets_done (represents_idle target pending)))
    rw [Response.octets_uploaded, Payload.withHeader_behindHeader]
    rfl
  · refine meets_note (meets_assign (meets_send ?_ (meets_done ⟨pending, pending.hold_nil, rfl⟩)))
    rw [Response.octets_uploadStarted, Payload.withHeader_behindHeader]

theorem toUInt8_inj {one two : Bool} : one.toUInt8 = two.toUInt8 ↔ one = two := by
  revert one two
  decide

theorem toUInt8_xor (toggle : Bool) : toggle.toUInt8 ^^^ 1 = (!toggle).toUInt8 := by
  cases toggle <;> rfl

theorem mark_toUInt8 (toggle : Bool) :
    (if toggle.toUInt8 = 0 then 0 else 0x10 : UInt8) = if toggle then 0x10 else 0 := by
  cases toggle <;> rfl

section Upload

variable (target : Target) {upload : Upload} (pending : Slots)

/-- The last segment is told by the octets left, or by those sent. -/
theorem isLast_upload (sound : upload.Sound) :
    (Session.layout ⟨target, .upload upload⟩ pending).isLast =
      (upload.sent + ((upload.value.drop upload.sent).take segmentCapacity).length ==
        upload.value.length) := by
  have unfinished := sound.unfinished
  generalize data : (upload.value.drop upload.sent).take segmentCapacity = segment
  have fits : segment.length ≤ upload.value.length - upload.sent := by
    rw [← data, List.length_take, List.length_drop]
    exact Nat.min_le_right _ _
  have reduced : (Session.layout ⟨target, .upload upload⟩ pending).isLast =
      decide (upload.value.length - (upload.sent + segment.length) = 0) := by
    rw [← data]
    rfl
  rw [reduced, Bool.eq_iff_iff, decide_eq_true_eq, beq_iff_eq]
  omega

theorem uploadFrame_upload (sound : upload.Sound) :
    let data := (upload.value.drop upload.sent).take segmentCapacity
    (Session.layout ⟨target, .upload upload⟩ pending).uploadFrame =
      (Response.uploadSegment upload.toggle data
        (upload.sent + data.length == upload.value.length)).encode := by
  intro data
  rw [Response.octets_uploadSegment, ← isLast_upload target pending sound, ← mark_toUInt8]
  rfl

end Upload

theorem segmentedUpload_meets (represents : record.Represents session) (sound : session.Sound)
    (toggle : Bool) :
    Meets (σ := σ) (segmentedUpload toggle) record (.finish (session.uploadSegment toggle)) := by
  obtain ⟨pending, holds, rfl⟩ := represents
  obtain ⟨target, transfer⟩ := session
  refine meets_record ?_
  cases transfer with
  | upload upload =>
    have sound : upload.Sound := sound
    split
    · next other => exact absurd rfl other
    split
    · next wrong =>
      have turn : toggle ≠ upload.toggle := fun same => wrong (congrArg Bool.toUInt8 same)
      simp only [Session.uploadSegment, if_neg turn]
      exact meets_refuse .toggleNotAlternated rfl rfl
    · next right =>
      have turn : toggle = upload.toggle := toUInt8_inj.mp (Decidable.not_not.mp right)
      simp only [Session.uploadSegment, if_pos turn]
      rw [isLast_upload target pending sound, uploadFrame_upload target pending sound]
      refine meets_assign (meets_assign ?_)
      unfold Session.nextSegment
      simp only
      split
      · refine meets_send rfl (meets_note (meets_assign_done ?_))
        exact Record.represents_reset _
      · refine meets_send rfl (meets_done ⟨pending, holds, ?_⟩)
        show ({ (Session.layout ⟨target, .upload upload⟩ pending).advance with
          toggle := upload.toggle.toUInt8 ^^^ 1 } : Record) = _
        rw [toUInt8_xor]
        rfl
  | _ => exact meets_note (meets_refuse .general rfl rfl)

theorem initExpedited_meets (record : Record) (target : Target) (data : List UInt8) :
    Meets (σ := σ) (initExpedited target data) record (Session.expedited target data) := by
  refine meets_supersede fun pending => meets_notes_write (List.append_nil _).symm ?_
  refine meets_writeChecked rfl rfl (fun status cause refused => ?_) (fun status accepted => ?_)
  · simp only [refused]
    rfl
  · simp only [accepted]
    refine meets_send ?_ (meets_done (represents_idle target pending))
    rw [Response.octets_downloadAccepted, Payload.withHeader_behindHeader, List.append_nil]

theorem initDownload_meets (record : Record) (target : Target) (declared : Option UInt32) :
    Meets (σ := σ) (initDownload target declared) record
      (.finish (Session.openDownload target declared)) := by
  have events : Session.openDownload target declared =
      .done ⟨target, .download ⟨[], declared, false⟩⟩
        (.note (.downloadStarted target) :: ((declared.toList.map .sizeDeclared).map Event.note ++
          [.send (.downloadAccepted target)])) := by
    rw [List.map_map]
    rfl
  rw [events]
  refine meets_supersede fun pending => meets_note (meets_assign (meets_notes (meets_assign ?_)))
  refine meets_send ?_ (meets_done ⟨pending, pending.hold_nil, rfl⟩)
  rw [Response.octets_downloadAccepted, Payload.withHeader_behindHeader, List.append_nil]

theorem segmentedDownload_meets (represents : record.Represents session) (toggle : Bool)
    (data : List UInt8) (last : Bool) :
    Meets (σ := σ) (segmentedDownload toggle data last) record
      (session.downloadSegment toggle data last) := by
  obtain ⟨pending, holds, rfl⟩ := represents
  obtain ⟨target, transfer⟩ := session
  refine meets_record ?_
  cases transfer with
  | download download =>
    simp only [Session.layout, Session.mode, Session.phase, ne_eq, not_true_eq_false, if_false,
      toUInt8_inj, Session.downloadSegment, Session.takeSegment, List.length_append]
    by_cases turn : toggle = download.toggle
    · rw [if_neg (Decidable.not_not.mpr turn), if_pos turn]
      split
      · exact meets_note (meets_refuse .lengthTooHigh rfl rfl)
      refine meets_assign ?_
      cases last with
      | true =>
        simp only [if_true, Session.writeDownload, List.length_append]
        refine meets_notes_write (List.append_nil _).symm ?_
        refine meets_writeChecked rfl rfl (fun status cause refused => ?_)
          (fun status accepted => ?_)
        · simp only [refused, List.length_append]
        simp only [accepted]
        refine meets_assign (meets_send ?_ (meets_note (meets_assign_done ?_)))
        · rw [Response.octets_downloadSegment, ← mark_toUInt8]
          rfl
        · exact Record.represents_reset _
      | false =>
        simp only [Bool.false_eq_true, if_false]
        refine meets_assign (meets_send ?_ (meets_done ⟨pending, holds, ?_⟩))
        · rw [Response.octets_downloadSegment, ← mark_toUInt8]
          rfl
        · rw [toUInt8_xor]
          rfl
    · rw [if_pos turn, if_neg turn]
      exact meets_refuse .toggleNotAlternated rfl rfl
  | _ => exact meets_note (meets_refuse .general rfl rfl)

end Canopen.Handler
