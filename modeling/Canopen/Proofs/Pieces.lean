/-
**A checksum is taken in any pieces.**

* `Checksum.foldl_update`: pieces taken one by one come to what the whole of them comes to.
* `BlockUpload.Stands.checksum_eq`: the register of a block upload is the checksum of the octets
  that were sent, in whatever windows, and once all of them were it is the checksum of the value.
* `Server.receive_ended`: the acknowledgement of the last window is answered with that checksum.
* `Server.run_checksum`: **octets are taken through the table as their bits are fed to the shift
  register, in any pieces, and so in any windows of a block upload.**
-/

import Canopen.Proofs.Repeats
import Canopen.Proofs.ShiftRegister

namespace Canopen

/-- **Pieces taken one by one** come to what the whole of them comes to. -/
theorem Checksum.foldl_update (register : UInt16) (pieces : List (List UInt8)) :
    pieces.foldl update register = update register pieces.flatten := by
  induction pieces generalizing register with
  | nil => rfl
  | cons piece rest ih => rw [List.foldl_cons, List.flatten_cons, update_append, ih]

namespace BlockUpload.Stands

variable {upload : BlockUpload} {first count : Nat}

/-- All of the value is sent. -/
theorem take_sent (ended : upload.rest = []) : upload.value.take upload.sent = upload.value :=
  List.take_of_length_le (List.drop_eq_nil_iff.mp ended)

/-- A value that is all sent is on its way. -/
theorem running_of_rest (stands : upload.Stands first count) (ended : upload.rest = []) :
    0 < count := by
  rcases Nat.eq_zero_or_pos count with idle | running
  · have sent := stands.sent
    rw [stands.fresh idle, idle, Nat.mul_zero, Nat.zero_min] at sent
    have whole := take_sent ended
    rw [sent, List.take_zero] at whole
    exact absurd whole.symm stands.nonempty
  · exact running

/-- The register of an upload with a checksum, behind any windows. -/
theorem checksum_eq (stands : upload.Stands first count) (checksummed : upload.checksummed = true) :
    upload.checksum = Checksum.of (upload.value.take upload.sent) := by
  rw [stands.checksum, if_pos checksummed]

end BlockUpload.Stands

namespace Server

variable {σ : Type} [Store σ] {server : Server} {target : Target} {upload : BlockUpload}
  {first count : Nat}

/-- The acknowledgement of the last window is answered with the checksum of the value. -/
theorem receive_ended (running : server.session = ⟨target, .blockUpload upload⟩)
    (stands : upload.Stands first count) (checksummed : upload.checksummed = true)
    (ended : upload.rest = []) {frame : Frame} (acks : frame.isAck = true)
    (whole : frame.acknowledged = upload.window.length) (store : σ) (time : Nat) :
    let reaction := server.receive store frame time
    reaction.server.session = .idle target ∧
      Event.responses reaction.events =
        [.blockUploadEnd (segmentCapacity * chunkCount upload.value - upload.value.length)
          (some (Checksum.of upload.value))] := by
  have positive := stands.running_of_rest ended
  have ends := stands.rest_eq_nil_iff.mp ended
  have sized := stands.sizeAfter frame
  have planned := Session.plan_isAck target stands positive acks
  rw [← running, whole, stands.length_window, Session.continueUpload_close sized ends] at planned
  obtain ⟨session, -, responses⟩ := receive_run store time planned
  refine ⟨session, responses.trans ?_⟩
  refine (Session.responses_closeBlockUpload sized positive ends).trans ?_
  rw [if_pos checksummed]

/-- **The checksum.** From any register, octets are taken through the table as their bits are fed to
the shift register, the most significant first, and pieces of them one by one as the whole at once.
So the register of a block upload, wherever a run has led and in whatever windows, is the checksum
of the octets that were sent, and the end of the transfer tells the checksum of the value. -/
theorem run_checksum (sendId : UInt32) (store : σ) (operations : List Operation) :
    (∀ (register : UInt16) (octets : List UInt8),
        Checksum.update register octets = (Octets.bits octets).foldl Checksum.feed register) ∧
      (∀ (register : UInt16) (pieces : List (List UInt8)),
        pieces.foldl Checksum.update register = Checksum.update register pieces.flatten) ∧
      (∀ pieces : List (List UInt8),
        pieces.foldl Checksum.update 0 = Checksum.of pieces.flatten) ∧
      ∀ reached, (new sendId).run store operations = reached → ∀ target upload,
        reached.server.session = ⟨target, .blockUpload upload⟩ → upload.checksummed = true →
          upload.checksum = Checksum.of (upload.value.take upload.sent) ∧
          (upload.rest = [] → upload.checksum = Checksum.of upload.value ∧
            ∀ frame time, frame.isAck = true → frame.acknowledged = upload.window.length →
              Event.responses (reached.server.receive reached.store frame time).events =
                [.blockUploadEnd
                  (segmentCapacity * chunkCount upload.value - upload.value.length)
                  (some (Checksum.of upload.value))]) := by
  refine ⟨Checksum.update_eq_feed, Checksum.foldl_update, Checksum.foldl_update 0, ?_⟩
  rintro reached rfl target upload running checksummed
  have sound := sound_run sendId store operations
  rw [running] at sound
  obtain ⟨first, count, stands⟩ := sound
  have checksum := stands.checksum_eq checksummed
  refine ⟨checksum, fun ended => ⟨?_, fun frame time acks whole => ?_⟩⟩
  · rw [checksum, BlockUpload.Stands.take_sent ended]
  · exact (receive_ended running stands checksummed ended acks whole _ time).2

/-- Nine octets in two windows of one segment each, which end with the published check value. -/
theorem run_checksum_published :
    let value := Text.ofString "123456789"
    let operations : List Operation :=
      [.frame (Request.blockUpload ⟨0x2000, 1⟩ true 1).frame 0,
        .frame Request.blockUploadStart.frame 1,
        .frame (Request.blockUploadAck 1 (some 1)).frame 2]
    let reached := (new 0x582).run (Dictionary.single ⟨0x2000, 1⟩ value) operations
    Event.responses (reached.server.receive reached.store
      (Request.blockUploadAck 1 (some 1)).frame 3).events = [.blockUploadEnd 5 (some 0x31C3)] := by
  intro value operations reached
  obtain ⟨-, -, -, block⟩ :=
    run_checksum 0x582 (Dictionary.single ⟨0x2000, 1⟩ value) operations
  obtain ⟨-, ends⟩ := block reached rfl ⟨0x2000, 1⟩
    ⟨value, 9, 1, true, 0x31C3, true, Segment.window value 1 1⟩ (by decide +kernel) rfl
  exact ((ends (by decide)).2 _ 3 (by decide) (by decide)).trans (by decide +kernel)

end Server

end Canopen
