/-
**Which record is that of a session.**

* `Session.layout`: the record of a session. A member that does not belong to the transfer has its
  first value, whatever the slots hold.
* `Record.Represents`: a record is laid out as that of a session, and the window on its way lies in
  its first slots, frame by frame.
* `Record.represents_reset`: behind a reset a record represents the session at rest.
-/

import Canopen.Endpoint

namespace Canopen

namespace Session

/-- The record of a session over what its slots hold. -/
def layout (session : Session) (pending : Slots) : Record :=
  let rest : Record :=
    { target := session.target, mode := session.mode, phase := session.phase, pending := pending }
  match session.transfer with
  | .idle => rest
  | .upload upload =>
    { rest with toggle := upload.toggle.toUInt8, buffer := upload.value, cursor := upload.sent }
  | .download download =>
    { rest with
      toggle := download.toggle.toUInt8
      buffer := download.received
      declared := download.declared }
  | .blockUpload upload =>
    { rest with
      buffer := upload.value
      cursor := upload.sent
      declared := some (UInt32.ofNat upload.value.length)
      blockSize := UInt8.ofNat upload.blockSize
      sequence := UInt8.ofNat upload.window.length
      checksummed := upload.checksummed
      checksum := upload.checksum
      pendingCount := UInt8.ofNat upload.window.length
      lastLength := upload.lastLength }
  | .blockDownload download =>
    { rest with
      buffer := download.received
      declared := download.declared
      sequence := UInt8.ofNat download.sequence
      checksummed := download.checksummed
      checksum := download.checksum }

section Members

variable (session : Session) (pending : Slots)

@[simp] theorem target_layout : (session.layout pending).target = session.target := by
  rw [layout]
  cases session.transfer <;> rfl

@[simp] theorem mode_layout : (session.layout pending).mode = session.mode := by
  rw [layout]
  cases session.transfer <;> rfl

@[simp] theorem phase_layout : (session.layout pending).phase = session.phase := by
  rw [layout]
  cases session.transfer <;> rfl

@[simp] theorem pending_layout : (session.layout pending).pending = pending := by
  rw [layout]
  cases session.transfer <;> rfl

end Members

end Session

/-- The figures of a window fit in an octet. -/
theorem toNat_ofNat_of_le {figure : Nat} (small : figure ≤ greatestWindow) :
    (UInt8.ofNat figure).toNat = figure := by
  rw [UInt8.toNat_ofNat']
  exact Nat.mod_eq_of_lt (Nat.lt_of_le_of_lt small (by decide))

/-- The frame of a segment. -/
def Segment.payload (segment : Segment) : Payload :=
  (Response.blockSegment segment).encode

/-- The first slots hold the frames of a window. -/
def Slots.Hold (pending : Slots) (window : List Segment) : Prop :=
  pending.toList.take window.length = window.map Segment.payload

theorem Slots.hold_nil (pending : Slots) : pending.Hold [] := List.take_zero

/-- A slot holds the frame of its segment. -/
theorem Slots.Hold.getElem? {pending : Slots} {window : List Segment} (holds : pending.Hold window)
    {place : Nat} {segment : Segment}
    (inside : window[place]? = some segment) : pending[place]? = some segment.payload := by
  have slot := congrArg (fun payloads => payloads[place]?) holds
  simp only [List.getElem?_take_of_lt (List.getElem?_eq_some_iff.mp inside).1, List.getElem?_map,
    inside, Vector.getElem?_toList, Option.map_some] at slot
  exact slot

namespace Record

/-- The record is that of the session. Slots behind its window may hold anything. -/
def Represents (record : Record) (session : Session) : Prop :=
  ∃ pending : Slots, pending.Hold session.window ∧ record = session.layout pending

/-- Behind a reset a record represents the session at rest. -/
theorem represents_reset (record : Record) : record.reset.Represents (.idle record.target) :=
  ⟨record.pending, record.pending.hold_nil, rfl⟩

/-- A record without a transfer is as new, but for its target and its slots. -/
theorem represents_new : Represents {} .initial :=
  ⟨_, Slots.hold_nil _, rfl⟩

namespace Represents

variable {record : Record} {session : Session}

theorem target (represents : record.Represents session) : record.target = session.target := by
  obtain ⟨pending, -, rfl⟩ := represents
  exact session.target_layout pending

theorem mode (represents : record.Represents session) : record.mode = session.mode := by
  obtain ⟨pending, -, rfl⟩ := represents
  exact session.mode_layout pending

theorem isReceiving (represents : record.Represents session) :
    record.isReceiving = session.isReceiving := by
  obtain ⟨pending, -, rfl⟩ := represents
  rw [Record.isReceiving, Session.mode_layout, Session.phase_layout]
  obtain ⟨target, transfer⟩ := session
  cases transfer with
  | blockUpload upload =>
    obtain ⟨_, _, _, _, _, started, _⟩ := upload
    cases started <;> rfl
  | blockDownload download =>
    obtain ⟨_, _, _, _, _, complete⟩ := download
    cases complete <;> rfl
  | _ => rfl

end Represents

end Record

end Canopen
