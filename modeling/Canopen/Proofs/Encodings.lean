/-
**The responses octet by octet.**

* `Response.octets_uploaded`, `Response.octets_abort` and so on: the frame of each response, its
  command a base with flags, and its octets in the order in which a client reads them.
-/

import Canopen.Message.Response

namespace Canopen.Response

/-- The frame of a response by its command. -/
theorem encode_of_first {response : Response} {command : UInt8} (first : response.first = command) :
    response.encode = .ofList (command :: response.content) :=
  congrArg (fun command => Payload.ofList (command :: response.content)) first

section Header

variable (target : Target)

theorem octets_uploaded (value : List UInt8) :
    (uploaded target value).encode =
      .ofList (((0x43 : UInt8) ||| UInt8.ofNat (4 - value.length) <<< 2) ::
        target.octets ++ value) := by
  have flags : ∀ unused < 5, command 0x43 (4 * unused) =
      (0x43 : UInt8) ||| UInt8.ofNat unused <<< 2 := by decide
  exact encode_of_first (flags _ (Nat.lt_succ_of_le (Nat.sub_le _ _)))

theorem octets_uploadStarted (size : Nat) :
    (uploadStarted target size).encode =
      .ofList (0x41 :: target.octets ++ Octets.ofNat 4 size) := rfl

theorem octets_downloadAccepted :
    (downloadAccepted target).encode = .ofList (0x60 :: target.octets) := rfl

theorem octets_blockUploadStarted (checksummed : Bool) (size : Nat) :
    (blockUploadStarted target checksummed size).encode =
      .ofList ((0xC2 ||| if checksummed then 0x04 else 0) ::
        target.octets ++ Octets.ofNat 4 size) := by
  cases checksummed <;> rfl

theorem octets_blockDownloadStarted (checksummed : Bool) :
    (blockDownloadStarted target checksummed).encode =
      .ofList ((0xA0 ||| if checksummed then 0x04 else 0) :: target.octets ++ [127]) := by
  cases checksummed <;> rfl

theorem octets_abort (code : UInt32) :
    (abort target code).encode = .ofList (0x80 :: target.octets ++ Octets.of32 code) := rfl

end Header

theorem octets_uploadSegment (toggle : Bool) (data : List UInt8) (last : Bool) :
    (uploadSegment toggle data last).encode =
      .ofList (((if toggle then 0x10 else 0 : UInt8) |||
        UInt8.ofNat (segmentCapacity - data.length) <<< 1 |||
          if last then 0x01 else 0) :: data) := by
  have flags : ∀ unused < 8, command 0 (mark toggle 4 + 2 * unused + mark last 0) =
      (if toggle then 0x10 else 0 : UInt8) ||| UInt8.ofNat unused <<< 1 |||
        if last then 0x01 else 0 := by
    cases toggle <;> cases last <;> decide
  exact encode_of_first (flags _ (Nat.lt_succ_of_le (Nat.sub_le _ _)))

theorem octets_downloadSegment (toggle : Bool) :
    (downloadSegment toggle).encode = .ofList [0x20 ||| if toggle then 0x10 else 0] := by
  cases toggle <;> rfl

theorem octets_blockSegment {segment : Segment} (small : segment.number ≤ greatestWindow) :
    (blockSegment segment).encode =
      .ofList ((if segment.last then UInt8.ofNat segment.number ||| 0x80
        else UInt8.ofNat segment.number) :: segment.data) := by
  have flags : ∀ number < greatestWindow + 1, command number (mark segment.last 7) =
      if segment.last then UInt8.ofNat number ||| 0x80 else UInt8.ofNat number := by
    cases segment.last <;> decide
  exact encode_of_first (flags _ (Nat.lt_succ_of_le small))

theorem octets_blockUploadEnd {unused : Nat} (fits : unused ≤ segmentCapacity)
    (checksum : Option UInt16) :
    (blockUploadEnd unused checksum).encode =
      .ofList (((0xC1 : UInt8) ||| UInt8.ofNat unused <<< 2) ::
        (checksum.map Octets.of16).getD []) := by
  have flags : ∀ unused < segmentCapacity + 1, command 0xC1 (4 * unused) =
      (0xC1 : UInt8) ||| UInt8.ofNat unused <<< 2 := by decide
  cases checksum <;> exact encode_of_first (flags _ (Nat.lt_succ_of_le fits))

theorem octets_blockDownloadAck (count : Nat) :
    (blockDownloadAck count).encode = .ofList [0xA2, UInt8.ofNat count, 127] := rfl

theorem octets_blockDownloadEnd : blockDownloadEnd.encode = .ofList [0xA1] := rfl

end Canopen.Response
