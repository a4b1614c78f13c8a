/-
**The requests of a client on the wire.**

* `Request.octets`: the octets with which a client's frame begins; those behind them do not matter.
* `Frame.Brings`: a frame begins with the octets of a request.
* `Request.decode_octets_append`: **a request is read from every frame that brings it.**
* `Request.decodeSegment_octets_append`: the same for a segment while a block download is receiving.
* `Request.length_of_decode`: what is written at once has one to four octets.
* `Session.blockSegment_of_interpret`: segments are read only there, and carry seven octets.
-/

import Canopen.Message.Response
import Canopen.Session.Dispatch

namespace Canopen

namespace Request

open Response (command mark)

/-- The octets of a size, if one is told. -/
def sizeOctets (declared : Option UInt32) : List UInt8 :=
  (declared.map Octets.of32).getD []

/-- The octets with which the frame of a request begins. -/
def octets : Request → List UInt8
  | empty => []
  | upload target => 0x40 :: target.octets
  | uploadSegment toggle => [command 0x60 (mark toggle 4)]
  | expedited target data =>
    command 0x23 (4 * (expeditedCapacity - data.length)) :: target.octets ++ data
  | download target declared =>
    command 0x20 (mark declared.isSome 0) :: target.octets ++ sizeOctets declared
  | downloadSegment toggle data last =>
    command 0 (mark toggle 4 + 2 * (segmentCapacity - data.length) + mark last 0) :: data
  | aborted target code => abortCommand :: target.octets ++ Octets.of32 code
  | blockUpload target checksummed blockSize =>
    command 0xA0 (mark checksummed 2) :: target.octets ++ [UInt8.ofNat blockSize]
  | blockUploadStart => [0xA3]
  | blockUploadAck count blockSize =>
    0xA2 :: UInt8.ofNat count :: (blockSize.map UInt8.ofNat).toList
  | blockUploadEnd => [0xA1]
  | blockDownload target checksummed declared =>
    command 0xC0 (mark checksummed 2 + mark declared.isSome 1) ::
      target.octets ++ sizeOctets declared
  | blockSegment segment => command segment.number (mark segment.last 7) :: segment.data
  | blockDownloadEnd padding checksum => command 0xC1 (4 * padding) :: Octets.of16 checksum
  | unknown command => [command]

/-- The figures of a request fit in its octets, which tell it from every other request. -/
def Fits : Request → Prop
  | expedited _ data => 1 ≤ data.length ∧ data.length ≤ expeditedCapacity
  | downloadSegment _ data _ => data.length ≤ segmentCapacity
  | blockUpload _ _ blockSize => blockSize < UInt8.size
  | blockUploadAck count (some blockSize) => count < UInt8.size ∧ blockSize < UInt8.size
  | blockDownloadEnd padding _ => padding ≤ segmentCapacity
  | empty | blockUploadAck _ none | blockSegment _ | unknown _ => False
  | _ => True

end Request

/-- The frame begins with the octets of the request. -/
def Frame.Brings (frame : Frame) (request : Request) : Prop :=
  request.octets <+: frame.octets

instance (frame : Frame) (request : Request) : Decidable (frame.Brings request) :=
  inferInstanceAs (Decidable (request.octets <+: frame.octets))

/-- A full frame that brings a request to node two. -/
def Request.frame (request : Request) : Frame :=
  .full 0x602 (.ofList request.octets)

/-! ### Fields of a command -/

section Command

variable {base marks : Nat}

theorem field_command (small : base + marks < UInt8.size) (position width : Nat) :
    field (Response.command base marks) position width =
      (base + marks) >>> position % (1 <<< width) := by
  rw [field, Response.command, UInt8.toNat_ofNat_of_lt' small]

theorem flag_command (small : base + marks < UInt8.size) (position : Nat) :
    flag (Response.command base marks) position =
      decide ((base + marks) >>> position % 2 = 1) := by
  rw [flag, Response.command, UInt8.toNat_ofNat_of_lt' small, Nat.testBit_eq_decide_div_mod_eq,
    Nat.shiftRight_eq_div_pow]

/-- The family of a command is told by its three high bits. -/
theorem family_command (small : base + marks < UInt8.size) (high : Nat)
    (bits : (base + marks) / 32 = high) :
    Family.ofCommand (Response.command base marks) =
      Family.ofCommand (Response.command 0 (32 * high)) := by
  have same : field (Response.command base marks) 5 3 =
      field (Response.command 0 (32 * high)) 5 3 := by
    simp only [UInt8.size] at small
    rw [field_command small, field_command (by simp only [UInt8.size]; omega)]
    simp only [Nat.reduceShiftLeft]
    omega
  rw [Family.ofCommand, Family.ofCommand, same]

end Command

/-! ### Fields behind a command -/

namespace Payload

/-- Octets are filled up with zeros. -/
theorem toList_ofList (octets : List UInt8) :
    (ofList octets).toList =
      octets.take Frame.capacity ++ List.replicate (Frame.capacity - octets.length) 0 := by
  rcases octets with
    _ | ⟨a, _ | ⟨b, _ | ⟨c, _ | ⟨d, _ | ⟨e, _ | ⟨f, _ | ⟨g, _ | ⟨h, rest⟩⟩⟩⟩⟩⟩⟩⟩
  case cons.cons.cons.cons.cons.cons.cons.cons =>
    have full : Frame.capacity - (a :: b :: c :: d :: e :: f :: g :: h :: rest).length = 0 := by
      simp [Frame.capacity]
    rw [full, List.replicate_zero, List.append_nil]
    rfl
  all_goals rfl

end Payload

/-- A full frame brings its request, whose octets are all in it. -/
theorem Request.brings_frame {request : Request} (short : request.octets.length ≤ Frame.capacity) :
    request.frame.Brings request := by
  have octets : request.frame.octets = (Payload.ofList request.octets).toList := rfl
  rw [Frame.Brings, octets, Payload.toList_ofList, List.take_of_length_le short]
  exact List.prefix_append _ _

namespace Payload

@[simp] theorem command_ofList (command : UInt8) (rest : List UInt8) :
    (ofList (command :: rest)).command = command := rfl

theorem word_ofList (command : UInt8) (word : UInt16) (rest : List UInt8) :
    (ofList (command :: (Octets.of16 word ++ rest))).word = word :=
  Octets.word16_of16 word

theorem target_ofList (command : UInt8) (target : Target) (rest : List UInt8) :
    (ofList (command :: (target.octets ++ rest))).target = target := by
  rw [Payload.target, Target.octets, List.append_assoc, word_ofList]
  rfl

theorem double_ofList (command : UInt8) (target : Target) (word : UInt32)
    (rest : List UInt8) :
    (ofList (command :: (target.octets ++ (Octets.of32 word ++ rest)))).double = word :=
  Octets.word32_of32 word

/-- The octets behind a command are filled up with zeros. -/
theorem body_ofList (command : UInt8) (octets : List UInt8) :
    (ofList (command :: octets)).body =
      octets.take segmentCapacity ++ List.replicate (segmentCapacity - octets.length) 0 := by
  have body (payload : Payload) : payload.body = payload.toList.drop 1 := rfl
  rw [body, toList_ofList, Frame.capacity, List.take_succ_cons, List.cons_append,
    List.drop_succ_cons, List.drop_zero, List.length_cons, Nat.add_sub_add_right _ 1]
  rfl

/-- The octets behind a command come back. -/
theorem take_body_ofList (command : UInt8) {data : List UInt8}
    (fits : data.length ≤ segmentCapacity) (rest : List UInt8) :
    (ofList (command :: (data ++ rest))).body.take data.length = data := by
  have inside : data.length ≤ ((data ++ rest).take segmentCapacity).length := by
    rw [List.length_take, List.length_append]
    omega
  rw [body_ofList, List.take_append_of_le_length inside, List.take_take, Nat.min_eq_left fits,
    List.take_left]

/-- The octets behind a target come back. -/
theorem take_tail_ofList (command : UInt8) (target : Target) {data : List UInt8}
    (fits : data.length ≤ Request.expeditedCapacity) (rest : List UInt8) :
    (ofList (command :: (target.octets ++ (data ++ rest)))).tail.take data.length = data := by
  have tail (payload : Payload) : payload.tail = payload.body.drop 3 := rfl
  have size : (target.octets ++ data).length = 3 + data.length := by
    rw [List.length_append]
    rfl
  have inside : (target.octets ++ data).length ≤ segmentCapacity := by
    simp only [size, Request.expeditedCapacity, segmentCapacity] at fits ⊢
    omega
  have body := take_body_ofList command inside rest
  rw [← List.append_assoc, tail, ← Nat.add_sub_cancel_left (n := 3) (m := data.length),
    ← List.drop_take, ← size, body]
  rfl

end Payload

/-! ### Reading what a client writes -/

namespace Request

open Response (mark)

/-- A bit that is one exactly for a mark. -/
theorem decide_bit {number : Nat} {set : Bool} (bit : number % 2 = set.toNat) :
    decide (number % 2 = 1) = set := by
  rw [bit]
  cases set <;> rfl

/-- A frame with a command is read by the family of its command. -/
theorem decode_cons (command : UInt8) (rest : List UInt8) :
    decode (command :: rest) =
      let payload := Payload.ofList (command :: rest)
      match Family.ofCommand command with
      | .upload => upload payload.target
      | .uploadSegment => uploadSegment (flag command 4)
      | .download => decodeDownload payload
      | .downloadSegment =>
        downloadSegment (flag command 4)
          (payload.body.take (segmentCapacity - field command 1 3)) (flag command 0)
      | .blockUpload => decodeBlockUpload (command :: rest) payload
      | .blockDownload => decodeBlockDownload payload
      | .abort => aborted payload.target payload.double
      | .unknown => unknown command := rfl

theorem decode_expedited (target : Target) {data : List UInt8} (positive : 1 ≤ data.length)
    (fits : data.length ≤ expeditedCapacity) (rest : List UInt8) :
    decode ((expedited target data).octets ++ rest) = expedited target data := by
  have small : 0x23 + 4 * (expeditedCapacity - data.length) < UInt8.size := by
    simp only [expeditedCapacity, UInt8.size]
    omega
  simp only [expeditedCapacity] at fits
  have family : Family.ofCommand
      (Response.command 0x23 (4 * (expeditedCapacity - data.length))) = .download := by
    rw [family_command small 1 (by simp only [expeditedCapacity]; omega)]
    decide
  have size : expeditedCapacity -
      (0x23 + 4 * (expeditedCapacity - data.length)) >>> 2 % (1 <<< 2) = data.length := by
    simp only [expeditedCapacity, Nat.reduceShiftLeft]
    omega
  show decode (_ :: (target.octets ++ data ++ rest)) = _
  rw [List.append_assoc, decode_cons, family]
  simp only [decodeDownload, Payload.command_ofList, flag_command small, field_command small, size,
    Payload.target_ofList]
  rw [if_pos (decide_eq_true (by omega)), if_pos (decide_eq_true (by omega)),
    Payload.take_tail_ofList _ _ fits]

theorem decode_download (target : Target) (declared : Option UInt32) (rest : List UInt8) :
    decode ((download target declared).octets ++ rest) = download target declared := by
  have family : Family.ofCommand (Response.command 0x20 (mark declared.isSome 0)) =
      .download := by cases declared.isSome <;> decide
  have plain : flag (Response.command 0x20 (mark declared.isSome 0)) 1 = false := by
    cases declared.isSome <;> decide
  have sized : flag (Response.command 0x20 (mark declared.isSome 0)) 0 = declared.isSome := by
    cases declared.isSome <;> decide
  show decode (_ :: (target.octets ++ sizeOctets declared ++ rest)) = _
  rw [List.append_assoc, decode_cons, family]
  simp only [decodeDownload, Payload.command_ofList, plain, sized, Payload.target_ofList]
  cases declared with
  | none => rfl
  | some size => simp only [sizeOctets, Option.map_some, Option.getD_some, Payload.double_ofList,
      Bool.false_eq_true, if_false, Option.isSome_some, if_true]

/-- The command of a segment with a toggle tells the toggle, the octets used and the mark. -/
theorem fields_segment (toggle : Bool) {size : Nat} (last : Bool) (fits : size ≤ segmentCapacity) :
    let octet := Response.command 0
      (mark toggle 4 + 2 * (segmentCapacity - size) + mark last 0)
    field octet 5 3 = 0 ∧ flag octet 4 = toggle ∧ segmentCapacity - field octet 1 3 = size ∧
      flag octet 0 = last := by
  intro octet
  have toggled : mark toggle 4 = 16 * toggle.toNat := by cases toggle <;> rfl
  have ended : mark last 0 = last.toNat := by cases last <;> rfl
  have first := toggle.toNat_le
  have second := last.toNat_le
  have small : 0 + (mark toggle 4 + 2 * (segmentCapacity - size) + mark last 0) < UInt8.size := by
    simp only [toggled, ended, segmentCapacity, UInt8.size]
    omega
  simp only [segmentCapacity] at fits
  refine ⟨?_, ?_, ?_, ?_⟩
  · rw [field_command small]
    simp only [toggled, ended, segmentCapacity, Nat.reduceShiftLeft]
    omega
  · rw [flag_command small]
    refine decide_bit ?_
    simp only [toggled, ended, segmentCapacity]
    omega
  · rw [field_command small]
    simp only [toggled, ended, segmentCapacity, Nat.reduceShiftLeft]
    omega
  · rw [flag_command small]
    refine decide_bit ?_
    simp only [toggled, ended, segmentCapacity]
    omega

theorem decode_downloadSegment (toggle : Bool) {data : List UInt8} (last : Bool)
    (fits : data.length ≤ segmentCapacity) (rest : List UInt8) :
    decode ((downloadSegment toggle data last).octets ++ rest) =
      downloadSegment toggle data last := by
  obtain ⟨kind, alternates, size, closes⟩ := fields_segment toggle last fits
  have family : Family.ofCommand (Response.command 0
      (mark toggle 4 + 2 * (segmentCapacity - data.length) + mark last 0)) =
        .downloadSegment := by
    rw [Family.ofCommand, kind]
    rfl
  show decode (_ :: (data ++ rest)) = _
  rw [decode_cons, family]
  simp only [size, alternates, closes, Payload.take_body_ofList _ fits]

theorem decode_blockUpload (target : Target) (checksummed : Bool) {blockSize : Nat}
    (fits : blockSize < UInt8.size) (rest : List UInt8) :
    decode ((blockUpload target checksummed blockSize).octets ++ rest) =
      blockUpload target checksummed blockSize := by
  have family : Family.ofCommand (Response.command 0xA0 (mark checksummed 2)) =
      .blockUpload := by cases checksummed <;> decide
  have opens : field (Response.command 0xA0 (mark checksummed 2)) 0 2 = 0 := by
    cases checksummed <;> decide
  have marked : flag (Response.command 0xA0 (mark checksummed 2)) 2 = checksummed := by
    cases checksummed <;> decide
  show decode (_ :: (target.octets ++ [UInt8.ofNat blockSize] ++ rest)) = _
  rw [List.append_assoc, decode_cons, family]
  simp only [decodeBlockUpload, Payload.command_ofList, opens, marked, Payload.target_ofList]
  congr 1
  show (UInt8.ofNat blockSize).toNat = blockSize
  exact UInt8.toNat_ofNat_of_lt' fits

theorem decode_blockUploadAck {count blockSize : Nat} (counted : count < UInt8.size)
    (fits : blockSize < UInt8.size) (rest : List UInt8) :
    decode ((blockUploadAck count (some blockSize)).octets ++ rest) =
      blockUploadAck count (some blockSize) := by
  show decode (0xA2 :: (UInt8.ofNat count :: UInt8.ofNat blockSize :: rest)) = _
  rw [decode_cons, show Family.ofCommand 0xA2 = .blockUpload by decide]
  simp only [decodeBlockUpload, Payload.command_ofList, show field 0xA2 0 2 = 2 by decide]
  show blockUploadAck (UInt8.ofNat count).toNat (some (UInt8.ofNat blockSize).toNat) = _
  rw [UInt8.toNat_ofNat_of_lt' counted, UInt8.toNat_ofNat_of_lt' fits]

theorem decode_blockDownload (target : Target) (checksummed : Bool) (declared : Option UInt32)
    (rest : List UInt8) :
    decode ((blockDownload target checksummed declared).octets ++ rest) =
      blockDownload target checksummed declared := by
  have family : Family.ofCommand (Response.command 0xC0
      (mark checksummed 2 + mark declared.isSome 1)) = .blockDownload := by
    cases checksummed <;> cases declared.isSome <;> decide
  have opens : flag (Response.command 0xC0
      (mark checksummed 2 + mark declared.isSome 1)) 0 = false := by
    cases checksummed <;> cases declared.isSome <;> decide
  have marked : flag (Response.command 0xC0
      (mark checksummed 2 + mark declared.isSome 1)) 2 = checksummed := by
    cases checksummed <;> cases declared.isSome <;> decide
  have sized : flag (Response.command 0xC0
      (mark checksummed 2 + mark declared.isSome 1)) 1 = declared.isSome := by
    cases checksummed <;> cases declared.isSome <;> decide
  show decode (_ :: (target.octets ++ sizeOctets declared ++ rest)) = _
  rw [List.append_assoc, decode_cons, family]
  simp only [decodeBlockDownload, Payload.command_ofList, opens, marked, sized,
    Payload.target_ofList]
  cases declared with
  | none => rfl
  | some size => simp only [sizeOctets, Option.map_some, Option.getD_some, Payload.double_ofList,
      Bool.false_eq_true, if_false, Option.isSome_some, if_true]

theorem decode_blockDownloadEnd {padding : Nat} (fits : padding ≤ segmentCapacity)
    (checksum : UInt16) (rest : List UInt8) :
    decode ((blockDownloadEnd padding checksum).octets ++ rest) =
      blockDownloadEnd padding checksum := by
  simp only [segmentCapacity] at fits
  have small : 0xC1 + 4 * padding < UInt8.size := by
    simp only [UInt8.size]
    omega
  have family : Family.ofCommand (Response.command 0xC1 (4 * padding)) = .blockDownload := by
    rw [family_command small 6 (by omega)]
    decide
  have unused : (0xC1 + 4 * padding) >>> 2 % (1 <<< 3) = padding := by
    simp only [Nat.reduceShiftLeft]
    omega
  show decode (_ :: (Octets.of16 checksum ++ rest)) = _
  rw [decode_cons, family]
  simp only [decodeBlockDownload, Payload.command_ofList, flag_command small,
    field_command small, unused, Payload.word_ofList]
  rw [if_pos (decide_eq_true (by omega))]

/-- **A request is read from every frame that brings it.** -/
theorem decode_octets_append {request : Request} (fits : request.Fits) (rest : List UInt8) :
    decode (request.octets ++ rest) = request := by
  cases request with
  | upload target =>
    show decode (0x40 :: (target.octets ++ rest)) = _
    rw [decode_cons, show Family.ofCommand 0x40 = .upload by decide]
    simp only [Payload.target_ofList]
  | uploadSegment toggle =>
    show decode (Response.command 0x60 (mark toggle 4) :: rest) = _
    rw [decode_cons]
    cases toggle <;> rfl
  | expedited target data => exact decode_expedited target fits.1 fits.2 rest
  | download target declared => exact decode_download target declared rest
  | downloadSegment toggle data last => exact decode_downloadSegment toggle last fits rest
  | aborted target code =>
    show decode (abortCommand :: (target.octets ++ Octets.of32 code ++ rest)) = _
    rw [List.append_assoc, decode_cons, show Family.ofCommand abortCommand = .abort by decide]
    simp only [Payload.target_ofList, Payload.double_ofList]
  | blockUpload target checksummed blockSize =>
    exact decode_blockUpload target checksummed fits rest
  | blockUploadStart =>
    show decode (0xA3 :: rest) = _
    rw [decode_cons, show Family.ofCommand 0xA3 = .blockUpload by decide]
    simp only [decodeBlockUpload, Payload.command_ofList, show field 0xA3 0 2 = 3 by decide]
  | blockUploadAck count blockSize =>
    cases blockSize with
    | none => exact absurd fits id
    | some blockSize => exact decode_blockUploadAck fits.1 fits.2 rest
  | blockUploadEnd =>
    show decode (0xA1 :: rest) = _
    rw [decode_cons, show Family.ofCommand 0xA1 = .blockUpload by decide]
    simp only [decodeBlockUpload, Payload.command_ofList, show field 0xA1 0 2 = 1 by decide]
  | blockDownload target checksummed declared =>
    exact decode_blockDownload target checksummed declared rest
  | blockDownloadEnd padding checksum => exact decode_blockDownloadEnd fits checksum rest
  | empty => exact absurd fits id
  | blockSegment segment => exact absurd fits id
  | unknown command => exact absurd fits id

theorem decode_of_brings {frame : Frame} {request : Request} (fits : request.Fits)
    (brings : frame.Brings request) : decode frame.octets = request := by
  obtain ⟨rest, octets⟩ := brings
  rw [← octets]
  exact decode_octets_append fits rest

/-- Only frames while receiving bring segments. -/
theorem decode_ne_blockSegment (octets : List UInt8) (segment : Segment) :
    decode octets ≠ blockSegment segment := by
  cases octets with
  | nil => exact nofun
  | cons command rest =>
    rw [decode_cons]
    cases Family.ofCommand command with
    | download =>
      simp only [decodeDownload]
      split <;> exact nofun
    | blockUpload =>
      simp only [decodeBlockUpload]
      split <;> exact nofun
    | blockDownload =>
      simp only [decodeBlockDownload]
      split <;> exact nofun
    | _ => exact nofun

/-- One to four octets are written at once. -/
theorem length_of_decode {octets : List UInt8} {target : Target} {data : List UInt8}
    (read : decode octets = expedited target data) :
    1 ≤ data.length ∧ data.length ≤ expeditedCapacity := by
  cases octets with
  | nil => exact absurd read nofun
  | cons command rest =>
    rw [decode_cons] at read
    cases family : Family.ofCommand command with
    | download =>
      rw [family] at read
      simp only [decodeDownload] at read
      split at read
      · obtain ⟨-, rfl⟩ := Request.expedited.inj read
        have below : field (Payload.ofList (command :: rest)).command 2 2 < 4 :=
          Nat.mod_lt _ (by decide)
        have tail : (Payload.ofList (command :: rest)).tail.length = 4 := rfl
        rw [List.length_take, tail]
        simp only [expeditedCapacity]
        split <;> omega
      · exact absurd read nofun
    | blockUpload =>
      rw [family] at read
      simp only [decodeBlockUpload] at read
      split at read <;> exact absurd read nofun
    | blockDownload =>
      rw [family] at read
      simp only [decodeBlockDownload] at read
      split at read <;> exact absurd read nofun
    | _ =>
      rw [family] at read
      exact absurd read nofun

/-- While receiving a frame brings nothing but a segment or an abort. -/
theorem decodeSegment_cases (octets : List UInt8) :
    decodeSegment octets = empty ∨ (∃ target code, decodeSegment octets = aborted target code) ∨
      ∃ segment, decodeSegment octets = blockSegment segment := by
  simp only [decodeSegment]
  split
  · exact Or.inl rfl
  · split
    · exact Or.inr (Or.inl ⟨_, _, rfl⟩)
    · exact Or.inr (Or.inr ⟨_, rfl⟩)

end Request

/-! ### Segments of a block transfer -/

namespace Segment

open Response (mark)

theorem mark_last (last : Bool) : mark last 7 = 128 * last.toNat := by
  cases last <;> rfl

/-- The command of a segment holds its number and its mark. -/
theorem command_lt {segment : Segment} (small : segment.number ≤ greatestWindow) :
    segment.number + mark segment.last 7 < UInt8.size := by
  have one := segment.last.toNat_le
  simp only [mark_last, greatestWindow, UInt8.size] at small ⊢
  omega

/-- No segment looks like an abort. -/
theorem command_ne_abort {segment : Segment} (counted : 1 ≤ segment.number)
    (small : segment.number ≤ greatestWindow) :
    Response.command segment.number (mark segment.last 7) ≠ Request.abortCommand := by
  intro same
  have value := congrArg UInt8.toNat same
  rw [Response.command, UInt8.toNat_ofNat_of_lt' (command_lt small)] at value
  change segment.number + mark segment.last 7 = 128 at value
  have one := segment.last.toNat_le
  simp only [mark_last, greatestWindow] at small value
  omega

/-- A segment reads back from its octets, padded to a full one. -/
theorem decode_ofList {segment : Segment} (small : segment.number ≤ greatestWindow)
    (octets : List UInt8) :
    Segment.decode (.ofList (Response.command segment.number (mark segment.last 7) :: octets)) =
      { segment with
        data := octets.take segmentCapacity ++
          List.replicate (segmentCapacity - octets.length) 0 } := by
  have one := segment.last.toNat_le
  rw [Segment.decode, Payload.command_ofList, Payload.body_ofList, field_command (command_lt small),
    flag_command (command_lt small)]
  simp only [greatestWindow] at small
  congr 1
  · simp only [mark_last, Nat.reduceShiftLeft]
    omega
  · refine Request.decide_bit ?_
    rw [mark_last]
    omega

end Segment

/-- **A segment is read from every frame that brings it** while a block download is receiving. -/
theorem Request.decodeSegment_octets_append {segment : Segment} (counted : 1 ≤ segment.number)
    (small : segment.number ≤ greatestWindow) (full : segment.data.length = segmentCapacity)
    (rest : List UInt8) :
    decodeSegment ((blockSegment segment).octets ++ rest) = blockSegment segment := by
  have other : (Payload.ofList ((blockSegment segment).octets ++ rest)).command ≠ abortCommand :=
    Segment.command_ne_abort counted small
  unfold decodeSegment
  simp only
  rw [if_neg (show (blockSegment segment).octets ++ rest ≠ [] from List.cons_ne_nil _ _),
    if_neg other]
  show blockSegment (Segment.decode (.ofList (_ :: (segment.data ++ rest)))) = _
  have more : segmentCapacity ≤ (segment.data ++ rest).length := by
    rw [List.length_append, full]
    exact Nat.le_add_right _ _
  rw [Segment.decode_ofList small, Nat.sub_eq_zero_of_le more,
    List.replicate_zero, List.append_nil, ← full, List.take_left]

/-- Only block downloads receive. -/
theorem Session.blockDownload_of_isReceiving {session : Session}
    (receiving : session.isReceiving = true) :
    ∃ target download, session = ⟨target, .blockDownload download⟩ := by
  obtain ⟨target, transfer⟩ := session
  cases transfer with
  | blockDownload download => exact ⟨target, download, rfl⟩
  | blockUpload upload =>
    obtain ⟨_, _, _, _, _, started, _⟩ := upload
    cases started <;> exact absurd receiving nofun
  | _ => exact absurd receiving nofun

/-- Segments are read while a block download is receiving, and only then. -/
theorem Session.blockSegment_of_interpret {session : Session} {octets : List UInt8}
    {segment : Segment} (read : session.interpret octets = .blockSegment segment) :
    session.isReceiving = true ∧ segment = Segment.decode (.ofList octets) := by
  unfold interpret at read
  by_cases receiving : session.isReceiving = true
  · rw [if_pos receiving] at read
    simp only [Request.decodeSegment] at read
    split at read
    · exact absurd read nofun
    · split at read
      · exact absurd read nofun
      · exact ⟨receiving, (Request.blockSegment.inj read).symm⟩
  · rw [if_neg receiving] at read
    exact absurd read (Request.decode_ne_blockSegment octets segment)

end Canopen
