/-
**The checksum of block transfers: CRC-16 with polynomial `0x1021`, most significant bit first.**

* `Checksum.shift`: one step of the shift register.
* `Checksum.table`: what eight steps make of a register that holds one octet on top.
* `Checksum.update`: the register after more octets, an octet at a time through the table.
* `Checksum.of`: the checksum of octets; the register starts at zero.
-/

namespace Canopen.Checksum

/-- The polynomial without its leading term. -/
def polynomial : UInt16 := 0x1021

/-- One step of the shift register. -/
def shift (register : UInt16) : UInt16 :=
  if register &&& 0x8000 = 0 then register <<< 1 else (register <<< 1) ^^^ polynomial

/-- Several steps of the shift register. -/
def shifts (count : Nat) (register : UInt16) : UInt16 :=
  Nat.repeat shift count register

/-- Eight steps for each octet on top of an empty register. -/
def table : Vector UInt16 UInt8.size :=
  Vector.ofFn fun octet => shifts 8 (UInt16.ofNat octet.val <<< 8)

/-- The register after one more octet. -/
def step (register : UInt16) (octet : UInt8) : UInt16 :=
  (register <<< 8) ^^^ table.get ((register >>> 8).toUInt8 ^^^ octet).toFin

/-- The register after more octets. -/
def update (register : UInt16) (octets : List UInt8) : UInt16 :=
  octets.foldl step register

/-- The checksum of octets. -/
def of (octets : List UInt8) : UInt16 :=
  update 0 octets

@[simp] theorem update_nil (register : UInt16) : update register [] = register := rfl

@[simp] theorem update_append (register : UInt16) (first second : List UInt8) :
    update register (first ++ second) = update (update register first) second :=
  List.foldl_append

end Canopen.Checksum
