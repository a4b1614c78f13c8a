/-
**Numbers as octets, least significant first.**

* `Octets.toNat`: the number that octets hold.
* `Octets.ofNat`: the octets of a number in a given width; higher octets are dropped.
* `Octets.toNat_ofNat`: the number comes back modulo how many numbers the octets can hold.
* `flag`, `field`: single bits and runs of bits of an octet.
-/

namespace Canopen

namespace Octets

/-- The number that the octets hold. -/
def toNat : List UInt8 → Nat
  | [] => 0
  | octet :: rest => octet.toNat + 256 * toNat rest

/-- The octets of a number in `width` octets. -/
def ofNat : Nat → Nat → List UInt8
  | 0, _ => []
  | width + 1, number => UInt8.ofNat number :: ofNat width (number / 256)

@[simp] theorem length_ofNat (width number : Nat) : (ofNat width number).length = width := by
  induction width generalizing number with
  | zero => rfl
  | succ width ih => simp [ofNat, ih]

/-- How many numbers `width` octets can hold. -/
def range : Nat → Nat
  | 0 => 1
  | width + 1 => 256 * range width

/-- **The number comes back**, as far as it fits. -/
theorem toNat_ofNat (width number : Nat) : toNat (ofNat width number) = number % range width := by
  induction width generalizing number with
  | zero => rw [ofNat, toNat, range, Nat.mod_one]
  | succ width ih => rw [ofNat, toNat, ih, UInt8.toNat_ofNat', range, Nat.mod_mul]

/-- The 16-bit number of two octets. -/
def word16 (octets : List UInt8) : UInt16 := UInt16.ofNat (toNat octets)

/-- The 32-bit number of four octets. -/
def word32 (octets : List UInt8) : UInt32 := UInt32.ofNat (toNat octets)

/-- The two octets of a 16-bit number. -/
def of16 (word : UInt16) : List UInt8 := ofNat 2 word.toNat

/-- The four octets of a 32-bit number. -/
def of32 (word : UInt32) : List UInt8 := ofNat 4 word.toNat

@[simp] theorem word16_of16 (word : UInt16) : word16 (of16 word) = word := by
  rw [word16, of16, toNat_ofNat, ← UInt16.toNat_inj, UInt16.toNat_ofNat', range, range, range]
  have := word.toNat_lt
  omega

@[simp] theorem word32_of32 (word : UInt32) : word32 (of32 word) = word := by
  rw [word32, of32, toNat_ofNat, ← UInt32.toNat_inj, UInt32.toNat_ofNat', range, range, range,
    range, range]
  have := word.toNat_lt
  omega

end Octets

/-- The bit of an octet at a position, the least significant at zero. -/
def flag (octet : UInt8) (position : Nat) : Bool :=
  octet.toNat.testBit position

/-- The number in `width` bits of an octet from a position on. -/
def field (octet : UInt8) (position width : Nat) : Nat :=
  (octet.toNat >>> position) % (1 <<< width)

end Canopen
