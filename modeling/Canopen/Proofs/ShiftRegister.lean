/-
**The checksum as a shift register fed bit by bit.**

* `Octets.bits`: the bits of octets, most significant first.
* `Checksum.feed`: the register after one more bit.
* `Checksum.shift_xor`, `Checksum.shift_injective`: a step is linear, and can be undone.
* `Checksum.foldl_feed`: up to sixteen bits are fed as if they stood on top of the register.
* `Checksum.update_eq_feed`: **octets are taken through the table as their bits are fed.**
-/

import Canopen.Checksum
import Canopen.Octets

namespace Canopen

namespace Octets

/-- The bits of octets, most significant first. -/
def bits (octets : List UInt8) : List Bool :=
  octets.flatMap fun octet => (List.range 8).map fun place => flag octet (7 - place)

theorem bits_cons (octet : UInt8) (rest : List UInt8) :
    bits (octet :: rest) = bits [octet] ++ bits rest := by
  show bits ([octet] ++ rest) = _
  exact List.flatMap_append

end Octets

namespace Checksum

/-! ### One step -/

/-- The bit that a register shifts out next. -/
def leading (register : UInt16) : Bool := register.toBitVec.msb

/-- The register after one more bit: the polynomial is added if the bit that is shifted out differs
from the one that comes in. -/
def feed (register : UInt16) (bit : Bool) : UInt16 :=
  if leading register = bit then register <<< 1 else (register <<< 1) ^^^ polynomial

/-- What a step adds for the bit that it shifts out. -/
def tap (bit : Bool) : UInt16 := if bit then polynomial else 0

/-- A register that holds one bit, on top. -/
def top (bit : Bool) : UInt16 := if bit then 0x8000 else 0

theorem tap_xor (one two : Bool) : tap (one ^^ two) = tap one ^^^ tap two := by
  cases one <;> cases two <;> rfl

theorem leading_xor (one two : UInt16) : leading (one ^^^ two) = (leading one ^^ leading two) := by
  rw [leading, UInt16.toBitVec_xor, BitVec.msb_xor]
  rfl

theorem leading_top (bit : Bool) : leading (top bit) = bit := by
  cases bit <;> rfl

theorem getLsbD_top (bit : Bool) (place : Nat) :
    (top bit).toBitVec.getLsbD place = (decide (place = 15) && bit) := by
  cases bit with
  | false =>
    rw [Bool.and_false]
    exact BitVec.getLsbD_zero
  | true =>
    rw [Bool.and_true]
    show (BitVec.twoPow 16 15).getLsbD place = _
    rw [BitVec.getLsbD_twoPow, decide_eq_true (by decide : 15 < 16), Bool.true_and]
    exact decide_eq_decide.mpr eq_comm

theorem and_top (register : UInt16) : register &&& top true = top (leading register) := by
  apply UInt16.toBitVec_inj.mp
  apply BitVec.eq_of_getLsbD_eq
  intro place inside
  rw [UInt16.toBitVec_and, BitVec.getLsbD_and, getLsbD_top, getLsbD_top, Bool.and_true, leading,
    BitVec.msb_eq_getLsbD_last]
  by_cases last : place = 15
  · subst last
    exact Bool.and_comm _ _
  · rw [decide_eq_false last, Bool.and_false, Bool.false_and]

/-- A step shifts the leading bit out, and adds the polynomial for it. -/
theorem shift_eq (register : UInt16) :
    shift register = (register <<< 1) ^^^ tap (leading register) := by
  show (if register &&& top true = 0 then _ else _) = _
  rw [and_top]
  cases leading register with
  | false => exact UInt16.xor_zero.symm
  | true => rfl

/-- **A step is linear.** -/
theorem shift_xor (one two : UInt16) : shift (one ^^^ two) = shift one ^^^ shift two := by
  rw [shift_eq, shift_eq, shift_eq, leading_xor, tap_xor, UInt16.shiftLeft_xor]
  ac_rfl

/-- A bit is fed as if it stood on top of the register. -/
theorem feed_eq (register : UInt16) (bit : Bool) :
    feed register bit = shift (register ^^^ top bit) := by
  have out : top bit <<< 1 = 0 := by cases bit <;> rfl
  rw [shift_eq, UInt16.shiftLeft_xor, out, UInt16.xor_zero, leading_xor, leading_top, feed]
  cases leading register <;> cases bit <;> simp [tap]

/-- Nothing but zero is shifted to zero. -/
theorem eq_zero_of_shift {register : UInt16} (zero : shift register = 0) : register = 0 := by
  rw [shift_eq, UInt16.xor_eq_zero_iff] at zero
  have bit (place : Nat) : (register.toBitVec <<< 1).getLsbD place =
      (tap (leading register)).toBitVec.getLsbD place :=
    congrArg (fun register : UInt16 => register.toBitVec.getLsbD place) zero
  -- The polynomial has a lowest bit, which nothing that is shifted has.
  have clear : leading register = false := by
    have low := bit 0
    cases carried : leading register with
    | false => rfl
    | true =>
      rw [carried, BitVec.getLsbD_shiftLeft] at low
      exact absurd (show false = true from low) Bool.false_ne_true
  apply UInt16.toBitVec_inj.mp
  apply BitVec.eq_of_getLsbD_eq
  intro place inside
  by_cases last : place = 15
  · rw [last]
    exact (BitVec.msb_eq_getLsbD_last _).symm.trans clear
  · have next := bit (place + 1)
    rw [clear, BitVec.getLsbD_shiftLeft, decide_eq_true (by omega : place + 1 < 16),
      decide_eq_false (by omega : ¬ place + 1 < 1), Nat.add_sub_cancel] at next
    exact next.trans (BitVec.getLsbD_zero.trans BitVec.getLsbD_zero.symm)

/-- **A step can be undone.** -/
theorem shift_injective {one two : UInt16} (same : shift one = shift two) : one = two := by
  rw [← UInt16.xor_eq_zero_iff]
  apply eq_zero_of_shift
  rw [shift_xor, same, UInt16.xor_self]

/-- A step puts back what was shifted down, if nothing was lost. -/
theorem shift_ushiftRight {register : BitVec 16} (low : register.getLsbD 0 = false) :
    shift (.ofBitVec (register >>> 1)) = .ofBitVec register := by
  have clear : leading (.ofBitVec (register >>> 1)) = false := by
    rw [leading, BitVec.msb_eq_getLsbD_last, BitVec.getLsbD_ushiftRight]
    exact BitVec.getLsbD_of_ge register 16 (Nat.le_refl _)
  rw [shift_eq, clear]
  apply UInt16.toBitVec_inj.mp
  apply BitVec.eq_of_getLsbD_eq
  intro place inside
  show ((register >>> 1 <<< 1) ^^^ 0#16).getLsbD place = register.getLsbD place
  rw [BitVec.xor_zero, BitVec.getLsbD_shiftLeft, BitVec.getLsbD_ushiftRight]
  by_cases first : place = 0
  · rw [first, low]
    rfl
  · rw [decide_eq_true inside, decide_eq_false (by omega : ¬ place < 1),
      Nat.add_sub_cancel' (by omega)]
    rfl

/-! ### Several steps -/

theorem shifts_succ (count : Nat) (register : UInt16) :
    shifts (count + 1) register = shifts count (shift register) := by
  induction count with
  | zero => rfl
  | succ count ih => exact congrArg shift ih

theorem shifts_xor (count : Nat) (one two : UInt16) :
    shifts count (one ^^^ two) = shifts count one ^^^ shifts count two := by
  induction count generalizing one two with
  | zero => rfl
  | succ count ih => rw [shifts_succ, shift_xor, ih, ← shifts_succ, ← shifts_succ]

theorem shifts_injective {count : Nat} {one two : UInt16}
    (same : shifts count one = shifts count two) : one = two := by
  induction count generalizing one two with
  | zero => exact same
  | succ count ih =>
    rw [shifts_succ, shifts_succ] at same
    exact shift_injective (ih same)

theorem shifts_ushiftRight {count : Nat} {register : BitVec 16}
    (low : ∀ place < count, register.getLsbD place = false) :
    shifts count (.ofBitVec (register >>> count)) = .ofBitVec register := by
  induction count with
  | zero => rfl
  | succ count ih =>
    have next : (register >>> count).getLsbD 0 = false := by
      rw [BitVec.getLsbD_ushiftRight]
      exact low count (Nat.lt_succ_self count)
    rw [shifts_succ, BitVec.shiftRight_add, shift_ushiftRight next]
    exact ih fun place below => low place (Nat.lt_succ_of_lt below)

/-! ### Several bits -/

/-- A register that holds bits, the first of them on top. -/
def lead : List Bool → UInt16
  | [] => 0
  | bit :: rest => top bit ^^^ .ofBitVec ((lead rest).toBitVec >>> 1)

theorem getLsbD_lead (bits : List Bool) {place : Nat} (inside : place < 16) :
    (lead bits).toBitVec.getLsbD place = bits[15 - place]?.getD false := by
  induction bits generalizing place with
  | nil => exact BitVec.getLsbD_zero
  | cons bit rest ih =>
    rw [lead, UInt16.toBitVec_xor, BitVec.getLsbD_xor, getLsbD_top, UInt16.toBitVec_ofBitVec,
      BitVec.getLsbD_ushiftRight]
    by_cases last : place = 15
    · rw [last, BitVec.getLsbD_of_ge _ (1 + 15) (Nat.le_refl 16), Bool.xor_false]
      rfl
    · rw [decide_eq_false last, Bool.false_and, Bool.false_xor, ih (by omega),
        show 15 - place = 15 - (1 + place) + 1 by omega, List.getElem?_cons_succ]

/-- Bits that fit in a register come back from it. -/
theorem lead_injective {one two : List Bool} (length : one.length = two.length)
    (few : one.length ≤ 16) (same : lead one = lead two) : one = two := by
  apply List.ext_getElem?
  intro place
  by_cases inside : place < one.length
  · have bit : (lead one).toBitVec.getLsbD (15 - place) =
        (lead two).toBitVec.getLsbD (15 - place) := by rw [same]
    rw [getLsbD_lead _ (by omega), getLsbD_lead _ (by omega),
      show 15 - (15 - place) = place by omega, List.getElem?_eq_getElem inside,
      List.getElem?_eq_getElem (length ▸ inside)] at bit
    rw [List.getElem?_eq_getElem inside, List.getElem?_eq_getElem (length ▸ inside)]
    exact congrArg some bit
  · rw [List.getElem?_eq_none (by omega), List.getElem?_eq_none (by omega)]

/-- **Up to sixteen bits are fed as if they stood on top of the register.** -/
theorem foldl_feed {bits : List Bool} (few : bits.length ≤ 16) (register : UInt16) :
    bits.foldl feed register = shifts bits.length (register ^^^ lead bits) := by
  induction bits generalizing register with
  | nil => exact UInt16.xor_zero.symm
  | cons bit rest ih =>
    rw [List.length_cons] at few
    have low : (lead rest).toBitVec.getLsbD 0 = false := by
      rw [getLsbD_lead rest (by decide), List.getElem?_eq_none (by omega), Option.getD_none]
    have down : shift (.ofBitVec ((lead rest).toBitVec >>> 1)) = lead rest := shift_ushiftRight low
    rw [List.foldl_cons, ih (by omega), feed_eq, List.length_cons, shifts_succ, lead,
      ← UInt16.xor_assoc, shift_xor (register ^^^ top bit), down]

/-- The table holds eight steps of each octet. -/
theorem table_get (octet : UInt8) :
    table.get octet.toFin = shifts 8 (octet.toUInt16 <<< 8) := by
  have bound : octet.toNat < UInt8.size := octet.toNat_lt
  have entry : table[octet.toNat] = shifts 8 (UInt16.ofNat octet.toNat <<< 8) := by
    rw [table, Vector.getElem_ofFn]
  rw [← UInt16.ofNat_uInt8ToNat]
  exact entry

theorem getElem?_bits_singleton (octet : UInt8) {place : Nat} (inside : place < 8) :
    (Octets.bits [octet])[place]? = some (flag octet (7 - place)) := by
  rw [Octets.bits, List.flatMap_singleton, List.getElem?_map, List.getElem?_range inside,
    Option.map_some]

/-- An octet on top of a register is its bits there. -/
theorem lead_octet (octet : UInt8) : lead (Octets.bits [octet]) = octet.toUInt16 <<< 8 := by
  apply UInt16.toBitVec_inj.mp
  apply BitVec.eq_of_getLsbD_eq
  intro place inside
  show _ = ((octet.toUInt16.toBitVec) <<< 8).getLsbD place
  rw [getLsbD_lead _ inside, BitVec.getLsbD_shiftLeft, UInt8.toBitVec_toUInt16,
    BitVec.getLsbD_setWidth]
  by_cases low : place < 8
  · have length : (Octets.bits [octet]).length = 8 := rfl
    rw [List.getElem?_eq_none (by omega), decide_eq_true low, Bool.not_true, Bool.and_false,
      Bool.false_and]
    rfl
  · rw [getElem?_bits_singleton octet (by omega), decide_eq_true inside, decide_eq_false low,
      show 7 - (15 - place) = place - 8 by omega, decide_eq_true (by omega : place - 8 < 16)]
    rfl

/-- A register is its upper octet and its lower one. -/
theorem halves (register : UInt16) :
    register = ((register >>> 8).toUInt8.toUInt16 <<< 8) ^^^
      .ofBitVec ((register <<< 8).toBitVec >>> 8) := by
  apply UInt16.toBitVec_inj.mp
  apply BitVec.eq_of_getLsbD_eq
  intro place inside
  show register.toBitVec.getLsbD place =
    ((((register.toBitVec >>> 8).setWidth 8).setWidth 16 <<< 8) ^^^
      (register.toBitVec <<< 8 >>> 8)).getLsbD place
  rw [BitVec.getLsbD_xor, BitVec.getLsbD_shiftLeft, BitVec.getLsbD_setWidth,
    BitVec.getLsbD_setWidth, BitVec.getLsbD_ushiftRight, BitVec.getLsbD_ushiftRight,
    BitVec.getLsbD_shiftLeft, Nat.add_sub_cancel_left]
  by_cases low : place < 8
  · rw [decide_eq_true low, decide_eq_true (by omega : 8 + place < 16),
      decide_eq_false (by omega : ¬ 8 + place < 8), Bool.not_true, Bool.and_false, Bool.false_and,
      Bool.false_xor]
    rfl
  · rw [decide_eq_true inside, decide_eq_false low, decide_eq_true (by omega : place - 8 < 8),
      decide_eq_true (by omega : place - 8 < 16), decide_eq_false (by omega : ¬ 8 + place < 16),
      show 8 + (place - 8) = place by omega]
    simp only [Bool.not_false, Bool.true_and, Bool.false_and, Bool.xor_false]

/-- **An octet is taken through the table as its bits are fed.** -/
theorem step_eq_feed (register : UInt16) (octet : UInt8) :
    step register octet = (Octets.bits [octet]).foldl feed register := by
  have low : ∀ place < 8, (register <<< 8).toBitVec.getLsbD place = false := by
    intro place below
    show (register.toBitVec <<< 8).getLsbD place = false
    rw [BitVec.getLsbD_shiftLeft, decide_eq_true below, Bool.not_true, Bool.and_false,
      Bool.false_and]
  have few : (Octets.bits [octet]).length = 8 := rfl
  rw [foldl_feed (by omega), few, lead_octet, step, table_get]
  conv => rhs; rw [halves register]
  rw [UInt8.toUInt16_xor, UInt16.shiftLeft_xor, shifts_xor, shifts_xor, shifts_xor,
    shifts_ushiftRight low, UInt16.ofBitVec_toBitVec]
  ac_rfl

theorem update_eq_feed (register : UInt16) (octets : List UInt8) :
    update register octets = (Octets.bits octets).foldl feed register := by
  induction octets generalizing register with
  | nil => rfl
  | cons octet rest ih =>
    rw [Octets.bits_cons, List.foldl_append, ← step_eq_feed, ← ih]
    rfl

end Checksum

end Canopen
