/-
**Numbers in orders and settings.**

A numeral is decimal, or hexadecimal after `0x`, octal after `0`. Blanks and a sign may stand in
front of it, and a minus counts down from two to the sixty-fourth.

* `Numeral.scan`: the longest numeral at the start of a text, and what follows it.
* `Numeral.word?`: the 64-bit number that a whole text writes.
* `Numeral.parse?`: a number of an order, which must not start with a sign and has a greatest
  value.

A text ends at its first NUL. A numeral past 64 bits is refused, whatever its sign.
-/

import Canopen.Text

namespace Canopen.Numeral

/-- The number of 64-bit values. -/
def range : Nat := UInt64.size

/-- A digit of the radix. -/
def isDigit (radix : Nat) (octet : UInt8) : Bool :=
  match Text.digit? octet with
  | some value => value < radix
  | none => false

/-- The value of a row of digits, the highest first. -/
def value (radix : Nat) (digits : Text) : Nat :=
  digits.foldl (fun total octet => radix * total + (Text.digit? octet).getD 0) 0

/-- The radix of a numeral, and the digits and whatever follows them. A radix letter without a digit
behind it belongs to what follows. -/
def radix : Text → Nat × Text
  | zero :: letter :: rest =>
    if zero = 48 ∧ (letter = 120 ∨ letter = 88) ∧ rest.head?.any (isDigit 16) then (16, rest)
    else if zero = 48 then (8, zero :: letter :: rest)
    else (10, zero :: letter :: rest)
  | text => (10, text)

/-- The sign of a numeral (true for a minus), and what follows it. -/
def sign : Text → Bool × Text
  | octet :: rest =>
    if octet = 45 then (true, rest)
    else if octet = 43 then (false, rest)
    else (false, octet :: rest)
  | [] => (false, [])

/-- A numeral at the start of a text. -/
structure Scan where
  /-- A minus stands in front. -/
  negative : Bool
  /-- The value of the digits. -/
  magnitude : Nat
  /-- The text behind the digits. -/
  rest : Text
  deriving DecidableEq, Repr

/-- The longest numeral at the start of the text, blanks and a sign in front of it included. -/
def scan (text : Text) : Option Scan :=
  let (negative, unsigned) := sign (text.dropWhile Text.isBlank)
  let (base, body) := radix unsigned
  let digits := body.takeWhile (isDigit base)
  if digits = [] then none
  else some ⟨negative, value base digits, body.dropWhile (isDigit base)⟩

/-- The number that the whole text writes; the empty text writes zero. -/
def word? (text : Text) : Option Nat :=
  match scan text.cut with
  | none => if text.cut = [] then some 0 else none
  | some found =>
    if found.rest ≠ [] ∨ range ≤ found.magnitude then none
    else if found.negative then some ((range - found.magnitude) % range)
    else some found.magnitude

/-- The number of an order, at most `greatest`. -/
def parse? (text : Text) (greatest : Nat) : Option Nat :=
  match text with
  | [] => none
  | first :: _ =>
    if first = 45 ∨ first = 43 then none else (word? text).filter (· ≤ greatest)

end Canopen.Numeral
