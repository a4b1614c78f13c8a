/-
**Texts as octets.**

A text from outside (an order, an argument, a setting, a path) may hold any octet, NUL included,
so a text is a list of octets and is never decoded. A text of the program itself is ASCII.

* `Text.ofString`: the octets of an ASCII text.
* `Text.words`: the words of a text, blanks being the six blanks of ASCII.
* `Text.cut`: a text up to its first NUL.
* `Text.decimal`, `Text.hexadecimal`: the numerals of a number.
-/

namespace Canopen

/-- A text, octet by octet. -/
abbrev Text := List UInt8

namespace Text

/-- The octets of an ASCII text. -/
def ofString (text : String) : Text :=
  text.toList.map fun letter => UInt8.ofNat letter.toNat

/-- The line feed. -/
def newline : UInt8 := 10

/-- The carriage return. -/
def carriageReturn : UInt8 := 13

/-- The NUL octet. -/
def nul : UInt8 := 0

/-- The slash between the parts of a path. -/
def slash : UInt8 := 47

/-- The blanks: tab, line feed, vertical tab, form feed, carriage return and space. -/
def isBlank (octet : UInt8) : Bool :=
  octet == 32 || (9 ≤ octet && octet ≤ 13)

/-- The words of a text: its longest runs without a blank. -/
def words (text : Text) : List Text :=
  (text.splitOnP isBlank).filter fun word => !word.isEmpty

/-- The lines of a text; a final line feed opens one more, empty line. -/
def lines (text : Text) : List Text :=
  text.splitOn newline

/-- The text up to its first NUL. -/
def cut (text : Text) : Text :=
  text.takeWhile (· != nul)

/-- The small letter of an ASCII capital; any other octet is itself. -/
def lowerOctet (octet : UInt8) : UInt8 :=
  if 65 ≤ octet ∧ octet ≤ 90 then octet + 32 else octet

/-- The text with its ASCII capitals made small. -/
def lower (text : Text) : Text :=
  text.map lowerOctet

/-! ### Numerals -/

/-- The decimal numeral. -/
def decimal (number : Nat) : Text :=
  (Nat.toDigits 10 number).map fun digit => UInt8.ofNat digit.toNat

/-- The hexadecimal numeral in capitals, filled with zeros up to `width` digits. -/
def hexadecimal (width number : Nat) : Text :=
  let digits := (Nat.toDigits 16 number).map fun digit => UInt8.ofNat digit.toUpper.toNat
  List.replicate (width - digits.length) 48 ++ digits

/-- The value of a hexadecimal digit of either case. -/
def digit? (octet : UInt8) : Option Nat :=
  if 48 ≤ octet ∧ octet ≤ 57 then some (octet.toNat - 48)
  else if 97 ≤ octet ∧ octet ≤ 102 then some (octet.toNat - 87)
  else if 65 ≤ octet ∧ octet ≤ 70 then some (octet.toNat - 55)
  else none

end Text

end Canopen
