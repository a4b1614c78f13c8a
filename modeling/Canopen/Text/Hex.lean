/-
**Octets written as hexadecimal digits.**

* `Hex.encode`: two small digits for each octet, and nothing between them.
* `Hex.decode?`: the octets of such a text; digits of either case are read, and a text of odd
  length or with any other octet is refused.
* `Hex.dump`: the octets one by one, for a reader.
-/

import Canopen.Text

namespace Canopen.Hex

/-- The small digit of a value below sixteen. -/
def digit (value : Nat) : UInt8 :=
  UInt8.ofNat (if value < 10 then 48 + value else 87 + value)

/-- Two digits for each octet, the high one first. -/
def encode (octets : List UInt8) : Text :=
  octets.flatMap fun octet => [digit (octet.toNat / 16), digit (octet.toNat % 16)]

/-- The octets written by pairs of digits. -/
def decode? : Text → Option (List UInt8)
  | [] => some []
  | [_] => none
  | high :: low :: rest => do
    let upper ← Text.digit? high
    let lower ← Text.digit? low
    let octets ← decode? rest
    return UInt8.ofNat (16 * upper + lower) :: octets

/-- An octet in the form `0x4F`. -/
def octet (value : UInt8) : Text :=
  Text.ofString "0x" ++ Text.hexadecimal 2 value.toNat

/-- The octets in the form `0x4F 0x00`. -/
def dump (octets : List UInt8) : Text :=
  (Text.ofString " ").intercalate (octets.map octet)

end Canopen.Hex
