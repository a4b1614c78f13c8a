/-
**The entry that a transfer is about.**
-/

import Canopen.Text

namespace Canopen

/-- The place of an entry in an object dictionary. -/
structure Target where
  index : UInt16
  subindex : UInt8
  deriving DecidableEq, Repr, Inhabited

namespace Target

/-- The place of the target in the order by index, and by subindex within an index. -/
def rank (target : Target) : Nat :=
  target.index.toNat * UInt8.size + target.subindex.toNat

/-- The target in the form `0x1018:04`. -/
def text (target : Target) : Text :=
  Text.ofString "0x" ++ Text.hexadecimal 4 target.index.toNat ++ Text.ofString ":"
    ++ Text.hexadecimal 2 target.subindex.toNat

end Target

end Canopen
