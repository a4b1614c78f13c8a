/-
**The header of a frame that names an entry**: command, index, subindex.

* `Payload.target`: the entry that a payload names.
* `Payload.withHeader`: a payload with another header and the same four octets behind it.
* `Payload.behindHeader`: a payload whose header is still empty.
-/

import Canopen.Frame
import Canopen.Target

namespace Canopen

namespace Target

/-- The three octets of a target. -/
def octets (target : Target) : List UInt8 :=
  Octets.of16 target.index ++ [target.subindex]

end Target

namespace Payload

/-- The 16-bit number behind the command. -/
def word (payload : Payload) : UInt16 :=
  Octets.word16 [payload.second, payload.third]

/-- The 32-bit number at the end. -/
def double (payload : Payload) : UInt32 :=
  Octets.word32 payload.tail

/-- The entry that the payload names. -/
def target (payload : Payload) : Target :=
  ⟨payload.word, payload.fourth⟩

/-- The payload with another header. -/
def withHeader (payload : Payload) (command : UInt8) (target : Target) : Payload :=
  ofList (command :: target.octets ++ payload.tail)

/-- A payload with octets behind the header, which is still empty. -/
def behindHeader (octets : List UInt8) : Payload :=
  ofList (0 :: 0 :: 0 :: 0 :: octets)

/-- What stands behind an empty header stands behind any other. -/
theorem withHeader_behindHeader (octets : List UInt8) (command : UInt8) (target : Target) :
    (behindHeader octets).withHeader command target =
      ofList (command :: target.octets ++ octets) := rfl

end Payload

end Canopen
