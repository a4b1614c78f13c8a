/-
**CAN frames.**

* `Payload`: the eight octets of a frame.
* `Payload.ofList`: octets as a payload, missing ones zero.
* `Frame`: an identifier, a length and a payload; `Frame.octets` are the octets that count.

The length field is free to exceed eight, in which case all eight octets count.
-/

import Canopen.Octets

namespace Canopen

/-- The eight octets of a frame. -/
structure Payload where
  /-- The first octet: the command of an SDO frame. -/
  command : UInt8 := 0
  second : UInt8 := 0
  third : UInt8 := 0
  fourth : UInt8 := 0
  fifth : UInt8 := 0
  sixth : UInt8 := 0
  seventh : UInt8 := 0
  eighth : UInt8 := 0
  deriving DecidableEq, Repr, Inhabited

namespace Payload

/-- The octets in order. -/
def toList (payload : Payload) : List UInt8 :=
  [payload.command, payload.second, payload.third, payload.fourth,
    payload.fifth, payload.sixth, payload.seventh, payload.eighth]

/-- The first eight octets of a list, missing ones zero. -/
def ofList (octets : List UInt8) : Payload where
  command := octets.getD 0 0
  second := octets.getD 1 0
  third := octets.getD 2 0
  fourth := octets.getD 3 0
  fifth := octets.getD 4 0
  sixth := octets.getD 5 0
  seventh := octets.getD 6 0
  eighth := octets.getD 7 0

@[simp] theorem length_toList (payload : Payload) : payload.toList.length = 8 := rfl

/-- The seven octets behind the command. -/
def body (payload : Payload) : List UInt8 :=
  [payload.second, payload.third, payload.fourth,
    payload.fifth, payload.sixth, payload.seventh, payload.eighth]

/-- The four octets at the end. -/
def tail (payload : Payload) : List UInt8 :=
  [payload.fifth, payload.sixth, payload.seventh, payload.eighth]

end Payload

/-- The greatest number of octets in a frame. -/
def Frame.capacity : Nat := 8

/-- A classic CAN data frame. -/
structure Frame where
  id : UInt32
  length : UInt8
  payload : Payload
  deriving DecidableEq, Repr, Inhabited

namespace Frame

/-- The octets that count. -/
def octets (frame : Frame) : List UInt8 :=
  frame.payload.toList.take frame.length.toNat

/-- The frame is too long for the bus. -/
def isOversized (frame : Frame) : Bool :=
  capacity < frame.length.toNat

/-- A full frame. -/
def full (id : UInt32) (payload : Payload) : Frame := ⟨id, 8, payload⟩

end Frame

end Canopen
