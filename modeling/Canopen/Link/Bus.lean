/-
**The CAN bus: frames in sixteen octets, an acceptance filter, and counters.**

* `Bus.encode`: a frame in sixteen octets, its identifier cut to eleven bits.
* `Bus.decode?`: sixteen octets as a frame. Error frames, remote frames and lengths above eight are
  refused, and so is a short read.
* `Bus.start`: the bus opened on an interface, with what the system answers.
* `Bus.receive`, `Bus.send`: one read and one write, and the counters.
-/

import Canopen.Notice

namespace Canopen

/-- The counters of a bus. -/
structure BusStatistics where
  received : Nat
  sent : Nat
  /-- The reads that were no frame. -/
  errors : Nat
  deriving DecidableEq, Repr, Inhabited

/-- A bus. -/
structure Bus where
  ready : Bool
  /-- Somebody listens. -/
  heard : Bool
  /-- Nobody is left to write to. -/
  deaf : Bool
  statistics : BusStatistics
  deriving DecidableEq, Repr, Inhabited

namespace Bus

/-- The name of the link. -/
def linkName : Text := Text.ofString "socketcan"

/-- The bus before its first start. -/
def idle : Bus := ⟨false, false, false, ⟨0, 0, 0⟩⟩

/-! ### The sixteen octets -/

/-- The bits of a standard identifier. -/
def standardMask : UInt32 := 0x7FF

/-- The mark of an extended identifier. -/
def extendedFlag : UInt32 := 0x80000000

/-- The mark of a remote frame. -/
def remoteFlag : UInt32 := 0x40000000

/-- The mark of an error frame. -/
def errorFlag : UInt32 := 0x20000000

/-- The octets of a frame on the bus. -/
def wireSize : Nat := 16

/-- The identifier on the bus. -/
def wireId (id : UInt32) : UInt32 := id &&& standardMask

/-- Octets filled with zeros to eight. -/
def filled (octets : List UInt8) : List UInt8 := (Payload.ofList octets).toList

/-- A frame in sixteen octets: identifier, length, three unused, and the octets that count. -/
def encode (frame : Frame) : List UInt8 :=
  Octets.of32 (wireId frame.id) ++ [frame.length, 0, 0, 0] ++ filled frame.octets

/-- Sixteen octets as a frame; what follows them is dropped. -/
def decode? (octets : List UInt8) : Option Frame :=
  let id := Octets.word32 (octets.take 4)
  let length := octets.getD 4 0
  if octets.length < wireSize then none
  else if id &&& errorFlag ≠ 0 ∨ id &&& remoteFlag ≠ 0 then none
  else if Frame.capacity < length.toNat then none
  else some ⟨wireId id, length, .ofList ((octets.drop 8).take length.toNat)⟩

/-! ### Start and stop -/

/-- What a bus is opened for. -/
structure Settings where
  iface : Text
  /-- The identifiers to hear; none means all. -/
  receiveIds : List UInt32

/-- What the system answers when a bus is opened. -/
structure Conditions where
  socket : Option Refusal
  iface : Except Refusal Int
  filter : Option Refusal
  bind : Option Refusal

/-- What came of opening a bus. -/
structure Start where
  bus : Bus
  /-- The filters in force: identifiers and masks. -/
  filters : List (UInt32 × UInt32)
  boundTo : Option Int
  notices : List Notice

/-- The octets of the name of an interface, the final NUL included. -/
def nameCapacity : Nat := 16

/-- The filter for an identifier: standard data frames only. -/
def filterFor (id : UInt32) : UInt32 × UInt32 :=
  (wireId id, standardMask ||| extendedFlag ||| remoteFlag)

/-- The bus stopped; nobody listens any more. -/
def stop (bus : Bus) : Bus := { bus with ready := false, heard := false }

/-- A start that fails. -/
def refuse (bus : Bus) (filters : List (UInt32 × UInt32)) (notices : List Notice) : Start :=
  ⟨bus.stop, filters, none, notices⟩

/-- A bus bound to an interface. -/
def bind (bus : Bus) (settings : Settings) (heard : Bool) (conditions : Conditions)
    (number : Int) : Start :=
  let wanted := settings.receiveIds.map filterFor
  let refused := if wanted = [] then none else conditions.filter
  let filters := if refused.isSome then [] else wanted
  let warnings := refused.toList.map Notice.filterRefused
  match conditions.bind with
  | some reason => bus.refuse filters (warnings ++ [.bindRefused settings.iface reason])
  | none =>
    ⟨⟨true, heard, false, ⟨0, 0, 0⟩⟩, filters, some number,
      warnings ++ [.bound settings.iface number]⟩

/-- Opens the bus anew. -/
def start (bus : Bus) (settings : Settings) (heard : Bool) (conditions : Conditions) : Start :=
  if settings.iface = [] ∨ nameCapacity ≤ settings.iface.length then
    bus.refuse [] [.interfaceInvalid settings.iface]
  else match conditions.socket, conditions.iface with
    | some reason, _ => bus.refuse [] [.busUnavailable reason]
    | none, .error reason => bus.refuse [] [.interfaceUnknown settings.iface reason]
    | none, .ok number => bus.bind settings heard conditions number

/-! ### Frames -/

/-- One read: the bus after it, and the frame that the listener gets. -/
def receive (bus : Bus) (octets : List UInt8) : Bus × Option Frame :=
  let count := bus.statistics
  if bus.ready then
    match decode? octets with
    | some frame =>
      ({ bus with statistics := { count with received := count.received + 1 } },
        if bus.heard then some frame else none)
    | none => ({ bus with statistics := { count with errors := count.errors + 1 } }, none)
  else (bus, none)

/-- What came of a frame to send. -/
structure Sending where
  bus : Bus
  /-- The octets written. -/
  wire : Option (List UInt8)
  notices : List Notice

/-- One write. -/
def send (bus : Bus) (frame : Frame) : Sending :=
  let count := bus.statistics
  if !bus.ready || frame.isOversized then ⟨bus, none, []⟩
  else if bus.deaf then ⟨bus, none, [.busWriteFailed (wireId frame.id) .brokenPipe]⟩
  else
    ⟨{ bus with statistics := { count with sent := count.sent + 1 } }, some (encode frame), []⟩

/-- The bus with nobody left to write to. -/
def deafen (bus : Bus) : Bus := { bus with deaf := true }

end Bus

end Canopen
