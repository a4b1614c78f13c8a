/-
**The loopback link: every frame comes straight back to the one who sent it.**

* `Loopback.takes`: the frames that the link takes.
* `Loopback.send`: a frame sent, heard, and everything sent in turn while it is heard, before
  anything else happens.
* `Listener`: listeners for trying a link out.

What is heard may be answered, and the answer is heard in turn. The depth bounds how far this
goes.
-/

import Canopen.Frame

namespace Canopen

/-- The loopback link. -/
structure Loopback where
  ready : Bool
  /-- Somebody listens. -/
  heard : Bool
  /-- The frames sent since the start. -/
  sent : Nat
  deriving DecidableEq, Repr, Inhabited

namespace Loopback

/-- The link before its first start. -/
def idle : Loopback := ⟨false, false, 0⟩

/-- The link started, with a listener or without. -/
def start (heard : Bool) : Loopback := ⟨true, heard, 0⟩

/-- The link stopped; the count stays. -/
def stop (link : Loopback) : Loopback := { link with ready := false, heard := false }

/-- The link takes the frame. -/
def takes (link : Loopback) (frame : Frame) : Bool :=
  link.ready && link.heard && !frame.isOversized

/-- A listener: its state after a frame, and what it sends in turn. -/
abbrev Hearing (ρ : Type) := ρ → Frame → ρ × List Frame

/-- Sends a frame, and in order everything that is sent while it is heard. -/
def send {ρ : Type} (hear : Hearing ρ) : (depth : Nat) → Loopback × ρ → Frame → Loopback × ρ
  | 0, ends, _ => ends
  | depth + 1, (link, listener), frame =>
    if link.takes frame then
      let (listener, answers) := hear listener frame
      answers.foldl (send hear depth) ({ link with sent := link.sent + 1 }, listener)
    else (link, listener)

end Loopback

/-- A listener that keeps what it hears and sends it again until it has heard enough. -/
structure Listener where
  /-- The frames heard. -/
  heard : List Frame
  /-- Enough. -/
  limit : Nat
  deriving DecidableEq, Repr, Inhabited

namespace Listener

/-- Hears a frame. -/
def hear : Loopback.Hearing Listener := fun listener frame =>
  let heard := listener.heard ++ [frame]
  ({ listener with heard := heard }, if heard.length < listener.limit then [frame] else [])

/-- Sends a frame to a listener that has heard nothing yet. -/
def offer (link : Loopback) (limit : Nat) (frame : Frame) : Loopback × Listener :=
  Loopback.send hear (limit + 1) (link, ⟨[], limit⟩) frame

end Listener

end Canopen
