/-
**A node on the loopback link.**

The node hears whatever it sends. Its own frames have another identifier than its client's, so
they are counted and nothing follows from them: two steps of depth are enough for a request and
the echo of its answers.

* `Looped.send`: a frame that comes over the link.
* `Looped.hear`: a frame given to the node itself.
* `Looped.answer`: a line from the operator.
-/

import Canopen.Console
import Canopen.Link.Loopback

namespace Canopen

/-- A station whose node is on the loopback link. -/
structure Looped (σ : Type) where
  station : Station σ
  link : Loopback

namespace Looped

variable {σ : Type}

/-- The name of the link. -/
def linkName : Text := Text.ofString "loopback"

/-- A node with its store on a link before its start. -/
def new (node : Node) (store : σ) : Looped σ := ⟨⟨node, store, .info⟩, .idle⟩

/-- A node listening, and what was done since it began to. -/
structure Ear (σ : Type) where
  node : Node
  store : σ
  events : List Event

/-- The node as a listener at a time: it sends its responses. -/
def listen [Store σ] (time : Nat) : Loopback.Hearing (Ear σ) := fun ear frame =>
  let reaction := ear.node.hear ear.store frame time
  (⟨reaction.node, reaction.store, ear.events ++ reaction.events⟩,
    reaction.node.server.frames reaction.events)

/-- The depth of a request and the echo of its answers. -/
def echoDepth : Nat := 2

/-- Sends frames over the link, given what was done before them. -/
def emit [Store σ] (looped : Looped σ) (time : Nat) (frames : List Frame) (before : List Event) :
    Looped σ × List Event :=
  let station := looped.station
  let (link, ear) := frames.foldl (Loopback.send (listen time) echoDepth)
    (looped.link, ⟨station.node, station.store, before⟩)
  (⟨{ station with node := ear.node, store := ear.store }, link⟩, ear.events)

/-- The responses of the node go over the link. -/
def respond [Store σ] (looped : Looped σ) (time : Nat) (events : List Event) :
    Looped σ × List Event :=
  looped.emit time (looped.station.node.server.frames events) events

/-- The link takes the responses of the node. -/
def takesResponses (looped : Looped σ) : Bool :=
  looped.link.ready && looped.link.heard

/-! ### What comes from outside -/

/-- A frame comes over the link. -/
def send [Store σ] (looped : Looped σ) (frame : Frame) (time : Nat) : Looped σ × List Event :=
  looped.emit time [frame] []

/-- A frame is given to the node itself. -/
def hear [Store σ] (looped : Looped σ) (frame : Frame) (time : Nat) : Looped σ × List Event :=
  let station := looped.station
  let reaction := station.node.hear station.store frame time
  { looped with station := { station with node := reaction.node, store := reaction.store } }.respond
    time reaction.events

/-- A transfer is ended on this side. -/
def abort [Store σ] (looped : Looped σ) (code : UInt32) : Looped σ × List Event :=
  let (node, events) := looped.station.node.abort code
  { looped with station := { looped.station with node := node } }.respond 0 events

/-- A line comes from the operator. -/
def answer [Store σ] (looped : Looped σ) (line : Text) :
    Looped σ × Except Fault Text × List Event :=
  let answer := looped.station.answer line
  let (looped, events) := { looped with station := answer.station }.respond 0 answer.events
  (looped, answer.reply, events)

/-- The link is started for the node. -/
def start (looped : Looped σ) (iface : Text) : Looped σ × Node.Start :=
  let start := looped.station.node.start linkName iface true
  (⟨{ looped.station with node := start.node }, .start true⟩, start)

/-- The link is stopped for the node, if it runs. -/
def stop (looped : Looped σ) : Looped σ :=
  let (node, calls) := looped.station.node.stop
  ⟨{ looped.station with node := node }, if calls = [] then looped.link else looped.link.stop⟩

end Looped

end Canopen
