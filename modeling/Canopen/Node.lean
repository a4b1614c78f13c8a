/-
**A node: one SDO server channel on a link.**

* `Node.hear`: a frame from the link. One with another identifier than the client's is only
  counted, so what the node itself sends is never a request.
* `Node.start`, `Node.stop`: what the node asks of its link, which it starts and stops in turn.
* `NodeStatus`: what an operator is told about a node; its counters are words.
* `Node.statusText`: that in one line, as far as there is room for it.
-/

import Canopen.Server

namespace Canopen

/-- A node. -/
structure Node where
  id : UInt8
  server : Server
  /-- The frames handled. -/
  framesIn : Nat
  /-- The frames of other identifiers. -/
  framesIgnored : Nat
  /-- The link runs. -/
  started : Bool
  deriving DecidableEq, Repr, Inhabited

/-- What a node asks of its link. -/
inductive LinkCall
  /-- Start on an interface, for frames of some identifiers. -/
  | start (iface : Text) (ids : List UInt32)
  | stop
  deriving DecidableEq, Repr

namespace Node

/-- The identifier of the client's frames to node zero. -/
def receiveBase : UInt32 := 0x600

/-- The identifier of the frames of node zero. -/
def sendBase : UInt32 := 0x580

/-- The identifier of frames to a node. -/
def receiveIdOf (id : UInt8) : UInt32 := receiveBase + id.toUInt32

/-- The identifier of frames from a node. -/
def sendIdOf (id : UInt8) : UInt32 := sendBase + id.toUInt32

/-- The identifier of the client's frames. -/
def receiveId (node : Node) : UInt32 := receiveIdOf node.id

/-- A node before any frame, its link at rest. -/
def new (id : UInt8) : Node := ⟨id, .new (sendIdOf id), 0, 0, false⟩

/-! ### Frames -/

/-- The node and its store after a frame, and what was done. -/
structure Reaction (σ : Type) where
  node : Node
  store : σ
  events : List Event

/-- Hears a frame at a time. -/
def hear {σ : Type} [Store σ] (node : Node) (store : σ) (frame : Frame) (time : Nat) :
    Reaction σ :=
  if frame.id = node.receiveId then
    let reaction := node.server.receive store frame time
    ⟨{ node with server := reaction.server, framesIn := node.framesIn + 1 },
      reaction.store, reaction.events⟩
  else ⟨{ node with framesIgnored := node.framesIgnored + 1 }, store, []⟩

/-- Ends a transfer on this side. -/
def abort (node : Node) (code : UInt32) : Node × List Event :=
  let (server, events) := node.server.abort code
  ({ node with server := server }, events)

/-! ### The link -/

/-- The node with its link stopped, and what is asked of the link. -/
def stop (node : Node) : Node × List LinkCall :=
  if node.started then ({ node with started := false }, [.stop]) else (node, [])

/-- What came of starting a link. -/
structure Start where
  node : Node
  calls : List LinkCall
  notice : Notice

/-- Starts the link anew, which may refuse. -/
def start (node : Node) (link iface : Text) (accepted : Bool) : Start :=
  let (stopped, calls) := node.stop
  let calls := calls ++ [.start iface [node.receiveId]]
  if accepted then
    ⟨{ stopped with started := true }, calls,
      .serving node.id link node.receiveId node.server.sendId⟩
  else ⟨stopped, calls, .linkNotStarted link iface⟩

end Node

/-! ### The status -/

/-- What an operator is told about a node. -/
structure NodeStatus where
  id : UInt8
  mode : Mode
  target : Target
  clientAbort : UInt32
  framesIn : UInt64
  framesIgnored : UInt64
  deriving DecidableEq, Repr

namespace NodeStatus

/-- The figures with their labels. -/
def figures (status : NodeStatus) : List Text :=
  let labelled (label : String) (figure : Text) : Text := Text.ofString label ++ figure
  [labelled "node=" (Text.decimal status.id.toNat),
    labelled "mode=" (Text.ofString status.mode.name),
    labelled "target=" status.target.text,
    labelled "last_abort=0x" (Text.hexadecimal 8 status.clientAbort.toNat),
    labelled "rx=" (Text.decimal status.framesIn.toNat),
    labelled "ignored=" (Text.decimal status.framesIgnored.toNat)]

/-- The figures in one line. -/
def text (status : NodeStatus) : Text :=
  (Text.ofString " ").intercalate status.figures

end NodeStatus

namespace Node

/-- What an operator is told about the node. -/
def status (node : Node) : NodeStatus where
  id := node.id
  mode := node.server.session.mode
  target := node.server.session.target
  clientAbort := node.server.clientAbort
  framesIn := UInt64.ofNat node.framesIn
  framesIgnored := UInt64.ofNat node.framesIgnored

/-- The room for a status in the buffer of 160 octets for its line, behind `OK` and a blank, before
a NUL. -/
def statusCapacity : Nat := 156

/-- The state of a node in one line. -/
def statusText (node : Node) : Text :=
  node.status.text.take statusCapacity

end Node

end Canopen
