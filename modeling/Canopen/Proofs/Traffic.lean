/-
**A node is a server behind a filter.**

* `Station.Input`: what reaches a station: frames of any kind, local access, and lines of orders.
* `Station.perform`, `Station.run`: one input, and several in order.
* `Station.Input.operations`: what is left of an input for the server of a node: a frame with
  another identifier is nothing to it.
* `Station.Follows`: a station does what a server does, notices apart.
* `Station.run_follows`: **a run of a station is the run of its server** on what is left of the
  inputs, by induction on them; the node counts what it passes on, and what it does not.
* `Station.answer_status`: the answer to an order for the status.
* `Station.run_refines`: **from its beginning a node refines a server**, and tells so in its status.
-/

import Mathlib.Data.List.Count
import Canopen.Proofs.Openings
import Canopen.Proofs.Reports

namespace Canopen

/-! ### Inputs -/

/-- What is left of an order for a server. -/
def Order.operations : Order → List Operation
  | .abort code => [.abort code]
  | .get target => [.upload target]
  | .set target data => [.download target data]
  | .quit | .status | .level _ => []

/-- What reaches a station. -/
inductive Station.Input
  /-- A frame from the link, at a time. -/
  | frame (frame : Frame) (time : Nat)
  /-- An entry is read locally. -/
  | get (target : Target)
  /-- An entry is written locally. -/
  | set (target : Target) (data : List UInt8)
  /-- The transfer is ended on this side. -/
  | abort (code : UInt32)
  /-- A line from the operator. -/
  | line (line : Text)
  deriving DecidableEq, Repr

/-- The frames of events depend on what is done, and on the identifier. -/
theorem Server.frames_congr {one two : Server} (same : one.sendId = two.sendId)
    {events others : List Event} (deeds : Event.deeds events = Event.deeds others) :
    one.frames events = two.frames others := by
  have framed : one.frame = two.frame := by
    funext response
    rw [frame, frame, same]
  rw [frames, frames, framed, ← Event.responses_deeds events, deeds, Event.responses_deeds]

namespace Node

variable {σ : Type} [Store σ] {node : Node} {frame : Frame}

/-- A frame with the identifier of the node's client goes to its server. -/
theorem hear_of_own (own : frame.id = node.receiveId) (store : σ) (time : Nat) :
    let reaction := node.server.receive store frame time
    node.hear store frame time =
      ⟨{ node with server := reaction.server, framesIn := node.framesIn + 1 }, reaction.store,
        reaction.events⟩ :=
  if_pos own

/-- A frame with another identifier is only counted. -/
theorem hear_of_other (other : frame.id ≠ node.receiveId) (store : σ) (time : Nat) :
    node.hear store frame time =
      ⟨{ node with framesIgnored := node.framesIgnored + 1 }, store, []⟩ :=
  if_neg other

end Node

namespace Station

namespace Input

/-- What is left of an input for the server of a node: of frames those with the identifier of its
client, and of lines the orders that are read. -/
def operations (id : UInt8) : Input → List Operation
  | .frame received time =>
    if received.id = Node.receiveIdOf id then [.frame received time] else []
  | .get target => [.upload target]
  | .set target data => [.download target data]
  | .abort code => [.abort code]
  | .line text =>
    match Order.parse text with
    | .ok order => order.operations
    | .error _ => []

/-- A frame with the identifier of the client of a node. -/
def isOwn (id : UInt8) : Input → Bool
  | .frame received _ => received.id == Node.receiveIdOf id
  | _ => false

/-- A frame with another identifier. -/
def isStray (id : UInt8) : Input → Bool
  | .frame received _ => received.id != Node.receiveIdOf id
  | _ => false

end Input

variable {σ : Type} [Store σ]

/-- One input. -/
def perform (station : Station σ) : Input → Station σ × List Event
  | .frame frame time =>
    let reaction := station.node.hear station.store frame time
    ({ station with node := reaction.node, store := reaction.store }, reaction.events)
  | .get target =>
    let call := Server.upload station.store target
    ({ station with store := call.store }, Event.ofCall call)
  | .set target data =>
    let call := Server.download station.store target data
    ({ station with store := call.store }, Event.ofCall call)
  | .abort code =>
    let (node, events) := station.node.abort code
    ({ station with node := node }, events)
  | .line line =>
    let answer := station.answer line
    (answer.station, answer.events)

/-- Several inputs in order. -/
def run (station : Station σ) : List Input → Station σ × List Event
  | [] => (station, [])
  | input :: later =>
    let first := station.perform input
    let rest := run first.1 later
    (rest.1, first.2 ++ rest.2)

/-! ### One input -/

/-- A station that did some events does what a server does, notices apart. -/
structure Follows (station : Station σ) (events : List Event) (reaction : Server.Reaction σ) :
    Prop where
  server : station.node.server = reaction.server
  store : station.store = reaction.store
  deeds : Event.deeds events = Event.deeds reaction.events

/-- An order comes to what is left of it for the server. -/
theorem obey_follows (station : Station σ) (order : Order) :
    let answer := station.obey order
    answer.station.Follows answer.events
      (station.node.server.run station.store order.operations) := by
  cases order with
  | abort code =>
    rw [Order.operations, Server.run_singleton]
    exact ⟨rfl, rfl, rfl⟩
  | get target =>
    rw [Order.operations, Server.run_singleton]
    exact ⟨rfl, rfl, rfl⟩
  | set target data =>
    rw [Order.operations, Server.run_singleton]
    exact ⟨rfl, rfl, rfl⟩
  | quit => exact ⟨rfl, rfl, rfl⟩
  | status => exact ⟨rfl, rfl, rfl⟩
  | level level => exact ⟨rfl, rfl, rfl⟩

/-- A line comes to its order, or to nothing. -/
theorem answer_follows (station : Station σ) (line : Text) :
    let answer := station.answer line
    answer.station.Follows answer.events (station.node.server.run station.store
      ((Input.line line).operations station.node.id)) := by
  intro answer
  rw [Input.operations]
  cases read : Order.parse line with
  | error complaint =>
    have quiet : answer.station = station ∧ Event.deeds answer.events = [] := by
      unfold answer Station.answer
      rw [read]
      cases complaint <;> exact ⟨rfl, rfl⟩
    rw [quiet.1]
    exact ⟨rfl, rfl, quiet.2⟩
  | ok order =>
    have carried : answer = { station.obey order with
        events := .note (.orderReceived line) :: (station.obey order).events } := by
      unfold answer Station.answer
      rw [read]
    obtain ⟨server, store, deeds⟩ := station.obey_follows order
    rw [carried]
    exact ⟨server, store, deeds⟩

/-- **One input** comes to what is left of it for the server. -/
theorem perform_follows (station : Station σ) (input : Input) :
    let reached := station.perform input
    reached.1.Follows reached.2
      (station.node.server.run station.store (input.operations station.node.id)) := by
  cases input with
  | frame frame time =>
    by_cases own : frame.id = station.node.receiveId
    · have kept : (Input.frame frame time).operations station.node.id = [.frame frame time] :=
        if_pos own
      rw [kept, Server.run_singleton, perform, Node.hear_of_own own]
      exact ⟨rfl, rfl, rfl⟩
    · have dropped : (Input.frame frame time).operations station.node.id = [] := if_neg own
      rw [dropped, perform, Node.hear_of_other own]
      exact ⟨rfl, rfl, rfl⟩
  | get target =>
    rw [Input.operations, Server.run_singleton]
    exact ⟨rfl, rfl, rfl⟩
  | set target data =>
    rw [Input.operations, Server.run_singleton]
    exact ⟨rfl, rfl, rfl⟩
  | abort code =>
    rw [Input.operations, Server.run_singleton]
    exact ⟨rfl, rfl, rfl⟩
  | line line => exact station.answer_follows line

/-- What a station has counted, and under which identifier. -/
structure Counts (station : Station σ) (id : UInt8) (framesIn framesIgnored : Nat) : Prop where
  id : station.node.id = id
  framesIn : station.node.framesIn = framesIn
  framesIgnored : station.node.framesIgnored = framesIgnored

/-- A line is not counted. -/
theorem answer_counts (station : Station σ) (line : Text) :
    (station.answer line).station.Counts station.node.id station.node.framesIn
      station.node.framesIgnored := by
  unfold answer
  cases Order.parse line with
  | error complaint => cases complaint <;> exact ⟨rfl, rfl, rfl⟩
  | ok order => cases order <;> exact ⟨rfl, rfl, rfl⟩

/-- Of inputs only frames are counted, each on one side. -/
theorem perform_counts (station : Station σ) (input : Input) :
    (station.perform input).1.Counts station.node.id
      (station.node.framesIn + (if input.isOwn station.node.id then 1 else 0))
      (station.node.framesIgnored + (if input.isStray station.node.id then 1 else 0)) := by
  cases input with
  | frame frame time =>
    by_cases own : frame.id = station.node.receiveId
    · have counted : (Input.frame frame time).isOwn station.node.id = true := beq_iff_eq.mpr own
      have same : (Input.frame frame time).isStray station.node.id = false :=
        bne_eq_false_iff_eq.mpr own
      rw [counted, same, perform, Node.hear_of_own own]
      exact ⟨rfl, rfl, rfl⟩
    · have ignored : (Input.frame frame time).isOwn station.node.id = false :=
        beq_eq_false_iff_ne.mpr own
      have other : (Input.frame frame time).isStray station.node.id = true := bne_iff_ne.mpr own
      rw [ignored, other, perform, Node.hear_of_other own]
      exact ⟨rfl, rfl, rfl⟩
  | get target => exact ⟨rfl, rfl, rfl⟩
  | set target data => exact ⟨rfl, rfl, rfl⟩
  | abort code => exact ⟨rfl, rfl, rfl⟩
  | line line => exact station.answer_counts line

/-! ### Runs -/

/-- **A run of a station is the run of its server** on what is left of the inputs. -/
theorem run_follows (station : Station σ) (inputs : List Input) :
    let reached := station.run inputs
    reached.1.Follows reached.2 (station.node.server.run station.store
      (inputs.flatMap (Input.operations station.node.id))) := by
  induction inputs generalizing station with
  | nil => exact ⟨rfl, rfl, rfl⟩
  | cons input later ih =>
    have first := station.perform_follows input
    have rest := ih (station.perform input).1
    rw [(station.perform_counts input).id, first.server, first.store] at rest
    rw [List.flatMap_cons, Server.run_append]
    refine ⟨rest.server, rest.store, ?_⟩
    show Event.deeds (_ ++ _) = Event.deeds (_ ++ _)
    rw [Event.deeds_append, Event.deeds_append, first.deeds, rest.deeds]

/-- One input alone. -/
theorem run_singleton (station : Station σ) (input : Input) :
    station.run [input] = station.perform input :=
  congrArg (Prod.mk _) (List.append_nil _)

/-- Inputs behind others begin where those have led. -/
theorem run_append (station : Station σ) (first second : List Input) :
    let reached := station.run first
    let rest := reached.1.run second
    station.run (first ++ second) = (rest.1, reached.2 ++ rest.2) := by
  induction first generalizing station with
  | nil => rfl
  | cons input later ih =>
    have rest := ih (station.perform input).1
    intro reached ended
    rw [List.cons_append, run, rest]
    exact congrArg (Prod.mk _) (List.append_assoc _ _ _).symm

/-- **A run counts its frames**, each on one side. -/
theorem run_counts (station : Station σ) (inputs : List Input) :
    (station.run inputs).1.Counts station.node.id
      (station.node.framesIn + inputs.countP (Input.isOwn station.node.id))
      (station.node.framesIgnored + inputs.countP (Input.isStray station.node.id)) := by
  induction inputs generalizing station with
  | nil => exact ⟨rfl, rfl, rfl⟩
  | cons input later ih =>
    obtain ⟨id, framesIn, framesIgnored⟩ := station.perform_counts input
    have rest := ih (station.perform input).1
    rw [id, framesIn, framesIgnored] at rest
    rw [List.countP_cons, List.countP_cons, Nat.add_comm (later.countP _),
      Nat.add_comm (later.countP _), ← Nat.add_assoc, ← Nat.add_assoc]
    exact rest

/-- **An order for the status** changes nothing, and its answer is the whole status. -/
theorem answer_status (station : Station σ) {line : Text}
    (asks : line.words.head? = some (Text.ofString "STATUS")) :
    station.answer line =
      ⟨station, .ok (Reply.text (.ok station.node.status.text)), [.note (.orderReceived line)]⟩ := by
  have read : Order.parse line = .ok .status := by
    obtain ⟨rest, words⟩ := List.head?_eq_some_iff.mp asks
    rw [Order.parse, words, Order.ofWords, if_neg (by decide), if_pos rfl]
  unfold answer
  rw [read, ← Node.statusText_eq]
  rfl

/-- **A node refines a server.** Whatever reaches a node from its beginning, its session, its store
and its frames are those of a server that is given only the frames with the identifier of the node's
client, among the same local operations. It counts these frames, and all others. An order for the
status at any point changes nothing, and the answer tells all of that, whole. -/
theorem run_refines (id : UInt8) (store : σ) (level : Level) (inputs : List Input) :
    let server := Server.new (0x580 + id.toUInt32)
    let reference := server.run store (inputs.flatMap (Input.operations id))
    let reached := Station.run ⟨.new id, store, level⟩ inputs
    reached.1.node.server = reference.server ∧ reached.1.store = reference.store ∧
      Event.deeds reached.2 = Event.deeds reference.events ∧
      reached.1.node.server.frames reached.2 = server.frames reference.events ∧
      reached.1.node.framesIn = inputs.countP (Input.isOwn id) ∧
      reached.1.node.framesIgnored = inputs.countP (Input.isStray id) ∧
      ∀ line : Text, line.words.head? = some (Text.ofString "STATUS") →
        let answer := reached.1.answer line
        let status : NodeStatus := ⟨id, reference.server.session.mode,
          reference.server.session.target, reference.server.clientAbort,
          UInt64.ofNat (inputs.countP (Input.isOwn id)),
          UInt64.ofNat (inputs.countP (Input.isStray id))⟩
        answer.station = reached.1 ∧ Event.deeds answer.events = [] ∧
          answer.reply = .ok (Text.ofString "OK " ++ status.text) ∧
          NodeStatus.read? (Text.ofString "OK " ++ status.text) = some status := by
  intro server reference reached
  obtain ⟨same, kept, deeds⟩ := run_follows ⟨.new id, store, level⟩ inputs
  obtain ⟨named, framesIn, framesIgnored⟩ := run_counts ⟨.new id, store, level⟩ inputs
  change reached.1.node.server = reference.server at same
  change reached.1.node.id = id at named
  change reached.1.node.framesIn = 0 + inputs.countP (Input.isOwn id) at framesIn
  change reached.1.node.framesIgnored = 0 + inputs.countP (Input.isStray id) at framesIgnored
  rw [Nat.zero_add] at framesIn framesIgnored
  refine ⟨same, kept, deeds, ?_, framesIn, framesIgnored, ?_⟩
  · have sends : reached.1.node.server.sendId = server.sendId :=
      (congrArg Server.sendId same).trans (Server.sendId_run server store _)
    exact Server.frames_congr sends deeds
  · intro line asks answer status
    have told : reached.1.node.status = status := by
      rw [Node.status, named, same, framesIn, framesIgnored]
    have answered : answer = ⟨reached.1, .ok (Reply.text (.ok status.text)),
        [.note (.orderReceived line)]⟩ := by
      rw [← told]
      exact reached.1.answer_status asks
    rw [answered]
    exact ⟨rfl, rfl, rfl, status.read?_reply⟩

/-- An upload is opened, a frame for another node comes by, and the transfer is ended by an order
and opened anew. -/
theorem run_refines_mixed :
    let inputs : List Input := [.frame (Request.upload ⟨0x2000, 1⟩).frame 0,
      .frame (.full 0x603 (.ofList [0x40])) 1, .line (Text.ofString "ABORT 1"),
      .frame (Request.upload ⟨0x2000, 1⟩).frame 2]
    let reached := Station.run ⟨.new 2, Dictionary.single ⟨0x2000, 1⟩ [1, 2, 3, 4, 5], .info⟩ inputs
    ∃ reply, (reached.1.answer (Text.ofString "STATUS")).reply = .ok reply ∧
      NodeStatus.read? reply = some ⟨2, .segmentedUpload, ⟨0x2000, 1⟩, 0, 2, 1⟩ := by
  intro inputs reached
  obtain ⟨-, -, -, -, -, -, answers⟩ :=
    run_refines 2 (Dictionary.single ⟨0x2000, 1⟩ [1, 2, 3, 4, 5]) .info inputs
  obtain ⟨-, -, reply, read⟩ := answers (Text.ofString "STATUS") (by decide)
  exact ⟨_, reply, read.trans (by decide)⟩

end Station

end Canopen
