/-
**A node on the loopback link never feeds on its own answers.**

* `Node.hear_echo`: a frame of the node's own is only counted, whatever the node is about just then.
* `Listener.offer_eq`: a listener that sends again what it hears stops when it has heard enough.
* `Looped.foldl_send_echoes`: **its own frames come back once each**, and nothing follows from them.
* `Looped.send_taken`, `Looped.send_refused`: what comes of a frame that the link takes, and of one
  that it does not.
* `Looped.Input`, `Looped.run`: what is done from outside to a node on the link.
* `Looped.delivered`: what is left of it for a node whose frames are only recorded.
* `Looped.Mirrors`: a node on the link stands as that one does, and all that the link took is
  counted. Every input keeps this (`Looped.Mirrors.perform`), and so does a run
  (`Looped.Mirrors.run`).
* `Looped.Sober`: a node on the link does not feed on its own frames.
* `Looped.run_echoes`: **from its start a node on the link does what the other one does.**
-/

import Canopen.Link.Looped
import Canopen.Proofs.Traffic

namespace Canopen

namespace Node

/-- A node sends under another identifier than it listens to. -/
theorem sendIdOf_ne_receiveIdOf (id : UInt8) : sendIdOf id ≠ receiveIdOf id := by
  intro same
  exact absurd ((UInt32.add_left_inj id.toUInt32).mp same) (by decide)

/-- **A frame of the node's own is only counted**, whatever its server and its store are. -/
theorem hear_echo {σ : Type} [Store σ] {node : Node} {frame : Frame}
    (echo : frame.id = sendIdOf node.id) (store : σ) (time : Nat) :
    node.hear store frame time =
      ⟨{ node with framesIgnored := node.framesIgnored + 1 }, store, []⟩ :=
  hear_of_other (fun own => sendIdOf_ne_receiveIdOf node.id (echo.symm.trans own)) store time

/-- The node sends under the identifier that belongs to its own. -/
def IsTuned (node : Node) : Prop :=
  node.server.sendId = sendIdOf node.id

/-- The node with another count of the frames of other identifiers, and another state of its
link. -/
def masked (node : Node) (ignored : Nat) (started : Bool) : Node :=
  { node with framesIgnored := ignored, started := started }

/-- A frame that is heard changes no identifier. -/
theorem IsTuned.hear {σ : Type} [Store σ] {node : Node} (tuned : node.IsTuned) (store : σ)
    (frame : Frame) (time : Nat) : (node.hear store frame time).node.IsTuned := by
  by_cases own : frame.id = node.receiveId
  · rw [hear_of_own own]
    exact tuned
  · rw [hear_of_other own]
    exact tuned

/-- What a node has ignored, and whether its link runs, is nothing to what it hears. Every frame is
counted once. -/
theorem hear_masked {σ : Type} [Store σ] (node : Node) (ignored : Nat) (started : Bool) (store : σ)
    (frame : Frame) (time : Nat) :
    let reaction := node.hear store frame time
    ∃ more, (node.masked ignored started).hear store frame time =
        ⟨reaction.node.masked (ignored + more) started, reaction.store, reaction.events⟩ ∧
      reaction.node.framesIn + more = node.framesIn + 1 := by
  by_cases own : frame.id = node.receiveId
  · have heard : frame.id = (node.masked ignored started).receiveId := own
    rw [hear_of_own own, hear_of_own heard]
    exact ⟨0, rfl, rfl⟩
  · have heard : frame.id ≠ (node.masked ignored started).receiveId := own
    rw [hear_of_other own, hear_of_other heard]
    exact ⟨1, rfl, rfl⟩

end Node

namespace Station

variable {σ : Type} [Store σ]

/-- The station with another count of the frames of other identifiers, and another state of its
link. -/
def masked (station : Station σ) (ignored : Nat) (started : Bool) : Station σ :=
  { station with node := station.node.masked ignored started }

theorem isTuned_run {station : Station σ} (tuned : station.node.IsTuned) (inputs : List Input) :
    (station.run inputs).1.node.IsTuned := by
  unfold Node.IsTuned
  rw [(station.run_follows inputs).server, Server.sendId_run, (station.run_counts inputs).id]
  exact tuned

/-- What a node has ignored, and whether its link runs, is nothing to what a line does. -/
theorem answer_masked (station : Station σ) (ignored : Nat) (started : Bool) (line : Text) :
    let answer := station.answer line
    let other := (station.masked ignored started).answer line
    other.station = answer.station.masked ignored started ∧ other.events = answer.events := by
  unfold answer
  cases Order.parse line with
  | error complaint => cases complaint <;> exact ⟨rfl, rfl⟩
  | ok order => cases order <;> exact ⟨rfl, rfl⟩

end Station

namespace Loopback

/-- The link carries frames. -/
def isOpen (link : Loopback) : Bool :=
  link.ready && link.heard

/-- The link with more frames sent. -/
def carry (link : Loopback) (count : Nat) : Loopback :=
  { link with sent := link.sent + count }

variable {link : Loopback} {frame : Frame}

theorem carry_carry (link : Loopback) (first second : Nat) :
    (link.carry first).carry second = link.carry (first + second) :=
  congrArg (Loopback.mk _ _) (Nat.add_assoc _ _ _)

/-- An open link takes the frames that are not too long. -/
theorem takes_eq (link : Loopback) (frame : Frame) :
    link.takes frame = (link.isOpen && !frame.isOversized) := rfl

variable {ρ : Type} {hear : Hearing ρ} {listener : ρ}

theorem send_of_not_takes (refused : link.takes frame = false) (depth : Nat) :
    send hear depth (link, listener) frame = (link, listener) := by
  cases depth with
  | zero => rfl
  | succ depth => rw [send, if_neg (Bool.eq_false_iff.mp refused)]

/-- A link that is not open carries nothing. -/
theorem foldl_send_of_not_isOpen (shut : link.isOpen = false) (depth : Nat) (frames : List Frame) :
    frames.foldl (send hear depth) (link, listener) = (link, listener) := by
  refine List.foldl_fixed' (fun frame => send_of_not_takes ?_ depth) frames
  rw [takes_eq, shut]
  rfl

end Loopback

namespace Listener

variable {link : Loopback} {frame : Frame}

/-- One frame is heard, and sent in turn if that is not enough. -/
theorem send_succ (taken : link.takes frame = true) (limit : Nat) (heard : List Frame)
    (depth : Nat) :
    Loopback.send hear (depth + 1) (link, ⟨heard, limit⟩) frame =
      if heard.length + 1 < limit then
        Loopback.send hear depth (link.carry 1, ⟨heard ++ [frame], limit⟩) frame
      else (link.carry 1, ⟨heard ++ [frame], limit⟩) := by
  rw [Loopback.send, if_pos taken]
  simp only [hear, List.length_append, List.length_singleton]
  split <;> rfl

/-- What is sent in turn is heard until it is enough, as long as the depth lets it. -/
theorem send_hear (taken : link.takes frame = true) {limit depth : Nat} (heard : List Frame)
    (deep : limit ≤ heard.length + depth) :
    let count := max 1 (limit - heard.length)
    Loopback.send hear (depth + 1) (link, ⟨heard, limit⟩) frame =
      (link.carry count, ⟨heard ++ List.replicate count frame, limit⟩) := by
  induction depth generalizing link heard with
  | zero =>
    have once : max 1 (limit - heard.length) = 1 := by omega
    rw [send_succ taken, if_neg (by omega), once]
    rfl
  | succ depth ih =>
    rw [send_succ taken]
    by_cases more : heard.length + 1 < limit
    · have length : (heard ++ [frame]).length = heard.length + 1 := List.length_append
      have count : max 1 (limit - heard.length) =
          1 + max 1 (limit - (heard ++ [frame]).length) := by
        rw [length]
        omega
      have later := @ih (link.carry 1) taken (heard ++ [frame]) (by rw [length]; omega)
      rw [if_pos more, later, count, Loopback.carry_carry, List.append_assoc,
        List.singleton_append, ← List.replicate_succ, Nat.add_comm 1]
    · have once : max 1 (limit - heard.length) = 1 := by omega
      rw [if_neg more, once]
      rfl

/-- **What is offered is heard until it is enough**: the depth of the link does not cut it short. -/
theorem offer_eq (link : Loopback) (limit : Nat) (frame : Frame) :
    offer link limit frame =
      if link.takes frame then
        (link.carry (max 1 limit), ⟨List.replicate (max 1 limit) frame, limit⟩)
      else (link, ⟨[], limit⟩) := by
  rw [offer]
  split
  · next taken =>
    exact send_hear taken [] (Nat.le_add_left _ _)
  · next refused => exact Loopback.send_of_not_takes (Bool.eq_false_iff.mpr refused) _

end Listener

namespace Looped

variable {σ : Type} [Store σ]

/-! ### Echoes -/

/-- A frame that a node with an identifier sends. -/
structure IsEcho (id : UInt8) (frame : Frame) : Prop where
  named : frame.id = Node.sendIdOf id
  fits : frame.isOversized = false

theorem isEcho_of_mem_frames {server : Server} {id : UInt8}
    (tuned : server.sendId = Node.sendIdOf id) (events : List Event) :
    ∀ frame ∈ server.frames events, IsEcho id frame := by
  intro frame member
  obtain ⟨response, -, rfl⟩ := List.mem_map.mp member
  exact ⟨tuned, rfl⟩

/-- A node that has heard more frames of its own. -/
def Ear.overhear (ear : Ear σ) (count : Nat) : Ear σ :=
  { ear with node := { ear.node with framesIgnored := ear.node.framesIgnored + count } }

/-- A frame of the node's own is only counted. -/
theorem listen_echo {ear : Ear σ} {frame : Frame} (echo : IsEcho ear.node.id frame) (time : Nat) :
    listen time ear frame = (ear.overhear 1, []) := by
  rw [listen, Node.hear_echo echo.named]
  exact congrArg (fun events => (Ear.mk _ _ events, [])) (List.append_nil ear.events)

/-- **The frames of a node come back to it once each**, and nothing follows from them, however deep
the link would go. -/
theorem foldl_send_echoes {link : Loopback} (opened : link.isOpen = true) {ear : Ear σ}
    {frames : List Frame} (echoes : ∀ frame ∈ frames, IsEcho ear.node.id frame)
    (time depth : Nat) :
    frames.foldl (Loopback.send (listen time) (depth + 1)) (link, ear) =
      (link.carry frames.length, ear.overhear frames.length) := by
  induction frames generalizing link ear with
  | nil => rfl
  | cons frame rest ih =>
    rw [List.forall_mem_cons] at echoes
    have taken : link.takes frame = true := by
      rw [Loopback.takes_eq, opened, echoes.1.fits]
      rfl
    have first : Loopback.send (listen time) (depth + 1) (link, ear) frame =
        (link.carry 1, ear.overhear 1) := by
      rw [Loopback.send, if_pos taken, listen_echo echoes.1]
      rfl
    have all : (ear.overhear 1).overhear rest.length = ear.overhear (1 + rest.length) :=
      congrArg (fun count => { ear with node := { ear.node with framesIgnored := count } })
        (Nat.add_assoc _ _ _)
    have later := @ih (link.carry 1) opened (ear.overhear 1) echoes.2
    rw [List.foldl_cons, first, later, Loopback.carry_carry, all, List.length_cons, Nat.add_comm]

/-- **A frame that the link takes** is heard, and the answers to it come back once each, however
deep the link would go. -/
theorem send_listen {link : Loopback} {frame : Frame} (taken : link.takes frame = true)
    (ear : Ear σ) (tuned : ear.node.IsTuned) (time depth : Nat) :
    let heard := listen time ear frame
    Loopback.send (listen time) (depth + echoDepth) (link, ear) frame =
      (link.carry (1 + heard.2.length), heard.1.overhear heard.2.length) := by
  intro heard
  have opened : (link.carry 1).isOpen = true := (Bool.and_eq_true_iff.mp taken).1
  have echoes : ∀ frame ∈ heard.2, IsEcho heard.1.node.id frame :=
    isEcho_of_mem_frames (tuned.hear ear.store frame time) _
  rw [echoDepth, Loopback.send, if_pos taken, ← Loopback.carry_carry]
  exact foldl_send_echoes opened echoes time depth

/-! ### What comes from outside -/

/-- What is sent over the link leaves the station where it leaves the listener. -/
theorem emit_eq {looped : Looped σ} {time : Nat} {frames : List Frame} {before : List Event}
    {link : Loopback} {ear : Ear σ}
    (ends : frames.foldl (Loopback.send (listen time) echoDepth)
      (looped.link, ⟨looped.station.node, looped.station.store, before⟩) = (link, ear)) :
    looped.emit time frames before =
      (⟨{ looped.station with node := ear.node, store := ear.store }, link⟩, ear.events) := by
  unfold emit
  simp only [ends]

/-- The station and the link after so many frames of the node's own. -/
def overhear (looped : Looped σ) (count : Nat) : Looped σ :=
  let node := looped.station.node
  ⟨{ looped.station with node := { node with framesIgnored := node.framesIgnored + count } },
    looped.link.carry count⟩

/-- **The responses of a node come back to it**, if the link is open, and nothing follows. -/
theorem respond_eq {looped : Looped σ} (tuned : looped.station.node.IsTuned) (time : Nat)
    (events : List Event) :
    let count := (looped.station.node.server.frames events).length
    looped.respond time events =
      (if looped.link.isOpen then looped.overhear count else looped, events) := by
  intro count
  cases opened : looped.link.isOpen with
  | true =>
    exact emit_eq (foldl_send_echoes opened (isEcho_of_mem_frames tuned events) time 1)
  | false => exact emit_eq (Loopback.foldl_send_of_not_isOpen opened echoDepth _)

/-- **A frame that the link takes** is heard, and the answers to it come back. -/
theorem send_taken {looped : Looped σ} (tuned : looped.station.node.IsTuned) {frame : Frame}
    (taken : looped.link.takes frame = true) (time : Nat) :
    let reaction := looped.station.node.hear looped.station.store frame time
    let heard : Looped σ := ⟨{ looped.station with node := reaction.node, store := reaction.store },
      looped.link.carry 1⟩
    looped.send frame time =
      (heard.overhear (reaction.node.server.frames reaction.events).length, reaction.events) := by
  intro reaction heard
  have sent : [frame].foldl (Loopback.send (listen time) echoDepth)
      (looped.link, ⟨looped.station.node, looped.station.store, []⟩) = _ :=
    send_listen taken ⟨_, _, []⟩ tuned time 0
  rw [← Loopback.carry_carry] at sent
  exact emit_eq sent

/-- A frame that the link does not take changes nothing. -/
theorem send_refused {looped : Looped σ} {frame : Frame}
    (refused : looped.link.takes frame = false) (time : Nat) :
    looped.send frame time = (looped, []) := by
  have sent : [frame].foldl (Loopback.send (listen time) echoDepth)
      (looped.link, ⟨looped.station.node, looped.station.store, []⟩) = _ :=
    Loopback.send_of_not_takes refused echoDepth
  exact emit_eq sent

/-! ### Runs -/

/-- What is done from outside to a node on the link. -/
inductive Input
  /-- A frame is sent over the link, at a time. -/
  | send (frame : Frame) (time : Nat)
  /-- A line comes from the operator. -/
  | line (line : Text)
  /-- The link is stopped. -/
  | stop
  deriving DecidableEq, Repr

namespace Input

/-- The link is stopped. -/
def isStop : Input → Bool
  | .stop => true
  | .send _ _ | .line _ => false

/-- What is left for a node whose frames are only recorded: of frames those that the link takes. -/
def delivered (running : Bool) : Input → List Station.Input
  | .send frame time => if running && !frame.isOversized then [.frame frame time] else []
  | .line text => [.line text]
  | .stop => []

end Input

/-- One thing done from outside. -/
def perform (looped : Looped σ) : Input → Looped σ × List Event
  | .send frame time => looped.send frame time
  | .line text =>
    let (next, _, events) := looped.answer text
    (next, events)
  | .stop => (looped.stop, [])

/-- Several things done from outside, in order. -/
def run (looped : Looped σ) : List Input → Looped σ × List Event
  | [] => (looped, [])
  | input :: later =>
    let first := looped.perform input
    let rest := run first.1 later
    (rest.1, first.2 ++ rest.2)

/-- What is left of inputs for a node whose frames are only recorded: after a stop the link takes
nothing more. -/
def delivered (running : Bool) : List Input → List Station.Input
  | [] => []
  | input :: later => input.delivered running ++ delivered (running && !input.isStop) later

/-- A node on the link stands as one whose frames are only recorded, apart from what it ignored. All
that the link took is counted by the node, on either side. -/
inductive Mirrors (reference : Station σ) (running : Bool) : Looped σ → Prop
  | mk (ignored : Nat) : Mirrors reference running
      ⟨reference.masked ignored running, ⟨running, running, reference.node.framesIn + ignored⟩⟩

namespace Mirrors

variable {reference : Station σ} {running : Bool} {looped : Looped σ}

omit [Store σ] in
theorem takes_eq (mirrors : Mirrors reference running looped) (frame : Frame) :
    looped.link.takes frame = (running && !frame.isOversized) := by
  obtain ⟨ignored⟩ := mirrors
  show (running && running && !frame.isOversized) = _
  rw [Bool.and_self]

omit [Store σ] in
theorem isTuned (mirrors : Mirrors reference running looped) (tuned : reference.node.IsTuned) :
    looped.station.node.IsTuned := by
  obtain ⟨ignored⟩ := mirrors
  exact tuned

omit [Store σ] in
/-- What the node on the link shares with the other one, and what it counts. -/
theorem shares (mirrors : Mirrors reference running looped) :
    let node := looped.station.node
    node.server = reference.node.server ∧ looped.station.store = reference.store ∧
      node.framesIn = reference.node.framesIn ∧
      looped.link.sent = node.framesIn + node.framesIgnored := by
  obtain ⟨ignored⟩ := mirrors
  exact ⟨rfl, rfl, rfl, rfl⟩

/-- A frame that the link takes is heard on both sides, and counted once with each of its
answers. -/
theorem send_taken (mirrors : Mirrors reference running looped) (tuned : reference.node.IsTuned)
    {frame : Frame} (taken : looped.link.takes frame = true) (time : Nat) :
    let followed := reference.perform (.frame frame time)
    Mirrors followed.1 running (looped.send frame time).1 ∧
      (looped.send frame time).2 = followed.2 := by
  have sent := Looped.send_taken (mirrors.isTuned tuned) taken time
  obtain ⟨ignored⟩ := mirrors
  obtain ⟨more, heard, counted⟩ :=
    reference.node.hear_masked ignored running reference.store frame time
  simp only [Station.masked, heard] at sent
  intro followed
  let reaction := reference.node.hear reference.store frame time
  let count := (reaction.node.server.frames reaction.events).length
  have all : reference.node.framesIn + ignored + 1 + count =
      reaction.node.framesIn + (ignored + more + count) := by
    have once : reaction.node.framesIn + more = reference.node.framesIn + 1 := counted
    omega
  rw [Station.masked, sent]
  refine ⟨?_, rfl⟩
  show Mirrors _ running ⟨_, ⟨running, running, reference.node.framesIn + ignored + 1 + count⟩⟩
  rw [all]
  exact .mk (ignored + more + count)

/-- A line does the same on both sides, and its answers are counted if the link is open. -/
theorem answer (mirrors : Mirrors reference running looped) (tuned : reference.node.IsTuned)
    (line : Text) :
    let followed := reference.perform (.line line)
    Mirrors followed.1 running (looped.perform (.line line)).1 ∧
      (looped.perform (.line line)).2 = followed.2 := by
  obtain ⟨ignored⟩ := mirrors
  obtain ⟨station, events⟩ := reference.answer_masked ignored running line
  have still : (reference.answer line).station.node.framesIn = reference.node.framesIn :=
    (reference.answer_counts line).framesIn
  have others : (reference.answer line).station.node.IsTuned :=
    Station.isTuned_run tuned [.line line]
  let answered : Looped σ := ⟨(reference.answer line).station.masked ignored running,
    ⟨running, running, reference.node.framesIn + ignored⟩⟩
  have performed : Looped.perform ⟨reference.masked ignored running, answered.link⟩ (.line line) =
      answered.respond 0 (reference.answer line).events := by
    show Looped.respond ⟨((reference.masked ignored running).answer line).station, _⟩ 0
      ((reference.masked ignored running).answer line).events = _
    rw [station, events]
  let count := ((reference.answer line).station.node.server.frames
    (reference.answer line).events).length
  have responded : answered.respond 0 (reference.answer line).events =
      (if answered.link.isOpen then answered.overhear count else answered,
        (reference.answer line).events) :=
    respond_eq others 0 (reference.answer line).events
  have mirrored (more : Nat) : Mirrors (reference.answer line).station running
      ⟨(reference.answer line).station.masked (ignored + more) running,
        ⟨running, running, reference.node.framesIn + ignored + more⟩⟩ := by
    rw [← still, Nat.add_assoc]
    exact .mk (ignored + more)
  intro followed
  rw [performed, responded]
  refine ⟨?_, rfl⟩
  cases running with
  | true => exact mirrored count
  | false => exact mirrored 0

/-- **Whatever is done from outside**, the node on the link keeps up with the other one. -/
theorem perform (mirrors : Mirrors reference running looped) (tuned : reference.node.IsTuned)
    (input : Input) :
    let followed := reference.run (input.delivered running)
    Mirrors followed.1 (running && !input.isStop) (looped.perform input).1 ∧
      (looped.perform input).2 = followed.2 := by
  cases input with
  | send frame time =>
    have takes := mirrors.takes_eq frame
    rw [Input.delivered, Input.isStop, Bool.not_false, Bool.and_true, ← takes, Looped.perform]
    cases taken : looped.link.takes frame with
    | true =>
      rw [if_pos rfl, Station.run_singleton]
      exact mirrors.send_taken tuned taken time
    | false =>
      rw [if_neg Bool.false_ne_true, send_refused taken time]
      exact ⟨mirrors, rfl⟩
  | line line =>
    rw [Input.delivered, Input.isStop, Bool.not_false, Bool.and_true, Station.run_singleton]
    exact mirrors.answer tuned line
  | stop =>
    obtain ⟨ignored⟩ := mirrors
    cases running with
    | true => exact ⟨.mk ignored, rfl⟩
    | false => exact ⟨.mk ignored, rfl⟩

/-- **A run of a node on the link** keeps up with a run of the other one, by induction on what is
done from outside. -/
theorem run (mirrors : Mirrors reference running looped) (tuned : reference.node.IsTuned)
    (inputs : List Input) :
    let followed := reference.run (delivered running inputs)
    Mirrors followed.1 (running && !inputs.any Input.isStop) (looped.run inputs).1 ∧
      (looped.run inputs).2 = followed.2 := by
  induction inputs generalizing reference running looped with
  | nil =>
    rw [List.any_nil, Bool.not_false, Bool.and_true]
    exact ⟨mirrors, rfl⟩
  | cons input later ih =>
    obtain ⟨first, events⟩ := mirrors.perform tuned input
    obtain ⟨rest, more⟩ := ih first (Station.isTuned_run tuned _)
    rw [delivered, Station.run_append, List.any_cons, Bool.not_or, ← Bool.and_assoc]
    refine ⟨rest, ?_⟩
    rw [Looped.run, events, more]

end Mirrors

/-- A node on the link does not feed on its own frames. -/
structure Sober (looped : Looped σ) : Prop where
  /-- A frame of its own is only counted, whatever the server and the store are just then. -/
  echo : ∀ (node : Node) (store : σ) (frame : Frame) (time : Nat),
    node.id = looped.station.node.id → frame.id = looped.station.node.server.sendId →
    node.hear store frame time =
      ⟨{ node with framesIgnored := node.framesIgnored + 1 }, store, []⟩
  /-- A frame that the link takes is heard; the answers to it come back, and are counted. -/
  taken : ∀ (frame : Frame) (time : Nat), looped.link.takes frame = true →
    let reaction := looped.station.node.hear looped.station.store frame time
    let heard : Looped σ :=
      ⟨{ looped.station with node := reaction.node, store := reaction.store }, looped.link.carry 1⟩
    looped.send frame time =
      (heard.overhear (reaction.node.server.frames reaction.events).length, reaction.events)
  /-- Any other frame counts nowhere. -/
  refused : ∀ (frame : Frame) (time : Nat), looped.link.takes frame = false →
    looped.send frame time = (looped, [])
  /-- Nothing is left to send, however deep the link would go. -/
  settled : ∀ (frame : Frame) (time depth : Nat) (events : List Event),
    let ends := (looped.link, Ear.mk looped.station.node looped.station.store events)
    Loopback.send (listen time) (depth + echoDepth) ends frame =
      Loopback.send (listen time) echoDepth ends frame

theorem sober_of_isTuned {looped : Looped σ} (tuned : looped.station.node.IsTuned) :
    looped.Sober := by
  refine ⟨?_, fun frame time taken => send_taken tuned taken time,
    fun frame time refused => send_refused refused time, ?_⟩
  · intro node store frame time same own
    refine Node.hear_echo ?_ store time
    rw [own, same]
    exact tuned
  · intro frame time depth events ends
    cases taken : looped.link.takes frame with
    | true =>
      have deep := send_listen taken ⟨_, looped.station.store, events⟩ tuned time
      exact (deep depth).trans (deep 0).symm
    | false =>
      exact (Loopback.send_of_not_takes taken _).trans (Loopback.send_of_not_takes taken _).symm

/-- **A node on the loopback link never feeds on its own answers.** Whatever is sent over the link
and ordered from its start on, the node's session and store are those of a node whose frames are
only recorded, and which is given only the frames that the link takes; so are the frames that it
sends. All frames that the link took are counted, on either side. The link takes the frames that are
not too long, until it is stopped. -/
theorem run_echoes (id : UInt8) (store : σ) (iface : Text) (inputs : List Input) :
    let reached := ((Looped.new (.new id) store).start iface).1.run inputs
    let reference := Station.run ⟨.new id, store, .info⟩ (delivered true inputs)
    let node := reached.1.station.node
    node.server = reference.1.node.server ∧ reached.1.station.store = reference.1.store ∧
      reached.2 = reference.2 ∧
      node.server.frames reached.2 = reference.1.node.server.frames reference.2 ∧
      node.framesIn = reference.1.node.framesIn ∧
      reached.1.link.sent = node.framesIn + node.framesIgnored ∧
      (∀ frame, reached.1.link.takes frame = true ↔
        inputs.any Input.isStop = false ∧ frame.length.toNat ≤ 8) ∧
      reached.1.Sober := by
  intro reached reference node
  have first : Mirrors ⟨.new id, store, .info⟩ true ((Looped.new (.new id) store).start iface).1 :=
    .mk 0
  have ready : (Node.new id).IsTuned := rfl
  obtain ⟨mirrors, events⟩ := first.run ready inputs
  obtain ⟨server, kept, framesIn, counted⟩ := mirrors.shares
  refine ⟨server, kept, events, ?_, framesIn, counted, ?_,
    sober_of_isTuned (mirrors.isTuned (Station.isTuned_run ready (delivered true inputs)))⟩
  · rw [events, server]
  · intro frame
    rw [mirrors.takes_eq, Bool.true_and, Bool.and_eq_true_iff, Bool.not_eq_true',
      Bool.not_eq_true', Frame.isOversized, decide_eq_false_iff_not, Nat.not_lt]
    exact Iff.rfl

/-- A value of five octets is uploaded over the link, among a frame that is too long, an order to
end a transfer, and a frame behind a stop. -/
theorem run_echoes_upload :
    let reached := ((Looped.new (.new 2) (Dictionary.single ⟨0x2000, 1⟩ [1, 2, 3, 4, 5])).start
      (Text.ofString "can0")).1.run
        [.send (Request.upload ⟨0x2000, 1⟩).frame 0, .send ⟨0x602, 9, .ofList [0x60]⟩ 1,
          .send (Request.uploadSegment false).frame 2, .line (Text.ofString "ABORT 1"), .stop,
          .send (Request.upload ⟨0x2000, 1⟩).frame 3]
    reached.1.link.sent = 5 ∧ reached.1.station.node.framesIn = 2 ∧ reached.1.Sober := by
  intro reached
  obtain ⟨-, -, -, -, framesIn, counted, -, sober⟩ := run_echoes 2
    (Dictionary.single ⟨0x2000, 1⟩ [1, 2, 3, 4, 5]) (Text.ofString "can0")
      [.send (Request.upload ⟨0x2000, 1⟩).frame 0, .send ⟨0x602, 9, .ofList [0x60]⟩ 1,
        .send (Request.uploadSegment false).frame 2, .line (Text.ofString "ABORT 1"), .stop,
        .send (Request.upload ⟨0x2000, 1⟩).frame 3]
  exact ⟨counted.trans (by decide), framesIn.trans (by decide), sober⟩

end Looped

end Canopen
