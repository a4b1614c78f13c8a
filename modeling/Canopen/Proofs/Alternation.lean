/-
**A link is started and stopped in turn.**

* `LinkSight`: what a link sees of a node, a start with its own answer or a stop.
* `LinkSight.Passes`: a link that runs is only stopped, and one at rest is only started.
* `LinkSight.InTurn`: a stop stands behind each start that is taken, at once, and nowhere else.
* `Station.use`, `Station.live`, `Station.life`: one use of a station, several in order, and all of
  them up to its end.
* `Station.use_passes`, `Station.live_passes`: **a node knows whether its link runs**, after one use
  and, by induction on them, after any number of uses.
* `Station.life_inTurn`: **in a whole life the link is started and stopped in turn.**
-/

import Canopen.Proofs.Traffic

namespace Canopen

/-! ### Starts and stops -/

/-- What a link sees of a node. -/
inductive LinkSight
  /-- A start on an interface, for frames of some identifiers, which the link takes or refuses. -/
  | start (iface : Text) (ids : List UInt32) (accepted : Bool)
  | stop
  deriving DecidableEq, Repr

/-- A call as the link sees it, given its answer to a start. -/
def LinkCall.seen (accepted : Bool) : LinkCall → LinkSight
  | .start iface ids => .start iface ids accepted
  | .stop => .stop

namespace LinkSight

/-- A start, whatever its answer. -/
def isStart : LinkSight → Bool
  | start _ _ _ => true
  | stop => false

/-- A start that is taken. -/
def isTaken : LinkSight → Bool
  | start _ _ accepted => accepted
  | stop => false

/-- A link that runs is only stopped, and one at rest is only started: whether it runs before all
that it sees, and after. -/
inductive Passes : Bool → List LinkSight → Bool → Prop
  | nil (running : Bool) : Passes running [] running
  | start {iface : Text} {ids : List UInt32} {accepted ends : Bool} {later : List LinkSight}
      (rest : Passes accepted later ends) : Passes false (.start iface ids accepted :: later) ends
  | stop {ends : Bool} {later : List LinkSight} (rest : Passes false later ends) :
      Passes true (.stop :: later) ends

/-- A stop stands behind each start that is taken, at once, and nowhere else. -/
structure InTurn (seen : List LinkSight) : Prop where
  stopped : ∀ before iface ids later, seen = before ++ .start iface ids true :: later →
    later.head? = some .stop
  started : ∀ before later, seen = before ++ .stop :: later →
    ∃ iface ids, before.getLast? = some (.start iface ids true)

namespace Passes

variable {first second : List LinkSight} {begins between ends : Bool}

theorem append (one : Passes begins first between) (other : Passes between second ends) :
    Passes begins (first ++ second) ends := by
  induction one with
  | nil => exact other
  | start _ ih => exact .start (ih other)
  | stop _ ih => exact .stop (ih other)

theorem split (both : Passes begins (first ++ second) ends) :
    ∃ between, Passes begins first between ∧ Passes between second ends := by
  induction first generalizing begins with
  | nil => exact ⟨begins, .nil begins, both⟩
  | cons sight first ih =>
    cases both with
    | start rest =>
      obtain ⟨between, one, other⟩ := ih rest
      exact ⟨between, .start one, other⟩
    | stop rest =>
      obtain ⟨between, one, other⟩ := ih rest
      exact ⟨between, .stop one, other⟩

/-- A link that was at rest runs exactly if the last thing that it saw is a start that it took. -/
theorem runs_iff (passes : Passes false first ends) :
    ends = true ↔ ∃ iface ids, first.getLast? = some (.start iface ids true) := by
  rcases List.eq_nil_or_concat' first with rfl | ⟨before, last, rfl⟩
  · cases passes
    exact iff_of_false nofun nofun
  · obtain ⟨between, -, other⟩ := passes.split
    rw [List.getLast?_concat]
    cases other with
    | start rest =>
      cases rest
      simp
    | stop rest =>
      cases rest
      exact iff_of_false nofun nofun

/-- **A link that is at rest in the end was started and stopped in turn.** -/
theorem inTurn (passes : Passes false first false) : InTurn first := by
  constructor
  · rintro before iface ids later rfl
    obtain ⟨between, -, other⟩ := passes.split
    cases other with
    | start rest =>
      cases rest with
      | stop => rfl
  · rintro before later rfl
    obtain ⟨between, one, other⟩ := passes.split
    cases other
    exact one.runs_iff.mp rfl

/-- There are as many stops as starts that are taken, if the link does not run before and after. -/
theorem count_stop (passes : Passes begins first ends) :
    first.count .stop + ends.toNat = first.countP isTaken + begins.toNat := by
  induction passes with
  | nil => rfl
  | @start iface ids accepted ends later rest ih =>
    have other : LinkSight.start iface ids accepted ≠ .stop := nofun
    rw [List.count_cons_of_ne other, ih, List.countP_cons]
    cases accepted <;> rfl
  | stop rest ih =>
    rw [List.count_cons_self, Nat.add_right_comm, ih]
    rfl

end Passes

end LinkSight

namespace Node

variable (node : Node)

/-- A stop leaves the link at rest, whether it ran or not. -/
theorem stop_passes :
    LinkSight.Passes node.started (node.stop.2.map (LinkCall.seen true)) false ∧
      node.stop.1.started = false := by
  unfold stop
  cases runs : node.started with
  | false => exact ⟨.nil false, runs⟩
  | true => exact ⟨.stop (.nil false), rfl⟩

/-- A start leaves the link running exactly if it takes the start. -/
theorem start_passes (link iface : Text) (accepted : Bool) :
    let start := node.start link iface accepted
    LinkSight.Passes node.started (start.calls.map (LinkCall.seen accepted)) accepted ∧
      start.node.started = accepted := by
  unfold Node.start stop
  cases runs : node.started <;> cases accepted
  · exact ⟨.start (.nil false), runs⟩
  · exact ⟨.start (.nil true), rfl⟩
  · exact ⟨.stop (.start (.nil false)), rfl⟩
  · exact ⟨.stop (.start (.nil true)), rfl⟩

/-- A start is asked for once, with the node's own identifier. -/
theorem filter_start (link iface : Text) (accepted : Bool) :
    ((node.start link iface accepted).calls.map (LinkCall.seen accepted)).filter
        LinkSight.isStart = [.start iface [node.receiveId] accepted] := by
  unfold Node.start stop
  cases node.started <;> cases accepted <;> rfl

theorem filter_stop (accepted : Bool) :
    (node.stop.2.map (LinkCall.seen accepted)).filter LinkSight.isStart = [] := by
  unfold stop
  cases node.started <;> rfl

theorem id_start (link iface : Text) (accepted : Bool) :
    (node.start link iface accepted).node.id = node.id := by
  unfold Node.start stop
  cases node.started <;> cases accepted <;> rfl

theorem id_stop : node.stop.1.id = node.id := by
  unfold stop
  cases node.started <;> rfl

end Node

/-! ### Uses -/

namespace Station

/-- What a station is used for. -/
inductive Use
  /-- Its link is started, which takes the start or refuses it. -/
  | start (link iface : Text) (accepted : Bool)
  /-- Its link is stopped. -/
  | stop
  /-- Anything else reaches it. -/
  | input (input : Input)
  deriving DecidableEq, Repr

/-- What a link is to see of a use of a node, the stops apart. -/
def Use.attempt (id : UInt8) : Use → Option LinkSight
  | start _ iface accepted => some (.start iface [Node.receiveIdOf id] accepted)
  | stop | input _ => none

variable {σ : Type} [Store σ]

/-- One use, and what the link sees of it. -/
def use (station : Station σ) : Use → Station σ × List LinkSight
  | .start link iface accepted =>
    let start := station.node.start link iface accepted
    ({ station with node := start.node }, start.calls.map (LinkCall.seen accepted))
  | .stop =>
    let (node, calls) := station.node.stop
    ({ station with node := node }, calls.map (LinkCall.seen true))
  | .input input => ((station.perform input).1, [])

/-- Several uses in order, and what the link sees of them. -/
def live (station : Station σ) : List Use → Station σ × List LinkSight
  | [] => (station, [])
  | use :: later =>
    let first := station.use use
    let rest := live first.1 later
    (rest.1, first.2 ++ rest.2)

/-- What the link sees of all uses, and of the end of the station. -/
def life (station : Station σ) (uses : List Use) : List LinkSight :=
  let ended := station.live uses
  ended.2 ++ (ended.1.use .stop).2

/-- Whatever reaches a station, its link is left alone. -/
theorem started_perform (station : Station σ) (input : Input) :
    (station.perform input).1.node.started = station.node.started := by
  cases input with
  | frame frame time =>
    by_cases own : frame.id = station.node.receiveId
    · rw [perform, Node.hear_of_own own]
    · rw [perform, Node.hear_of_other own]
  | get target => rfl
  | set target data => rfl
  | abort code => rfl
  | line line =>
    rw [perform, answer]
    cases Order.parse line with
    | error complaint => cases complaint <;> rfl
    | ok order => cases order <;> rfl

/-- **After one use** a node knows whether its link runs. -/
theorem use_passes (station : Station σ) (use : Use) :
    LinkSight.Passes station.node.started (station.use use).2
      (station.use use).1.node.started := by
  cases use with
  | start link iface accepted =>
    obtain ⟨passes, runs⟩ := station.node.start_passes link iface accepted
    have same : (station.use (.start link iface accepted)).1.node.started = accepted := runs
    rw [same]
    exact passes
  | stop =>
    obtain ⟨passes, rests⟩ := station.node.stop_passes
    have same : (station.use .stop).1.node.started = false := rests
    rw [same]
    exact passes
  | input input =>
    have kept := station.started_perform input
    show LinkSight.Passes _ [] (station.perform input).1.node.started
    rw [kept]
    exact .nil _

theorem id_use (station : Station σ) (use : Use) :
    (station.use use).1.node.id = station.node.id := by
  cases use with
  | start link iface accepted => exact station.node.id_start link iface accepted
  | stop => exact station.node.id_stop
  | input input => exact (station.perform_counts input).id

theorem filter_use (station : Station σ) (use : Use) :
    (station.use use).2.filter LinkSight.isStart = (use.attempt station.node.id).toList := by
  cases use with
  | start link iface accepted => exact station.node.filter_start link iface accepted
  | stop => exact station.node.filter_stop true
  | input input => rfl

/-! ### Lives -/

/-- **After any number of uses** a node knows whether its link runs. -/
theorem live_passes (station : Station σ) (uses : List Use) :
    LinkSight.Passes station.node.started (station.live uses).2
      (station.live uses).1.node.started := by
  induction uses generalizing station with
  | nil => exact .nil _
  | cons use later ih => exact (station.use_passes use).append (ih _)

/-- A link sees all starts in order, and each one once. -/
theorem filter_live (station : Station σ) (uses : List Use) :
    (station.live uses).2.filter LinkSight.isStart =
      uses.filterMap (Use.attempt station.node.id) := by
  induction uses generalizing station with
  | nil => rfl
  | cons use later ih =>
    rw [live, List.filter_append, station.filter_use, ih, station.id_use, List.filterMap_cons]
    cases use.attempt station.node.id <;> rfl

/-- Uses behind others begin where those have led. -/
theorem live_append (station : Station σ) (first second : List Use) :
    let reached := station.live first
    let rest := reached.1.live second
    station.live (first ++ second) = (rest.1, reached.2 ++ rest.2) := by
  induction first generalizing station with
  | nil => rfl
  | cons use later ih =>
    intro reached rest
    rw [List.cons_append, live, ih]
    exact congrArg (Prod.mk _) (List.append_assoc _ _ _).symm

theorem live_singleton (station : Station σ) (use : Use) : station.live [use] = station.use use :=
  congrArg (Prod.mk _) (List.append_nil _)

/-- The end of a station is one more stop. -/
theorem life_eq (station : Station σ) (uses : List Use) :
    station.life uses = (station.live (uses ++ [.stop])).2 := by
  rw [live_append, live_singleton]
  rfl

theorem started_live_stop (station : Station σ) (uses : List Use) :
    (station.live (uses ++ [.stop])).1.node.started = false := by
  rw [live_append, live_singleton]
  exact (station.live uses).1.node.stop_passes.2

theorem started_live_refused (station : Station σ) (uses : List Use) (link iface : Text) :
    (station.live (uses ++ [.start link iface false])).1.node.started = false := by
  rw [live_append, live_singleton]
  exact ((station.live uses).1.node.start_passes link iface false).2

/-- **In a whole life the link is started and stopped in turn.** Whatever a node is used for, its
link sees each attempt to start it, with the identifier of the node's client; a stop behind each one
that it takes, before it sees anything else and in the end at the latest; and no other stop. At any
time the node takes itself for started exactly if the last thing that the link saw is a start that
it took, and a start that is refused leaves both at rest. -/
theorem life_inTurn (id : UInt8) (store : σ) (level : Level) (uses : List Use) :
    let station : Station σ := ⟨.new id, store, level⟩
    let seen := station.life uses
    let reached := station.live uses
    LinkSight.InTurn seen ∧
      seen.count .stop = seen.countP LinkSight.isTaken ∧
      seen.filter LinkSight.isStart = uses.filterMap (Use.attempt id) ∧
      (reached.1.node.started = true ↔
        ∃ iface ids, reached.2.getLast? = some (.start iface ids true)) ∧
      ∀ link iface, let refused := station.live (uses ++ [.start link iface false])
        refused.1.node.started = false ∧ LinkSight.InTurn refused.2 := by
  intro station seen reached
  have ended : LinkSight.Passes false seen false := by
    have passes := station.live_passes (uses ++ [.stop])
    rw [station.started_live_stop, ← station.life_eq] at passes
    exact passes
  refine ⟨ended.inTurn, ended.count_stop, ?_, (station.live_passes uses).runs_iff, ?_⟩
  · have starts := station.filter_live (uses ++ [.stop])
    rw [List.filterMap_append] at starts
    exact (congrArg _ (station.life_eq uses)).trans (starts.trans (List.append_nil _))
  · intro link iface refused
    have rests := station.started_live_refused uses link iface
    have passes := station.live_passes (uses ++ [.start link iface false])
    rw [rests] at passes
    exact ⟨rests, passes.inTurn⟩

end Station

end Canopen
