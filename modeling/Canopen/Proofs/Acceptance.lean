/-
**Which reads of a bus are handled as requests of a node.**

* `Bus.identifier`: the identifier that octets have on the bus, eleven bits or 29.
* `Bus.Passes`: what a filter of the system lets through.
* `Bus.standard_of_passes`: **with a filter only standard identifiers are read**, and only wanted
  ones; `Bus.standard_of_filters` says so of a bus that is started.
* `Bus.request?`: the request of a node in octets: a data frame with the right lower eleven bits.
* `Daemon.Handles`: a node has handled some requests, and nothing else. A read keeps to its request
  (`Daemon.readBus_handles`), and so do many (`Daemon.readAll_handles`).
* `Daemon.readAll_accepts`: **the requests of a node are the data frames with its lower eleven
  bits**. With a filter in force these are standard frames with its identifier; with none an
  extended identifier is as good.
-/

import Canopen.Daemon
import Canopen.Proofs.Traffic
import Canopen.Proofs.Wire

namespace Canopen

namespace Bus

/-! ### Identifiers on the bus -/

/-- The octets are those of a frame with an extended identifier. -/
def isExtended (octets : List UInt8) : Bool := word octets &&& extendedFlag != 0

/-- The bits of an extended identifier. -/
def extendedMask : UInt32 := 0x1FFFFFFF

/-- The identifier on the bus: all 29 bits of an extended one. -/
def identifier (octets : List UInt8) : UInt32 :=
  word octets &&& if isExtended octets then extendedMask else standardMask

instance : DecidablePred IsData := fun octets =>
  decidable_of_iff
    (wireSize ≤ octets.length ∧ word octets &&& errorFlag = 0 ∧ word octets &&& remoteFlag = 0 ∧
      (octets.getD 4 0).toNat ≤ Frame.capacity)
    ⟨fun ⟨whole, noError, noRemote, short⟩ => ⟨whole, noError, noRemote, short⟩,
      fun ⟨whole, noError, noRemote, short⟩ => ⟨whole, noError, noRemote, short⟩⟩

variable {octets : List UInt8}

/-- What is decoded, read by read. -/
theorem decode?_eq (octets : List UInt8) :
    decode? octets = if IsData octets then some (frameOf octets) else none := by
  split
  · next data => exact decode?_of_isData data
  · next other =>
    refine Option.eq_none_iff_forall_ne_some.mpr fun frame decoded => ?_
    exact other (decode?_eq_some_iff.mp decoded).1

/-- A frame that is heard has the lower eleven bits of the identifier on the bus. -/
theorem frameOf_id (octets : List UInt8) :
    (frameOf octets).id = wireId (identifier octets) := by
  show wireId (word octets) = _
  rw [identifier, wireId, wireId, UInt32.and_assoc]
  split
  · exact congrArg (word octets &&& ·)
      (show standardMask = extendedMask &&& standardMask by decide)
  · rw [UInt32.and_self]

/-- An identifier that is not extended is heard as it is on the bus. -/
theorem frameOf_id_of_standard (standard : isExtended octets = false) :
    (frameOf octets).id = identifier octets := by
  rw [frameOf_id, identifier, standard]
  exact wireId_wireId (word octets)

/-! ### The filter of the system -/

/-- Octets pass the filters of the system: there is none, or one of them has the word of the octets
in the bits of its mask. Octets that are no whole frame have no word. -/
def Passes (filters : List (UInt32 × UInt32)) (octets : List UInt8) : Prop :=
  wireSize ≤ octets.length →
    filters = [] ∨ ∃ filter ∈ filters, word octets &&& filter.2 = filter.1 &&& filter.2

/-- Words that agree under a mask agree in every part of it. -/
theorem and_eq_of_agree {one other mask part : UInt32} (within : mask &&& part = part)
    (agree : one &&& mask = other &&& mask) : one &&& part = other &&& part := by
  rw [← within, ← UInt32.and_assoc, agree, UInt32.and_assoc]

/-- **With a filter only standard identifiers are read**, and only those that are wanted. -/
theorem standard_of_passes {ids : List UInt32} (wanted : ids ≠ [])
    (passes : Passes (ids.map filterFor) octets) (whole : wireSize ≤ octets.length) :
    isExtended octets = false ∧ identifier octets ∈ ids.map wireId := by
  rcases passes whole with unfiltered | ⟨filter, listed, agree⟩
  · exact absurd (List.map_eq_nil_iff.mp unfiltered) wanted
  obtain ⟨id, mem, rfl⟩ := List.mem_map.mp listed
  have marked : word octets &&& extendedFlag = wireId id &&& extendedFlag :=
    and_eq_of_agree (show (standardMask ||| extendedFlag ||| remoteFlag) &&& extendedFlag = _ by
      decide) agree
  have standard : isExtended octets = false := by
    rw [isExtended, marked, wireId_and_eq_zero id (by decide), bne_self_eq_false]
  refine ⟨standard, List.mem_map.mpr ⟨id, mem, ?_⟩⟩
  have lower : word octets &&& standardMask = wireId id &&& standardMask :=
    and_eq_of_agree (show (standardMask ||| extendedFlag ||| remoteFlag) &&& standardMask = _ by
      decide) agree
  rw [identifier, standard]
  exact (lower.trans (wireId_wireId id)).symm

section Started

variable {before : Bus} {settings : Settings} {heard : Bool} {conditions : Conditions}

/-- A started bus has no filters if no identifiers are wanted, and if the system refuses them. -/
theorem filters_eq_nil_iff (started : (before.start settings heard conditions).bus.ready = true) :
    (before.start settings heard conditions).filters = [] ↔
      settings.receiveIds = [] ∨ conditions.filter.isSome = true := by
  rw [(start_of_ready started).2]
  split
  · next refused => exact iff_of_true rfl (Or.inr refused)
  · next taken => rw [List.map_eq_nil_iff, or_iff_left taken]

/-- **A started bus with filters reads only standard identifiers**, and only those that are
wanted. -/
theorem standard_of_filters (started : (before.start settings heard conditions).bus.ready = true)
    (passes : Passes (before.start settings heard conditions).filters octets)
    (force : (before.start settings heard conditions).filters ≠ [])
    (whole : wireSize ≤ octets.length) :
    isExtended octets = false ∧ identifier octets ∈ settings.receiveIds.map wireId := by
  obtain ⟨wanted, taken⟩ := not_or.mp (mt (filters_eq_nil_iff started).mpr force)
  rw [(start_of_ready started).2, if_neg taken] at passes
  exact standard_of_passes wanted passes whole

end Started

/-- The frames that a bus hears among reads. -/
theorem heard_run_reads {bus : Bus} (listens : bus.Listens) (reads : List (List UInt8)) :
    (bus.run (reads.map .read)).heard = (reads.filter (IsData ·)).map frameOf := by
  have only : Input.reads (reads.map .read) = reads := by
    rw [Input.reads, List.filterMap_map]
    exact List.filterMap_some
  rw [(run_tallies listens _).heard, only, ← List.filterMap_eq_map, List.filterMap_filter]
  refine List.filterMap_congr fun octets _ => ?_
  rw [decode?_eq]
  simp only [decide_eq_true_eq, Function.comp_apply]

/-! ### Requests -/

/-- The request of a node that a read at a time brings: a data frame with the lower eleven bits of
the identifier of its client's frames. -/
def request? (id : UInt8) (read : Nat × List UInt8) : Option Operation :=
  if IsData read.2 ∧ wireId (identifier read.2) = Node.receiveIdOf id then
    some (.frame (frameOf read.2) read.1)
  else none

/-- A bus listens on whether a frame is sent or not. -/
theorem send_listens {bus : Bus} (listens : bus.Listens) (frame : Frame) :
    (bus.send frame).bus.Listens := by
  rcases bus.send_cases frame with ⟨kept, -⟩ | ⟨counted, -⟩
  · rw [kept]
    exact listens
  · rw [counted]
    exact ⟨listens.ready, listens.heard⟩

/-- A bus listens on behind a read. -/
theorem receive_listens {bus : Bus} (listens : bus.Listens) (octets : List UInt8) :
    (bus.receive octets).1.Listens :=
  (perform_tallies listens (.read octets)).listens

end Bus

namespace Daemon

/-! ### What a daemon reads -/

/-- Several reads of the bus in order, each at its time. -/
def readAll (daemon : Daemon) (reads : List (Nat × List UInt8)) : Daemon :=
  reads.foldl (fun daemon read => daemon.readBus read.1 read.2) daemon

/-- The daemon is on a bus that is started and heard. -/
def Hears (daemon : Daemon) : Prop :=
  ∃ bus, daemon.attachment = .bus bus ∧ bus.Listens

/-- A bus listens on behind responses. -/
theorem overBus_listens (server : Server) {bus : Bus} (listens : bus.Listens)
    (events : List Event) : (overBus server bus events).1.Listens := by
  induction events generalizing bus with
  | nil => exact listens
  | cons event rest ih =>
    cases event with
    | send response => exact ih (Bus.send_listens listens (server.frame response))
    | _ => exact ih listens

/-- The daemon has become `reached`: its server has done just the requests, each of them is counted,
and its bus is still heard. -/
structure Handles (daemon : Daemon) (requests : List Operation) (reached : Daemon) : Prop where
  hears : reached.Hears
  id : reached.station.node.id = daemon.station.node.id
  server : reached.station.node.server =
    (daemon.station.node.server.run daemon.station.store requests).server
  store : reached.station.store =
    (daemon.station.node.server.run daemon.station.store requests).store
  framesIn : reached.station.node.framesIn = daemon.station.node.framesIn + requests.length

variable {daemon : Daemon}

/-- A read that is no data frame changes nothing but the counters of the bus. -/
theorem readBus_of_not_isData {bus : Bus} (attached : daemon.attachment = .bus bus)
    (listens : bus.Listens) (time : Nat) {octets : List UInt8} (other : ¬Bus.IsData octets) :
    daemon.readBus time octets = { daemon with attachment := .bus (bus.receive octets).1 } := by
  have silent : (bus.receive octets).2 = none := by
    rw [Bus.receive_heard listens, Bus.decode?_eq, if_neg other]
  rw [readBus, attached]
  simp only [silent]

/-- A data frame goes to the node, and what the node does about it over the bus. -/
theorem readBus_of_isData {bus : Bus} (attached : daemon.attachment = .bus bus)
    (listens : bus.Listens) (time : Nat) {octets : List UInt8} (data : Bus.IsData octets) :
    let station := daemon.station
    let reaction := station.node.hear station.store (Bus.frameOf octets) time
    let reached := daemon.readBus time octets
    reached.station = { station with node := reaction.node, store := reaction.store } ∧
      reached.Hears := by
  have heard : (bus.receive octets).2 = some (Bus.frameOf octets) := by
    rw [Bus.receive_heard listens, Bus.decode?_of_isData data]
  rw [readBus, attached]
  simp only [heard]
  refine ⟨rfl, _, rfl, ?_⟩
  exact overBus_listens _ (Bus.receive_listens listens octets) _

/-- **A read comes to the request in it**, if there is one. -/
theorem readBus_handles (hears : daemon.Hears) (read : Nat × List UInt8) :
    daemon.Handles (Bus.request? daemon.station.node.id read).toList
      (daemon.readBus read.1 read.2) := by
  obtain ⟨bus, attached, listens⟩ := hears
  by_cases data : Bus.IsData read.2
  · obtain ⟨station, hears⟩ := readBus_of_isData attached listens read.1 data
    by_cases own : (Bus.frameOf read.2).id = daemon.station.node.receiveId
    · have asked : Bus.request? daemon.station.node.id read =
          some (.frame (Bus.frameOf read.2) read.1) :=
        if_pos ⟨data, (Bus.frameOf_id read.2).symm.trans own⟩
      rw [Node.hear_of_own own] at station
      rw [asked, Option.toList_some]
      refine ⟨hears, ?_, ?_, ?_, ?_⟩
      · rw [station]
      · rw [station, Server.run_singleton]
        rfl
      · rw [station, Server.run_singleton]
        rfl
      · rw [station]
        rfl
    · have dropped : Bus.request? daemon.station.node.id read = none :=
        if_neg fun asked => own ((Bus.frameOf_id read.2).trans asked.2)
      rw [Node.hear_of_other own] at station
      rw [dropped, Option.toList_none]
      refine ⟨hears, ?_, ?_, ?_, ?_⟩ <;> rw [station] <;> rfl
  · have dropped : Bus.request? daemon.station.node.id read = none :=
      if_neg fun asked => data asked.1
    rw [dropped, Option.toList_none, readBus_of_not_isData attached listens read.1 data]
    exact ⟨⟨_, rfl, Bus.receive_listens listens read.2⟩, rfl, rfl, rfl, rfl⟩

/-- **Reads come to the requests in them**, by induction on the reads. -/
theorem readAll_handles (hears : daemon.Hears) (reads : List (Nat × List UInt8)) :
    daemon.Handles (reads.filterMap (Bus.request? daemon.station.node.id))
      (daemon.readAll reads) := by
  induction reads generalizing daemon with
  | nil => exact ⟨hears, rfl, rfl, rfl, rfl⟩
  | cons read later ih =>
    have first := readBus_handles hears read
    have rest := ih first.hears
    have split : (read :: later).filterMap (Bus.request? daemon.station.node.id) =
        (Bus.request? daemon.station.node.id read).toList ++
          later.filterMap (Bus.request? daemon.station.node.id) := by
      rw [List.filterMap_cons]
      cases Bus.request? daemon.station.node.id read <;> rfl
    rw [first.id] at rest
    rw [split]
    refine ⟨rest.hears, rest.id.trans first.id, ?_, ?_, ?_⟩
    · rw [Server.run_append, ← first.server, ← first.store]
      exact rest.server
    · rw [Server.run_append, ← first.server, ← first.store]
      exact rest.store
    · rw [List.length_append, ← Nat.add_assoc, ← first.framesIn]
      exact rest.framesIn

/-- **The requests of a node are the data frames with its lower eleven bits.** Whatever is read of a
bus that is started, and passes the filters in force, the listener gets just the data frames, in
order. There are no filters if no identifiers are wanted, and if the system refuses them. With
filters every frame has a standard identifier, which is wanted, and the listener gets it as it is.
Without them frames with an extended identifier come with its lower eleven bits, which a node cannot
tell from its own: it serves what comes with them as a request. A node on the bus has done just its
requests, and counted them. -/
theorem readAll_accepts {before : Bus} {settings : Bus.Settings} {conditions : Bus.Conditions}
    (started : (before.start settings true conditions).bus.ready = true)
    (station : Station Dictionary) (journal : List Notice) (reads : List (Nat × List UInt8))
    (passed : ∀ read ∈ reads,
      Bus.Passes (before.start settings true conditions).filters read.2) :
    let opened := before.start settings true conditions
    let node := station.node
    let requests := reads.filterMap (Bus.request? node.id)
    let reference := node.server.run station.store requests
    let reached := (Daemon.mk station (.bus opened.bus) journal).readAll reads
    (opened.bus.run (reads.map (.read ·.2))).heard =
        ((reads.map Prod.snd).filter (Bus.IsData ·)).map Bus.frameOf ∧
      (opened.filters = [] ↔ settings.receiveIds = [] ∨ conditions.filter.isSome = true) ∧
      (∀ read ∈ reads, Bus.IsData read.2 →
        (Bus.frameOf read.2).id = Bus.wireId (Bus.identifier read.2) ∧
        (Bus.isExtended read.2 = false → (Bus.frameOf read.2).id = Bus.identifier read.2) ∧
        (opened.filters ≠ [] → Bus.isExtended read.2 = false ∧
          Bus.identifier read.2 ∈ settings.receiveIds.map Bus.wireId)) ∧
      (∀ read ∈ reads, Bus.isExtended read.2 = true →
        ((Bus.request? node.id read).isSome = true ↔ opened.filters = [] ∧ Bus.IsData read.2 ∧
          Bus.wireId (Bus.identifier read.2) = Node.receiveIdOf node.id)) ∧
      reached.station.node.server = reference.server ∧ reached.station.store = reference.store ∧
      reached.station.node.framesIn = node.framesIn + requests.length := by
  intro opened node requests reference reached
  have listens : opened.bus.Listens :=
    ⟨started, congrArg Bus.heard (Bus.start_of_ready started).1⟩
  have handles := @readAll_handles ⟨station, .bus opened.bus, journal⟩
    ⟨opened.bus, rfl, listens⟩ reads
  have filtered (read) (mem : read ∈ reads) (data : Bus.IsData read.2)
      (force : opened.filters ≠ []) : Bus.isExtended read.2 = false ∧
        Bus.identifier read.2 ∈ settings.receiveIds.map Bus.wireId :=
    Bus.standard_of_filters started (passed read mem) force data.whole
  refine ⟨?_, Bus.filters_eq_nil_iff started, ?_, ?_, handles.server, handles.store,
    handles.framesIn⟩
  · rw [← Bus.heard_run_reads listens, List.map_map]
    rfl
  · exact fun read mem data => ⟨Bus.frameOf_id read.2, Bus.frameOf_id_of_standard,
      filtered read mem data⟩
  · intro read mem extended
    rw [Bus.request?, Option.isSome_ite]
    refine ⟨fun ⟨data, own⟩ => ⟨?_, data, own⟩, And.right⟩
    by_contra force
    exact Bool.false_ne_true ((filtered read mem data force).1.symm.trans extended)

/-- The octets of a frame with the extended identifier `0x18000601` that asks for an upload. -/
def extendedUpload : List UInt8 :=
  Octets.of32 0x98000601 ++ [8, 0, 0, 0, 0x40, 0, 0x20, 1, 0, 0, 0, 0]

/-- With the filter refused, a frame with the identifier `0x18000601` opens an upload at node 1. -/
theorem readAll_accepts_extended :
    let settings : Bus.Settings := ⟨Text.ofString "can0", [0x601]⟩
    let conditions : Bus.Conditions := ⟨none, .ok 3, some .invalidArgument, none⟩
    let opened := Bus.idle.start settings true conditions
    let station : Station Dictionary :=
      ⟨.new 1, Dictionary.single ⟨0x2000, 1⟩ [1, 2, 3, 4, 5], .info⟩
    let daemon : Daemon := ⟨station, .bus opened.bus, []⟩
    Bus.identifier extendedUpload = 0x18000601 ∧
      (daemon.readAll [(0, extendedUpload)]).station.node.framesIn = 1 ∧
      (daemon.readAll [(0, extendedUpload)]).station.node.server.session.mode = .segmentedUpload ∧
      (daemon.readAll [(0, extendedUpload)]).station.node.server.session.target = ⟨0x2000, 1⟩ := by
  intro settings conditions opened station daemon
  have asked : [(0, extendedUpload)].filterMap (Bus.request? 1) =
      [.frame (.full 0x601 (.ofList [0x40, 0, 0x20, 1])) 0] := by decide
  obtain ⟨-, -, -, -, server, -, counted⟩ :=
    @readAll_accepts Bus.idle settings conditions (by decide) station [] [(0, extendedUpload)]
      fun _ _ _ => Or.inl rfl
  change _ = (Server.run _ _ ([(0, extendedUpload)].filterMap (Bus.request? 1))).server at server
  change _ = 0 + ([(0, extendedUpload)].filterMap (Bus.request? 1)).length at counted
  rw [asked] at server counted
  refine ⟨by decide, counted, ?_, ?_⟩
  · rw [server]
    decide
  · rw [server]
    decide

/-- With the filter refused, not every frame that is heard has the identifier that it had on the
bus. -/
theorem readAll_not_always_standard :
    ¬ ∀ (settings : Bus.Settings) (conditions : Bus.Conditions) (reads : List (List UInt8)),
        let opened := Bus.idle.start settings true conditions
        opened.bus.ready = true → (∀ octets ∈ reads, Bus.Passes opened.filters octets) →
          ∀ frame ∈ (opened.bus.run (reads.map .read)).heard, ∃ octets ∈ reads,
            Bus.IsData octets ∧ Bus.isExtended octets = false ∧
              frame.id = Bus.identifier octets := by
  intro always
  obtain ⟨found, mem, -, plain, -⟩ := always ⟨Text.ofString "can0", [0x601]⟩
    ⟨none, .ok 3, some .invalidArgument, none⟩ [extendedUpload] (by decide)
    (fun _ _ _ => Or.inl rfl) (Bus.frameOf extendedUpload) (by decide)
  rw [List.mem_singleton.mp mem] at plain
  exact absurd plain (by decide)

end Daemon

end Canopen
