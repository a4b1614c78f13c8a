/-
**The daemon: a node with a dictionary of its own, on a link, behind a control socket.**

* `Daemon.dictionary`: the dictionary it serves.
* `Daemon.boot`: the node made from its settings and put on its link.
* `Daemon.answering`: the daemon as what answers lines, which keeps the journal.
* `Daemon.start`: the daemon at its control socket, or the notices of what went wrong.
-/

import Canopen.Journal
import Canopen.Link.Bus
import Canopen.Link.Looped
import Canopen.Service
import Canopen.Settings
import Canopen.Store.Dictionary

namespace Canopen

/-- The link of a daemon. -/
inductive Attachment
  | loopback (link : Loopback)
  | bus (bus : Bus)
  deriving DecidableEq, Repr, Inhabited

/-- A running daemon. -/
structure Daemon where
  station : Station Dictionary
  attachment : Attachment
  /-- The notices that passed the threshold. -/
  journal : List Notice

namespace Daemon

/-! ### The dictionary -/

/-- An entry of the dictionary. -/
def row (index : UInt16) (subindex : UInt8) (entry : Entry) : Target × Entry :=
  (⟨index, subindex⟩, entry)

/-- An entry for a number. -/
def number (width : Nat) (name : String) (access : Access) (value : Nat) : Entry :=
  Dictionary.number width (Text.ofString name) access value

/-- The entries of a node. -/
def entries (id : UInt8) : List (Target × Entry) :=
  [row 0x1000 0 (number 4 "Device type" .readOnly 0),
    row 0x1001 0 ⟨Text.ofString "Error register", .readOnly, 1, 0, none⟩,
    row 0x1008 0 (Dictionary.string (Text.ofString "Manufacturer device name") .constant
      (Text.ofString "sdosrvd") 0),
    row 0x1017 0 (number 2 "Producer heartbeat time" .readWrite 0),
    row 0x1018 0 (number 1 "Identity: highest sub-index" .constant 4),
    row 0x1018 1 (number 4 "Identity: vendor-ID" .readOnly 0),
    row 0x1018 2 (number 4 "Identity: product code" .readOnly 0x5D0),
    row 0x1018 3 (number 4 "Identity: revision number" .readOnly 0x10000),
    row 0x1018 4 (number 4 "Identity: serial number" .readOnly id.toNat),
    row 0x2000 0 (Dictionary.string (Text.ofString "Domain") .readWrite [] 4096)]

/-- Reports every value written. -/
def witness : Observer := fun target data => ⟨[.written target data.length], none⟩

/-- The dictionary of a node. -/
def dictionary (id : UInt8) : Dictionary :=
  ((entries id).foldl (fun dictionary entry =>
    (dictionary.add entry.1 entry.2).toOption.getD dictionary) Dictionary.empty).observe witness

/-! ### Booting -/

/-- The transports that a setting can name. -/
inductive Transport
  | loopback
  | bus
  deriving DecidableEq, Repr, Inhabited

/-- The transport of a setting, and the notice if the setting is ignored. -/
def transport (setting : Option Text) : Transport × List Notice :=
  match Environment.filled setting with
  | none => (.loopback, [])
  | some name =>
    if name = Bus.linkName then (.bus, [])
    else if name = Looped.linkName then (.loopback, [])
    else (.loopback, [.transportUnknown name])

/-- The interface if nothing tells. -/
def defaultInterface : Text := Text.ofString "can0"

/-- The threshold of a setting, and the notice if the setting is ignored. An empty setting counts
as one. -/
def threshold (setting : Option Text) : Level × List Notice :=
  match setting.map Text.cut with
  | none => (.info, [])
  | some name =>
    match Level.ofName? name with
    | some level => (level, [])
    | none => (.info, [.levelInvalid name])

/-- What came of putting a node on its link. -/
structure Attached where
  node : Node
  attachment : Option Attachment
  notices : List Notice

/-- Puts a node on its link. -/
def attach (node : Node) (transport : Transport) (iface : Text) (conditions : Bus.Conditions) :
    Attached :=
  match transport with
  | .loopback =>
    let start := node.start Looped.linkName iface true
    ⟨start.node, some (.loopback (.start true)), [start.notice]⟩
  | .bus =>
    let opened := Bus.idle.start ⟨iface, [node.receiveId]⟩ true conditions
    let start := node.start Bus.linkName iface opened.bus.ready
    ⟨start.node, if opened.bus.ready then some (.bus opened.bus) else none,
      opened.notices ++ [start.notice]⟩

/-- What came of booting: the daemon unless its link refused, and the notices that passed. -/
structure Boot where
  daemon : Option Daemon
  threshold : Level
  journal : List Notice

/-- Makes the node from its settings and puts it on its link. -/
def boot (environment : Environment) (conditions : Bus.Conditions) : Boot :=
  let (level, levelNotices) := threshold environment.logLevel
  let iface := (Environment.filled environment.iface).getD defaultInterface
  let (id, idNotices) := environment.nodeIdSetting
  let named := (environment.transport.map Text.cut).getD Looped.linkName
  let (transport, transportNotices) := transport environment.transport
  let store := dictionary id
  let attached := attach (.new id) transport iface conditions
  let notices := levelNotices ++ idNotices ++ [.configuration named iface id] ++ transportNotices
    ++ [.dictionaryReady store.size] ++ attached.notices
  match attached.attachment with
  | none => ⟨none, level, Journal.admitted level (notices ++ [.nodeNotStarted])⟩
  | some attachment =>
    ⟨some ⟨⟨attached.node, store, level⟩, attachment, []⟩, level, Journal.admitted level notices⟩

/-! ### Running -/

/-- Responses go over the bus one by one. -/
def overBus (server : Server) (bus : Bus) : List Event → Bus × List Notice
  | [] => (bus, [])
  | .note notice :: rest =>
    let (bus, notices) := overBus server bus rest
    (bus, notice :: notices)
  | .send response :: rest =>
    let sending := bus.send (server.frame response)
    let refused := if sending.wire.isSome then [] else [.frameNotTaken Bus.linkName server.sendId]
    let (bus, notices) := overBus server sending.bus rest
    (bus, .responding response.encode :: sending.notices ++ refused ++ notices)
  | _ :: rest => overBus server bus rest

/-- What was done goes over the link and into the journal, under a threshold. -/
def deliver (daemon : Daemon) (threshold : Level) (time : Nat) (events : List Event) : Daemon :=
  let server := daemon.station.node.server
  let keep (notices : List Notice) := daemon.journal ++ Journal.admitted threshold notices
  match daemon.attachment with
  | .loopback link =>
    let (looped, events) := (Looped.mk daemon.station link).respond time events
    let notices := server.reports Looped.linkName looped.takesResponses events
    ⟨looped.station, .loopback looped.link, keep notices⟩
  | .bus bus =>
    let (bus, notices) := overBus server bus events
    { daemon with attachment := .bus bus, journal := keep notices }

/-- Answers a line from the operator. -/
def answering : Exchange.Answering Daemon := fun daemon line =>
  let answer := daemon.station.answer line
  ({ daemon with station := answer.station }.deliver daemon.station.level 0 answer.events,
    answer.reply.toOption)

/-- Takes the octets that one read of the bus brings. -/
def readBus (daemon : Daemon) (time : Nat) (octets : List UInt8) : Daemon :=
  match daemon.attachment with
  | .loopback _ => daemon
  | .bus bus =>
    let (bus, frame) := bus.receive octets
    let daemon := { daemon with attachment := .bus bus }
    match frame with
    | none => daemon
    | some frame =>
      let station := daemon.station
      let reaction := station.node.hear station.store frame time
      { daemon with
        station := { station with node := reaction.node, store := reaction.store } }.deliver
          station.level time reaction.events

/-- A daemon at its control socket, or what is left of one that could not start. -/
inductive Start
  | failed (places : Places) (journal : List Notice)
  | running (service : Service Daemon)

/-- Boots the daemon and sets up its control socket. -/
def start (environment : Environment) (conditions : Bus.Conditions) (places : Places) : Start :=
  let boot := boot environment conditions
  match boot.daemon with
  | none => .failed places boot.journal
  | some daemon =>
    let (path, pathNotices) := environment.fullSocketPath
    let (service, serviceNotices) := Service.start places path daemon
    let keep (notices : List Notice) := boot.journal ++ Journal.admitted boot.threshold notices
    let notices := pathNotices ++ serviceNotices
    if service.isUp then .running { service with state := { daemon with journal := keep notices } }
    else .failed service.places (keep (notices ++ [.serviceNotStarted]))

end Daemon

end Canopen
