/-
**A service at its socket.**

* `Service.start`: the socket set up.
* `Service.connect`: a peer that sends octets and waits for what comes back.
* `Service.request`: a client with one line, from its checks to the line that comes back.

The socket is there exactly as long as the service is.
-/

import Canopen.Exchange
import Canopen.Places

namespace Canopen

/-- A service, and the tree its socket is in. -/
structure Service (κ : Type) where
  places : Places
  /-- The place of the socket, while the service is up. -/
  place : Option Place
  state : κ

namespace Service

variable {κ : Type}

/-- Sets a service up at a path. -/
def start (places : Places) (path : Text) (state : κ) : Service κ × List Notice :=
  match places.listen path with
  | (places, .error notice) => (⟨places, none, state⟩, [notice])
  | (places, .ok place) => (⟨places, some place, state⟩, [.listening path])

/-- The service is up. -/
def isUp (service : Service κ) : Bool := service.place.isSome

/-- The service with its socket taken away. -/
def stop (service : Service κ) : Service κ :=
  match service.place with
  | some place => { service with places := service.places.clear place, place := none }
  | none => service

/-- Something is at a path. -/
def exists? (service : Service κ) (path : Text) : Bool := (service.places.find? path).isSome

/-- A peer at the service sends octets, closes its side and reads what comes back. -/
def take (answering : Exchange.Answering κ) (service : Service κ) (octets : List UInt8) :
    Service κ × Option (List UInt8) :=
  let connection := Exchange.connect answering service.state [octets]
  let service := { service with state := connection.state }
  (if connection.goesOn then service else service.stop, connection.sent)

/-- A peer sends octets to a path; nothing comes back if nobody is there. -/
def connect (answering : Exchange.Answering κ) (service : Service κ) (path : Text)
    (octets : List UInt8) : Service κ × Option (List UInt8) :=
  match service.places.reach path with
  | .ok () => service.take answering octets
  | .error _ => (service, none)

/-- What came of a request. -/
structure Asked where
  /-- The line that came back. -/
  reply : Option Text
  notices : List Notice
  deriving DecidableEq, Repr

/-- A client sends a line to a path. -/
def request (answering : Exchange.Answering κ) (service : Service κ) (path line : Text) :
    Service κ × Asked :=
  match service.places.contact path line with
  | .error notice => (service, ⟨none, [notice]⟩)
  | .ok () =>
    let (service, sent) := service.take answering (Exchange.request line)
    (service, ⟨some (Exchange.lineOf (sent.getD [])), [.sendingLine line]⟩)

end Service

end Canopen
