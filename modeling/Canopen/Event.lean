/-
**What a server does, in order.**

* `Event`: a call on the store, a value shown to an observer, a notice, or a response.
* `Event.responses`, `Event.sightings`: the responses and the values shown among events.
-/

import Canopen.Message.Response
import Canopen.Store.Basic

namespace Canopen

/-- Something that a server does. -/
inductive Event
  /-- Reads an entry for a client. -/
  | read (target : Target)
  /-- Writes an entry for a client. -/
  | write (target : Target) (data : List UInt8)
  /-- Lets an observer see a value. -/
  | observed (observed : Observed)
  /-- Reports to the operator. -/
  | note (notice : Notice)
  /-- Responds to the client. -/
  | send (response : Response)
  deriving DecidableEq, Repr

namespace Event

/-- The response that an event is. -/
def response? : Event → Option Response
  | send response => some response
  | _ => none

/-- The value shown that an event is. -/
def observed? : Event → Option Observed
  | observed seen => some seen
  | _ => none

/-- The responses among events. -/
def responses (events : List Event) : List Response :=
  events.filterMap response?

/-- The values shown among events. -/
def sightings (events : List Event) : List Observed :=
  events.filterMap observed?

@[simp] theorem responses_append (first second : List Event) :
    responses (first ++ second) = responses first ++ responses second :=
  List.filterMap_append

/-- What a call on a store reported. -/
def ofCall {σ α : Type} (call : Call σ α) : List Event :=
  call.notices.map note ++ call.observed.map observed

end Event

end Canopen
