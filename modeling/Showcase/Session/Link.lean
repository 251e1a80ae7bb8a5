import Showcase.Input.Envelope
import Showcase.Session.Fault

/-!
# A link to a client

Both directions of a connection in memory. What the client sends waits until the session receives
it. The client may hold up what the session writes, make it fail, hang up, or go away altogether.
-/

namespace Showcase

structure Link where
  /-- What the session has not received yet. -/
  inbound : List (Except ConnectionFault Inbound) := []
  /-- The client sends nothing more. -/
  hungUp : Bool := false
  /-- Writes wait. -/
  paused : Bool := false
  /-- Writes fail from the start. -/
  broken : Bool := false
  /-- The client is gone: writes fail. -/
  gone : Bool := false
  /-- The session has closed its side. -/
  closed : Bool := false

namespace Link

/-- What a receiver finds. -/
inductive Received where
  | frame (frame : Inbound)
  | fault (fault : ConnectionFault)
  /-- The client hung up. -/
  | finished
  | nothing

def receive (link : Link) : Received × Link :=
  match link.inbound with
  | .ok frame :: rest => (.frame frame, { link with inbound := rest })
  | .error fault :: rest => (.fault fault, { link with inbound := rest })
  | [] => (if link.hungUp then .finished else .nothing, link)

/-- The client sends something, unless it hung up. -/
def send (link : Link) (content : Except ConnectionFault Inbound) : Link :=
  if link.hungUp then link else { link with inbound := link.inbound ++ [content] }

/-- Whether a write that waits can go on. -/
def isWritable (link : Link) : Bool := link.gone || !link.paused

end Link

end Showcase
