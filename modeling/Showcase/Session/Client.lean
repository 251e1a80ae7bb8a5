import Showcase.Session.Basic

/-!
# The client of a session

What the client at the other end of the link does.
-/

namespace Showcase.Session

variable {Flags State Msg : Type}

/-- Changes the link and wakes the workers that may have waited for that. -/
def changeLink (session : Session Flags State Msg) (link : Link) (waits : Wait Msg → Bool) :
    Session Flags State Msg :=
  let changed := { session with link }
  changed.wake (session.waiters waits)

/-- The client sends a frame, or its side of the connection fails. -/
def arrive (session : Session Flags State Msg) (content : Except ConnectionFault Inbound) :
    Session Flags State Msg :=
  session.changeLink (session.link.send content) Wait.isReading

/-- The client closes the connection in order. -/
def hangUp (session : Session Flags State Msg) : Session Flags State Msg :=
  session.changeLink { session.link with hungUp := true } Wait.isReading

/-- The client holds up every write. -/
def pause (session : Session Flags State Msg) : Session Flags State Msg :=
  session.changeLink { session.link with paused := true } fun _ => false

/-- The client lets writes through. -/
def unpause (session : Session Flags State Msg) : Session Flags State Msg :=
  session.changeLink { session.link with paused := false } Wait.isWriting

/-- Every write from now on fails. -/
def breakWrites (session : Session Flags State Msg) : Session Flags State Msg :=
  session.changeLink { session.link with broken := true } fun _ => false

/-- The client goes away. -/
def leave (session : Session Flags State Msg) : Session Flags State Msg :=
  (session.changeLink { session.link with hungUp := true, gone := true } Wait.isReading).wake
    (session.waiters Wait.isWriting)

/-- The text of a resize envelope. -/
def resizeText (columns rows : Nat) : String :=
  "\x7b\"type\":\"resize\",\"data\":\x7b\"cols\":" ++ toString columns ++ ",\"rows\":" ++
    toString rows ++ "\x7d\x7d"

end Showcase.Session
