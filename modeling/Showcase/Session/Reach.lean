import Showcase.Session.Run

/-!
# Runs of a session

Everything that can happen to a session, in any order: a worker goes on, time passes, someone asks
something, the client does something, or the server ends the session.
-/

namespace Showcase.Session

variable {Flags State Msg : Type}

/-- What the client can do. -/
inductive ClientMove : Session Flags State Msg → Session Flags State Msg → Prop where
  | arrive (session : Session Flags State Msg) (content : Except ConnectionFault Inbound) :
      ClientMove session (session.arrive content)
  | hangUp (session : Session Flags State Msg) : ClientMove session session.hangUp
  | pause (session : Session Flags State Msg) : ClientMove session session.pause
  | unpause (session : Session Flags State Msg) : ClientMove session session.unpause
  | breakWrites (session : Session Flags State Msg) : ClientMove session session.breakWrites
  | leave (session : Session Flags State Msg) : ClientMove session session.leave

/-- One thing that can happen. -/
inductive Step (model : Model Flags State Msg) :
    Session Flags State Msg → Session Flags State Msg → Prop where
  | advance {session later : Session Flags State Msg} (late : Bool) (id : TaskId)
      (advanced : session.advance model late id = some later) : Step model session later
  | elapse (session : Session Flags State Msg) (time : Nat) (forward : session.now ≤ time) :
      Step model session (session.elapse time)
  | ask (session : Session Flags State Msg) (request : Request) :
      Step model session (session.ask request)
  | client {session later : Session Flags State Msg} (move : ClientMove session later) :
      Step model session later
  | cancel (session : Session Flags State Msg) : Step model session session.cancel

/-- The sessions that can come about. -/
inductive Reach (model : Model Flags State Msg) (flags : Flags) (options : SessionOptions) :
    Session Flags State Msg → Prop where
  | idle : Reach model flags options (idle flags options)
  | step {session later : Session Flags State Msg} (before : Reach model flags options session)
      (step : Step model session later) : Reach model flags options later

end Showcase.Session
