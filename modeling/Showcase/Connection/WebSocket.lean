import Showcase.Input.Envelope
import Showcase.Session.Fault

/-!
# Web-sockets

Both ends of a web-socket and the messages on their way. An end handles what it receives only while
it receives: then it answers a ping with a pong and a close with a close. After its own close an end
sends nothing more but still receives. The server's end is finished once closes have gone both ways.
-/

namespace Showcase.Connection

/-- Why a connection is closed: a code and a reason. -/
structure Parting where
  code : Nat
  reason : String
  deriving DecidableEq

namespace Parting

/-- Whether a code may be sent. -/
def isAllowed (code : Nat) : Bool :=
  [1000, 1001, 1002, 1003, 1007, 1008, 1009, 1010, 1011, 1012, 1013].contains code ||
    (3000 ≤ code && code ≤ 4999)

/-- What a close is answered with. -/
def answer (parting : Parting) : Parting :=
  if isAllowed parting.code then parting
  else { code := 1002, reason := "Protocol violation" }

end Parting

inductive Message where
  | text (text : String)
  | binary (bytes : List UInt8)
  | ping (bytes : List UInt8)
  | pong (bytes : List UInt8)
  | close (parting : Option Parting)
  deriving DecidableEq

/-- Whether a message for the connection itself is too long to be legal. -/
def Message.isOverlong : Message → Bool
  | text _ | binary _ => false
  | ping bytes | pong bytes => 125 < bytes.length
  | close parting => 123 < (parting.map fun parting => parting.reason.utf8ByteSize).getD 0

/-- How far the end of a connection has come. -/
inductive Phase where
  | active
  /-- This end has sent its close. -/
  | closing
  /-- The other end's close has come and is not answered yet. -/
  | closedByPeer
  /-- Closes have gone both ways. -/
  | closed
  /-- The end is of no more use. -/
  | finished
  deriving DecidableEq

/-- Whether an end still takes what comes in. -/
def Phase.canReceive : Phase → Bool
  | active | closing => true
  | closedByPeer | closed | finished => false

structure End where
  phase : Phase := .active
  /-- Messages on their way to this end. -/
  inbox : List Message := []
  /-- The answer to a ping or a close that is still to be sent. -/
  reply : Option Message := none
  /-- Whether an error or the end of the connection was told to the receiver. -/
  told : Bool := false
  /-- Whether something could not be sent and is still to be. -/
  unsent : Bool := false

/-- A web-socket with its two ends. -/
structure WebSocket where
  server : End := {}
  client : End := {}
  /-- The client's end is gone without a close. -/
  dropped : Bool := false

namespace WebSocket

/-- What a receiver gets. -/
inductive Received where
  | message (message : Message)
  | fault (fault : ConnectionFault)
  | finished
  /-- There is nothing to receive yet. -/
  | nothing

/-- The failure of writing to a client that is gone. -/
def brokenPipe : ConnectionFault := .io "broken pipe"

/-- Takes a message of the other end, and notes the answer that it calls for. -/
def End.take (side : End) (message : Message) : End :=
  match message with
  | .ping bytes => if side.phase = .active then { side with reply := some (.pong bytes) } else side
  | .close parting =>
      if side.phase = .active then
        { side with phase := .closedByPeer, reply := some (.close (parting.map Parting.answer)) }
      else { side with phase := .closed }
  | .text _ | .binary _ | .pong _ => side

/-- Hands messages to the client; without a client they stay unsent. -/
def toClient (socket : WebSocket) (messages : List Message) :
    Option ConnectionFault × WebSocket :=
  if messages.isEmpty && !socket.server.unsent then (none, socket)
  else if socket.dropped then
    (some brokenPipe, { socket with server := { socket.server with unsent := true } })
  else
    (none, { socket with
      client := { socket.client with inbox := socket.client.inbox ++ messages } })

/-- Sends what the server's end still has to answer. The end is finished if it has taken a close. -/
def answer (socket : WebSocket) : Option ConnectionFault × WebSocket :=
  let phase := if socket.server.phase.canReceive then socket.server.phase else .finished
  let replied := { socket with server := { socket.server with reply := none } }
  match replied.toClient socket.server.reply.toList with
  | (some fault, unsent) => (some fault, unsent)
  | (none, sent) => (none, { sent with server := { sent.server with phase } })

/-- Tells the server's receiver that nothing more comes. -/
def tell (socket : WebSocket) (phase : Phase) : WebSocket :=
  { socket with server := { socket.server with told := true, phase } }

/-- The server's end receives a message for the session. Pings are answered on the way; a close is
the end. -/
def receive (socket : WebSocket) : Nat → Received × WebSocket
  | 0 => (.nothing, socket)
  | fuel + 1 =>
      let server := socket.server
      if server.told || server.phase = .finished then (.finished, socket.tell server.phase)
      else
        match (if server.reply.isNone && server.phase.canReceive then (none, socket)
          else socket.answer) with
        | (some fault, socket) => (.fault fault, socket.tell server.phase)
        | (none, socket) =>
            let server := socket.server
            if server.phase = .finished then (.finished, socket.tell .finished)
            else
              match server.inbox with
              | [] =>
                  if socket.dropped then
                    (.fault (.protocol "connection reset"), socket.tell .finished)
                  else (.nothing, socket)
              | message :: rest =>
                  let emptied := { socket with server := { server with inbox := rest } }
                  if message.isOverlong then
                    (.fault (.protocol "control frame too long"), emptied.tell server.phase)
                  else
                    let taken := { emptied with server := End.take emptied.server message }
                    match message with
                    | .text _ | .binary _ => (.message message, taken)
                    | .close _ => (.finished, taken)
                    | .ping _ | .pong _ => receive taken fuel

/-- The server's end receives, until there is nothing more to receive. -/
def receiveNext (socket : WebSocket) : Received × WebSocket :=
  socket.receive (socket.server.inbox.length + 1)

/-- The server's end sends a text. -/
def send (socket : WebSocket) (text : String) : Option ConnectionFault × WebSocket :=
  match socket.server.phase with
  | .finished => (some .closed, socket)
  | .active => socket.toClient [.text text]
  | .closing | .closedByPeer | .closed => (some (.protocol "sending after closing"), socket)

/-- The server's end closes the connection. A second close only sends what is still unsent, and one
after the client's close sends the answer to that. -/
def close (socket : WebSocket) : Option ConnectionFault × WebSocket :=
  match socket.server.phase with
  | .active =>
      let closing := { socket with server := { socket.server with phase := .closing } }
      closing.toClient [.close none]
  | .closing => socket.toClient []
  | .closedByPeer | .closed | .finished => socket.answer

/-- The client sends a message, unless it has closed or taken a close. -/
def clientSend (socket : WebSocket) (message : Message) : Option WebSocket :=
  if socket.dropped || socket.client.phase != .active then none
  else
    let phase := match message with
      | .close _ => .closing
      | _ => socket.client.phase
    some { socket with
      client := { socket.client with phase }
      server := { socket.server with inbox := socket.server.inbox ++ [message] } }

/-- The client receives a message, after it has sent the answer that the last one called for. -/
def clientReceive (socket : WebSocket) : Option Message × WebSocket :=
  if socket.dropped then (none, socket)
  else
    let client := { socket.client with reply := none }
    let server :=
      { socket.server with inbox := socket.server.inbox ++ socket.client.reply.toList }
    match client.inbox with
    | [] => (none, { socket with client, server })
    | message :: rest =>
        (some message,
          { socket with client := End.take { client with inbox := rest } message, server })

/-- The client goes away without a close. -/
def drop (socket : WebSocket) : WebSocket := { socket with dropped := true }

end WebSocket

end Showcase.Connection
