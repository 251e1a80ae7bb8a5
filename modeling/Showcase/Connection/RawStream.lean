/-!
# Raw terminal connections

A stream of bytes in both directions. What the client writes comes in pieces of limited length, each
of them a frame; what the server sends is one text.
-/

namespace Showcase.Connection

structure RawStream where
  /-- What the client wrote and the server has not read. -/
  inbound : List UInt8 := []
  /-- The client writes nothing more. -/
  ended : Bool := false
  /-- What the server sent and the client has not read. -/
  outbound : String := ""
  /-- The server sends nothing more. -/
  closed : Bool := false
  deriving DecidableEq

namespace RawStream

/-- The longest piece that the server reads at once. -/
def pieceLimit : Nat := 1024

/-- The client writes. -/
def write (stream : RawStream) (bytes : List UInt8) : RawStream :=
  { stream with inbound := stream.inbound ++ bytes }

/-- The client writes nothing more. -/
def finish (stream : RawStream) : RawStream := { stream with ended := true }

/-- The server reads a piece. An empty piece is the end; there is none if the client has not written
anything yet. -/
def receive (stream : RawStream) : Option (List UInt8) × RawStream :=
  if stream.inbound.isEmpty && !stream.ended then (none, stream)
  else
    (some (stream.inbound.take pieceLimit),
      { stream with inbound := stream.inbound.drop pieceLimit })

/-- The server sends a text, unless it has closed the stream. -/
def send (stream : RawStream) (text : String) : Option RawStream :=
  if stream.closed then none else some { stream with outbound := stream.outbound ++ text }

/-- The server sends nothing more. -/
def close (stream : RawStream) : RawStream := { stream with closed := true }

/-- The client reads all that there is. -/
def read (stream : RawStream) : String × RawStream :=
  (stream.outbound, { stream with outbound := "" })

end RawStream

end Showcase.Connection
