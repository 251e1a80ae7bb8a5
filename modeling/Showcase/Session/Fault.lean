/-!
# Faults

What can go wrong with a connection, with a call to a session and while a view is drawn, and what
is said about it.
-/

namespace Showcase

/-- Why a connection failed; that nothing comes in for a while is no failure. -/
inductive ConnectionFault where
  /-- The connection is gone without an orderly end. -/
  | closed
  /-- The peer broke the rules of the connection. -/
  | protocol (detail : String)
  | io (detail : String)
  deriving DecidableEq

def ConnectionFault.message : ConnectionFault → String
  | closed => "connection closed abnormally"
  | protocol detail => "protocol error: " ++ detail
  | io detail => "IO error: " ++ detail

/-- Why a call to a session failed. -/
inductive SessionFault where
  | alreadyStarted
  | notStarted
  | connection (fault : ConnectionFault)
  deriving DecidableEq

def SessionFault.message : SessionFault → String
  | alreadyStarted => "session already started"
  | notStarted => "session not started"
  | connection fault => "transport error: " ++ fault.message

/-- Why a view could not be drawn. -/
inductive DrawFault where
  | backend (detail : String)
  | format
  deriving DecidableEq

def DrawFault.message : DrawFault → String
  | backend detail => "render backend error: " ++ detail
  | format => "ANSI formatting failed"

end Showcase
