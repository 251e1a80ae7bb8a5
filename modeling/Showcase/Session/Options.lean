import Showcase.Input.Geometry

/-!
# Options of a session
-/

namespace Showcase

/-- All times are in milliseconds. -/
structure SessionOptions where
  /-- The period of the heartbeat. -/
  renderInterval : Nat := 500
  /-- How long after the start the first frame is drawn. -/
  settleDelay : Nat := 50
  /-- How long after a key the second frame is drawn. -/
  followUpDelay : Nat := 50
  /-- How long the session waits to receive before it tries anew. -/
  readDeadline : Nat := 5000
  queueCapacity : Nat := 256
  /-- How long a frame waits for room in the queue. -/
  enqueueWait : Nat := 100
  /-- The geometry until the client gives one. -/
  geometry : Geometry := .fallback

end Showcase
