import Showcase.Session.Basic

/-!
# Steps of a session

`Session.advance` is one step of one worker: it does one job, or goes on with what the worker waited
for. Steps are finer than the points at which a worker may have to wait. A frame is received in one
step, its `.input` or `.resize` job is done in the next, and `.apply` and `.render` follow in steps
of their own, with nothing to wait for in between. Other workers may take their steps in between, as
they may where several threads run the workers; one of them may end the session there, and the frame
in hand is still given to the program.

Every run of a session is made of such steps, of moments at which time passes, and of what the
client does.
-/

namespace Showcase.Session

variable {Flags State Msg : Type}

/-- Takes over what an event made of the program. -/
def absorb (session : Session Flags State Msg) (outcome : Outcome State Msg) :
    Session Flags State Msg :=
  let changed := { session with state := some outcome.state }
  changed.note (outcome.updates.map (fun update => .updated update.1 update.2) ++
    outcome.dropped.map fun message => .dropped message.1 message.2)

/-- Runs an event's consequences before a worker's further jobs. -/
def follow (session : Session Flags State Msg) (worker : Worker Msg)
    (outcome : Outcome State Msg) (jobs : List (Job Msg)) : Session Flags State Msg :=
  (session.absorb outcome).proceed worker (.apply outcome.pending outcome.quit :: jobs)

/-- Brings a frame to the queue, or waits for room until a deadline. -/
def push (session : Session Flags State Msg) (worker : Worker Msg) (frame : Frame)
    (deadline : Nat) : Session Flags State Msg :=
  match session.queue.tryPush frame with
  | some (outcome, change) =>
      ((session.setQueue change).note [.pushed frame outcome]).proceed worker []
  | none =>
      let waiting := { session with queue := session.queue.awaitRoom worker.id }
      waiting.suspend worker (.room frame deadline)

/-- Ends a push whose time has run out. -/
def pushLate (session : Session Flags State Msg) (worker : Worker Msg) (frame : Frame) :
    Session Flags State Msg :=
  let left := session.setQueue (session.queue.giveUpRoom worker.id)
  let (outcome, change) := left.queue.pushLate frame
  ((left.setQueue change).note [.pushed frame outcome]).proceed worker []

/-- Draws the program and brings the frame to the queue, unless there is nothing to draw. -/
def render (model : Model Flags State Msg) (session : Session Flags State Msg)
    (worker : Worker Msg) : Session Flags State Msg :=
  match session.cancelled, session.state with
  | true, _ => session.proceed worker []
  | false, none => session.proceed worker []
  | false, some state =>
      let text := model.render state session.geometry
      if text.isEmpty then session.proceed worker []
      else
        let frame : Frame := { serial := session.nextSerial, repaint := { body := text } }
        let drawn := { session with nextSerial := session.nextSerial + 1 }
        (drawn.note [.drawn frame session.geometry state]).push worker frame
          (session.now + session.options.enqueueWait)

/-- Takes a frame from the queue to write it, or waits for one. -/
def pop (session : Session Flags State Msg) (worker : Worker Msg)
    (wait : Session Flags State Msg → Session Flags State Msg) : Session Flags State Msg :=
  match session.queue.tryPop with
  | (.frame frame, change) =>
      ((session.setQueue change).note [.taken frame]).proceed worker [.lock (.write frame)]
  | (.closed, change) => (session.setQueue change).proceed worker []
  | (.nothing, _) => wait { session with queue := session.queue.awaitFrame worker.id }

/-- Ends a write that the client took. -/
def deliver (session : Session Flags State Msg) (worker : Worker Msg) (frame : Frame) :
    Session Flags State Msg :=
  (session.note [.delivered frame session.now]).release.proceed worker [.write]

/-- Ends a write that failed, and with it the session. -/
def abandon (session : Session Flags State Msg) (worker : Worker Msg) (frame : Frame) :
    Session Flags State Msg :=
  (session.note [.failed frame]).release.proceed worker [.shutdown]

/-- Does what the lock was acquired for. -/
def enter (session : Session Flags State Msg) (worker : Worker Msg) :
    Purpose → Session Flags State Msg
  | .keep connection =>
      let kept := { session with connection := some connection }
      kept.release.proceed worker []
  | .close =>
      match session.connection with
      | none => session.release.proceed worker []
      | some connection =>
          let link := { session.link with closed := true }
          let closed := { session with connection := none, link }
          (closed.note [.closed connection]).release.proceed worker []
  | .write frame =>
      if session.connection.isNone || session.cancelled then session.release.proceed worker []
      else
        let writing := session.note [.writing frame]
        if session.link.broken || session.link.gone then writing.abandon worker frame
        else if session.link.isWritable then writing.deliver worker frame
        else writing.suspend worker (.delivery frame)

/-- Receives what the client sent, or does something else if there is nothing. -/
def receive (session : Session Flags State Msg) (worker : Worker Msg)
    (otherwise : Option (Session Flags State Msg)) : Option (Session Flags State Msg) :=
  match session.link.receive with
  | (.frame frame, link) =>
      let job := match frame.classify with
        | .control (.resize geometry) => .resize geometry
        | .raw bytes => .input (Key.decode bytes)
      let taken := { session with link }
      some ((taken.note [.received worker.id frame]).proceed worker [job, .read])
  | (.fault fault, link) =>
      let taken := { session with link }
      some (taken.proceed { worker with verdict := .failure (.connection fault) } [])
  | (.finished, _) => some (session.proceed worker [])
  | (.nothing, _) => otherwise

/-- When the heartbeat after one that was due is due. Beats that were missed by more than five
milliseconds are left out. -/
def nextBeat (period due now : Nat) : Nat :=
  if due + 5 < now then now + period - (now - due) % period else due + period

/-- Does a job of a worker. -/
def perform (model : Model Flags State Msg) (session : Session Flags State Msg)
    (worker : Worker Msg) : Job Msg → Session Flags State Msg
  | .start connection =>
      if session.started then session.fail worker .alreadyStarted
      else
        let outcome := model.begin session.flags session.geometry
        let begun := ({ session with started := true }).note [.began session.geometry]
        (begun.absorb outcome).proceed worker
          [.lock (.keep connection), .openLoops, .apply outcome.pending outcome.quit,
            .renderLater session.options.settleDelay]
  | .openLoops =>
      let loops := [session.nextId, session.nextId + 1]
      let opened := (session.spawn [.heartbeat]).spawn [.write]
      ({ opened with loops := opened.loops ++ loops }).proceed worker []
  | .input key =>
      match session.state with
      | none => session.proceed worker []
      | some state =>
          (session.note [.input worker.id key]).follow worker
            (model.dispatch state 0 (model.ofKey key))
            [.render, .renderLater session.options.followUpDelay]
  | .resize geometry =>
      match session.state with
      | none => session.proceed worker []
      | some state =>
          (({ session with geometry }).note [.resized worker.id geometry]).follow worker
            (model.adapt state geometry) [.render]
  | .apply pending quit =>
      let begun := pending.foldl (fun session (depth, task) =>
        session.spawn [.after task.delay (.followUp depth task.message)]) session
      begun.proceed worker (if quit then [.shutdown] else [])
  | .render => session.render model worker
  | .renderLater delay => (session.spawn [.after delay .render]).proceed worker []
  | .after delay job => session.suspend worker (.time (session.now + delay) job)
  | .followUp depth message =>
      match session.state with
      | none => session.proceed worker []
      | some state =>
          if depth < maxDepth then
            session.follow worker (model.followUp state depth message) [.render]
          else (session.absorb (model.followUp state depth message)).proceed worker []
  | .shutdown =>
      let ended := session.cancel
      (ended.setQueue ended.queue.close).proceed worker [.lock .close]
  | .lock purpose =>
      let asked := { session with lock := session.lock.acquire worker.id }
      if asked.lock.isHeldBy worker.id then asked.enter worker purpose
      else asked.suspend worker (.lock purpose)
  | .run =>
      if session.started then session.proceed worker [.read, .shutdown]
      else session.fail worker .notStarted
  | .read =>
      if session.cancelled then session.proceed worker []
      else
        (session.receive worker none).getD
          (session.suspend worker (.inbound (session.now + session.options.readDeadline)))
  | .heartbeat =>
      let period := session.options.renderInterval
      session.proceed worker (if period = 0 then [] else [.beat (session.now + period)])
  | .beat due =>
      if session.cancelled then session.proceed worker []
      else session.suspend worker (.beat due)
  | .write =>
      if session.cancelled then session.proceed worker []
      else session.pop worker fun waiting => waiting.suspend worker .frame
  | .join limit =>
      ({ session with loops := [] }).suspend worker
        (.others session.loops (limit.map (session.now + ·)))
  | .report => (session.note [.reported worker.id worker.verdict]).proceed worker []

/-- Goes on with what a worker waits for, if it has come. If both the time for a job has come and
the session has ended, `late` tells whether the job is still done. -/
def resume (session : Session Flags State Msg) (worker : Worker Msg) (late : Bool) :
    Wait Msg → Option (Session Flags State Msg)
  | .nothing => none
  | .room frame deadline =>
      if session.queue.writable.isWoken worker.id then
        let left := { session with queue := session.queue.leaveRoom worker.id }
        some (left.push worker frame deadline)
      else if deadline ≤ session.now then some (session.pushLate worker frame)
      else none
  | .lock purpose =>
      if session.lock.isHeldBy worker.id then some (session.enter worker purpose) else none
  | .frame =>
      if session.cancelled then
        some ((session.setQueue (session.queue.giveUpFrame worker.id)).proceed worker [])
      else if session.queue.readable.isWoken worker.id then
        let left := { session with queue := session.queue.leaveFrame worker.id }
        some (left.pop worker id)
      else none
  | .delivery frame =>
      if session.cancelled then some (session.release.proceed worker [])
      else if session.link.gone then some (session.abandon worker frame)
      else if session.link.isWritable then some (session.deliver worker frame)
      else none
  | .inbound deadline =>
      if session.cancelled then some (session.proceed worker [])
      else
        session.receive worker
          (if deadline ≤ session.now then some (session.proceed worker [.read]) else none)
  | .beat due =>
      if session.cancelled then some (session.proceed worker [])
      else if due ≤ session.now then
        let next := nextBeat session.options.renderInterval due session.now
        some (session.proceed worker [.render, .beat next])
      else none
  | .time due job =>
      if session.cancelled && !(late && due ≤ session.now) then some (session.proceed worker [])
      else if due ≤ session.now then some (session.proceed worker [job])
      else none
  | .others ids deadline =>
      match ids.dropWhile fun id => !session.isAlive id with
      | [] => some (session.proceed worker [])
      | rest =>
          if deadline.any (· ≤ session.now) then
            some (session.proceed { worker with verdict := .timeout } [])
          else if rest.length < ids.length then
            some (session.setWorker { worker with wait := .others rest deadline })
          else none

/-- One step of a worker: a job, or what comes after a wait. None while it has to wait. -/
def advance (model : Model Flags State Msg) (late : Bool) (session : Session Flags State Msg)
    (id : TaskId) : Option (Session Flags State Msg) := do
  let worker ← session.worker? id
  match worker.wait, worker.jobs with
  | .nothing, [] => some (session.retire worker)
  | .nothing, job :: jobs => some (session.perform model { worker with jobs } job)
  | wait, _ => session.resume worker late wait

end Showcase.Session
