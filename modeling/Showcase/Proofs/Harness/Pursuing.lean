import Showcase.Harness
import Showcase.Proofs.Session.Leaves

/-!
# Two drivers of a program

A session follows each message at once and in depth, and counts the links of the chain; the harness
keeps the messages and delivers them round by round. `Pursues` tells what a command leads to without
either of them, and where commands send one message at most both drivers come to just that.
-/

namespace Showcase

variable {Flags State Msg : Type} {model : Model Flags State Msg}

/-! ## Commands leaf by leaf -/

namespace Leaf

def message? : Leaf Msg → Option Msg
  | message content => some content
  | quit | task _ => none

def isQuit : Leaf Msg → Bool
  | quit => true
  | message _ | task _ => false

def isTask : Leaf Msg → Bool
  | task _ => true
  | message _ | quit => false

end Leaf

namespace Command

/-- The messages that a command sends at once, from left to right. -/
def messages (command : Command Msg) : List Msg := command.flatten.filterMap Leaf.message?

/-- Whether a command asks to quit. -/
def quits (command : Command Msg) : Bool := command.flatten.any Leaf.isQuit

/-- A command without tasks and with one message at most, however they are nested. -/
structure IsTame (command : Command Msg) : Prop where
  taskless : ∀ leaf ∈ command.flatten, leaf.isTask = false
  single : command.messages.length ≤ 1

end Command

/-- Leaves that send nothing may ask to quit. -/
theorem Leaf.foldl_carryOut_of_silent {follow : Msg → Outcome State Msg → Outcome State Msg}
    {depth : Nat} {leaves : List (Leaf Msg)} (taskless : ∀ leaf ∈ leaves, leaf.isTask = false)
    (silent : ∀ leaf ∈ leaves, leaf.message? = none) (outcome : Outcome State Msg) :
    leaves.foldl (carryOut follow depth) outcome =
      { outcome with quit := outcome.quit || leaves.any isQuit } := by
  induction leaves generalizing outcome with
  | nil => simp
  | cons leaf rest ih =>
      have further := ih (fun other member => taskless other (.tail _ member))
        fun other member => silent other (.tail _ member)
      cases leaf with
      | message content => cases silent _ List.mem_cons_self
      | quit => simp [further, carryOut, isQuit]
      | task content => cases taskless _ List.mem_cons_self

/-! ## What a command leads to -/

/-- The messages that follow a command, one after the other, until none is sent: the state that the
program comes to, and whether it asked to quit on the way. -/
inductive Model.Pursues (model : Model Flags State Msg) :
    State → Command Msg → List Msg → State → Bool → Prop where
  | ends {state : State} {command : Command Msg} (silent : command.messages = []) :
      Pursues model state command [] state command.quits
  | follows {state later : State} {command : Command Msg} {message : Msg} {messages : List Msg}
      {quit : Bool} (sends : command.messages = [message])
      (further : Pursues model (model.update state message).1 (model.update state message).2
        messages later quit) :
      Pursues model state command (message :: messages) later (command.quits || quit)

/-- The outcome goes on to a state by updates with some messages, and without tasks. -/
structure Outcome.Extends (outcome : Outcome State Msg) (messages : List Msg) (state : State)
    (quit : Bool) (result : Outcome State Msg) : Prop where
  state_eq : result.state = state
  updates_eq : result.updates.map Prod.snd = outcome.updates.map Prod.snd ++ messages
  quit_eq : result.quit = (outcome.quit || quit)
  pending_eq : result.pending = outcome.pending

/-- A program whose commands are tame. -/
structure Model.IsTame (model : Model Flags State Msg) : Prop where
  init : ∀ flags geometry, (model.init flags geometry).2.IsTame
  update : ∀ state message, (model.update state message).2.IsTame
  resize : ∀ state geometry, (model.resize state geometry).2.IsTame

namespace Model.Pursues

variable {state later : State} {command : Command Msg} {messages : List Msg} {quit : Bool}

/-- A session comes to where the messages lead, if the chain is not too long for it. -/
theorem resolve (tame : model.IsTame) (first : command.IsTame)
    (pursues : model.Pursues state command messages later quit) (depth : Nat)
    (short : depth + messages.length ≤ maxDepth) (outcome : Outcome State Msg)
    (shown : outcome.state = state) :
    outcome.Extends messages later quit (model.resolve depth command outcome) := by
  induction pursues generalizing depth outcome with
  | ends silent =>
      rw [Model.resolve, Command.walk_eq_foldl,
        Leaf.foldl_carryOut_of_silent first.taskless (List.filterMap_eq_nil_iff.mp silent)]
      exact ⟨shown, (List.append_nil _).symm, rfl, rfl⟩
  | @follows state later command message messages quit sends further ih =>
      -- The message stands between leaves that ask to quit at most.
      obtain ⟨before, leaf, after, leaves_eq, silent, sent, rest_eq⟩ :=
        List.filterMap_eq_cons_iff.mp sends
      have taskless := first.taskless
      rw [leaves_eq] at taskless
      obtain ⟨earlier, here, later_ones⟩ : (∀ leaf ∈ before, leaf.isTask = false) ∧
          leaf.isTask = false ∧ ∀ leaf ∈ after, leaf.isTask = false := by
        simpa [or_imp, forall_and] using taskless
      obtain rfl : leaf = .message message := by
        cases leaf with
        | message content => exact congrArg _ (Option.some.inj sent)
        | quit | task content => cases sent
      have shallow : depth < maxDepth := by
        simp only [List.length_cons] at short
        omega
      have step := ih (tame.update state message) (depth + 1)
        (by simp only [List.length_cons] at short; omega)
        { outcome with
          quit := outcome.quit || before.any Leaf.isQuit
          state := (model.update state message).1
          updates := outcome.updates ++ [(depth + 1, message)] } rfl
      obtain ⟨state_eq, updates_eq, quit_eq, pending_eq⟩ := step
      have quits_eq : command.quits = (before.any Leaf.isQuit || after.any Leaf.isQuit) := by
        rw [Command.quits, leaves_eq]
        simp [Leaf.isQuit]
      rw [Model.resolve, Command.walk_eq_foldl, leaves_eq, List.foldl_append, List.foldl_cons,
        Leaf.foldl_carryOut_of_silent earlier silent,
        Leaf.foldl_carryOut_of_silent later_ones (List.filterMap_eq_nil_iff.mp rest_eq)]
      simp only [Leaf.carryOut, shallow, if_true, shown]
      refine ⟨state_eq, ?_, ?_, pending_eq⟩
      · rw [updates_eq, List.map_append, List.append_assoc]
        rfl
      · rw [quit_eq, quits_eq]
        simp only [Bool.or_assoc, Bool.or_comm, Bool.or_left_comm]

end Model.Pursues

/-! ## The harness -/

namespace Harness

variable {flags : Flags} {geometry : Geometry}

mutual

theorem collect_eq : (harness : Harness State Msg) → (command : Command Msg) →
    harness.collect command =
      { harness with
        pending := harness.pending ++ command.messages
        quit := harness.quit || command.quits }
  | harness, .none | harness, .task _ | harness, .message _ | harness, .quit => by
      simp [collect, Command.messages, Command.quits, Command.flatten, List.filterMap_cons,
        Leaf.message?, Leaf.isQuit]
  | harness, .several commands => collectAll_eq harness commands

theorem collectAll_eq : (harness : Harness State Msg) → (commands : List (Command Msg)) →
    harness.collectAll commands =
      { harness with
        pending := harness.pending ++ (Command.flattenAll commands).filterMap Leaf.message?
        quit := harness.quit || (Command.flattenAll commands).any Leaf.isQuit }
  | harness, [] => by simp [collectAll, Command.flattenAll]
  | harness, command :: rest => by
      rw [collectAll, collectAll_eq _ rest, collect_eq harness command]
      simp [Command.messages, Command.quits, Command.flattenAll, Bool.or_assoc]

end

/-- The harness comes to where the messages lead, in a round for each. -/
theorem drain_of_pursues {state later : State} {command : Command Msg} {messages : List Msg}
    {quit : Bool} (pursues : model.Pursues state command messages later quit) {rounds : Nat}
    (enough : messages.length ≤ rounds) (harness : Harness State Msg)
    (shown : harness.state = state) (empty : harness.pending = []) :
    (harness.collect command).drain model rounds =
      { harness with state := later, quit := harness.quit || quit } := by
  rw [collect_eq]
  induction pursues generalizing rounds harness with
  | ends silent => cases rounds <;> simp [drain, silent, shown, empty]
  | @follows state later command message messages quit sends further ih =>
      subst shown
      cases rounds with
      | zero => cases enough
      | succ rounds =>
          have further := ih (Nat.le_of_succ_le_succ enough)
            { harness with
              state := (model.update harness.state message).1
              pending := []
              quit := harness.quit || command.quits } rfl rfl
          rw [← collect_eq, Bool.or_assoc] at further
          rw [sends, empty]
          exact further

end Harness

/-! ## Sequences of events -/

/-- What is given to a program from outside. -/
inductive Cue where
  | key (key : Key)
  | resize (geometry : Geometry)

namespace Cue

/-- What a program makes of it. -/
def react (model : Model Flags State Msg) (state : State) : Cue → State × Command Msg
  | key pressed => model.update state (model.ofKey pressed)
  | resize geometry => model.resize state geometry

/-- The update that it is in itself. -/
def updates (model : Model Flags State Msg) : Cue → List Msg
  | key pressed => [model.ofKey pressed]
  | resize _ => []

/-- What a session makes of it. -/
def outcome (model : Model Flags State Msg) (state : State) : Cue → Outcome State Msg
  | key pressed => model.dispatch state 0 (model.ofKey pressed)
  | resize geometry => model.adapt state geometry

theorem outcome_eq (cue : Cue) (state : State) : cue.outcome model state =
    model.resolve 0 (cue.react model state).2
      { state := (cue.react model state).1
        updates := (cue.updates model).map fun message => (0, message) } := by
  cases cue <;> rfl

end Cue

/-- What became of a program: its state, the messages that it was updated with, in order, and
whether it asked to quit. -/
structure Record (State Msg : Type) where
  state : State
  updates : List Msg
  quit : Bool

/-- What becomes of a program that is given one thing after the other, each with all that follows
from it, where every chain of follow-ups is short enough for a session. -/
inductive Model.Performs (model : Model Flags State Msg) (flags : Flags) (geometry : Geometry) :
    List Cue → Record State Msg → Prop where
  | begins {messages : List Msg} {state : State} {quit : Bool}
      (pursues : model.Pursues (model.init flags geometry).1 (model.init flags geometry).2
        messages state quit)
      (short : messages.length ≤ maxDepth) :
      Performs model flags geometry [] ⟨state, messages, quit⟩
  | gives {cues : List Cue} {record : Record State Msg} {cue : Cue} {messages : List Msg}
      {state : State} {quit : Bool} (before : Performs model flags geometry cues record)
      (pursues : model.Pursues (cue.react model record.state).1 (cue.react model record.state).2
        messages state quit)
      (short : messages.length ≤ maxDepth) :
      Performs model flags geometry (cues ++ [cue])
        ⟨state, record.updates ++ (cue.updates model ++ messages), record.quit || quit⟩

/-- Every chain of follow-ups that the program starts is short enough for a session. -/
def Model.Settles (model : Model Flags State Msg) (flags : Flags) (geometry : Geometry)
    (cues : List Cue) : Prop := ∃ record, model.Performs flags geometry cues record

namespace Harness

def give (model : Model Flags State Msg) (harness : Harness State Msg) : Cue → Harness State Msg
  | .key key => harness.press model key
  | .resize geometry => harness.resize model geometry

/-- Starts a program and gives it one thing after the other, and drains the messages each time. -/
def play (model : Model Flags State Msg) (rounds : Nat) (flags : Flags) (geometry : Geometry)
    (cues : List Cue) : Harness State Msg :=
  cues.foldl (fun harness cue => (harness.give model cue).drain model rounds)
    ((start model flags geometry).drain model rounds)

variable {flags : Flags} {geometry : Geometry} {rounds : Nat}

theorem play_append (cues : List Cue) (cue : Cue) :
    play model rounds flags geometry (cues ++ [cue]) =
      ((play model rounds flags geometry cues).give model cue).drain model rounds :=
  List.foldl_append

theorem give_eq (harness : Harness State Msg) (cue : Cue) : ∃ geometry, harness.give model cue =
    collect { harness with state := (cue.react model harness.state).1, geometry }
      (cue.react model harness.state).2 := by
  cases cue with
  | key key => exact ⟨harness.geometry, rfl⟩
  | resize geometry => exact ⟨geometry, rfl⟩

end Harness

namespace Model.Performs

variable {flags : Flags} {geometry : Geometry} {cues early : List Cue} {record : Record State Msg}

/-- The harness comes to what becomes of the program, and nothing waits to be delivered. -/
theorem play (performs : model.Performs flags geometry cues record) {rounds : Nat}
    (enough : maxDepth ≤ rounds) :
    (Harness.play model rounds flags geometry cues).state = record.state ∧
      (Harness.play model rounds flags geometry cues).quit = record.quit ∧
      (Harness.play model rounds flags geometry cues).pending = [] := by
  induction performs with
  | begins pursues short =>
      have drained := Harness.drain_of_pursues pursues (Nat.le_trans short enough)
        { state := (model.init flags geometry).1, geometry } rfl rfl
      have play_eq : Harness.play model rounds flags geometry [] = _ := drained
      rw [play_eq]
      exact ⟨rfl, Bool.false_or _, rfl⟩
  | @gives cues record cue messages state quit before pursues short ih =>
      obtain ⟨state_eq, quit_eq, empty⟩ := ih
      rw [← state_eq] at pursues
      generalize played : Harness.play model rounds flags geometry cues = harness at *
      obtain ⟨size, given⟩ := Harness.give_eq harness cue
      have drained := Harness.drain_of_pursues pursues (Nat.le_trans short enough)
        { harness with state := (cue.react model harness.state).1, geometry := size } rfl empty
      rw [Harness.play_append, played, given, drained]
      exact ⟨rfl, congrArg (· || quit) quit_eq, empty⟩

/-- What was given first was performed as well. -/
theorem settles (performs : model.Performs flags geometry cues record) (first : early <+: cues) :
    model.Settles flags geometry early := by
  induction performs with
  | begins pursues short =>
      obtain rfl := List.prefix_nil.mp first
      exact ⟨_, .begins pursues short⟩
  | gives before pursues short ih =>
      rcases List.prefix_concat_iff.mp first with rfl | earlier
      · exact ⟨_, .gives before pursues short⟩
      · exact ih earlier

end Model.Performs

/-! ## The order of the updates -/

/-- The program that keeps a log of the messages that it is updated with. -/
def Model.logged (model : Model Flags State Msg) : Model Flags (State × List Msg) Msg where
  init flags geometry :=
    let (state, command) := model.init flags geometry
    ((state, []), command)
  ofKey := model.ofKey
  update entry message :=
    let (state, command) := model.update entry.1 message
    ((state, entry.2 ++ [message]), command)
  resize entry geometry :=
    let (state, command) := model.resize entry.1 geometry
    ((state, entry.2), command)
  draw entry := model.draw entry.1

theorem Model.Pursues.logged {state later : State} {command : Command Msg} {messages : List Msg}
    {quit : Bool} (pursues : model.Pursues state command messages later quit) (log : List Msg) :
    model.logged.Pursues (state, log) command messages (later, log ++ messages) quit := by
  induction pursues generalizing log with
  | ends silent =>
      rw [List.append_nil]
      exact .ends silent
  | @follows state later command message messages quit sends further ih =>
      have further := ih (log ++ [message])
      rw [List.append_assoc] at further
      exact .follows sends further

theorem Cue.react_logged (cue : Cue) (state : State) (log : List Msg) :
    cue.react model.logged (state, log) =
      (((cue.react model state).1, log ++ cue.updates model), (cue.react model state).2) := by
  cases cue with
  | key key => rfl
  | resize geometry => simp [react, Model.logged, updates]

/-- The log is that of the updates. -/
theorem Model.Performs.logged {flags : Flags} {geometry : Geometry} {cues : List Cue}
    {record : Record State Msg} (performs : model.Performs flags geometry cues record) :
    model.logged.Performs flags geometry cues
      ⟨(record.state, record.updates), record.updates, record.quit⟩ := by
  induction performs with
  | begins pursues short => exact .begins (pursues.logged []) short
  | @gives cues record cue messages state quit before pursues short ih =>
      have further := pursues.logged (record.updates ++ cue.updates model)
      rw [List.append_assoc] at further
      refine .gives ih ?_ short
      rw [Cue.react_logged]
      exact further

end Showcase
