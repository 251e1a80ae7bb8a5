import Showcase.Proofs.Portfolio.Settling
import Showcase.Proofs.Session.Receiving
import Showcase.Proofs.Session.Rehearsing

/-!
# The harness is faithful

What a test sees of a program in the harness is what a session makes of it, for programs whose
commands are tame and whose chains of follow-ups are short. The portfolio is such a program.
-/

namespace Showcase.Session

variable {Flags State Msg : Type} {model : Model Flags State Msg} {flags : Flags}
  {options : SessionOptions} {record : Record State Msg} {cues : List Cue}

/-- The session has come to what the harness has: the program is in the same state after the same
updates. -/
structure Matches (model : Model Flags State Msg) (rounds : Nat) (flags : Flags)
    (options : SessionOptions) (cues : List Cue) (session : Session Flags State Msg) : Prop where
  state_eq : session.state = some (Harness.play model rounds flags options.geometry cues).state
  updates_eq : session.updates.map Prod.snd =
    (Harness.play model.logged rounds flags options.geometry cues).state.2

/-- What the harness shows of a program that is given one thing after the other holds in a session.
All that it sends itself is delivered in as many rounds as a chain in a session has links; the
session has come to the same when the worker of the last call has taken its first turn, and it ends
if the program asked to quit, and otherwise only when a write failed. -/
structure Rehearsed (model : Model Flags State Msg) (flags : Flags) (options : SessionOptions)
    (cues : List Cue) : Prop where
  drained : ∀ rounds, maxDepth ≤ rounds → ∀ early, early <+: cues →
    (Harness.play model rounds flags options.geometry early).pending = []
  logged : ∀ rounds, maxDepth ≤ rounds →
    (Harness.play model.logged rounds flags options.geometry cues).state.1 =
      (Harness.play model rounds flags options.geometry cues).state
  taken : ∀ rounds, maxDepth ≤ rounds → ∀ id session,
    Rehearses model flags options cues id session →
      (∃ worker ∈ session.workers, worker.id = id ∧ ∃ job rest, Doing worker job rest ∧
        job.performs = true) ∨
      Matches model rounds flags options cues session
  returned : ∀ rounds, maxDepth ≤ rounds → ∀ id session,
    Rehearses model flags options cues id session → session.isAlive id = false →
      Matches model rounds flags options cues session ∧
      ((Harness.play model rounds flags options.geometry cues).quit = true →
        session.cancelled = true) ∧
      (session.cancelled = true →
        (Harness.play model rounds flags options.geometry cues).quit = true ∨
          ∃ frame, .failed frame ∈ session.history)

theorem rehearsed_of_performs (tame : model.IsTame)
    (performs : model.Performs flags options.geometry cues record) :
    Rehearsed model flags options cues := by
  have shown {rounds : Nat} (enough : maxDepth ≤ rounds) {session : Session Flags State Msg}
      (shows : Shows (some record) session) : Matches model rounds flags options cues session := by
    have played := performs.play enough
    have logged := performs.logged.play enough
    constructor
    · rw [played.1]
      exact shows.state_eq
    · rw [logged.1]
      exact shows.updates_eq
  refine ⟨?_, ?_, ?_, ?_⟩
  · intro rounds enough early first
    obtain ⟨record, performs⟩ := performs.settles first
    exact (performs.play enough).2.2
  · intro rounds enough
    rw [(performs.logged.play enough).1, (performs.play enough).1]
  · intro rounds enough id session rehearses
    cases rehearses.calling tame performs with
    | waits leads member same doing => exact .inl ⟨_, member, same, _, _, doing, leads.performs⟩
    | taken shows all quits => exact .inr (shown enough shows)
  · intro rounds enough id session rehearses returned
    rw [(performs.play enough).2.1]
    cases rehearses.calling tame performs with
    | waits leads member same => exact absurd same (ne_of_gone returned member)
    | taken shows all quits =>
        refine ⟨shown enough shows, fun asked => (quits asked).resolve_right ?_, shows.ended⟩
        rintro ⟨worker, member, same, -⟩
        exact ne_of_gone returned member same

/-- For every program whose commands are tame and everything that it may be given, if the chains of
follow-ups are short, the harness shows what becomes of the program in a session. The portfolio
is such a program whatever it is given, also when it reads the clock anew with each update. -/
theorem harness_faithful :
    (∀ {Flags State Msg : Type} (model : Model Flags State Msg) (flags : Flags)
      (options : SessionOptions) (cues : List Cue), model.IsTame →
        model.Settles flags options.geometry cues → Rehearsed model flags options cues) ∧
    (∀ clock, (Portfolio.model clock).IsTame ∧ ∀ palette options cues,
      (Portfolio.model clock).Settles palette options.geometry cues ∧
        Rehearsed (Portfolio.model clock) palette options cues) ∧
    ∀ times, (Portfolio.clocked times).IsTame ∧ ∀ palette options cues,
      (Portfolio.clocked times).Settles palette options.geometry cues ∧
        Rehearsed (Portfolio.clocked times) palette options cues := by
  have faithful {Flags State Msg : Type} (model : Model Flags State Msg) (flags : Flags)
      (options : SessionOptions) (cues : List Cue) (tame : model.IsTame)
      (settles : model.Settles flags options.geometry cues) : Rehearsed model flags options cues :=
    settles.elim fun _ performs => rehearsed_of_performs tame performs
  have brief {Flags State Msg : Type} {model : Model Flags State Msg} {inner : Msg → Prop}
      (brief : model.IsBrief inner) : model.IsTame ∧ ∀ flags options cues,
        model.Settles flags options.geometry cues ∧ Rehearsed model flags options cues := by
    refine ⟨brief.tame, fun flags options cues => ?_⟩
    have settles := brief.settles flags options.geometry cues
    exact ⟨settles, faithful model flags options cues brief.tame settles⟩
  exact ⟨faithful, fun clock => brief (Portfolio.isBrief_model clock),
    fun times => brief (Portfolio.isBrief_clocked times)⟩

/-- A program that notes what it is told. Each key is followed by two messages, and the first of them
asks to quit as well. -/
def relay : Model Unit (List Nat) Nat where
  init _ _ := ([], .none)
  ofKey _ := 2
  update noted
    | 0 => (noted ++ [0], .none)
    | 1 => (noted ++ [1], .several [.quit, .message 0])
    | message => (noted ++ [message], .several [.none, .several [.message 1]])
  resize noted _ := (noted ++ [9], .none)
  draw _ buffer := buffer

theorem isTame_relay : relay.IsTame := by
  refine ⟨fun _ _ => ⟨by simp [relay, Command.flatten], Nat.zero_le _⟩, fun noted message => ?_,
    fun _ _ => ⟨by simp [relay, Command.flatten], Nat.zero_le _⟩⟩
  match message with
  | 0 => exact ⟨by simp [relay, Command.flatten], Nat.zero_le _⟩
  | 1 => exact ⟨by simp [relay, Command.flatten, Command.flattenAll, Leaf.isTask], Nat.le_refl _⟩
  | _ + 2 =>
      exact ⟨by simp [relay, Command.flatten, Command.flattenAll, Leaf.isTask], Nat.le_refl _⟩

/-- A key and a size are given to a session, and the program asks to quit on the way. -/
theorem harness_faithful_relay : ∃ (id : TaskId) (session : Session Unit (List Nat) Nat),
    Rehearses relay () cramped [.key (.char 'a'), .resize (.clamp 2 3)] id session ∧
      session.isAlive id = false ∧ session.state = some [2, 1, 0, 9] ∧
      session.updates.map Prod.snd = [2, 1, 0] ∧ session.cancelled = true := by
  -- Worker 1 starts the session, worker 5 gives it the key, and worker 7 the size.
  let asked : Session Unit (List Nat) Nat := (idle () cramped).ask (.start 7)
  let opened := ([1, 1, 1, 1, 1, 1, 1].foldlM (advance relay false) asked).get (by decide +kernel)
  let told := opened.ask (.input (.char 'a'))
  let typed := ([5, 5, 5, 5, 5, 5, 5].foldlM (advance relay false) told).get (by decide +kernel)
  let announced := typed.ask (.resize (.clamp 2 3))
  let session := ([7, 7, 7, 7].foldlM (advance relay false) announced).get (by decide +kernel)
  have opens : Rehearses relay () cramped [] 1 opened :=
    (Rehearses.starts 7).turns (Option.some_get _).symm
  have tells : Rehearses relay () cramped ([] ++ [.key (.char 'a')]) opened.nextId told :=
    opens.gives (by decide +kernel) (.key (.char 'a'))
  have types : Rehearses relay () cramped [.key (.char 'a')] opened.nextId typed :=
    tells.turns (Option.some_get _).symm
  have announces : Rehearses relay () cramped ([.key (.char 'a')] ++ [.resize (.clamp 2 3)])
      typed.nextId announced := types.gives (by decide +kernel) (.resize (.clamp 2 3))
  have rehearses : Rehearses relay () cramped [.key (.char 'a'), .resize (.clamp 2 3)]
      typed.nextId session := announces.turns (Option.some_get _).symm
  have pressed : relay.Performs () cramped.geometry ([] ++ [.key (.char 'a')]) _ :=
    .gives (.begins (.ends rfl) (Nat.zero_le _)) (.follows rfl (.follows rfl (.ends rfl)))
      (Nat.le_refl _)
  have settles : relay.Settles () cramped.geometry [.key (.char 'a'), .resize (.clamp 2 3)] :=
    ⟨_, pressed.gives (.ends rfl) (Nat.zero_le _)⟩
  have rehearsed := harness_faithful.1 relay () cramped _ isTame_relay settles
  have gone : session.isAlive typed.nextId = false := by decide +kernel
  obtain ⟨same, quits, -⟩ :=
    rehearsed.returned maxDepth (Nat.le_refl _) typed.nextId session rehearses gone
  refine ⟨typed.nextId, session, rehearses, gone, same.state_eq.trans ?_, same.updates_eq.trans ?_,
    quits ?_⟩
  all_goals decide +kernel

end Showcase.Session
