import Showcase.Proofs.Session.Measuring
import Showcase.Proofs.Session.Receiving

/-!
# What is asked of a session

A run is told apart by the requests that are made in it, each given to a worker of its own. The
other steps ask for nothing: a worker goes on, time passes, the client does something, or the server
ends the session.
-/

namespace Showcase.Session

variable {Flags State Msg : Type} {model : Model Flags State Msg} {flags : Flags}
  {options : SessionOptions} {start session later : Session Flags State Msg}
  {asked : List (TaskId × Request)}

/-- A step in which nobody asks for anything. -/
inductive Unasked (model : Model Flags State Msg) :
    Session Flags State Msg → Session Flags State Msg → Prop where
  | advance {session later : Session Flags State Msg} (late : Bool) (id : TaskId)
      (advanced : session.advance model late id = some later) : Unasked model session later
  | elapse (session : Session Flags State Msg) (time : Nat) (forward : session.now ≤ time) :
      Unasked model session (session.elapse time)
  | client {session later : Session Flags State Msg} (move : ClientMove session later) :
      Unasked model session later
  | cancel (session : Session Flags State Msg) : Unasked model session session.cancel

/-- A run, with the requests that were made in it and the workers that they were given to. -/
inductive Asks (model : Model Flags State Msg) (start : Session Flags State Msg) :
    List (TaskId × Request) → Session Flags State Msg → Prop where
  | start : Asks model start [] start
  | ask {asked : List (TaskId × Request)} {session : Session Flags State Msg}
      (before : Asks model start asked session) (request : Request) :
      Asks model start (asked ++ [(session.nextId, request)]) (session.ask request)
  | step {asked : List (TaskId × Request)} {session later : Session Flags State Msg}
      (before : Asks model start asked session) (step : Unasked model session later) :
      Asks model start asked later

theorem Unasked.step (unasked : Unasked model session later) : Step model session later := by
  cases unasked with
  | advance late id advanced => exact .advance late id advanced
  | elapse time forward => exact .elapse session time forward
  | client move => exact .client move
  | cancel => exact .cancel session

theorem Step.unasked_or_ask (step : Step model session later) :
    Unasked model session later ∨ ∃ request, later = session.ask request := by
  cases step with
  | advance late id advanced => exact .inl (.advance late id advanced)
  | elapse time forward => exact .inl (.elapse session time forward)
  | ask request => exact .inr ⟨request, rfl⟩
  | client move => exact .inl (.client move)
  | cancel => exact .inl (.cancel session)

theorem Asks.reach (reach : Reach model flags options start)
    (asks : Asks model start asked session) : Reach model flags options session := by
  induction asks with
  | start => exact reach
  | ask before request ih => exact ih.step (.ask _ request)
  | step before unasked ih => exact ih.step unasked.step

/-- Workers that take their turns one after the other ask for nothing. -/
theorem Asks.turns {late : Bool} {ids : List TaskId}
    (asks : Asks model start asked session)
    (went : ids.foldlM (advance model late) session = some later) :
    Asks model start asked later := by
  induction ids generalizing session with
  | nil => exact Option.some.inj went ▸ asks
  | cons id rest ih =>
      obtain ⟨between, first, further⟩ := Option.bind_eq_some_iff.mp went
      exact ih (asks.step (.advance late id first)) further

/-- In every run something is asked, perhaps nothing. -/
theorem Reach.asks (reach : Reach model flags options session) :
    ∃ asked, Asks model (Session.idle flags options) asked session := by
  induction reach with
  | idle => exact ⟨[], .start⟩
  | step before step ih =>
      obtain ⟨asked, asks⟩ := ih
      rcases step.unasked_or_ask with unasked | ⟨request, rfl⟩
      · exact ⟨asked, asks.step unasked⟩
      · exact ⟨_, asks.ask request⟩

/-- Where nobody asks, new workers come with the turn of a worker only. -/
theorem Unasked.turns_or_outside (identified : Identified session)
    (unasked : Unasked model session later) :
    (∃ (late : Bool) (worker next : Worker Msg) (base : Session Flags State Msg)
      (jobs : List (List (Job Msg))) (before after : List (Worker Msg)),
      Turns model late session worker later base jobs next before after) ∨
    (∀ worker ∈ later.workers, worker ∈ session.workers) ∧
      ∀ event ∈ later.history, event ∈ session.history ∨ event = .cancelled := by
  have outside (workers_eq : later.workers = session.workers)
      (history_eq : later.history = session.history) :
      (∀ worker ∈ later.workers, worker ∈ session.workers) ∧
        ∀ event ∈ later.history, event ∈ session.history ∨ event = .cancelled :=
    ⟨fun _ member => workers_eq ▸ member, fun _ member => .inl (history_eq ▸ member)⟩
  cases unasked with
  | advance late id advanced =>
      obtain ⟨worker, before, after, rfl, workers_eq, ⟨-, -, later_eq⟩ | ⟨base, jobs, next, turns⟩⟩ :=
        advance_turns identified advanced
      · rw [later_eq]
        exact .inr ⟨fun _ member => workers_eq ▸ mem_around member worker, fun _ => .inl⟩
      · exact .inl ⟨late, worker, next, base, jobs, before, after, turns⟩
  | elapse time forward => exact .inr (outside rfl rfl)
  | client move =>
      obtain ⟨link, later_eq⟩ := move.link_eq
      rw [later_eq] at outside ⊢
      exact .inr (outside rfl rfl)
  | cancel =>
      refine .inr ⟨fun _ member => ?_, fun event member => ?_⟩
      · rwa [cancel_eq] at member
      · rw [history_cancel] at member
        split at member
        · exact .inl member
        · exact (List.mem_cons.mp member).symm

end Showcase.Session
