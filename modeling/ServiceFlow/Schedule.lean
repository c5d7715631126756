/-!
# Schedules

Tasks take turns in the order in which they were woken, one turn each. The clock stands still while
any task is awake; then it moves on to the next timer, whose task it wakes.

* `Agenda` holds the clock, the tasks that are awake and the timers.
* `Scheduled` is a system with an agenda, in which a task can take its turn.
* `run` lets a system work until it is idle and either a condition holds or a time has come. Timers
  set for that very time wake their tasks, which take their turns in the next run.
-/

namespace ServiceFlow

/-- The clock, the tasks that are awake in the order of their turns, and the timers. -/
structure Agenda (τ : Type) where
  now : Nat
  ready : List τ
  timers : List (Nat × τ)

namespace Agenda

variable {τ : Type} [DecidableEq τ]

/-- No task, at time 0. -/
def empty : Agenda τ := ⟨0, [], []⟩

/-- Puts a task at the end of the line, unless it is in it. -/
def wake (a : Agenda τ) (t : τ) : Agenda τ :=
  if t ∈ a.ready then a else { a with ready := a.ready ++ [t] }

/-- Wakes tasks in turn. -/
def wakeAll (a : Agenda τ) (ts : List τ) : Agenda τ := ts.foldl wake a

/-- Wakes a task when the given time has passed. -/
def wakeAfter (a : Agenda τ) (ms : Nat) (t : τ) : Agenda τ :=
  { a with timers := a.timers ++ [(a.now + ms, t)] }

/-- Forgets a task. -/
def forget (a : Agenda τ) (t : τ) : Agenda τ :=
  { a with ready := a.ready.filter (· ≠ t), timers := a.timers.filter fun e => e.2 ≠ t }

/-- The task whose turn it is. -/
def next? (a : Agenda τ) : Option (τ × Agenda τ) :=
  match a.ready with
  | [] => none
  | t :: ts => some (t, { a with ready := ts })

/-- The time of the next timer. -/
def soonest? (a : Agenda τ) : Option Nat := (a.timers.map (·.1)).min?

/-- Sets the clock and wakes the tasks whose time has come. -/
def moveTo (a : Agenda τ) (time : Nat) : Agenda τ :=
  let (due, later) := a.timers.partition fun e => e.1 ≤ time
  wakeAll { a with now := time, timers := later } (due.map fun e => e.2)

end Agenda

/-- Systems that work by an agenda. -/
class Scheduled (σ : Type) (τ : outParam Type) where
  agenda : σ → Agenda τ
  setAgenda : σ → Agenda τ → σ
  turn : τ → σ → σ

namespace Scheduled

variable {σ τ : Type} [DecidableEq τ] [Scheduled σ τ]

/-- Works in at most `fuel` turns until the system is idle and `done`, or the clock is at `limit`. -/
def runWithin (done : σ → Bool) (limit : Nat) : Nat → σ → σ
  | 0, s => s
  | fuel + 1, s =>
    match (agenda s).next? with
    | some (t, a) => runWithin done limit fuel (turn t (setAgenda s a))
    | none =>
      if done s then s
      else
        match (agenda s).soonest? with
        | some time =>
          if time < limit then runWithin done limit fuel (setAgenda s ((agenda s).moveTo time))
          else setAgenda s ((agenda s).moveTo limit)
        | none => setAgenda s ((agenda s).moveTo limit)

/-- More turns than any system takes that comes to rest. -/
def turnLimit : Nat := 10000000

/-- Works until the system is idle and `done`, at most for `ms`. -/
def run (done : σ → Bool) (ms : Nat) (s : σ) : σ :=
  runWithin done ((agenda s).now + ms) turnLimit s

/-- Lets time pass. -/
def pass (ms : Nat) (s : σ) : σ := run (fun _ => false) ms s

end Scheduled

end ServiceFlow
