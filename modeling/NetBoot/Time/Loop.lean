/-
# Event loops

An event loop has a clock and the calls that are due later, in the order in which
they were asked for.  Running it takes one call at a time: the earliest one, and of
several for the same instant the one asked for first.  The clock then moves to the
instant of the call, unless it is past that already.
-/
import NetBoot.Time.Scale

namespace NetBoot

/-- A call that is due later, for whoever asked for it. -/
structure Handle (τ α : Type) where
  number : Nat
  due : τ
  owner : α
  deriving DecidableEq, Repr

/-- A clock and the pending calls. -/
structure EventLoop (τ α : Type) where
  now : τ
  /-- The pending calls in the order in which they were asked for. -/
  pending : List (Handle τ α)
  /-- How many calls have been asked for. -/
  asked : Nat
  deriving Repr

namespace EventLoop

variable {τ α : Type} [TimeScale τ]

/-- A loop at the start of time. -/
def start : EventLoop τ α := ⟨TimeScale.zero, [], 0⟩

/-- Ask for a call after some time; the answer is the number of the call. -/
def callLater (loop : EventLoop τ α) (delay : τ) (owner : α) : EventLoop τ α × Nat :=
  ({ loop with
      pending := loop.pending ++ [⟨loop.asked, TimeScale.add loop.now delay, owner⟩]
      asked := loop.asked + 1 },
    loop.asked)

/-- Give up a call. -/
def cancel (loop : EventLoop τ α) (number : Nat) : EventLoop τ α :=
  { loop with pending := loop.pending.filter fun handle => handle.number != number }

/-- The earlier of two calls; the first one if neither is earlier. -/
def earlier (first second : Handle τ α) : Handle τ α :=
  if TimeScale.lt second.due first.due then second else first

/-- The earliest call of a list. -/
def earliest? : List (Handle τ α) → Option (Handle τ α)
  | [] => none
  | first :: rest => some (rest.foldl earlier first)

/-- May a call run before a limit? -/
def within (limit : Option τ) (handle : Handle τ α) : Bool :=
  match limit with
  | none => true
  | some bound => TimeScale.le handle.due bound

/-- The call to run next, among those that are due at a limit if there is one. -/
def next? (loop : EventLoop τ α) (limit : Option τ) : Option (Handle τ α) :=
  earliest? (loop.pending.filter (within limit))

/-- Take a call off the loop and move the clock to it. -/
def take (loop : EventLoop τ α) (handle : Handle τ α) : EventLoop τ α :=
  { loop.cancel handle.number with now := TimeScale.atLeast loop.now handle.due }

/-- Move the clock to an instant. -/
def moveTo (loop : EventLoop τ α) (instant : τ) : EventLoop τ α :=
  { loop with now := instant }

/-- How running a loop ended before it was done. -/
inductive Stop (ε : Type)
  /-- Too many calls were run without a pause. -/
  | busy
  /-- A call failed. -/
  | failed (cause : ε)
  deriving Repr

/-- The most calls that are run without a pause. -/
def callLimit : Nat := 200

variable {σ ε : Type}

/-- Run pending calls, at most `calls` of them, as long as there are any before the
limit.  The loop is part of a state, and `fire` takes a call off it and runs it. -/
def runWithin (loopOf : σ → EventLoop τ α) (fire : Handle τ α → σ → Except ε Unit × σ)
    (limit : Option τ) : (calls : Nat) → σ → Except (Stop ε) Unit × σ
  | 0, state => (.error .busy, state)
  | calls + 1, state =>
    match (loopOf state).next? limit with
    | none => (.ok (), state)
    | some handle =>
      match fire handle state with
      | (.ok _, fired) => runWithin loopOf fire limit calls fired
      | (.error cause, fired) => (.error (.failed cause), fired)

/-- Run pending calls until there are none before the limit. -/
def run (loopOf : σ → EventLoop τ α) (fire : Handle τ α → σ → Except ε Unit × σ)
    (limit : Option τ) (state : σ) : Except (Stop ε) Unit × σ :=
  runWithin loopOf fire limit callLimit state

end EventLoop
end NetBoot
