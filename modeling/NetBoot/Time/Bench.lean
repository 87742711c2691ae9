/-
# A retry timer by itself

A retry timer on a loop of its own, whose owner answers each firing with commands
to the timer.  The flags of all firings are kept.
-/
import NetBoot.Time.Retry

namespace NetBoot

/-- What an owner can tell its timer. -/
inductive TimerCommand
  | start | startNow | stop
  deriving DecidableEq, Repr

/-- A timer, its loop, and an owner that reacts to firings.  The reaction may
depend on how many firings there were before and on the flag. -/
structure TimerBench (τ : Type) where
  timer : RetryTimer τ
  loop : EventLoop τ Unit
  flags : List Bool
  reaction : Nat → Bool → List TimerCommand

namespace TimerBench

variable {τ : Type} [TimeScale τ]

/-- A timer that has not been armed. -/
def ofPolicy (policy : RetryPolicy τ) (reaction : Nat → Bool → List TimerCommand) :
    TimerBench τ :=
  ⟨.ofPolicy policy, .start, [], reaction⟩

/-- Obey a command. -/
def obey (bench : TimerBench τ) (command : TimerCommand) : TimerBench τ :=
  let (timer, loop) := match command with
    | .start => bench.timer.start bench.loop ()
    | .startNow => bench.timer.startNow bench.loop ()
    | .stop => bench.timer.stop bench.loop
  { bench with timer, loop }

/-- Let the timer's call come. -/
def fire (handle : Handle τ Unit) (bench : TimerBench τ) : TimerBench τ :=
  let flag := bench.timer.spent
  let fired := { bench with
    timer := bench.timer.fired, loop := bench.loop.take handle, flags := bench.flags ++ [flag] }
  (bench.reaction bench.flags.length flag).foldl obey fired

/-- Run the loop until no call is pending before the limit. -/
def run (bench : TimerBench τ) (limit : Option τ) :
    Except (EventLoop.Stop Empty) Unit × TimerBench τ :=
  EventLoop.run loop (fun handle state => (.ok (), state.fire handle)) limit bench

/-- Let time pass. -/
def advance (bench : TimerBench τ) (duration : τ) :
    Except (EventLoop.Stop Empty) Unit × TimerBench τ :=
  let target := TimeScale.add bench.loop.now duration
  match bench.run (some target) with
  | (.ok _, reached) => (.ok (), { reached with loop := reached.loop.moveTo target })
  | (.error cause, reached) => (.error cause, reached)

end TimerBench
end NetBoot
