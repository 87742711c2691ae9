/-
# Retry timers

A retry timer is armed once for each attempt.  The first waiting time is the
shortest one, and each attempt doubles the next one up to the longest.  When the
timer fires, it says whether the attempts made so far have used up the budget.

Arming a timer gives up its pending call first, so a timer never has more than one.
-/
import NetBoot.Time.Loop

namespace NetBoot

/-- How long a client waits for an answer and how often it asks. -/
structure RetryPolicy (τ : Type) where
  minTimeout : τ
  maxTimeout : τ
  maxAttempts : Int
  deriving Repr

/-- Waiting starts at a quarter of a second, is doubled up to ten seconds, and ends
after seven attempts. -/
def RetryPolicy.usual : RetryPolicy Float := ⟨0.25, 10.0, 7⟩

/-- A timer with its waiting time, its count of attempts and its pending call. -/
structure RetryTimer (τ : Type) where
  policy : RetryPolicy τ
  /-- How long the next attempt waits. -/
  timeout : τ
  /-- The attempts since the timer was last stopped. -/
  attempts : Nat
  /-- The pending call. -/
  handle : Option Nat
  deriving Repr

namespace RetryTimer

variable {τ α : Type} [TimeScale τ]

/-- A timer that has not been armed. -/
def ofPolicy (policy : RetryPolicy τ) : RetryTimer τ := ⟨policy, policy.minTimeout, 0, none⟩

/-- Is a call pending? -/
def running (timer : RetryTimer τ) : Bool := timer.handle.isSome

/-- Give up the pending call. -/
def disarm (timer : RetryTimer τ) (loop : EventLoop τ α) : RetryTimer τ × EventLoop τ α :=
  match timer.handle with
  | none => (timer, loop)
  | some number => ({ timer with handle := none }, loop.cancel number)

/-- Ask for a call after some time, giving up the pending one. -/
def arm (timer : RetryTimer τ) (loop : EventLoop τ α) (delay : τ) (owner : α) :
    RetryTimer τ × EventLoop τ α :=
  let (idle, cleared) := timer.disarm loop
  let (asked, number) := cleared.callLater delay owner
  ({ idle with handle := some number }, asked)

/-- Begin an attempt. -/
def start (timer : RetryTimer τ) (loop : EventLoop τ α) (owner : α) :
    RetryTimer τ × EventLoop τ α :=
  let (armed, asked) := timer.arm loop timer.timeout owner
  ({ armed with
      attempts := timer.attempts + 1
      timeout := TimeScale.atMost (TimeScale.double timer.timeout) timer.policy.maxTimeout },
    asked)

/-- Ask to be called at once, which is no attempt. -/
def startNow (timer : RetryTimer τ) (loop : EventLoop τ α) (owner : α) :
    RetryTimer τ × EventLoop τ α :=
  timer.arm loop TimeScale.zero owner

/-- Disarm the timer and forget its attempts. -/
def stop (timer : RetryTimer τ) (loop : EventLoop τ α) : RetryTimer τ × EventLoop τ α :=
  let (idle, cleared) := timer.disarm loop
  ({ idle with timeout := timer.policy.minTimeout, attempts := 0 }, cleared)

/-- The timer after its call has come. -/
def fired (timer : RetryTimer τ) : RetryTimer τ := { timer with handle := none }

/-- Have the attempts used up the budget? -/
def spent (timer : RetryTimer τ) : Bool := timer.policy.maxAttempts ≤ timer.attempts

end RetryTimer
end NetBoot
