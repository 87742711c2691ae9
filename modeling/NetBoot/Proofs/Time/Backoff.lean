/-
# How long a retry timer waits

A timer doubles its waiting time with each attempt and bounds only what it has doubled.  So
however its owner and the loop take turns, the attempts since the last stop wait the shortest
time, then twice as long, and so on up to the longest time.  The first of these waits is not
bounded: where the shortest time is longer than the longest one, it is too long, and the waits
do not grow but shrink.

The rules are stated without rounding, for any scale of time whose operations are those of an
ordered group.
-/
import NetBoot.Proofs.Time.Firing
import Mathlib.Algebra.Order.Group.MinMax
import Mathlib.Algebra.Order.Monoid.Unbundled.Pow
import Mathlib.Algebra.Order.Ring.Int

namespace NetBoot

/-- A scale of time without rounding. -/
class TimeScale.Exact (τ : Type) [AddCommGroup τ] [LinearOrder τ] [TimeScale τ] : Prop where
  zero_eq : (zero : τ) = 0
  add_eq : ∀ first second : τ, add first second = first + second
  sub_eq : ∀ first second : τ, sub first second = first - second
  le_eq : ∀ first second : τ, le first second = decide (first ≤ second)
  lt_eq : ∀ first second : τ, lt first second = decide (first < second)

instance : TimeScale.Exact Int :=
  ⟨rfl, fun _ _ => rfl, fun _ _ => rfl, fun _ _ => rfl, fun _ _ => rfl⟩

/-- Arming the only timer of a loop leaves the call that it asks for as the only one. -/
theorem RetryTimer.pending_arm {τ : Type} [TimeScale τ] {timer : RetryTimer τ}
    {loop : EventLoop τ Unit} (wiring : loop.Wiring fun _ => timer.handle) (delay : τ) :
    (timer.arm loop delay ()).2.pending =
      [⟨loop.asked, TimeScale.add loop.now delay, ()⟩] := by
  have hwiring : (timer.disarm loop).2.Wiring fun _ => none :=
    (wiring_disarm wiring rfl).of_update_unit
  have hcleared : (timer.disarm loop).2.callsOf () = [] := hwiring.callsOf_eq_nil rfl
  rw [EventLoop.callsOf, List.filter_eq_self.mpr (by simp)] at hcleared
  simp [arm, EventLoop.callLater, hcleared]

variable {τ : Type} [AddCommGroup τ] [LinearOrder τ]

/-- How long an attempt waits, given how many there were before since the last stop. -/
def RetryPolicy.wait (policy : RetryPolicy τ) : Nat → τ
  | 0 => policy.minTimeout
  | earlier + 1 => min (2 ^ (earlier + 1) • policy.minTimeout) policy.maxTimeout

namespace RetryPolicy

/-- An attempt waits the shortest time, doubled as often as there were attempts before and bounded,
if and only if it is not the first one or there is nothing to bound. -/
theorem wait_eq_iff (policy : RetryPolicy τ) (earlier : Nat) :
    policy.wait earlier = min (2 ^ earlier • policy.minTimeout) policy.maxTimeout ↔
      earlier ≠ 0 ∨ policy.minTimeout ≤ policy.maxTimeout := by
  cases earlier with
  | zero =>
    rw [wait, pow_zero, one_nsmul, eq_comm, min_eq_left_iff]
    simp
  | succ earlier => simp [wait]

theorem wait_le_iff (policy : RetryPolicy τ) (earlier : Nat) :
    policy.wait earlier ≤ policy.maxTimeout ↔
      earlier ≠ 0 ∨ policy.minTimeout ≤ policy.maxTimeout := by
  cases earlier with
  | zero => simp [wait]
  | succ earlier => simp [wait]

variable [IsOrderedAddMonoid τ] {policy : RetryPolicy τ}

theorem monotone_wait_iff (positive : 0 < policy.minTimeout) :
    Monotone policy.wait ↔ policy.minTimeout ≤ policy.maxTimeout := by
  constructor
  · intro grows
    exact (grows (Nat.zero_le 1)).trans (min_le_right _ _)
  · intro ordered first second hle
    have hwait (earlier : Nat) : policy.wait earlier = _ :=
      (policy.wait_eq_iff earlier).mpr (.inr ordered)
    rw [hwait, hwait]
    exact min_le_min_right _
      (nsmul_le_nsmul_left positive.le (Nat.pow_le_pow_right Nat.zero_lt_two hle))

variable [TimeScale τ] [TimeScale.Exact τ]

omit [IsOrderedAddMonoid τ] in
theorem atMost_eq_min (duration bound : τ) :
    TimeScale.atMost duration bound = min duration bound := by
  rw [TimeScale.atMost, TimeScale.Exact.lt_eq, min_def]
  by_cases hle : duration ≤ bound
  · simp [hle, not_lt.mpr hle]
  · simp [hle, not_le.mp hle]

/-- The next wait is the doubled and bounded last one. -/
theorem atMost_double_wait (positive : 0 < policy.maxTimeout) (earlier : Nat) :
    TimeScale.atMost (TimeScale.double (policy.wait earlier)) policy.maxTimeout =
      policy.wait (earlier + 1) := by
  rw [atMost_eq_min, TimeScale.double, TimeScale.Exact.add_eq]
  cases earlier with
  | zero => rw [wait, wait, ← two_nsmul, Nat.zero_add, pow_one]
  | succ earlier =>
    rw [wait, wait, pow_succ' 2 (earlier + 1), mul_nsmul', two_nsmul]
    set doubled := 2 ^ (earlier + 1) • policy.minTimeout
    rcases le_total doubled policy.maxTimeout with within | beyond
    · rw [min_eq_left within]
    · -- both what was bounded and what was not are past the bound when they are doubled
      have hbound : policy.maxTimeout ≤ policy.maxTimeout + policy.maxTimeout :=
        le_add_of_nonneg_left positive.le
      rw [min_eq_right beyond, min_eq_right hbound,
        min_eq_right (hbound.trans (add_le_add beyond beyond))]

end RetryPolicy

variable [TimeScale τ]

namespace TimerBench

open TimerMoment

variable {policy : RetryPolicy τ} {reaction : Nat → Bool → List TimerCommand}
  {moments : List TimerMoment} {bench : TimerBench τ}

variable [TimeScale.Exact τ] [IsOrderedAddMonoid τ]

/-- In every run the next attempt waits as long as the attempts since the last stop make it. -/
theorem Run.timeout_eq (longest : 0 < policy.maxTimeout)
    (run : (ofPolicy policy reaction).Run moments bench) :
    bench.timer.timeout = policy.wait (attempts moments) := by
  induction run with
  | rest => rfl
  | @obey moments bench prior command ih =>
    have hpolicy := prior.tracks.same_policy
    cases command with
    | start =>
      rw [attempts_append_start, ← RetryPolicy.atMost_double_wait longest, ← ih, ← hpolicy]
      rfl
    | startNow =>
      rw [attempts_append_of_ne (by simp) (by simp), ← ih]
      exact RetryTimer.timeout_startNow bench.timer bench.loop ()
    | stop =>
      rw [attempts_append_stop]
      exact congrArg RetryPolicy.minTimeout hpolicy
  | call prior pending ih =>
    rw [attempts_append_of_ne (by simp) (by simp), ← ih]
    rfl
  | tick prior instant ih => exact ih

/-- However a timer is used, each attempt is armed to wait the shortest time, doubled by every
attempt since the last stop and from the second one on bounded by the longest time.  So the
first attempt is bounded as the others are, no attempt waits too long, and the waits between two
stops never shrink, if and only if the shortest time is no longer than the longest one. -/
theorem Run.start_waits (shortest : 0 < policy.minTimeout) (longest : 0 < policy.maxTimeout)
    (run : (ofPolicy policy reaction).Run moments bench) :
    (bench.obey .start).loop.pending =
        [⟨armings moments, bench.loop.now + policy.wait (attempts moments), ()⟩] ∧
      (∀ earlier, policy.wait earlier = min (2 ^ earlier • policy.minTimeout) policy.maxTimeout ↔
        earlier ≠ 0 ∨ policy.minTimeout ≤ policy.maxTimeout) ∧
      (∀ earlier, policy.wait earlier ≤ policy.maxTimeout ↔
        earlier ≠ 0 ∨ policy.minTimeout ≤ policy.maxTimeout) ∧
      (Monotone policy.wait ↔ policy.minTimeout ≤ policy.maxTimeout) := by
  refine ⟨?_, policy.wait_eq_iff, policy.wait_le_iff, RetryPolicy.monotone_wait_iff shortest⟩
  have tracks := run.tracks
  have harmed := RetryTimer.pending_arm tracks.wiring bench.timer.timeout
  rw [TimeScale.Exact.add_eq, run.timeout_eq longest, tracks.asked] at harmed
  rw [← run.timeout_eq longest] at harmed ⊢
  exact harmed

/-- A timer whose shortest time is twice the longest one waits too long the first time, and the
second wait is the shorter one. -/
theorem first_start_waits_too_long :
    ∃ first bench : TimerBench Int, first = ofPolicy ⟨250, 125, 7⟩ (fun _ _ => []) ∧
      first.Run [.told .start, .expired 0 false] bench ∧
      (first.obey .start).loop.pending = [⟨0, 250, ()⟩] ∧
      (bench.obey .start).loop.pending = [⟨1, 250 + 125, ()⟩] := by
  let first : TimerBench Int := ofPolicy ⟨250, 125, 7⟩ fun _ _ => []
  let armed := first.obey .start
  let call : Handle Int Unit := ⟨0, 250, ()⟩
  have shortest : (0 : Int) < 250 := by decide
  have longest : (0 : Int) < 125 := by decide
  have pending : call ∈ armed.loop.pending := List.mem_singleton_self call
  have run : first.Run [.told .start, .expired 0 false] (armed.called call) :=
    (Run.rest.obey .start).call pending
  refine ⟨first, armed.called call, rfl, run, ?_, ?_⟩
  · exact (Run.rest.start_waits shortest longest).1
  · exact (run.start_waits shortest longest).1

end TimerBench
end NetBoot
