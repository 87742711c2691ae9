/-
# When retry timers fire

The owner of a timer may start and stop it at any time, also while it is told that the
timer fired; and the loop may let any pending call come.  A run is any sequence of these
moments.  A call that is handled is over for the timer before its owner is told, so what
the owner does in return is no different from what it does later.

In every run each arming leads to at most one firing, and to none once the owner tells the
timer anything else first.  The attempts are the starts since the last stop, and each
firing tells whether these have used up the budget.
-/
import NetBoot.Proofs.Time.Wiring
import NetBoot.Time.Bench
import Mathlib.Data.List.DropRight

namespace NetBoot

/-- Does a command arm the timer? -/
def TimerCommand.arms : TimerCommand → Bool
  | start | startNow => true
  | stop => false

/-- Something that a timer goes through. -/
inductive TimerMoment
  /-- The owner tells it something. -/
  | told (command : TimerCommand)
  /-- The call of a number comes, and the owner learns whether the attempts are used up. -/
  | expired (number : Nat) (spent : Bool)
  deriving DecidableEq, Repr

namespace TimerMoment

/-- Does the owner arm the timer? -/
def arms : TimerMoment → Bool
  | told command => command.arms
  | expired .. => false

/-- The call that comes, if one does. -/
def call? : TimerMoment → Option Nat
  | told _ => none
  | expired number _ => some number

/-- What the owner learns when the timer fires. -/
def flag? : TimerMoment → Option Bool
  | told _ => none
  | expired _ spent => some spent

/-- How often a timer was armed.  The loop numbers the calls of a timer in the order of
their armings, from zero. -/
def armings (moments : List TimerMoment) : Nat := moments.countP arms

/-- The starts since the last stop. -/
def attempts (moments : List TimerMoment) : Nat :=
  (moments.rtakeWhile (· ≠ told .stop)).count (told .start)

/-- The call that was asked for just now. -/
def awaited? (moments : List TimerMoment) : Option Nat :=
  if moments.getLast?.any arms then some (armings moments.dropLast) else none

variable {moments before after : List TimerMoment} {moment : TimerMoment} {number : Nat}

@[simp]
theorem armings_append_singleton (moments : List TimerMoment) (moment : TimerMoment) :
    armings (moments ++ [moment]) = armings moments + if moment.arms then 1 else 0 := by
  simp [armings, List.countP_append, List.countP_singleton]

@[simp]
theorem awaited?_append_singleton (moments : List TimerMoment) (moment : TimerMoment) :
    awaited? (moments ++ [moment]) = if moment.arms then some (armings moments) else none := by
  simp [awaited?]

@[simp]
theorem attempts_append_stop (moments : List TimerMoment) :
    attempts (moments ++ [told .stop]) = 0 := by
  simp [attempts]

@[simp]
theorem attempts_append_start (moments : List TimerMoment) :
    attempts (moments ++ [told .start]) = attempts moments + 1 := by
  simp [attempts]

theorem attempts_append_of_ne (hstop : moment ≠ told .stop) (hstart : moment ≠ told .start) :
    attempts (moments ++ [moment]) = attempts moments := by
  simp [attempts, hstop, hstart]

/-- Only an arming has just asked for a call. -/
theorem exists_of_awaited? (h : awaited? moments = some number) :
    ∃ earlier command, moments = earlier ++ [told command] ∧ command.arms = true ∧
      number = armings earlier := by
  rcases List.eq_nil_or_concat' moments with rfl | ⟨earlier, moment, rfl⟩
  · simp [awaited?] at h
  · rw [awaited?_append_singleton, Option.ite_none_right_eq_some, Option.some_inj] at h
    cases moment with
    | told command => exact ⟨earlier, command, rfl, h.1, h.2.symm⟩
    | expired number spent => simp [arms] at h

/-- After a stop, as long as the timer is not armed again, no call is asked for. -/
theorem awaited?_of_stopped (idle : ∀ moment ∈ after, moment.arms = false) :
    awaited? (before ++ told .stop :: after) = none := by
  rcases List.eq_nil_or_concat' after with rfl | ⟨rest, last, rfl⟩
  · rw [awaited?_append_singleton]
    rfl
  · rw [← List.cons_append, ← List.append_assoc, awaited?_append_singleton,
      idle last (by simp)]
    rfl

theorem attempts_of_stopped (idle : ∀ moment ∈ after, moment.arms = false) :
    attempts (before ++ told .stop :: after) = 0 := by
  induction after using List.reverseRecOn with
  | nil => exact attempts_append_stop before
  | append_singleton rest last ih =>
    rw [List.forall_mem_append] at idle
    have hrest := ih idle.1
    rw [← List.cons_append, ← List.append_assoc]
    by_cases hstop : last = told .stop
    · rw [hstop, attempts_append_stop]
    · have hstart : last ≠ told .start := by
        rintro rfl
        exact absurd (idle.2 _ (List.mem_singleton_self _)) (by decide)
      rw [attempts_append_of_ne hstop hstart, hrest]

/-- A sequence with one moment more is taken apart at that moment or before it. -/
theorem append_singleton_eq_split_iff {current : TimerMoment} :
    moments ++ [moment] = before ++ current :: after ↔
      (moments = before ∧ moment = current ∧ after = []) ∨
        ∃ rest, after = rest ++ [moment] ∧ moments = before ++ current :: rest := by
  rcases List.eq_nil_or_concat' after with rfl | ⟨rest, last, rfl⟩
  · simp
  · rw [← List.cons_append, ← List.append_assoc, List.append_singleton_inj]
    constructor
    · rintro ⟨hmoments, rfl⟩
      exact .inr ⟨rest, rfl, hmoments⟩
    · rintro (⟨-, -, hrest⟩ | ⟨other, hother, hmoments⟩)
      · simp at hrest
      · obtain ⟨rfl, rfl⟩ := List.append_singleton_inj.mp hother
        exact ⟨hmoments, rfl⟩

/-- There are more armings before whatever comes after an arming than before that arming. -/
theorem armings_lt_of_split {other rest : List TimerMoment} {current : TimerMoment}
    (h : before ++ moment :: after = other ++ current :: rest) (arms : moment.arms = true)
    (shorter : before.length < other.length) : armings before < armings other := by
  have hprefix : before ++ [moment] <+: other := by
    refine List.prefix_of_prefix_length_le ⟨after, ?_⟩ ⟨current :: rest, rfl⟩ ?_
    · rw [← h, List.append_assoc, List.singleton_append]
    · simpa using Nat.succ_le_of_lt shorter
  have hle : armings (before ++ [moment]) ≤ armings other := hprefix.sublist.countP_le
  rw [armings_append_singleton, if_pos arms] at hle
  exact hle

/-- The number of armings before an arming tells which one it is. -/
theorem eq_of_armings_eq {other rest : List TimerMoment} {current : TimerMoment}
    (h : before ++ moment :: after = other ++ current :: rest) (arms : moment.arms = true)
    (arms' : current.arms = true) (same : armings before = armings other) : after = rest := by
  rcases Nat.lt_trichotomy before.length other.length with hlt | heq | hgt
  · exact absurd same (armings_lt_of_split h arms hlt).ne
  · exact (List.cons.inj (List.append_inj_right h heq)).2
  · exact absurd same (armings_lt_of_split h.symm arms' hgt).ne'

/-- What holds of the moments of every run: each firing follows the arming that it is due to,
and tells whether the attempts have used up the budget by then. -/
structure Lawful (budget : Int) (moments : List TimerMoment) : Prop where
  /-- Only calls that were asked for come. -/
  asked : ∀ number ∈ moments.filterMap call?, number < armings moments
  /-- The call that was asked for just now has not come yet. -/
  fresh : ∀ number ∈ moments.filterMap call?, ∀ awaited, awaited? moments = some awaited →
    number < awaited
  once : (moments.filterMap call?).Nodup
  due : ∀ before number spent after, moments = before ++ expired number spent :: after →
    awaited? before = some number ∧ spent = decide (budget ≤ attempts before)

namespace Lawful

variable {budget : Int}

theorem nil : Lawful budget [] := ⟨by simp, by simp, by simp, by simp⟩

/-- Telling a timer something keeps the law. -/
theorem told (h : Lawful budget moments) (command : TimerCommand) :
    Lawful budget (moments ++ [.told command]) := by
  have hcalls : (moments ++ [TimerMoment.told command]).filterMap call? =
      moments.filterMap call? := by
    simp [call?]
  refine ⟨?_, ?_, ?_, ?_⟩
  · rw [hcalls, armings_append_singleton]
    exact fun number mem => Nat.lt_add_right _ (h.asked number mem)
  · rw [hcalls, awaited?_append_singleton]
    intro number mem awaited hawaited
    rw [Option.ite_none_right_eq_some, Option.some_inj] at hawaited
    exact hawaited.2 ▸ h.asked number mem
  · rw [hcalls]
    exact h.once
  · intro before number spent after hsplit
    rcases append_singleton_eq_split_iff.mp hsplit with ⟨-, hmoment, -⟩ | ⟨rest, -, hmoments⟩
    · cases hmoment
    · exact h.due before number spent rest hmoments

/-- The call that was asked for just now comes. -/
theorem expired (h : Lawful budget moments) {number : Nat}
    (awaited : awaited? moments = some number) :
    Lawful budget (moments ++ [.expired number (decide (budget ≤ attempts moments))]) := by
  obtain ⟨earlier, command, hmoments, arms, hnumber⟩ := exists_of_awaited? awaited
  refine ⟨?_, ?_, ?_, ?_⟩
  · have hlt : number < armings moments := by
      rw [hmoments, armings_append_singleton, hnumber]
      simp [TimerMoment.arms, arms]
    simp only [List.filterMap_append, List.mem_append, armings_append_singleton]
    rintro known (mem | mem)
    · exact Nat.lt_add_right _ (h.asked known mem)
    · simp only [List.filterMap_cons, call?, List.filterMap_nil, List.mem_singleton] at mem
      exact Nat.lt_add_right _ (mem ▸ hlt)
  · simp [TimerMoment.arms]
  · simp only [List.filterMap_append, List.filterMap_cons, call?, List.filterMap_nil]
    refine h.once.append (List.nodup_singleton number) ?_
    rw [List.disjoint_singleton]
    exact fun mem => Nat.lt_irrefl _ (h.fresh number mem number awaited)
  · intro before known spent after hsplit
    rcases append_singleton_eq_split_iff.mp hsplit with ⟨rfl, hmoment, -⟩ | ⟨rest, -, hmoments⟩
    · cases hmoment
      exact ⟨awaited, rfl⟩
    · exact h.due before known spent rest hmoments

end Lawful

end TimerMoment

open TimerMoment

variable {τ : Type} [TimeScale τ]

omit [TimeScale τ] in
/-- Where there is only one owner, what it waits for is all that anybody waits for. -/
theorem EventLoop.Wiring.of_update_unit {loop : EventLoop τ Unit} {held : Unit → Option Nat}
    {asked : Option Nat} (h : loop.Wiring (Function.update held () asked)) :
    loop.Wiring fun _ => asked := by
  rwa [Function.update_eq_const_of_subsingleton] at h

namespace TimerBench

/-- A timer as its owner is told that it fired. -/
def called (handle : Handle τ Unit) (bench : TimerBench τ) : TimerBench τ :=
  { bench with
    timer := bench.timer.fired
    loop := bench.loop.take handle
    flags := bench.flags ++ [bench.timer.spent] }

/-- A sequence of moments from one timer to another.  Whatever the owner does in return for a
firing follows the moment at which it is told. -/
inductive Run (first : TimerBench τ) : List TimerMoment → TimerBench τ → Prop
  | rest : Run first [] first
  | obey {moments : List TimerMoment} {bench : TimerBench τ} (prior : Run first moments bench)
      (command : TimerCommand) : Run first (moments ++ [.told command]) (bench.obey command)
  | call {moments : List TimerMoment} {bench : TimerBench τ} (prior : Run first moments bench)
      {handle : Handle τ Unit} (pending : handle ∈ bench.loop.pending) :
      Run first (moments ++ [.expired handle.number bench.timer.spent]) (bench.called handle)
  | tick {moments : List TimerMoment} {bench : TimerBench τ} (prior : Run first moments bench)
      (instant : τ) : Run first moments { bench with loop := bench.loop.moveTo instant }

variable {first bench : TimerBench τ} {moments : List TimerMoment}

/-- A timer and its loop are what the moments so far make of them. -/
structure Tracks (policy : RetryPolicy τ) (moments : List TimerMoment) (bench : TimerBench τ) :
    Prop where
  wiring : bench.loop.Wiring fun _ => bench.timer.handle
  asked : bench.loop.asked = armings moments
  handle : bench.timer.handle = awaited? moments
  same_policy : bench.timer.policy = policy
  attempts : bench.timer.attempts = attempts moments
  timeout : TimerMoment.attempts moments = 0 → bench.timer.timeout = policy.minTimeout
  flags : bench.flags = moments.filterMap flag?
  lawful : Lawful policy.maxAttempts moments

namespace Tracks

variable {policy : RetryPolicy τ}

theorem start (policy : RetryPolicy τ) (reaction : Nat → Bool → List TimerCommand) :
    Tracks policy [] (ofPolicy policy reaction) :=
  ⟨.start, rfl, rfl, rfl, rfl, fun _ => rfl, rfl, .nil⟩

theorem obey (h : Tracks policy moments bench) (command : TimerCommand) :
    Tracks policy (moments ++ [.told command]) (bench.obey command) := by
  have lawful := h.lawful.told command
  have flags : bench.flags = (moments ++ [TimerMoment.told command]).filterMap flag? := by
    simp [h.flags, flag?]
  cases command with
  | start =>
    have wiring := (RetryTimer.wiring_start h.wiring rfl).of_update_unit
    refine ⟨wiring, ?_, ?_, ?_, ?_, by simp, flags, lawful⟩
    · rw [armings_append_singleton, ← h.asked]
      exact RetryTimer.asked_arm ..
    · rw [awaited?_append_singleton, ← h.asked]
      exact RetryTimer.handle_arm bench.timer bench.loop bench.timer.timeout ()
    · exact (RetryTimer.policy_start bench.timer bench.loop ()).trans h.same_policy
    · rw [attempts_append_start, ← h.attempts]
      exact RetryTimer.attempts_start bench.timer bench.loop ()
  | startNow =>
    have wiring := (RetryTimer.wiring_startNow h.wiring rfl).of_update_unit
    have hattempts : TimerMoment.attempts (moments ++ [.told .startNow]) =
        TimerMoment.attempts moments := attempts_append_of_ne (by simp) (by simp)
    refine ⟨wiring, ?_, ?_, ?_, ?_, fun hnone => ?_, flags, lawful⟩
    · rw [armings_append_singleton, ← h.asked]
      exact RetryTimer.asked_arm ..
    · rw [awaited?_append_singleton, ← h.asked]
      exact RetryTimer.handle_arm bench.timer bench.loop TimeScale.zero ()
    · exact (RetryTimer.policy_startNow bench.timer bench.loop ()).trans h.same_policy
    · rw [hattempts, ← h.attempts]
      exact RetryTimer.attempts_startNow bench.timer bench.loop ()
    · exact (RetryTimer.timeout_startNow bench.timer bench.loop ()).trans
        (h.timeout (hattempts ▸ hnone))
  | stop =>
    have wiring := (RetryTimer.wiring_stop h.wiring rfl).of_update_unit
    refine ⟨wiring, ?_, ?_, ?_, ?_, fun _ => ?_, flags, lawful⟩
    · rw [armings_append_singleton, ← h.asked]
      exact RetryTimer.asked_stop ..
    · rw [awaited?_append_singleton]
      exact RetryTimer.handle_stop ..
    · exact (RetryTimer.policy_stop ..).trans h.same_policy
    · rw [attempts_append_stop]
      exact RetryTimer.attempts_stop ..
    · exact congrArg RetryPolicy.minTimeout h.same_policy

theorem call (h : Tracks policy moments bench) {handle : Handle τ Unit}
    (pending : handle ∈ bench.loop.pending) :
    Tracks policy (moments ++ [.expired handle.number bench.timer.spent])
      (bench.called handle) := by
  have hheld : bench.timer.handle = some handle.number := h.wiring.held_eq pending
  have hspent : bench.timer.spent =
      decide (policy.maxAttempts ≤ TimerMoment.attempts moments) := by
    rw [RetryTimer.spent, h.same_policy, h.attempts]
  have hattempts : TimerMoment.attempts (moments ++
      [.expired handle.number bench.timer.spent]) = TimerMoment.attempts moments :=
    attempts_append_of_ne (by simp) (by simp)
  refine ⟨?_, ?_, ?_, h.same_policy, ?_, ?_, ?_, ?_⟩
  · exact (h.wiring.take pending).of_update_unit
  · rw [armings_append_singleton]
    exact h.asked
  · simp [TimerMoment.arms, called, RetryTimer.fired]
  · exact h.attempts.trans hattempts.symm
  · rw [hattempts]
    exact h.timeout
  · simp [called, h.flags, flag?]
  · rw [hspent]
    exact h.lawful.expired (h.handle.symm.trans hheld)

end Tracks

theorem Run.obeyAll (run : Run first moments bench) (commands : List TimerCommand) :
    Run first (moments ++ commands.map .told) (commands.foldl TimerBench.obey bench) := by
  induction commands generalizing moments bench with
  | nil => simpa using run
  | cons command rest ih => simpa using ih (run.obey command)

/-- A firing with all that the owner does in return. -/
theorem Run.fire (run : Run first moments bench) {handle : Handle τ Unit}
    (pending : handle ∈ bench.loop.pending) :
    Run first (moments ++ [.expired handle.number bench.timer.spent] ++
      (bench.reaction bench.flags.length bench.timer.spent).map .told) (bench.fire handle) :=
  (run.call pending).obeyAll _

/-- Whoever runs the loop makes a run. -/
theorem Run.runWithin (run : Run first moments bench) (limit : Option τ) (calls : Nat) :
    ∃ later, Run first (moments ++ later) (EventLoop.runWithin (ε := Empty) loop
      (fun handle state => (.ok (), state.fire handle)) limit calls bench).2 := by
  induction calls generalizing moments bench with
  | zero => exact ⟨[], (List.append_nil moments).symm ▸ run⟩
  | succ calls ih =>
    rw [EventLoop.runWithin]
    cases hnext : bench.loop.next? limit with
    | none => exact ⟨[], (List.append_nil moments).symm ▸ run⟩
    | some handle =>
      obtain ⟨later, hlater⟩ := ih (run.fire (EventLoop.mem_of_next? hnext))
      simp only [List.append_assoc] at hlater
      exact ⟨_, hlater⟩

/-- Letting time pass makes a run as well. -/
theorem Run.advance (run : Run first moments bench) (duration : τ) :
    ∃ later, Run first (moments ++ later) (bench.advance duration).2 := by
  let target := TimeScale.add bench.loop.now duration
  obtain ⟨later, hlater⟩ := run.runWithin (some target) EventLoop.callLimit
  rw [TimerBench.advance]
  rcases hrun : bench.run (some target) with ⟨outcome, reached⟩
  rw [TimerBench.run, EventLoop.run] at hrun
  rw [hrun] at hlater
  cases outcome with
  | error cause => exact ⟨later, hlater⟩
  | ok _ => exact ⟨later, hlater.tick target⟩

/-- In every run a timer and its loop are what the moments so far make of them. -/
theorem Run.tracks {policy : RetryPolicy τ} {reaction : Nat → Bool → List TimerCommand}
    (run : (ofPolicy policy reaction).Run moments bench) : Tracks policy moments bench := by
  induction run with
  | rest => exact .start policy reaction
  | obey _ command ih => exact ih.obey command
  | call _ pending ih => exact ih.call pending
  | tick _ instant ih =>
    exact ⟨ih.wiring.of_pending rfl rfl, ih.asked, ih.handle, ih.same_policy, ih.attempts,
      ih.timeout, ih.flags, ih.lawful⟩

omit [TimeScale τ] in
/-- The pending calls of a timer are the one that it waits for, or none. -/
theorem Tracks.pending {policy : RetryPolicy τ} (h : Tracks policy moments bench) :
    bench.loop.pending.map Handle.number = bench.timer.handle.toList := by
  have hcalls := h.wiring.calls ()
  rwa [EventLoop.callsOf, List.filter_eq_self.mpr (by simp)] at hcalls

/-- A timer with its moments so far.  Calls are named by their numbers; the call of an arming
has as its number how many armings there were before. -/
structure Punctual (policy : RetryPolicy τ) (moments : List TimerMoment) (bench : TimerBench τ) :
    Prop where
  /-- At most one call is pending. -/
  single : bench.loop.pending.length ≤ 1
  /-- The timer runs exactly while a call is pending. -/
  running : bench.timer.running = true ↔ bench.loop.pending.length = 1
  /-- Only calls that were asked for come. -/
  asked : ∀ number ∈ moments.filterMap call?, number < armings moments
  /-- No call comes twice. -/
  once : (moments.filterMap call?).Nodup
  /-- The call of an arming comes before the timer is told anything else, or never. -/
  next : ∀ before command after, moments = before ++ .told command :: after →
    command.arms = true → ∀ spent, .expired (armings before) spent ∈ moments →
      ∃ rest, after = .expired (armings before) spent :: rest
  /-- The attempts are the starts since the last stop. -/
  attempts : bench.timer.attempts = attempts moments
  /-- The owner was told what each firing tells. -/
  flags : bench.flags = moments.filterMap flag?
  /-- A firing tells whether the attempts have used up the budget by then. -/
  spent : ∀ before number spent after, moments = before ++ .expired number spent :: after →
    spent = decide (policy.maxAttempts ≤ TimerMoment.attempts before)
  /-- Until it is armed again, a stopped timer does not fire and is as it was at first. -/
  stopped : ∀ before after, moments = before ++ .told .stop :: after →
    (∀ moment ∈ after, moment.arms = false) → after.filterMap call? = [] ∧
      bench.loop.pending = [] ∧ bench.timer.attempts = 0 ∧
      bench.timer.timeout = policy.minTimeout

/-- In every run of a timer, whatever its owner does and also while it is told that the timer
fired, at most one call is pending, and one is exactly while the timer runs.  An arming leads to
at most one firing, and to none once the timer is told something else first.  The attempts are
the starts since the last stop, and each firing tells whether they have used up the budget.  A
stopped timer does not fire until it is armed again and is as it was at first. -/
theorem Run.punctual {policy : RetryPolicy τ} {reaction : Nat → Bool → List TimerCommand}
    (run : (ofPolicy policy reaction).Run moments bench) : Punctual policy moments bench := by
  have tracks := run.tracks
  have lawful := tracks.lawful
  have hlength : bench.loop.pending.length = bench.timer.handle.toList.length := by
    rw [← tracks.pending, List.length_map]
  refine ⟨?_, ?_, lawful.asked, lawful.once, ?_, tracks.attempts, tracks.flags,
    fun before number spent after split => (lawful.due before number spent after split).2, ?_⟩
  · rw [hlength]
    cases bench.timer.handle <;> simp
  · rw [hlength, RetryTimer.running]
    cases bench.timer.handle <;> simp
  · intro before command after split arms spent mem
    obtain ⟨sooner, rest, hmoments⟩ := List.append_of_mem mem
    obtain ⟨earlier, other, rfl, arms', hnumber⟩ :=
      exists_of_awaited? (lawful.due sooner _ spent rest hmoments).1
    rw [List.append_assoc, List.singleton_append] at hmoments
    exact ⟨rest, eq_of_armings_eq (split.symm.trans hmoments) arms arms' hnumber⟩
  · intro before after split idle
    have hattempts : TimerMoment.attempts moments = 0 := by
      rw [split]
      exact attempts_of_stopped idle
    refine ⟨?_, ?_, tracks.attempts.trans hattempts, tracks.timeout hattempts⟩
    · rw [List.filterMap_eq_nil_iff]
      intro moment mem
      cases moment with
      | told command => rfl
      | expired number spent =>
        obtain ⟨sooner, rest, hafter⟩ := List.append_of_mem mem
        have hmoments : moments =
            (before ++ .told .stop :: sooner) ++ .expired number spent :: rest := by
          rw [split, hafter, List.append_assoc, List.cons_append]
        have awaited := (lawful.due _ number spent rest hmoments).1
        rw [awaited?_of_stopped fun known mem => idle known (by simp [hafter, mem])] at awaited
        cases awaited
    · have hpending := tracks.pending
      rw [tracks.handle, split, awaited?_of_stopped idle] at hpending
      exact List.map_eq_nil_iff.mp hpending

/-- A timer that may attempt twice is started while it is about to fire at once.  Its owner
starts it again when it fires and stops it when the attempts are used up. -/
theorem punctual_after_two_attempts :
    ∃ (reaction : Nat → Bool → List TimerCommand) (bench : TimerBench Int),
      (ofPolicy ⟨250, 10000, 2⟩ reaction).Run
        [.told .startNow, .told .start, .expired 1 false, .told .start, .expired 2 true,
          .told .stop] bench ∧
      bench.flags = [false, true] ∧ bench.loop.now = 750 ∧
      Punctual ⟨250, 10000, 2⟩ [.told .startNow, .told .start, .expired 1 false, .told .start,
        .expired 2 true, .told .stop] bench := by
  let reaction : Nat → Bool → List TimerCommand := fun _ spent =>
    if spent then [.stop] else [.start]
  let armed : TimerBench Int := ((ofPolicy ⟨250, 10000, 2⟩ reaction).obey .startNow).obey .start
  let bench : TimerBench Int := (armed.fire ⟨1, 250, ()⟩).fire ⟨2, 750, ()⟩
  have first : (⟨1, 250, ()⟩ : Handle Int Unit) ∈ armed.loop.pending := by decide
  have second : (⟨2, 750, ()⟩ : Handle Int Unit) ∈
      (armed.fire ⟨1, 250, ()⟩).loop.pending := by decide
  have run : (ofPolicy ⟨250, 10000, 2⟩ reaction).Run [.told .startNow, .told .start,
      .expired 1 false, .told .start, .expired 2 true, .told .stop] bench :=
    (((Run.rest.obey .startNow).obey .start).fire first).fire second
  exact ⟨reaction, bench, run, by decide, by decide, run.punctual⟩

end TimerBench
end NetBoot
