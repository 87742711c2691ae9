/-
# How timers and their loop hang together

Several owners share an event loop, each through a timer that remembers the number of
its pending call.  The loop and the timers agree: the calls that are pending for an
owner are the one that its timer remembers, or none.  Arming and disarming a timer and
letting its call come keep this, and they leave the calls of all other owners alone.
-/
import NetBoot.Time.Retry
import Mathlib.Data.List.Nodup
import Mathlib.Logic.Function.Basic

namespace NetBoot

variable {τ α : Type} [DecidableEq α]

namespace EventLoop

section

omit [DecidableEq α]

variable [TimeScale τ] {loop : EventLoop τ α} {limit : Option τ} {handle : Handle τ α}

theorem foldl_earlier_mem (first : Handle τ α) (rest : List (Handle τ α)) :
    rest.foldl earlier first ∈ first :: rest := by
  induction rest generalizing first with
  | nil => exact List.mem_singleton_self first
  | cons second rest ih =>
    rw [List.foldl_cons]
    have hmem := ih (earlier first second)
    have hchosen : earlier first second = first ∨ earlier first second = second := by
      rw [earlier]
      split
      · exact .inr rfl
      · exact .inl rfl
    rcases hchosen with hchosen | hchosen <;> rw [hchosen] at hmem ⊢
    · rw [List.mem_cons] at hmem ⊢
      exact hmem.imp_right (List.mem_cons_of_mem second)
    · exact List.mem_cons_of_mem first hmem

/-- The call that runs next is pending. -/
theorem mem_of_next? (h : loop.next? limit = some handle) : handle ∈ loop.pending := by
  rw [next?] at h
  cases hpending : loop.pending.filter (within limit) with
  | nil => simp [hpending, earliest?] at h
  | cons first rest =>
    rw [hpending, earliest?, Option.some_inj] at h
    have hmem := foldl_earlier_mem first rest
    rw [h, ← hpending] at hmem
    exact (List.mem_filter.mp hmem).1

end

/-- The calls that are pending for an owner. -/
def callsOf (loop : EventLoop τ α) (owner : α) : List (Handle τ α) :=
  loop.pending.filter fun handle => handle.owner = owner

/-- The loop agrees with what the owners' timers remember: for each owner the pending
calls are those whose number its timer holds, and numbers are not used twice. -/
structure Wiring (loop : EventLoop τ α) (held : α → Option Nat) : Prop where
  calls : ∀ owner, (loop.callsOf owner).map Handle.number = (held owner).toList
  distinct : (loop.pending.map Handle.number).Nodup
  numbered : ∀ handle ∈ loop.pending, handle.number < loop.asked

namespace Wiring

variable {loop : EventLoop τ α} {held : α → Option Nat} {owner : α} {number : Nat}

theorem start [TimeScale τ] : (start : EventLoop τ α).Wiring fun _ => none :=
  ⟨fun _ => rfl, List.nodup_nil, by simp [EventLoop.start]⟩

/-- A loop that differs at most in its clock is wired in the same way. -/
theorem of_pending {other : EventLoop τ α} (h : loop.Wiring held)
    (pending : other.pending = loop.pending) (asked : other.asked = loop.asked) :
    other.Wiring held := by
  refine ⟨fun owner => ?_, ?_, ?_⟩
  · rw [callsOf, pending]
    exact h.calls owner
  · rw [pending]
    exact h.distinct
  · rw [pending, asked]
    exact h.numbered

/-- A timer remembers the number of each call that is pending for its owner. -/
theorem held_eq (h : loop.Wiring held) {handle : Handle τ α} (mem : handle ∈ loop.pending) :
    held handle.owner = some handle.number := by
  have hcall : handle.number ∈ (loop.callsOf handle.owner).map Handle.number :=
    List.mem_map_of_mem (List.mem_filter.mpr ⟨mem, by simp⟩)
  rw [h.calls] at hcall
  exact Option.mem_toList.mp hcall

/-- No call is pending for the owner of an idle timer. -/
theorem callsOf_eq_nil (h : loop.Wiring held) (idle : held owner = none) :
    loop.callsOf owner = [] := by
  have hcalls := h.calls owner
  rw [idle] at hcalls
  exact List.map_eq_nil_iff.mp hcalls

/-- Exactly one call is pending for the owner of an armed timer. -/
theorem exists_callsOf_eq (h : loop.Wiring held) (armed : held owner = some number) :
    ∃ handle, loop.callsOf owner = [handle] ∧ handle ∈ loop.pending ∧
      handle.owner = owner ∧ handle.number = number := by
  have hcalls := h.calls owner
  rw [armed] at hcalls
  obtain ⟨handle, hhandle, hnumber⟩ := List.map_eq_singleton_iff.mp hcalls
  have hmem : handle ∈ loop.callsOf owner := by simp [hhandle]
  rw [callsOf, List.mem_filter, decide_eq_true_iff] at hmem
  exact ⟨handle, hhandle, hmem.1, hmem.2, hnumber⟩

/-- Giving up the call of an owner leaves the calls of all others. -/
theorem cancel (h : loop.Wiring held) (armed : held owner = some number) :
    (loop.cancel number).Wiring (Function.update held owner none) := by
  refine ⟨fun other => ?_, h.distinct.sublist (List.filter_sublist.map _), fun handle mem =>
    h.numbered handle (List.mem_filter.mp mem).1⟩
  have hcalls : (loop.cancel number).callsOf other =
      (loop.callsOf other).filter fun handle => handle.number != number := by
    simp only [callsOf, EventLoop.cancel, List.filter_filter, Bool.and_comm]
  obtain ⟨handle, hhandle, mem, howner, hnumber⟩ := h.exists_callsOf_eq armed
  rw [hcalls]
  by_cases hother : other = owner
  · subst hother
    simp [hhandle, hnumber]
  · -- numbers are distinct, so no call of another owner has this number
    rw [Function.update_of_ne hother, ← h.calls other, List.filter_eq_self.mpr]
    intro call hcall
    rw [callsOf, List.mem_filter, decide_eq_true_iff] at hcall
    have hne : call.number ≠ number := by
      intro hsame
      have : call = handle :=
        List.inj_on_of_nodup_map h.distinct hcall.1 mem (hsame.trans hnumber.symm)
      exact hother (by rw [← hcall.2, this, howner])
    simp [hne]

/-- Asking for a call for an owner that has none. -/
theorem callLater [TimeScale τ] (h : loop.Wiring held) (idle : held owner = none) (delay : τ) :
    (loop.callLater delay owner).1.Wiring (Function.update held owner (some loop.asked)) := by
  let asked : Handle τ α := ⟨loop.asked, TimeScale.add loop.now delay, owner⟩
  have hpending : (loop.callLater delay owner).1.pending = loop.pending ++ [asked] := rfl
  refine ⟨fun other => ?_, ?_, ?_⟩
  · have hcalls := h.calls other
    rw [callsOf] at hcalls
    rw [callsOf, hpending, List.filter_append, List.map_append, hcalls]
    by_cases hother : other = owner
    · subst hother
      simp [idle, asked]
    · simp [asked, Function.update_of_ne hother, Ne.symm hother]
  · rw [hpending, List.map_append, List.nodup_append]
    refine ⟨h.distinct, by simp, ?_⟩
    rintro first hfirst second hsecond rfl
    obtain ⟨handle, mem, hnumber⟩ := List.mem_map.mp hfirst
    have hlt := h.numbered handle mem
    simp only [List.map_cons, List.map_nil, List.mem_singleton] at hsecond
    rw [hnumber, hsecond] at hlt
    exact Nat.lt_irrefl _ hlt
  · intro handle mem
    rw [hpending, List.mem_append, List.mem_singleton] at mem
    rcases mem with mem | rfl
    · exact Nat.lt_succ_of_lt (h.numbered handle mem)
    · exact Nat.lt_succ_self loop.asked

/-- Letting a pending call come. -/
theorem take [TimeScale τ] (h : loop.Wiring held) {handle : Handle τ α}
    (mem : handle ∈ loop.pending) :
    (loop.take handle).Wiring (Function.update held handle.owner none) :=
  (h.cancel (h.held_eq mem)).of_pending rfl rfl

end Wiring
end EventLoop

namespace RetryTimer

open EventLoop

variable {timer : RetryTimer τ} {loop : EventLoop τ α} {held : α → Option Nat} {owner : α}

omit [DecidableEq α] in
/-- Disarming changes nothing but the remembered call. -/
theorem disarm_eq (timer : RetryTimer τ) (loop : EventLoop τ α) :
    (timer.disarm loop).1 = { timer with handle := none } := by
  rw [disarm]
  split
  next idle => rw [← idle]
  · rfl

omit [DecidableEq α] in
@[simp]
theorem handle_stop (timer : RetryTimer τ) (loop : EventLoop τ α) :
    (timer.stop loop).1.handle = none := by
  simp [stop, disarm_eq]

omit [DecidableEq α] in
@[simp]
theorem attempts_stop (timer : RetryTimer τ) (loop : EventLoop τ α) :
    (timer.stop loop).1.attempts = 0 := rfl

omit [DecidableEq α] in
@[simp]
theorem policy_stop (timer : RetryTimer τ) (loop : EventLoop τ α) :
    (timer.stop loop).1.policy = timer.policy := by
  simp [stop, disarm_eq]

omit [DecidableEq α] in
@[simp]
theorem asked_disarm (timer : RetryTimer τ) (loop : EventLoop τ α) :
    (timer.disarm loop).2.asked = loop.asked := by
  rw [disarm]
  split <;> rfl

omit [DecidableEq α] in
@[simp]
theorem now_disarm (timer : RetryTimer τ) (loop : EventLoop τ α) :
    (timer.disarm loop).2.now = loop.now := by
  rw [disarm]
  split <;> rfl

omit [DecidableEq α] in
@[simp]
theorem asked_stop (timer : RetryTimer τ) (loop : EventLoop τ α) :
    (timer.stop loop).2.asked = loop.asked :=
  asked_disarm timer loop

theorem wiring_disarm (h : loop.Wiring held) (remembered : held owner = timer.handle) :
    (timer.disarm loop).2.Wiring (Function.update held owner none) := by
  rw [disarm]
  cases hhandle : timer.handle with
  | none =>
    have hidle : held owner = none := remembered.trans hhandle
    dsimp only
    rw [← hidle, Function.update_eq_self]
    exact h
  | some number => exact h.cancel (remembered.trans hhandle)

theorem wiring_stop (h : loop.Wiring held) (remembered : held owner = timer.handle) :
    (timer.stop loop).2.Wiring (Function.update held owner (timer.stop loop).1.handle) := by
  rw [handle_stop]
  exact wiring_disarm h remembered

variable [TimeScale τ]

omit [DecidableEq α] in
/-- An armed timer remembers the number that the loop gives next. -/
@[simp]
theorem handle_arm (timer : RetryTimer τ) (loop : EventLoop τ α) (delay : τ) (owner : α) :
    (timer.arm loop delay owner).1.handle = some loop.asked := by
  simp [arm, EventLoop.callLater]

omit [DecidableEq α] in
@[simp]
theorem asked_arm (timer : RetryTimer τ) (loop : EventLoop τ α) (delay : τ) (owner : α) :
    (timer.arm loop delay owner).2.asked = loop.asked + 1 := by
  simp [arm, EventLoop.callLater]

omit [DecidableEq α] in
@[simp]
theorem attempts_start (timer : RetryTimer τ) (loop : EventLoop τ α) (owner : α) :
    (timer.start loop owner).1.attempts = timer.attempts + 1 := rfl

omit [DecidableEq α] in
@[simp]
theorem policy_start (timer : RetryTimer τ) (loop : EventLoop τ α) (owner : α) :
    (timer.start loop owner).1.policy = timer.policy := by
  simp [start, arm, disarm_eq]

omit [DecidableEq α] in
/-- Asking to be called at once is no attempt. -/
@[simp]
theorem attempts_startNow (timer : RetryTimer τ) (loop : EventLoop τ α) (owner : α) :
    (timer.startNow loop owner).1.attempts = timer.attempts := by
  simp [startNow, arm, disarm_eq]

omit [DecidableEq α] in
@[simp]
theorem policy_startNow (timer : RetryTimer τ) (loop : EventLoop τ α) (owner : α) :
    (timer.startNow loop owner).1.policy = timer.policy := by
  simp [startNow, arm, disarm_eq]

omit [DecidableEq α] in
@[simp]
theorem timeout_startNow (timer : RetryTimer τ) (loop : EventLoop τ α) (owner : α) :
    (timer.startNow loop owner).1.timeout = timer.timeout := by
  simp [startNow, arm, disarm_eq]

theorem wiring_arm (h : loop.Wiring held) (remembered : held owner = timer.handle) (delay : τ) :
    (timer.arm loop delay owner).2.Wiring
      (Function.update held owner (timer.arm loop delay owner).1.handle) := by
  have hidle : Function.update held owner none owner = none := Function.update_self owner none held
  have hcalled := (wiring_disarm h remembered).callLater hidle delay
  rw [Function.update_idem] at hcalled
  exact hcalled

theorem wiring_start (h : loop.Wiring held) (remembered : held owner = timer.handle) :
    (timer.start loop owner).2.Wiring
      (Function.update held owner (timer.start loop owner).1.handle) :=
  wiring_arm h remembered timer.timeout

theorem wiring_startNow (h : loop.Wiring held) (remembered : held owner = timer.handle) :
    (timer.startNow loop owner).2.Wiring
      (Function.update held owner (timer.startNow loop owner).1.handle) :=
  wiring_arm h remembered TimeScale.zero

end RetryTimer
end NetBoot
