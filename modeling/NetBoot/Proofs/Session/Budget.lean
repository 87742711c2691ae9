/-
# How often sessions attempt

A session may attempt `max n 0` times while it is discovering and `max n 1` times while
it is requesting, where `n` is the number of attempts that its profile asks for.  The
first call of a session is no attempt, and entering the second phase is one; so an `n`
below one allows none in the first phase and one in the second.  The laws hold as long
as only the event loop tells a session that its timer fired.

The count of the timer is the number of attempts in the current phase.  From any moment
on, each firing either uses up one attempt or ends the session, unless a datagram is
accepted or the session is cancelled; so the session cannot go on for ever.
-/
import NetBoot.Proofs.Session.Ending

namespace NetBoot

open EventLoop

variable {τ σ : Type}

/-- The most attempts in a phase. -/
def RetryPolicy.budget (policy : RetryPolicy τ) : Phase → Int
  | .requesting => max policy.maxAttempts 1
  | _ => max policy.maxAttempts 0

/-- A session begins an attempt in a phase. -/
def Episode.attemptedIn (phase : Phase) (episode : Episode τ) : Bool :=
  episode.deed = .attempted ∧ episode.session.phase = phase

/-- A session accepts a datagram. -/
def Episode.accepting (episode : Episode τ) : Bool :=
  match episode.deed with
  | .accepted .. => true
  | _ => false

/-- The timer of a session fires. -/
def Event.fires (who : SessionId) : Event τ σ → Bool
  | .fire handle => handle.owner = who
  | _ => false

/-- The event tells a session that its timer fired, whether it did or not. -/
def Event.wakes (who : SessionId) : Event τ σ → Prop
  | .fire handle => handle.owner = who
  | .expire known _ => known = who
  | _ => False

/-- The session tells of the same phase and attempts as another record of it. -/
structure Session.Keeps (session next : Session τ) : Prop where
  profile : next.profile = session.profile
  phase : next.phase = session.phase
  failure : next.failure = session.failure
  policy : next.timer.policy = session.timer.policy
  attempts : next.timer.attempts = session.timer.attempts

/-- A budget is never below what the profile asks for. -/
theorem RetryPolicy.le_budget (policy : RetryPolicy τ) (phase : Phase) :
    policy.maxAttempts ≤ policy.budget phase := by
  cases phase <;> exact Int.le_max_left ..

namespace World

/-- How many attempts a session began in a phase. -/
def attemptsIn (world : World τ σ) (who : SessionId) (phase : Phase) : Nat :=
  (world.episodesOf who).countP (Episode.attemptedIn phase)

/-- How many datagrams a session accepted. -/
def acceptances (world : World τ σ) (who : SessionId) : Nat :=
  (world.episodesOf who).countP Episode.accepting

/-- The attempts of a session are within their budgets, the timer counts those of the
current phase, and a session that timed out had used up the budget of its phase. -/
structure Reckoned (world : World τ σ) (who : SessionId) (session : Session τ) : Prop where
  policy : session.timer.policy = session.profile.retry
  within : ∀ phase, (world.attemptsIn who phase : Int) ≤ session.profile.retry.budget phase
  current : session.finished = false →
    world.attemptsIn who session.phase = session.timer.attempts
  unrequested : session.phase = .discovering → world.attemptsIn who .requesting = 0
  requested : session.phase = .requesting → 1 ≤ session.timer.attempts
  timeout : ∀ device count, session.failure = some (.timeout device count) →
    ∃ detached ∈ world.episodesOf who, detached.deed = .detached ∧
      detached.session.finished = false ∧
      world.attemptsIn who detached.session.phase = count ∧
      (count : Int) = session.profile.retry.budget detached.session.phase

section

variable {world after : World τ σ} {who : SessionId} {session next : Session τ}
  {deeds : List (Episode τ)} {outcomes : List (Option Failure)}

theorem Acts.attemptsIn (acts : world.Acts after who next deeds outcomes) (phase : Phase) :
    after.attemptsIn who phase =
      world.attemptsIn who phase + deeds.countP (Episode.attemptedIn phase) := by
  rw [World.attemptsIn, acts.episodesOf, List.countP_append]
  rfl

theorem Acts.acceptances (acts : world.Acts after who next deeds outcomes) :
    after.acceptances who = world.acceptances who + deeds.countP Episode.accepting := by
  rw [World.acceptances, acts.episodesOf, List.countP_append]
  rfl

theorem keeps_keeping (world : World τ σ) (session : Session τ) (data : Bytes) :
    session.Keeps (world.keeping session data) := by
  obtain ⟨response, proxy, hkeeping⟩ := world.keeping_eq session data
  rw [hkeeping]
  exact ⟨rfl, rfl, rfl, rfl, rfl⟩

theorem keeps_settling (world : World τ σ) (session : Session τ) (data : Bytes) :
    session.Keeps (world.settling session data) := by
  obtain ⟨proxy, hsettling⟩ := world.settling_eq session data
  rw [hsettling]
  exact ⟨rfl, rfl, rfl, rfl, rfl⟩

/-- A session that ends does nothing but ending. -/
theorem ends_of_mem_closing {outcome : Option Failure} {episode : Episode τ}
    (mem : episode ∈ world.closing who session outcome) : episode.deed.ends = true := by
  simp only [closing, List.mem_append, List.mem_ite_nil_right, List.mem_ite_nil_left,
    List.mem_singleton] at mem
  rcases mem with ((⟨-, rfl⟩ | rfl) | ⟨-, rfl⟩) | ⟨-, rfl⟩ <;> rfl

theorem countP_attemptedIn_closing (outcome : Option Failure) (phase : Phase) :
    (world.closing who session outcome).countP (Episode.attemptedIn phase) = 0 := by
  apply List.countP_eq_zero.mpr
  intro episode mem
  have hends := ends_of_mem_closing mem
  rw [Episode.attemptedIn, decide_eq_true_iff]
  rintro ⟨hdeed, -⟩
  simp [hdeed, Deed.ends] at hends

/-- What a session does without attempting changes no count. -/
theorem Reckoned.acts (h : world.Reckoned who session)
    (acts : world.Acts after who next deeds outcomes) (keeps : session.Keeps next)
    (unattempted : ∀ phase, deeds.countP (Episode.attemptedIn phase) = 0) :
    after.Reckoned who next := by
  have hcount (phase : Phase) : after.attemptsIn who phase = world.attemptsIn who phase := by
    rw [acts.attemptsIn, unattempted, Nat.add_zero]
  refine ⟨?_, fun phase => ?_, fun active => ?_, fun discovering => ?_, fun requesting => ?_,
    fun device count failure => ?_⟩
  · rw [keeps.policy, keeps.profile, h.policy]
  · rw [hcount, keeps.profile]
    exact h.within phase
  · rw [hcount, keeps.phase, keeps.attempts]
    apply h.current
    rw [Session.finished, ← keeps.phase]
    exact active
  · rw [hcount]
    exact h.unrequested (keeps.phase ▸ discovering)
  · rw [keeps.attempts]
    exact h.requested (keeps.phase ▸ requesting)
  · obtain ⟨detached, mem, hdeed, hactive, hsame, hcount'⟩ :=
      h.timeout device count (keeps.failure ▸ failure)
    refine ⟨detached, ?_, hdeed, hactive, (hcount _).trans hsame, keeps.profile ▸ hcount'⟩
    rw [acts.episodesOf]
    exact List.mem_append_left _ mem

/-- An active session that used up its attempts used up the budget of its phase. -/
theorem Reckoned.budget_eq (h : world.Reckoned who session) (active : session.finished = false)
    (spent : session.profile.retry.maxAttempts ≤ session.timer.attempts) :
    (session.timer.attempts : Int) = session.profile.retry.budget session.phase := by
  have hwithin := h.within session.phase
  rw [h.current active] at hwithin
  apply Int.le_antisymm hwithin
  cases hphase : session.phase with
  | discovering => exact Int.max_le.mpr ⟨spent, Int.natCast_nonneg _⟩
  | requesting => exact Int.max_le.mpr ⟨spent, Int.ofNat_le.mpr (h.requested hphase)⟩
  | succeeded => simp [Session.finished, hphase, Phase.terminal] at active
  | failed => simp [Session.finished, hphase, Phase.terminal] at active

/-- A session that ends attempts nothing more. -/
theorem Reckoned.ended (h : world.Reckoned who session) (ongoing : world.Ongoing who session)
    {outcome : Option Failure}
    (timeout : ∀ device count, outcome = some (.timeout device count) →
      count = session.timer.attempts ∧ session.profile.retry.maxAttempts ≤ count) :
    (world.ended who session outcome).Reckoned who
      { session.ended outcome with timer := (session.timer.stop world.loop).1 } := by
  have acts := acts_ended ongoing.found outcome
  have hcount (phase : Phase) :
      (world.ended who session outcome).attemptsIn who phase = world.attemptsIn who phase := by
    rw [acts.attemptsIn, countP_attemptedIn_closing, Nat.add_zero]
  refine ⟨(RetryTimer.policy_stop _ _).trans h.policy, fun phase => ?_, fun active => ?_,
    fun discovering => ?_, fun requesting => ?_, fun device count failure => ?_⟩
  · rw [hcount]
    exact h.within phase
  · cases outcome <;> simp [Session.ended, Session.finished, Phase.terminal] at active
  · cases outcome <;> simp [Session.ended] at discovering
  · cases outcome <;> simp [Session.ended] at requesting
  · obtain ⟨hattempts, hspent⟩ := timeout device count failure
    subst hattempts
    refine ⟨⟨who, .detached, { session with owner := .absent, attached := false }, world.tree,
      world.loop.pending, world.loop.now⟩, ?_, rfl, ongoing.active, ?_,
      h.budget_eq ongoing.active hspent⟩
    · rw [acts.episodesOf, closing]
      simp [ongoing.attached]
    · rw [hcount]
      exact h.current ongoing.active

variable [TimeScale τ]

/-- An attempt in the current phase. -/
theorem Reckoned.attempted (h : world.Reckoned who session)
    (found : world.session? who = some session) (active : session.finished = false)
    (left : (session.timer.attempts : Int) < session.profile.retry.maxAttempts)
    (unended : session.failure = none) :
    (world.attempted who session).Reckoned who
      { session with timer := (session.timer.start world.loop who).1 } := by
  have acts := acts_attempted found
  have hcount (phase : Phase) : (world.attempted who session).attemptsIn who phase =
      world.attemptsIn who phase + if session.phase = phase then 1 else 0 := by
    rw [acts.attemptsIn, List.countP_singleton, Episode.attemptedIn]
    simp
  have hcurrent := h.current active
  have hpolicy := RetryTimer.policy_start session.timer world.loop who
  refine ⟨hpolicy.trans h.policy, fun phase => ?_, fun _ => ?_, fun discovering => ?_,
    fun _ => ?_, fun device count failure => ?_⟩
  · rw [hcount]
    have hwithin := h.within phase
    split
    next hphase =>
      have hbudget := session.profile.retry.le_budget phase
      rw [← hphase] at hbudget ⊢
      rw [hcurrent]
      exact Int.le_trans left hbudget
    · exact hwithin
  · rw [hcount, if_pos rfl, hcurrent, RetryTimer.attempts_start]
  · rw [hcount, if_neg, h.unrequested discovering]
    rw [show session.phase = .discovering from discovering]
    decide
  · exact Nat.le_add_left ..
  · rw [show session.failure = some _ from failure] at unended
    exact absurd unended (by simp)

/-- The first attempt in the second phase. -/
theorem Reckoned.requesting (h : world.Reckoned who session)
    (found : world.session? who = some session) (discovering : session.phase = .discovering)
    (unended : session.failure = none) :
    ∃ next, (world.requesting who session).session? who = some next ∧
      (world.requesting who session).Reckoned who next := by
  obtain ⟨timer, hattempts, hpolicy, acts⟩ := acts_requesting found
  have hcount (phase : Phase) : (world.requesting who session).attemptsIn who phase =
      world.attemptsIn who phase + if Phase.requesting = phase then 1 else 0 := by
    rw [acts.attemptsIn, List.countP_singleton, Episode.attemptedIn]
    simp
  refine ⟨_, acts.session, ⟨hpolicy.trans h.policy, fun phase => ?_, fun _ => ?_,
    fun hphase => ?_, fun _ => ?_, fun device count failure => ?_⟩⟩
  · rw [hcount]
    have hwithin := h.within phase
    split
    next hphase =>
      subst hphase
      rw [h.unrequested discovering]
      exact Int.le_max_right ..
    · exact hwithin
  · rw [hcount, if_pos rfl, h.unrequested discovering]
    exact hattempts.symm
  · simp at hphase
  · exact Nat.le_of_eq hattempts.symm
  · rw [show session.failure = some _ from failure] at unended
    exact absurd unended (by simp)

end

variable [TimeScale τ] {around : Surroundings τ σ} {allowed : World τ σ → Event τ σ → Prop}
  {world after first : World τ σ}

omit [TimeScale τ] in
/-- What others do changes no count. -/
theorem Reckoned.spares {who : SessionId} {session : Session τ} (h : world.Reckoned who session)
    (spares : world.Spares after who) : after.Reckoned who session := by
  have hcount (phase : Phase) : after.attemptsIn who phase = world.attemptsIn who phase := by
    rw [attemptsIn, attemptsIn, spares.episodes]
  refine ⟨h.policy, fun phase => hcount phase ▸ h.within phase,
    fun active => (hcount _).trans (h.current active),
    fun discovering => (hcount _).trans (h.unrequested discovering), h.requested,
    fun device count failure => ?_⟩
  obtain ⟨detached, mem, hdeed, hactive, hsame, hbudget⟩ := h.timeout device count failure
  exact ⟨detached, spares.episodes ▸ mem, hdeed, hactive, (hcount _).trans hsame, hbudget⟩

omit [TimeScale τ] in
/-- A timer whose attempts are not used up. -/
theorem Reckoned.left {who : SessionId} {session : Session τ} (h : world.Reckoned who session)
    (left : session.timer.spent = false) :
    (session.timer.attempts : Int) < session.profile.retry.maxAttempts := by
  rw [RetryTimer.spent, decide_eq_false_iff_not, h.policy] at left
  exact Int.not_le.mp left

omit [TimeScale τ] in
/-- A session that has not attempted anything yet. -/
theorem reckoned_of_unattempted {who : SessionId} {session : Session τ}
    (unattempted : ∀ phase, world.attemptsIn who phase = 0)
    (policy : session.timer.policy = session.profile.retry) (attempts : session.timer.attempts = 0)
    (unrequested : session.phase ≠ .requesting)
    (failure : ∀ device count, session.failure ≠ some (.timeout device count)) :
    world.Reckoned who session := by
  refine ⟨policy, fun phase => ?_, fun _ => ?_, fun _ => unattempted _, fun requesting => ?_,
    fun device count timeout => absurd timeout (failure device count)⟩
  · rw [unattempted]
    cases phase <;> simp only [RetryPolicy.budget] <;> omega
  · rw [unattempted, attempts]
  · exact absurd requesting unrequested

/-- Whatever moves, all attempts are within their budgets. -/
theorem Move.reckoned {mover : Option SessionId} (move : Move around allowed mover world after)
    {who : SessionId} (unforced : ∀ {world spent}, ¬allowed world (.expire who spent))
    (standing : world.Standing who)
    (h : ∀ session, world.session? who = some session → world.Reckoned who session)
    {next : Session τ} (hnext : after.session? who = some next) : after.Reckoned who next := by
  refine move.preserves (fun world session => world.Reckoned who session)
    (fun _ spares reckoned => reckoned.spares spares) ?_ h hnext
  rintro rfl
  cases move with
  | begun _ profile owner =>
    have acts := acts_begun world profile owner
    refine ⟨_, acts.session, reckoned_of_unattempted (fun phase => ?_) rfl rfl
      (by simp [Session.ofProfile]) (by simp [Session.ofProfile])⟩
    rw [acts.attemptsIn, attemptsIn,
      (standing.of_unknown (List.getElem?_eq_none (Nat.le_refl _))).1]
    simp [Episode.attemptedIn]
  | refused _ profile owner cause =>
    have acts := acts_ended (world.session?_joined profile .absent) (some (.system cause))
    refine ⟨_, acts.session, reckoned_of_unattempted (fun phase => ?_) rfl rfl
      (by simp [Session.ended]) (by simp [Session.ended])⟩
    rw [World.refused, acts.attemptsIn, countP_attemptedIn_closing, attemptsIn,
      show (world.joined profile .absent).episodesOf world.sessions.length = [] from
        (standing.of_unknown (List.getElem?_eq_none (Nat.le_refl _))).1]
    rfl
  | retried handle permitted found active left =>
    have hfired := (h _ found).acts (acts_fired found) ⟨rfl, rfl, rfl, rfl, rfl⟩ (by simp)
    exact ⟨_, session?_attempted (session?_fired found), hfired.attempted (session?_fired found)
      active ((h _ found).left left) (standing.of_active found active).failure⟩
  | exhausted handle permitted found active spent =>
    have hfired := (h _ found).acts (acts_fired found) ⟨rfl, rfl, rfl, rfl, rfl⟩ (by simp)
    have ongoing := (standing.of_active found active).acts (acts_fired found) active rfl rfl rfl
      (by simp)
    refine ⟨_, session?_ended (session?_fired found) _, hfired.ended ongoing ?_⟩
    rintro device count ⟨⟩
    rw [RetryTimer.spent, decide_eq_true_iff, (h _ found).policy] at spent
    exact ⟨rfl, spent⟩
  | forced permitted => exact absurd permitted unforced
  | abandoned permitted => exact absurd permitted unforced
  | cancelled found active =>
    exact ⟨_, session?_ended found _,
      (h _ found).ended (standing.of_active found active) (by simp)⟩
  | handed packet found active =>
    exact ⟨_, found, (h _ found).acts (acts_chronicled found _) ⟨rfl, rfl, rfl, rfl, rfl⟩
      (by simp [Episode.attemptedIn])⟩
  | kept data found awaits =>
    exact ⟨_, session?_admitted found data, (h _ found).acts (acts_admitted found data)
      (world.keeps_keeping _ data) (by simp [Episode.attemptedIn])⟩
  | @requested _ _ _ session data found awaits discovering =>
    have keeps := world.keeps_keeping session data
    have hadmitted := (h _ found).acts (acts_admitted found data) keeps
      (by simp [Episode.attemptedIn])
    exact hadmitted.requesting (session?_admitted found data) (keeps.phase.trans discovering)
      (keeps.failure.trans (standing.of_active found awaits.active).failure)
  | acknowledged data outcome found awaits _ _ agree publishes =>
    have acts := acts_published found agree publishes
    have hpublished := (h _ found).acts acts (world.keeps_settling _ data)
      (by simp [Episode.attemptedIn])
    have ongoing := (standing.of_active found awaits.active).published agree publishes
    refine ⟨_, session?_ended acts.session _, hpublished.ended ongoing ?_⟩
    cases outcome <;> simp [registrationFailure]

theorem Moves.reckoned (moves : Moves around allowed world after) {who : SessionId}
    (possible : ∀ {world event}, allowed world event → world.Possible event)
    (unforced : ∀ {world spent}, ¬allowed world (.expire who spent)) (wired : world.Wired)
    (standing : ∀ who, world.Standing who)
    (h : ∀ session, world.session? who = some session → world.Reckoned who session)
    {next : Session τ} (found : after.session? who = some next) : after.Reckoned who next := by
  induction moves generalizing next with
  | refl => exact h next found
  | tail prior step ih =>
    obtain ⟨mover, move⟩ := step
    exact move.reckoned unforced (Moves.standing prior possible wired standing who)
      (fun _ => ih) found

/-! ## How long a session can go on -/

/-- What can have become of an active session after its timer fired a number of times: it
goes on in the same phase with as many more attempts, it timed out or was cancelled, or it
accepted a datagram. -/
inductive Fate (first world : World τ σ) (who : SessionId) (session : Session τ)
    (firings : Nat) : Prop
  | going (next : Session τ) (found : world.session? who = some next)
      (active : next.finished = false) (profile : next.profile = session.profile)
      (phase : next.phase = session.phase)
      (attempts : next.timer.attempts = session.timer.attempts + firings)
  | lost (next : Session τ) (found : world.session? who = some next)
      (failed : next.phase = .failed)
      (failure : (∃ device count, next.failure = some (.timeout device count)) ∨
        ∃ device, next.failure = some (.cancelled device))
  | accepted (more : first.acceptances who < world.acceptances who)

section

variable {who : SessionId} {session next : Session τ} {firings : Nat}

omit [TimeScale τ] in
theorem Spares.acceptances (spares : world.Spares after who) :
    after.acceptances who = world.acceptances who := by
  rw [World.acceptances, World.acceptances, spares.episodes]

omit [TimeScale τ] in
/-- A session never forgets what it accepted. -/
theorem acceptances_le (h : world.history <+: after.history) :
    world.acceptances who ≤ after.acceptances who :=
  (h.filter _).sublist.countP_le

omit [TimeScale τ] in
theorem Fate.spares (h : Fate first world who session firings)
    (spares : world.Spares after who) : Fate first after who session firings := by
  cases h with
  | going next found active profile phase attempts =>
    exact .going next (spares.session.trans found) active profile phase attempts
  | lost next found failed failure =>
    exact .lost next (spares.session.trans found) failed failure
  | accepted more => exact .accepted (spares.acceptances ▸ more)

/-- As long as its timer does not fire, an active session goes on, is cancelled or accepts
a datagram. -/
theorem Move.fate {mover : Option SessionId} (move : Move around allowed mover world after)
    (quiet : ∀ {world event}, allowed world event → ¬event.wakes who)
    (grown : first.history <+: world.history) (h : Fate first world who session firings) :
    Fate first after who session firings := by
  by_cases hmover : mover = some who
  swap
  · exact h.spares (move.spares hmover)
  subst hmover
  cases h with
  | accepted more => exact .accepted (Nat.lt_of_lt_of_le more (acceptances_le move.history_grows))
  | lost next found failed failure =>
    have active := move.active found
    simp [Session.finished, failed, Phase.terminal] at active
  | going next found active profile phase attempts =>
    have hle : first.acceptances who ≤ world.acceptances who := acceptances_le grown
    have haccepted {deeds : List (Episode τ)} {result : Session τ}
        {outcomes : List (Option Failure)} (acts : world.Acts after who result deeds outcomes)
        (accepts : 0 < deeds.countP Episode.accepting) : Fate first after who session firings := by
      refine .accepted ?_
      rw [acts.acceptances]
      exact Nat.lt_of_le_of_lt hle (Nat.lt_add_of_pos_right accepts)
    cases move with
    | begun => exact absurd (lt_of_session? found) (Nat.lt_irrefl _)
    | refused => exact absurd (lt_of_session? found) (Nat.lt_irrefl _)
    | retried handle permitted => exact absurd rfl (quiet permitted)
    | exhausted handle permitted => exact absurd rfl (quiet permitted)
    | forced permitted => exact absurd rfl (quiet permitted)
    | abandoned permitted => exact absurd rfl (quiet permitted)
    | cancelled hfound =>
      exact .lost _ (session?_ended hfound _) rfl (.inr ⟨_, rfl⟩)
    | handed packet => exact .going next found active profile phase attempts
    | kept data hfound => exact haccepted (acts_admitted hfound data) (by simp [Episode.accepting])
    | requested data hfound =>
      obtain ⟨timer, -, -, acts⟩ := acts_requesting (session?_admitted hfound data)
      exact haccepted ((acts_admitted hfound data).trans acts) (by simp [Episode.accepting])
    | acknowledged data outcome hfound _ _ _ agree publishes =>
      have acts := acts_published hfound agree publishes
      exact haccepted (acts.trans (acts_ended acts.session _)) (by simp [Episode.accepting])

theorem Moves.fate (moves : Moves around allowed world after)
    (quiet : ∀ {world event}, allowed world event → ¬event.wakes who)
    (grown : first.history <+: world.history) (h : Fate first world who session firings) :
    Fate first after who session firings := by
  induction moves with
  | refl => exact h
  | tail prior step ih =>
    obtain ⟨mover, move⟩ := step
    exact move.fate quiet (grown.trans (Moves.history_grows prior)) ih

/-- A firing uses up an attempt of an active session, or the session times out. -/
theorem Fate.fire (h : Fate first world who session firings) (wired : world.Wired)
    (grown : first.history <+: world.history) {handle : Handle τ SessionId}
    (mem : handle ∈ world.loop.pending) (owner : handle.owner = who) :
    Fate first (world.after around (.fire handle)) who session (firings + 1) := by
  subst owner
  obtain ⟨current, hfound, hactive, -⟩ := wired.exists_active mem
  cases h with
  | accepted more =>
    have moves : Moves around Possible world _ := wired.moves id (.fire handle) mem
    exact .accepted (Nat.lt_of_lt_of_le more (acceptances_le moves.history_grows))
  | lost next found failed failure =>
    rw [found, Option.some_inj] at hfound
    simp [← hfound, Session.finished, failed, Phase.terminal] at hactive
  | going next found active profile phase attempts =>
    have acts := acts_fired found
    cases hspent : next.timer.spent with
    | true =>
      have hended := acts.trans (acts_ended acts.session
        (some (.timeout next.device next.timer.attempts)))
      have moves : Moves around (fun _ _ => False) _ _ := Act.Proceeds.fire found active
        (fun left => by simp [hspent] at left) (fun _ => .refl) world (.refl world)
      exact moves.fate False.elim (grown.trans ⟨_, hended.history.symm⟩)
        (.lost _ hended.session rfl (.inl ⟨_, _, rfl⟩))
    | false =>
      have hattempted := acts.trans (acts_attempted acts.session)
      have moves : Moves around (fun _ _ => False) _ _ := Act.Proceeds.fire found active
        (fun _ => .refl) (fun spent => by simp [hspent] at spent) world (.refl world)
      refine moves.fate False.elim (grown.trans ⟨_, hattempted.history.symm⟩)
        (.going _ hattempted.session active profile phase ?_)
      exact congrArg (· + 1) attempts

/-- What becomes of an active session is counted by the firings of its timer. -/
theorem Run.fate {events : List (Event τ σ)} (run : Run around Possible world events after)
    (unforced : ∀ event ∈ events, ∀ spent, event ≠ .expire who spent) (wired : world.Wired)
    (found : world.session? who = some session) (active : session.finished = false) :
    Fate world after who session (events.countP (Event.fires who)) := by
  induction run with
  | rest => exact .going session found active rfl rfl rfl
  | @step events middle prior event possible ih =>
    rw [List.forall_mem_append] at unforced
    have hfate := ih unforced.1
    obtain ⟨moves, hwired⟩ := prior.moves id wired
    have grown := moves.history_grows
    rw [List.countP_append, List.countP_singleton]
    by_cases hfires : event.fires who = true
    · rw [if_pos hfires]
      cases event with
      | fire handle => exact hfate.fire hwired grown possible (by simpa [Event.fires] using hfires)
      | _ => simp [Event.fires] at hfires
    · rw [if_neg hfires, Nat.add_zero]
      have hwakes : ¬event.wakes who := by
        cases event with
        | fire handle => simpa [Event.fires, Event.wakes] using hfires
        | expire known spent =>
          rintro rfl
          exact unforced.2 _ (List.mem_singleton_self _) spent rfl
        | _ => exact id
      have hmoves : Moves around (fun world event => world.Possible event ∧ ¬event.wakes who)
          middle _ := hwired.moves And.left event ⟨possible, hwakes⟩
      exact hmoves.fate And.right grown hfate

end

/-- As long as only the event loop tells a session that its timer fired, the session attempts
at most `max n 0` times while it is discovering and `max n 1` times while it is requesting,
and its timer counts the attempts of the current phase.  It times out only in a phase whose
budget it has used up, and names that number.  From any moment on at which it is active,
one firing more than the attempts that are left makes it time out, unless it accepts a
datagram or is cancelled; until then there is a call that can come. -/
theorem Run.attempts_within_budget {tree : SettingsTree} {network : σ}
    {events : List (Event τ σ)} {who : SessionId} {session : Session τ}
    (run : Run around Possible (start tree network) events world)
    (unforced : ∀ event ∈ events, ∀ spent, event ≠ .expire who spent)
    (found : world.session? who = some session) :
    (world.attemptsIn who .discovering : Int) ≤ max session.profile.retry.maxAttempts 0 ∧
    (world.attemptsIn who .requesting : Int) ≤ max session.profile.retry.maxAttempts 1 ∧
    (session.finished = false →
      world.attemptsIn who session.phase = session.timer.attempts) ∧
    (∀ device count, session.failure = some (.timeout device count) →
      ∃ detached ∈ world.episodesOf who, detached.deed = .detached ∧
        world.attemptsIn who detached.session.phase = count ∧
        (detached.session.phase = .discovering ∧
            (count : Int) = max session.profile.retry.maxAttempts 0 ∨
          detached.session.phase = .requesting ∧
            (count : Int) = max session.profile.retry.maxAttempts 1)) ∧
    (session.finished = false → ∀ later events next,
      Run around Possible world events later →
      (∀ event ∈ events, ∀ spent, event ≠ .expire who spent) →
      later.acceptances who = world.acceptances who → later.session? who = some next →
      (∀ device, next.failure ≠ some (.cancelled device)) →
      (next.finished = false → ∃ handle ∈ later.loop.pending, handle.owner = who) ∧
      (session.profile.retry.budget session.phase - world.attemptsIn who session.phase + 1 ≤
          (events.countP (Event.fires who) : Int) →
        next.phase = .failed ∧ ∃ device count, next.failure = some (.timeout device count))) := by
  have hstart : (start tree network : World τ σ).Wired := wired_start tree network
  have hunknown (who : SessionId) : (start tree network : World τ σ).Standing who :=
    .unknown rfl rfl rfl
  have reckoned {later : World τ σ} {events : List (Event τ σ)} {next : Session τ}
      (run : Run around Possible (start tree network) events later)
      (unforced : ∀ event ∈ events, ∀ spent, event ≠ .expire who spent)
      (found : later.session? who = some next) : later.Reckoned who next := by
    have hrun := run.restrict unforced
    obtain ⟨moves, -⟩ := hrun.moves And.left hstart
    exact moves.reckoned And.left (fun permitted => permitted.2 _ rfl) hstart hunknown
      (fun _ found => by simp [session?, World.start] at found) found
  have h := reckoned run unforced found
  refine ⟨h.within .discovering, h.within .requesting, h.current, fun device count failure => ?_,
    fun active later events' next run' unforced' unaccepted found' uncancelled => ?_⟩
  · obtain ⟨detached, mem, hdeed, hactive, hsame, hbudget⟩ := h.timeout device count failure
    refine ⟨detached, mem, hdeed, hsame, ?_⟩
    cases hphase : detached.session.phase with
    | discovering =>
      rw [hphase] at hbudget
      exact .inl ⟨rfl, hbudget⟩
    | requesting =>
      rw [hphase] at hbudget
      exact .inr ⟨rfl, hbudget⟩
    | succeeded => simp [Session.finished, hphase, Phase.terminal] at hactive
    | failed => simp [Session.finished, hphase, Phase.terminal] at hactive
  · have wired := (run.moves id hstart).2
    refine ⟨fun active' => ?_, fun firings => ?_⟩
    · obtain ⟨-, handle, hcalls, -⟩ := (run'.moves id wired).2.exists_callsOf_eq found' active'
      have mem : handle ∈ later.loop.callsOf who := by simp [hcalls]
      rw [callsOf, List.mem_filter, decide_eq_true_iff] at mem
      exact ⟨handle, mem.1, mem.2⟩
    · cases run'.fate unforced' wired found active with
      | accepted more => exact absurd more (by simp [unaccepted])
      | lost last hlast failed failure =>
        rw [found', Option.some_inj] at hlast
        subst hlast
        refine ⟨failed, failure.resolve_right ?_⟩
        rintro ⟨device, hcancelled⟩
        exact uncancelled device hcancelled
      | going last hlast hactive profile phase attempts =>
        rw [found', Option.some_inj] at hlast
        subst hlast
        have hlater := reckoned (run.trans run') (by
          rw [List.forall_mem_append]
          exact ⟨unforced, unforced'⟩) found'
        have hwithin := hlater.within next.phase
        rw [hlater.current hactive, attempts, profile, phase] at hwithin
        rw [h.current active] at firings
        omega

/-- A session that may attempt once, on a network that never has a buffer. -/
theorem timed_out_after_one_attempt :
    ∃ (world : World Int Script) (session : Session Int),
      Run Script.around Possible (start .empty { failingBuffers := 2 })
        [.start (Profile.plain 1 0) .watching, .fire ⟨0, 0, 0⟩, .fire ⟨1, 250, 0⟩] world ∧
      world.session? 0 = some session ∧ session.failure = some (.timeout "net0" 1) ∧
      world.attemptsIn 0 .discovering = 1 ∧
      (world.attemptsIn 0 .discovering : Int) ≤ max session.profile.retry.maxAttempts 0 := by
  let started := World.after Script.around (start .empty { failingBuffers := 2 })
    (.start (Profile.plain 1 0) .watching)
  let attempted := World.after Script.around started (.fire ⟨0, 0, 0⟩)
  let world := World.after Script.around attempted (.fire ⟨1, 250, 0⟩)
  have first : ⟨0, 0, 0⟩ ∈ started.loop.pending := by decide +kernel
  have second : ⟨1, 250, 0⟩ ∈ attempted.loop.pending := by decide +kernel
  have run : Run Script.around Possible (start .empty { failingBuffers := 2 })
      ([] ++ [.start (Profile.plain 1 0) .watching] ++ [.fire ⟨0, 0, 0⟩] ++
        [.fire ⟨1, 250, 0⟩]) world :=
    .step (.step (.step .rest _ trivial) _ first) _ second
  have hfailure : (world.session? 0).map Session.failure = some (some (.timeout "net0" 1)) := by
    decide +kernel
  obtain ⟨session, found, failure⟩ := Option.map_eq_some_iff.mp hfailure
  have attempts : world.attemptsIn 0 .discovering = 1 := by decide +kernel
  exact ⟨world, session, run, found, failure, attempts,
    (run.attempts_within_budget (by simp) found).1⟩

end World
end NetBoot
