/-
# What the history records

Nothing is ever taken out of the history.  So what a session entered into it stays, and an
entry that an action makes first stands before those of everything that the action sets off.

That makes the history a faithful record of the datagrams that sessions accept: a session
that is handed a datagram enters it at once if it waits for it, and does nothing but report
it otherwise.
-/
import NetBoot.Proofs.Session.Anatomy
import NetBoot.Proofs.Session.Move

namespace NetBoot.Act

open World

variable {τ σ : Type} [TimeScale τ] {around : Surroundings τ σ} {who : SessionId}
  {enter : Act τ σ Unit} {world : World τ σ} {session : Session τ} {data : Bytes}

/-- A session that is handed a datagram it waits for enters it into the history before
anything else happens. -/
theorem history_deliverWith (around : Surroundings τ σ) (h : enter.Onward)
    (found : world.session? who = some session) (awaits : session.Awaits data) :
    (world.admitted who session data).history <+:
      ((deliverWith around enter who data).perform world).2.history := by
  have hadd : world.tree.add (.ofReply data Block.replyName) =
      ((world.grown data).tree, world.tree.blocks.length) := rfl
  have hmodify : (modify fun other => { other with tree := (world.grown data).tree } :
      Act τ σ PUnit).perform world = (.ok ⟨⟩, world.grown data) := rfl
  have hmark : (mark who (.accepted data world.tree.blocks.length)).perform (world.grown data) =
      (.ok (), (world.grown data).chronicled who (.accepted data world.tree.blocks.length)
        session) := perform_onSession _ found
  rw [deliverWith, perform_onSession _ found]
  dsimp only
  rw [if_neg (by simp [awaits.active]), if_neg (by simp [awaits.valid]),
    if_neg (not_not.mpr awaits.xid), if_neg (not_not.mpr awaits.kind), accept,
    perform_bind_ok _ (perform_get world), hadd]
  dsimp only
  rw [perform_bind_ok _ hmodify, perform_bind_ok _ hmark]
  exact (Onward.accepted h _ _ session ((world.grown data).chronicled who _ session)).history

/-- A session that is handed a datagram it does not wait for at most reports it. -/
theorem exists_deliverWith_of_unawaited (around : Surroundings τ σ) (enter : Act τ σ Unit)
    (found : world.session? who = some session) (unawaited : ¬session.Awaits data) :
    ∃ log, (deliverWith around enter who data).perform world = (.ok (), { world with log }) := by
  rw [deliverWith, perform_onSession _ found]
  dsimp only
  split
  · exact ⟨world.log, rfl⟩
  next active =>
    split
    · exact ⟨_, perform_report _ world⟩
    next valid =>
      split
      · exact ⟨_, perform_report _ world⟩
      next xid =>
        split
        · exact ⟨_, perform_report _ world⟩
        next kind =>
          exact absurd ⟨by simpa using active, by simpa using valid, not_not.mp xid,
            not_not.mp kind⟩ unawaited

theorem agree_deliverWith (around : Surroundings τ σ) (enter : Act τ σ Unit)
    (found : world.session? who = some session) (unawaited : ¬session.Awaits data) :
    ((deliverWith around enter who data).perform world).2.Agree world := by
  obtain ⟨log, hlog⟩ := exists_deliverWith_of_unawaited around enter found unawaited
  rw [hlog]
  exact ⟨rfl, rfl, rfl, rfl, rfl, rfl⟩

end NetBoot.Act
