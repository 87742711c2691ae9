/-
# Runs

What can happen to a world between two moments of rest: a pending call comes, a
session is given a datagram, its owner cancels it or claims that its timer fired, a
session starts, time passes, the network changes by itself, or somebody else works on
the settings tree.  A run is any sequence of such events, for any network.

A fault that an event lets through ends the event and not the run: the world goes on
from where the fault left it.
-/
import NetBoot.Proofs.Settings.Coherence
import NetBoot.Proofs.Time.Wiring
import NetBoot.Session.Script
import NetBoot.Session.Machine

namespace NetBoot

variable {τ σ : Type} [TimeScale τ]

/-- Something that happens to a world. -/
inductive Event (τ σ : Type)
  /-- A pending call comes. -/
  | fire (handle : Handle τ SessionId)
  /-- A datagram comes in through the connection of a session. -/
  | receive (who : SessionId) (data : Bytes)
  /-- A session is given a datagram, connection or not. -/
  | deliver (who : SessionId) (data : Bytes)
  /-- A session is told that its timer fired, whether it did or not. -/
  | expire (who : SessionId) (spent : Bool)
  /-- The owner of a session cancels it. -/
  | cancel (who : SessionId)
  /-- A session starts. -/
  | start (profile : Profile τ) (owner : Owner)
  /-- The clock shows another instant. -/
  | tick (instant : τ)
  /-- The network changes by itself. -/
  | stir (network : σ)
  /-- Somebody else works on the settings tree. -/
  | edit (edit : SettingsTree.Edit)

/-- The session that an event concerns. -/
def Event.addressee : Event τ σ → Option SessionId
  | .fire handle => some handle.owner
  | .receive who _ => some who
  | .deliver who _ => some who
  | .expire who _ => some who
  | .cancel who => some who
  | _ => none

namespace World

/-- The world after an event, whether or not it let a fault through. -/
def after (around : Surroundings τ σ) (world : World τ σ) : Event τ σ → World τ σ
  | .fire handle => ((Act.fire around handle).perform world).2
  | .receive who data => ((Act.receive around who data).perform world).2
  | .deliver who data => ((Act.deliver around who data).perform world).2
  | .expire who spent => ((Act.timerExpired around who spent).perform world).2
  | .cancel who => ((Act.cancel around who).perform world).2
  | .start profile owner => ((Act.start around profile owner).perform world).2
  | .tick instant => { world with loop := world.loop.moveTo instant }
  | .stir network => { world with network }
  | .edit edit => { world with tree := edit.apply world.tree }

/-- The event loop lets only calls come that are pending. -/
def Possible (world : World τ σ) : Event τ σ → Prop
  | .fire handle => handle ∈ world.loop.pending
  | _ => True

/-- A sequence of events from one world to another, each of them allowed in the world
that it happens to. -/
inductive Run (around : Surroundings τ σ) (allowed : World τ σ → Event τ σ → Prop)
    (first : World τ σ) : List (Event τ σ) → World τ σ → Prop
  | rest : Run around allowed first [] first
  | step {events : List (Event τ σ)} {world : World τ σ}
      (prior : Run around allowed first events world) (event : Event τ σ)
      (permitted : allowed world event) :
      Run around allowed first (events ++ [event]) (world.after around event)

/-- A run can be continued by another one. -/
theorem Run.trans {around : Surroundings τ σ} {allowed : World τ σ → Event τ σ → Prop}
    {first middle world : World τ σ} {events later : List (Event τ σ)}
    (run : Run around allowed first events middle) (next : Run around allowed middle later world) :
    Run around allowed first (events ++ later) world := by
  induction next with
  | rest => exact (List.append_nil events).symm ▸ run
  | step prior event permitted ih => exact List.append_assoc .. ▸ ih.step event permitted

/-- A run whose events all have a property is a run of such events. -/
theorem Run.restrict {around : Surroundings τ σ} {allowed : World τ σ → Event τ σ → Prop}
    {first world : World τ σ} {events : List (Event τ σ)} {extra : Event τ σ → Prop}
    (run : Run around allowed first events world) (h : ∀ event ∈ events, extra event) :
    Run around (fun world event => allowed world event ∧ extra event) first events world := by
  induction run with
  | rest => exact .rest
  | step prior event permitted ih =>
    rw [List.forall_mem_append] at h
    exact .step (ih h.1) event ⟨permitted, h.2 event (List.mem_singleton_self event)⟩

/-- The world after a number of events. -/
def afterAll (around : Surroundings τ σ) (world : World τ σ) : List (Event τ σ) → World τ σ
  | [] => world
  | event :: rest => (world.after around event).afterAll around rest

/-- Each of a number of events is possible in the world that it happens to. -/
def Feasible (around : Surroundings τ σ) (world : World τ σ) : List (Event τ σ) → Prop
  | [] => True
  | event :: rest => world.Possible event ∧ (world.after around event).Feasible around rest

instance decidablePossible [DecidableEq τ] (world : World τ σ) :
    (event : Event τ σ) → Decidable (world.Possible event)
  | .fire handle => inferInstanceAs (Decidable (handle ∈ world.loop.pending))
  | .receive .. | .deliver .. | .expire .. | .cancel .. | .start .. | .tick .. | .stir ..
  | .edit .. => inferInstanceAs (Decidable True)

instance decidableFeasible [DecidableEq τ] (around : Surroundings τ σ) (world : World τ σ) :
    (events : List (Event τ σ)) → Decidable (world.Feasible around events)
  | [] => inferInstanceAs (Decidable True)
  | event :: rest =>
    have := decidableFeasible around (world.after around event) rest
    inferInstanceAs (Decidable (world.Possible event ∧ _))

/-- Events that are possible one after the other make a run. -/
theorem Run.of_feasible {around : Surroundings τ σ} {first : World τ σ} {events : List (Event τ σ)}
    (h : first.Feasible around events) :
    Run around Possible first events (first.afterAll around events) := by
  induction events generalizing first with
  | nil => exact .rest
  | cons event rest ih =>
    have step : Run around Possible first ([] ++ [event]) (first.after around event) :=
      .step .rest event h.1
    exact step.trans (ih h.2)

/-- Whoever runs the event loop makes a run of calls that come. -/
theorem exists_run_runWithin (around : Surroundings τ σ) (limit : Option τ) (calls : Nat)
    (world : World τ σ) :
    ∃ handles : List (Handle τ SessionId), Run around Possible world (handles.map .fire)
      (EventLoop.runWithin loop (fun handle => (Act.fire around handle).perform) limit calls
        world).2 := by
  induction calls generalizing world with
  | zero => exact ⟨[], .rest⟩
  | succ calls ih =>
    rw [EventLoop.runWithin]
    cases hnext : world.loop.next? limit with
    | none => exact ⟨[], .rest⟩
    | some handle =>
      have first : Run around Possible world ([] ++ [.fire handle])
          (world.after around (.fire handle)) :=
        .step .rest (.fire handle) (EventLoop.mem_of_next? hnext)
      rw [World.after] at first
      dsimp only
      rcases hfire : (Act.fire around handle).perform world with ⟨outcome, fired⟩
      rw [hfire] at first
      cases outcome with
      | error fault => exact ⟨[handle], first⟩
      | ok _ =>
        obtain ⟨handles, later⟩ := ih fired
        exact ⟨handle :: handles, first.trans later⟩

/-- Letting time pass makes a run as well. -/
theorem exists_run_advance (around : Surroundings τ σ) (duration : τ) (world : World τ σ) :
    ∃ events, Run around Possible world events (world.advance around duration).2 := by
  let target := TimeScale.add world.loop.now duration
  obtain ⟨handles, run⟩ :=
    exists_run_runWithin around (some target) EventLoop.callLimit world
  rw [advance]
  rcases hrun : world.run around (some target) with ⟨outcome, reached⟩
  rw [World.run, EventLoop.run] at hrun
  rw [hrun] at run
  cases outcome with
  | error cause => exact ⟨_, run⟩
  | ok _ => exact ⟨_, run.step (.tick target) trivial⟩

end World

/-! ## A scripted network -/

/-- A scripted network, measured in milliseconds, and a settings tree that refuses
nothing. -/
def Script.around : Surroundings Int Script := ⟨link Int, fun _ => none⟩

/-- A profile with a number of attempts, whose device keeps its settings in a block. -/
def Profile.plain (attempts : Int) (block : BlockId) : Profile Int where
  device := ⟨"net0", [0x52, 0x54, 0, 1, 2, 3], .ethernet, {}⟩
  block := block
  template := {}
  retry := ⟨250, 10000, attempts⟩
  bufferLength := Header.usualBuffer
  uuid := none

/-- A reply to that device that offers an address and refuses proxy replies. -/
def Bytes.reply (kind : MessageType) : Bytes :=
  [2, 1, 6, 0, 0, 1, 2, 3] ++ zeros 8 ++ [10, 0, 0, 5] ++ zeros 216 ++ [0x63, 0x82, 0x53, 0x63] ++
    [53, 1, UInt8.ofNat kind.number, 175, 3, 0xb0, 1, 1, 255]

/-- A reply to that device that offers an address and names its server. -/
def Bytes.namedReply (kind : MessageType) : Bytes :=
  [2, 1, 6, 0, 0, 1, 2, 3] ++ zeros 8 ++ [10, 0, 0, 5] ++ zeros 216 ++ [0x63, 0x82, 0x53, 0x63] ++
    [53, 1, UInt8.ofNat kind.number, 54, 4, 10, 0, 0, 1, 255]

/-- A reply of a proxy server to that device, with a priority. -/
def Bytes.proxyReply (kind : MessageType) (priority : UInt8) : Bytes :=
  [2, 1, 6, 0, 0, 1, 2, 3] ++ zeros 228 ++ [0x63, 0x82, 0x53, 0x63] ++
    [53, 1, UInt8.ofNat kind.number, 175, 3, 1, 1, priority, 255]

end NetBoot
