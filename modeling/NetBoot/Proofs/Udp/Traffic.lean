/-
# What passes through an endpoint

Things come into the socket of an endpoint, the event loop has it read them, and its owner
sends, detaches and closes it, in any order and as often as they like.  While the receiver is
called with a datagram all of this may happen too, so a run has runs inside of it.  The endpoint
is done with a datagram before it calls the receiver; so the moments of such a run may be told
one after the other.

In every run the receiver is called once for each datagram that is read before the endpoint is
detached, in the order of arrival, and for no other.  Once the endpoint is closed, nothing is
read, handed over or sent.  And the socket is given up at the first closing alone: the event
loop stops watching it, and then it is closed.
-/
import NetBoot.Udp.Endpoint
import Mathlib.Data.List.TakeWhile

namespace NetBoot.Udp

/-- What the receiver gets of something that was read, if it gets anything. -/
def Incoming.received? : Incoming → Option Bytes
  | datagram whole _ => some (whole.take longestDatagram)
  | failure _ => none

/-- Something that an endpoint goes through. -/
inductive Moment
  /-- Something comes into the socket. -/
  | came (items : List Incoming)
  /-- The endpoint is to read its socket.  It may take something out of it, and it may call the
  receiver. -/
  | read (taken : Option Incoming) (handed : Option Bytes)
  /-- The receiver is done with what it was called with last. -/
  | returned
  /-- The owner wants something sent, with some outcome. -/
  | sent (data : Bytes) (outcome : Except SystemError Unit)
  | detached
  | closed
  deriving DecidableEq

namespace Moment

/-- What comes into the socket. -/
@[simp]
def items : Moment → List Incoming
  | came items => items
  | _ => []

/-- What is taken out of the socket. -/
@[simp]
def taken? : Moment → Option Incoming
  | read taken _ => taken
  | _ => none

/-- The datagram that is read. -/
@[simp]
def datagram? (moment : Moment) : Option Bytes := moment.taken?.bind Incoming.received?

/-- What the receiver is called with. -/
@[simp]
def handed? : Moment → Option Bytes
  | read _ handed => handed
  | _ => none

/-- What is sent successfully. -/
@[simp]
def sent? : Moment → Option Bytes
  | sent data (.ok _) => some data
  | _ => none

/-- The call that a moment makes about an open socket, sending and closing apart. -/
@[simp]
def call? : Moment → Option Call
  | read .. => some .receive
  | _ => none

/-- Is something to be sent? -/
@[simp]
def isSend : Moment → Bool
  | sent .. => true
  | _ => false

/-- Does a call of the receiver begin or end? -/
def isCall : Moment → Bool
  | read _ handed => handed.isSome
  | returned => true
  | _ => false

/-- What comes before the first moment of a kind. -/
def before (stop : Moment) (moments : List Moment) : List Moment :=
  moments.takeWhile (· ≠ stop)

variable {stop moment : Moment} {past sooner rest : List Moment}

theorem before_of_not_mem (h : stop ∉ past) : before stop past = past := by
  rw [before, List.takeWhile_eq_self_iff]
  intro moment mem
  exact decide_eq_true fun same => h (same ▸ mem)

theorem before_append_cons (first : stop ∉ sooner) :
    before stop (sooner ++ stop :: rest) = sooner := by
  have hsooner := before_of_not_mem first
  rw [before, List.takeWhile_eq_self_iff] at hsooner
  rw [before, List.takeWhile_append_of_pos hsooner, List.takeWhile_cons_of_neg (by simp),
    List.append_nil]

/-- One moment more counts as long as the first one of the kind has not come. -/
theorem before_append_singleton (stop : Moment) (past : List Moment) (moment : Moment) :
    before stop (past ++ [moment]) =
      before stop past ++ if stop ∈ past ∨ moment = stop then [] else [moment] := by
  by_cases known : stop ∈ past
  · obtain ⟨sooner, rest, rfl, first⟩ := List.eq_append_cons_of_mem known
    rw [if_pos (.inl known), List.append_assoc, List.cons_append, before_append_cons first,
      before_append_cons first, List.append_nil]
  · rw [before_of_not_mem known]
    by_cases last : moment = stop
    · rw [if_pos (.inr last), last, before_append_cons known, List.append_nil]
    · rw [if_neg (not_or.mpr ⟨known, last⟩), before_of_not_mem]
      simpa [known] using Ne.symm last

theorem filterMap_append_singleton {α : Type} (part : Moment → Option α) :
    (past ++ [moment]).filterMap part = past.filterMap part ++ (part moment).toList := by
  cases given : part moment <;> simp [given]

/-- One moment more, where each moment has some part or none. -/
@[simp]
theorem filterMap_before_append_singleton {α : Type} (part : Moment → Option α) :
    (before stop (past ++ [moment])).filterMap part = (before stop past).filterMap part ++
      if stop ∈ past ∨ moment = stop then [] else (part moment).toList := by
  rw [before_append_singleton]
  split
  · simp
  · exact filterMap_append_singleton part

/-- One moment more, where some moments count. -/
@[simp]
theorem countP_before_append_singleton (counts : Moment → Bool) :
    (before stop (past ++ [moment])).countP counts = (before stop past).countP counts +
      if stop ∈ past ∨ moment = stop then 0 else (counts moment).toNat := by
  rw [before_append_singleton, List.countP_append, apply_ite (List.countP counts)]
  cases counted : counts moment <;> simp [counted]

end Moment

namespace Endpoint

variable {τ : Type} {kernel : Kernel} {first endpoint next last : Endpoint τ} {moment : Moment}
  {past sooner later moments : List Moment}

/-- One moment of an endpoint. -/
inductive Step (kernel : Kernel) (endpoint : Endpoint τ) : Moment → Endpoint τ → Prop
  | come (items : List Incoming) : Step kernel endpoint (.came items) (endpoint.arrive items)
  | read {taken : Option Incoming}
      (takes : endpoint.socket.inbox = taken.toList ++ endpoint.readable.2.socket.inbox) :
      Step kernel endpoint (.read taken endpoint.readable.1) endpoint.readable.2
  | back : Step kernel endpoint .returned endpoint
  | send (data : Bytes) : Step kernel endpoint (.sent data (endpoint.send kernel data).1)
      (endpoint.send kernel data).2
  | detach : Step kernel endpoint .detached endpoint.detach
  | close : Step kernel endpoint .closed endpoint.close

/-- A run of an endpoint.  What happens while the receiver is called is a run of its own. -/
inductive Run (kernel : Kernel) : Endpoint τ → List Moment → Endpoint τ → Prop
  | rest (endpoint : Endpoint τ) : Run kernel endpoint [] endpoint
  | plain {endpoint next last : Endpoint τ} {moment : Moment} {later : List Moment}
      (step : Step kernel endpoint moment next) (alone : moment.isCall = false)
      (run : Run kernel next later last) : Run kernel endpoint (moment :: later) last
  | call {endpoint called done last : Endpoint τ} {taken : Option Incoming} {data : Bytes}
      {inside later : List Moment}
      (step : Step kernel endpoint (.read taken (some data)) called)
      (reaction : Run kernel called inside done) (run : Run kernel done later last) :
      Run kernel endpoint (.read taken (some data) :: inside ++ .returned :: later) last

/-- A sequence of moments, one after the other. -/
inductive Course (kernel : Kernel) : Endpoint τ → List Moment → Endpoint τ → Prop
  | rest (endpoint : Endpoint τ) : Course kernel endpoint [] endpoint
  | step {endpoint next last : Endpoint τ} {moment : Moment} {later : List Moment}
      (step : Step kernel endpoint moment next) (course : Course kernel next later last) :
      Course kernel endpoint (moment :: later) last

/-! ## Reading, sending and closing -/

/-- What is read next. -/
def pending? (endpoint : Endpoint τ) : Option Incoming :=
  if endpoint.isOpen then endpoint.socket.inbox.head? else none

/-- What a reading does: whatever is read next is taken out, and the receiver is called if it is
a datagram and the receiver listens. -/
structure Reads (endpoint : Endpoint τ) (heard : Option Bytes) (after : Endpoint τ) : Prop where
  heard_eq : heard = if endpoint.listening then
    endpoint.pending?.bind Incoming.received? else none
  isOpen : after.isOpen = endpoint.isOpen
  listening : after.listening = endpoint.listening
  delivered : after.delivered = endpoint.delivered ++ heard.toList
  inbox : endpoint.socket.inbox = endpoint.pending?.toList ++ after.socket.inbox
  sent : after.socket.sent = endpoint.socket.sent
  tries : after.socket.tries = endpoint.socket.tries
  calls : after.socket.calls =
    endpoint.socket.calls ++ if endpoint.isOpen then [.receive] else []

theorem reads (endpoint : Endpoint τ) :
    Reads endpoint endpoint.readable.1 endpoint.readable.2 := by
  by_cases isOpen : endpoint.isOpen = true
  · rw [readable, if_pos isOpen]
    cases hinbox : endpoint.socket.inbox with
    | nil => constructor <;> simp [pending?, Socket.called, hinbox, isOpen]
    | cons item rest =>
      cases item with
      | failure cause =>
        by_cases transient : cause.isTransient = true <;> constructor <;>
          simp [pending?, Socket.called, Socket.reported, Incoming.received?, hinbox, isOpen,
            transient]
      | datagram whole sender =>
        by_cases listening : endpoint.listening = true <;> constructor <;>
          simp [pending?, Socket.called, Socket.reported, Incoming.received?, handOver, hinbox,
            isOpen, listening]
  · rw [readable, if_neg isOpen]
    constructor <;> simp [pending?, isOpen]

/-- What is taken out is what was to be read next. -/
theorem taken_eq {taken : Option Incoming}
    (takes : endpoint.socket.inbox = taken.toList ++ endpoint.readable.2.socket.inbox) :
    taken = endpoint.pending? := by
  have same := List.append_cancel_right (takes.symm.trans endpoint.reads.inbox)
  simpa using congrArg List.head? same

/-- What a send does. -/
structure Sends (kernel : Kernel) (endpoint : Endpoint τ) (data : Bytes)
    (outcome : Except SystemError Unit) (after : Endpoint τ) : Prop where
  outcome_eq : outcome = if endpoint.isOpen then
    (kernel.sendFailure endpoint.socket.tries).elim (.ok ()) .error
    else .error (.plain "transport is closed")
  isOpen : after.isOpen = endpoint.isOpen
  listening : after.listening = endpoint.listening
  delivered : after.delivered = endpoint.delivered
  inbox : after.socket.inbox = endpoint.socket.inbox
  sent : after.socket.sent =
    endpoint.socket.sent ++ (Moment.sent data outcome).sent?.toList
  tries : after.socket.tries = endpoint.socket.tries + endpoint.isOpen.toNat
  calls : after.socket.calls = endpoint.socket.calls

theorem sends (kernel : Kernel) (endpoint : Endpoint τ) (data : Bytes) :
    Sends kernel endpoint data (endpoint.send kernel data).1 (endpoint.send kernel data).2 := by
  by_cases isOpen : endpoint.isOpen = true
  · rw [send, if_pos isOpen]
    cases failure : kernel.sendFailure endpoint.socket.tries <;> constructor <;>
      simp [Socket.reported, isOpen, failure]
  · rw [send, if_neg isOpen]
    constructor <;> simp [isOpen]

/-- A closing of an endpoint that is closed already changes nothing. -/
theorem close_eq (endpoint : Endpoint τ) : endpoint.close = { endpoint with
    socket := { endpoint.socket with
      calls := endpoint.socket.calls ++ if endpoint.isOpen then [.unwatch, .close] else [] }
    isOpen := false } := by
  rcases endpoint with ⟨socket, isOpen, listening, delivered⟩
  cases isOpen <;> simp [close, Socket.called]

/-! ## One moment after the other -/

theorem Course.trans (course : Course kernel first sooner endpoint)
    (rest : Course kernel endpoint later last) : Course kernel first (sooner ++ later) last := by
  induction course with
  | rest => exact rest
  | step step _ ih => exact .step step (ih rest)

/-- What happens inside of a call happens between its beginning and its end. -/
theorem Run.course (run : Run kernel first moments last) : Course kernel first moments last := by
  -- the end of a call is a moment in which nothing changes
  induction run with
  | rest endpoint => exact .rest endpoint
  | plain step _ _ ih => exact .step step ih
  | call step _ _ inner outer => exact .step step (inner.trans (.step .back outer))

theorem Course.split (course : Course kernel first (sooner ++ moment :: later) last) :
    ∃ endpoint next, Course kernel first sooner endpoint ∧ Step kernel endpoint moment next := by
  induction sooner generalizing first with
  | nil =>
    cases course with
    | step step _ => exact ⟨_, _, .rest _, step⟩
  | cons earlier sooner ih =>
    cases course with
    | step step course =>
      obtain ⟨endpoint, next, course, last⟩ := ih course
      exact ⟨endpoint, next, .step step course, last⟩

/-! ## What the past says -/

/-- An endpoint, told from where it started and what has happened since. -/
structure Tracks (first : Endpoint τ) (past : List Moment) (endpoint : Endpoint τ) : Prop where
  isOpen : endpoint.isOpen = decide (.closed ∉ past)
  listening : endpoint.listening = (first.listening && decide (.detached ∉ past))
  /-- Everything that came in is taken out in order, or is waiting. -/
  inbox : first.socket.inbox ++ past.flatMap Moment.items =
    past.filterMap Moment.taken? ++ endpoint.socket.inbox
  heard : past.filterMap Moment.handed? =
    if first.listening then (Moment.before .detached past).filterMap Moment.datagram? else []
  delivered : endpoint.delivered = first.delivered ++ past.filterMap Moment.handed?
  sent : endpoint.socket.sent = first.socket.sent ++ past.filterMap Moment.sent?
  tries : endpoint.socket.tries =
    first.socket.tries + (Moment.before .closed past).countP Moment.isSend
  calls : endpoint.socket.calls = first.socket.calls ++
    ((Moment.before .closed past).filterMap Moment.call? ++
      if .closed ∈ past then [.unwatch, .close] else [])

theorem Tracks.refl (opened : first.isOpen = true) : Tracks first [] first := by
  constructor <;> simp [opened, Moment.before]

namespace Tracks

/-- The receiver has heard what it was to hear if this goes for the last moment too. -/
theorem heard_append (h : Tracks first past endpoint)
    (now : moment.handed? = if endpoint.listening then moment.datagram? else none) :
    (past ++ [moment]).filterMap Moment.handed? = if first.listening then
      (Moment.before .detached (past ++ [moment])).filterMap Moment.datagram? else [] := by
  rw [Moment.filterMap_append_singleton, h.heard, now, h.listening]
  -- the first detaching ends the list on the right, and nothing is read in it
  by_cases detaches : moment = .detached
  · simp [detaches]
  · by_cases known : .detached ∈ past <;> by_cases listening : first.listening = true <;>
      simp [known, listening, detaches]

theorem come (h : Tracks first past endpoint) (items : List Incoming) :
    Tracks first (past ++ [.came items]) (endpoint.arrive items) where
  isOpen := by simp [arrive, h.isOpen]
  listening := by simp [arrive, h.listening]
  inbox := by
    rw [List.flatMap_append, ← List.append_assoc, h.inbox]
    simp [arrive]
  heard := h.heard_append (by simp)
  delivered := by simp [arrive, h.delivered]
  sent := by simp [arrive, h.sent]
  tries := by simp [arrive, h.tries]
  calls := by simp [arrive, h.calls]

theorem back (h : Tracks first past endpoint) : Tracks first (past ++ [.returned]) endpoint where
  isOpen := by simp [h.isOpen]
  listening := by simp [h.listening]
  inbox := by simp [h.inbox]
  heard := h.heard_append (by simp)
  delivered := by simp [h.delivered]
  sent := by simp [h.sent]
  tries := by simp [h.tries]
  calls := by simp [h.calls]

theorem detach (h : Tracks first past endpoint) :
    Tracks first (past ++ [.detached]) endpoint.detach where
  isOpen := by simp [Endpoint.detach, h.isOpen]
  listening := by simp [Endpoint.detach]
  inbox := by simp [Endpoint.detach, h.inbox]
  heard := h.heard_append (by simp)
  delivered := by simp [Endpoint.detach, h.delivered]
  sent := by simp [Endpoint.detach, h.sent]
  tries := by simp [Endpoint.detach, h.tries]
  calls := by simp [Endpoint.detach, h.calls]

theorem close (h : Tracks first past endpoint) :
    Tracks first (past ++ [.closed]) endpoint.close where
  isOpen := by simp [close_eq]
  listening := by simp [close_eq, h.listening]
  inbox := by simp [close_eq, h.inbox]
  heard := h.heard_append (by simp)
  delivered := by simp [close_eq, h.delivered]
  sent := by simp [close_eq, h.sent]
  tries := by simp [close_eq, h.tries]
  calls := by
    rw [close_eq]
    by_cases known : .closed ∈ past <;> simp [h.calls, h.isOpen, known]

theorem send (h : Tracks first past endpoint) (kernel : Kernel) (data : Bytes) :
    Tracks first (past ++ [.sent data (endpoint.send kernel data).1])
      (endpoint.send kernel data).2 := by
  -- whether the send fails does not matter any more
  have sends := endpoint.sends kernel data
  generalize (endpoint.send kernel data).1 = outcome at sends
  generalize (endpoint.send kernel data).2 = after at sends
  exact {
    isOpen := by simp [sends.isOpen, h.isOpen]
    listening := by simp [sends.listening, h.listening]
    inbox := by simp [sends.inbox, h.inbox]
    heard := h.heard_append (by simp)
    delivered := by simp [sends.delivered, h.delivered]
    sent := by
      rw [sends.sent, h.sent, Moment.filterMap_append_singleton, List.append_assoc]
    tries := by
      rw [sends.tries, h.tries, h.isOpen]
      by_cases known : .closed ∈ past <;> simp [known, Nat.add_assoc]
    calls := by simp [sends.calls, h.calls] }

theorem read (h : Tracks first past endpoint) {taken : Option Incoming}
    (takes : endpoint.socket.inbox = taken.toList ++ endpoint.readable.2.socket.inbox) :
    Tracks first (past ++ [.read taken endpoint.readable.1]) endpoint.readable.2 := by
  have reads := endpoint.reads
  have hears : endpoint.readable.1 =
      if endpoint.listening then taken.bind Incoming.received? else none :=
    taken_eq takes ▸ reads.heard_eq
  generalize endpoint.readable.1 = heard at reads hears
  generalize endpoint.readable.2 = after at reads takes
  exact {
    isOpen := by simp [reads.isOpen, h.isOpen]
    listening := by simp [reads.listening, h.listening]
    inbox := by
      rw [List.flatMap_append, ← List.append_assoc, h.inbox, takes,
        Moment.filterMap_append_singleton]
      simp
    heard := h.heard_append hears
    delivered := by
      rw [reads.delivered, h.delivered, Moment.filterMap_append_singleton, List.append_assoc,
        Moment.handed?]
    sent := by simp [reads.sent, h.sent]
    tries := by simp [reads.tries, h.tries]
    calls := by
      rw [reads.calls, h.calls, h.isOpen]
      by_cases known : .closed ∈ past <;> simp [known] }

theorem step (h : Tracks first past endpoint) (step : Step kernel endpoint moment next) :
    Tracks first (past ++ [moment]) next := by
  cases step with
  | come items => exact h.come items
  | read takes => exact h.read takes
  | back => exact h.back
  | send data => exact h.send kernel data
  | detach => exact h.detach
  | close => exact h.close

theorem course (h : Tracks first past endpoint) (course : Course kernel endpoint moments last) :
    Tracks first (past ++ moments) last := by
  induction course generalizing past with
  | rest => rwa [List.append_nil]
  | step step _ ih => exact List.append_cons _ _ _ ▸ ih (h.step step)

end Tracks

/-! ## Whole runs -/

/-- What happens to an endpoint between its opening and the present. -/
structure Orderly (kernel : Kernel) (first : Endpoint τ) (moments : List Moment)
    (last : Endpoint τ) : Prop extends Tracks first moments last where
  /-- Each reading of an endpoint that is not closed takes out what has waited longest.  If this
  is a datagram and the receiver is not detached, it is called there and then. -/
  read : ∀ sooner taken heard later, moments = sooner ++ .read taken heard :: later →
    (∃ waiting, first.socket.inbox ++ sooner.flatMap Moment.items =
        sooner.filterMap Moment.taken? ++ waiting ∧
      taken = if .closed ∈ sooner then none else waiting.head?) ∧
    heard = if first.listening ∧ .detached ∉ sooner then taken.bind Incoming.received? else none
  /-- Each send of an endpoint that is not closed ends as the operating system has it. -/
  send : ∀ sooner data outcome later, moments = sooner ++ .sent data outcome :: later →
    outcome = if .closed ∈ sooner then .error (.plain "transport is closed") else
      (kernel.sendFailure (first.socket.tries + sooner.countP Moment.isSend)).elim (.ok ()) .error

theorem pending?_of_tracks (h : Tracks first past endpoint) :
    endpoint.pending? = if .closed ∈ past then none else endpoint.socket.inbox.head? := by
  by_cases known : .closed ∈ past <;> simp [pending?, h.isOpen, known]

/-- In every run of an open endpoint, whatever its owner does and also while the receiver is
called, the receiver is called once for each datagram that is read before the endpoint is
detached, in the order in which they came in, and for nothing else.  After the first closing
nothing is read or sent any more, and every send is refused.  With that closing the event loop
stops watching the socket, then the socket is closed; this happens once, and never if the
endpoint is not closed. -/
theorem Run.orderly (opened : first.isOpen = true) (run : Run kernel first moments last) :
    Orderly kernel first moments last := by
  have course := run.course
  refine ⟨(Tracks.refl opened).course course, fun sooner taken heard later split => ?_,
    fun sooner data outcome later split => ?_⟩
  · obtain ⟨endpoint, next, before, step⟩ := (split ▸ course).split
    have tracks : Tracks first sooner endpoint := (Tracks.refl opened).course before
    cases step with
    | read takes =>
      have htaken := taken_eq takes
      refine ⟨⟨endpoint.socket.inbox, tracks.inbox, htaken.trans (pending?_of_tracks tracks)⟩, ?_⟩
      rw [endpoint.reads.heard_eq, htaken, tracks.listening]
      simp
  · obtain ⟨endpoint, next, before, step⟩ := (split ▸ course).split
    have tracks : Tracks first sooner endpoint := (Tracks.refl opened).course before
    cases step with
    | send data =>
      rw [(endpoint.sends kernel data).outcome_eq, tracks.isOpen, tracks.tries]
      by_cases known : .closed ∈ sooner
      · simp [known]
      · simp [known, Moment.before_of_not_mem known]

/-- While the receiver is called with a first datagram it has something sent and reads the next
one; while it is called with that it detaches the endpoint and closes it twice. -/
theorem Run.orderly_inside_calls :
    ∃ (kernel : Kernel) (first last : Endpoint Int) (cause : SystemError) (server : Peer)
      (moments : List Moment),
      moments = [.came [.datagram [1] server, .failure cause, .datagram [2] server],
        .read (some (.datagram [1] server)) (some [1]), .sent [7] (.ok ()),
        .read (some (.failure cause)) none, .read (some (.datagram [2] server)) (some [2]),
        .detached, .closed, .closed, .returned, .came [.datagram [3] server], .returned,
        .read none none, .sent [8] (.error (.plain "transport is closed"))] ∧
      ({} : Endpoint Int).openOn kernel "" = (.ok (), first) ∧
      first.isOpen = true ∧ Run kernel first moments last ∧ Orderly kernel first moments last ∧
      last.delivered = [[1], [2]] ∧ last.socket.sent = [[7]] ∧
      last.socket.calls = first.socket.calls ++
        [.receive, .receive, .receive, .unwatch, .close] := by
  let kernel : Kernel := ⟨fun _ => none, fun _ => none, true⟩
  let first : Endpoint Int :=
    { socket := { calls := [.create, .reuseAddress, .broadcast, .bind, .nonBlocking, .watch] }
      isOpen := true, listening := true }
  let cause : SystemError := .numbered 100 "Network is down"
  let server : Peer := ⟨"10.0.0.1", 67⟩
  have reading (endpoint : Endpoint Int) :
      Step kernel endpoint (.read endpoint.pending? endpoint.readable.1) endpoint.readable.2 :=
    .read endpoint.reads.inbox
  have run : ∃ last, Run kernel first _ last :=
    ⟨_, .plain (.come [.datagram [1] server, .failure cause, .datagram [2] server]) rfl
      (.call (reading _) (.plain (.send [7]) rfl (.plain (reading _) rfl
          (.call (reading _) (.plain .detach rfl (.plain .close rfl (.plain .close rfl (.rest _))))
            (.plain (.come [.datagram [3] server]) rfl (.rest _)))))
        (.plain (reading _) rfl (.plain (.send [8]) rfl (.rest _))))⟩
  obtain ⟨last, run⟩ := run
  have orderly := run.orderly rfl
  exact ⟨kernel, first, last, cause, server, _, rfl, rfl, rfl, run, orderly, orderly.delivered,
    orderly.sent, orderly.calls⟩

end Endpoint
end NetBoot.Udp
