/-
# Scales of time

Timers and sessions add durations to instants and compare instants; nothing else
about time matters to them.  A scale of time is any type with these operations.
Programs measure time in doubles.  A scale with exact arithmetic, such as the
rational numbers, shows the same rules without rounding.
-/

namespace NetBoot

/-- A type that measures instants and durations in seconds. -/
class TimeScale (τ : Type) where
  /-- The instant a clock starts from, and the empty duration. -/
  zero : τ
  /-- One second. -/
  second : τ
  /-- The instant that is a duration after another one. -/
  add : τ → τ → τ
  /-- The duration from the second instant to the first one. -/
  sub : τ → τ → τ
  /-- Not later than. -/
  le : τ → τ → Bool
  /-- Earlier than. -/
  lt : τ → τ → Bool

namespace TimeScale

instance : TimeScale Float where
  zero := 0.0
  second := 1.0
  add := (· + ·)
  sub := (· - ·)
  le := fun first second => first ≤ second
  lt := fun first second => first < second

/-- Whole milliseconds. -/
instance : TimeScale Int where
  zero := 0
  second := 1000
  add := (· + ·)
  sub := (· - ·)
  le := fun first second => first ≤ second
  lt := fun first second => first < second

variable {τ : Type} [TimeScale τ]

/-- Twice a duration. -/
def double (duration : τ) : τ := add duration duration

/-- A duration, unless the bound is shorter. -/
def atMost (duration bound : τ) : τ :=
  if lt bound duration then bound else duration

/-- An instant, unless the other one is later. -/
def atLeast (instant bound : τ) : τ :=
  if lt instant bound then bound else instant

end TimeScale
end NetBoot
