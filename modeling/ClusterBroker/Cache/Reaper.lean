/-!
# Reapers

A reaper ticks at a fixed interval.  It keeps its schedule as long as it is on time; when it finds
itself late by more than `latenessLimit`, it ticks once and starts a new schedule there and then.

* `Reaper` — a running reaper: its interval and the time of its next tick.
* `Reaper.spawn?` — a new one; without an interval there is none.
* `Reaper.onTime` — the reaper after all its ticks up to a time, each one on time.
* `Reaper.catchUp` — the reaper after it wakes at a time that may be late.
-/

namespace ClusterBroker

/-- By how many milliseconds a tick may be late without a new schedule. -/
def latenessLimit : Nat := 5

/-- A running reaper. -/
structure Reaper where
  interval : Nat
  deadline : Nat
  interval_pos : 0 < interval

namespace Reaper

/-- A reaper that starts now; without an interval it cannot run. -/
def spawn? (now interval : Nat) : Option Reaper :=
  if h : 0 < interval then some ⟨interval, now + interval, h⟩ else none

/-- Whether a tick is due at a time. -/
def isDue (r : Reaper) (time : Nat) : Bool :=
  r.deadline ≤ time

/-- How many ticks the schedule has up to a time. -/
def ticksUpTo (r : Reaper) (time : Nat) : Nat :=
  if r.deadline ≤ time then (time - r.deadline) / r.interval + 1 else 0

/-- The reaper after its ticks up to a time, each one on time. -/
def onTime (r : Reaper) (time : Nat) : Reaper :=
  { r with deadline := r.deadline + r.interval * r.ticksUpTo time }

/-- The reaper after it wakes at a time.  A tick that is too late starts a new schedule. -/
def catchUp (r : Reaper) (now : Nat) : Reaper :=
  if r.deadline + latenessLimit < now then { r with deadline := now + r.interval }
  else r.onTime now

end Reaper

end ClusterBroker
