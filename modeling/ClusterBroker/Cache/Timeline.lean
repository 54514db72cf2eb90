import ClusterBroker.Cache
import ClusterBroker.Cache.Reaper
import ClusterBroker.Dict
import ClusterBroker.Notice

/-!
# A cache in the course of time

Time is a count of milliseconds that moves only when somebody waits.  Reapers tick in between and
clear the cache; a reaper whose cache is gone ends at its next tick.

* `Timeline` — the time, the cache, the reapers by name and the notices so far.
* `Timeline.wait` — waiting within an operation: the ticks before the end of the wait happen, those
  at its end wait until the operation waits again or is over.  No wait is longer than `longestWait`.
* `Timeline.settle` — the end of an operation: the ticks that are due happen.
* `Timeline.jump` — the clock moves at once, and reapers may find themselves late.
-/

namespace ClusterBroker

/-- A cache, its reapers and its history.  A reaper that has ended keeps its name; a cache that was
dropped is `none`. -/
structure Timeline where
  now : Nat
  cache : Option Cache
  reapers : Dict (Option Reaper)
  notices : List Notice

/-- The longest wait in milliseconds, thirty years of 365 days.  A longer one ends then. -/
def longestWait : Nat := 30 * 365 * 24 * 60 * 60 * 1000

namespace Timeline

/-- An empty cache without reapers, at the beginning of time. -/
def start : Timeline :=
  ⟨0, some .empty, .empty, []⟩

/-- The timeline with one more notice. -/
def note (t : Timeline) (n : Notice) : Timeline :=
  { t with notices := t.notices ++ [n] }

/-- The timeline with more notices. -/
def noteAll (t : Timeline) (ns : List Notice) : Timeline :=
  { t with notices := t.notices ++ ns }

/-! ## The cache -/

/-- The instance with a key. -/
def get? (t : Timeline) (key : CacheKey) : Option Instance :=
  t.cache.bind (·.get? key)

/-- Puts an instance. -/
def put (t : Timeline) (i : Instance) : Timeline :=
  { t with cache := t.cache.map (·.put i) }

/-- Clears the cache, with a notice if there was anything in it. -/
def clear (t : Timeline) : Timeline :=
  match t.cache with
  | some c =>
    let cleared := { t with cache := some .empty }
    if c.isEmpty then cleared else cleared.note (.cleared c.size)
  | none => t

/-- Drops the cache. -/
def dropCache (t : Timeline) : Timeline :=
  { t with cache := none }

/-! ## The reapers -/

/-- Starts a reaper; one of the same name ends. -/
def spawn (t : Timeline) (name : String) (interval : Nat) : Timeline :=
  { t with reapers := t.reapers.insert name (Reaper.spawn? t.now interval) }

/-- Ends a reaper, which keeps its name. -/
def stop (t : Timeline) (name : String) : Timeline :=
  { t with reapers := t.reapers.modify name fun _ => none }

/-- Ends a reaper and forgets its name. -/
def dropReaper (t : Timeline) (name : String) : Timeline :=
  { t with reapers := t.reapers.erase name }

/-- Whether a reaper is running, if there is one of that name. -/
def isRunning? (t : Timeline) (name : String) : Option Bool :=
  (t.reapers.get? name).map Option.isSome

/-- Whether some reaper has a tick due at a time. -/
def anyDue (t : Timeline) (time : Nat) : Bool :=
  t.reapers.entries.any fun e => e.2.any (·.isDue time)

/-- A reaper after it ticks as `tick` says; without a cache it ends instead. -/
def afterTick (cacheExists : Bool) (time : Nat) (tick : Reaper → Reaper) (r : Reaper) :
    Option Reaper :=
  if r.isDue time then (if cacheExists then some (tick r) else none) else some r

/-- All ticks that are due at a time happen. -/
def tickAll (t : Timeline) (time : Nat) (tick : Reaper → Reaper) : Timeline :=
  let ticked := if t.anyDue time then t.clear else t
  { ticked with reapers := t.reapers.map fun r => r.bind (afterTick t.cache.isSome time tick) }

/-- All ticks up to a time happen, each one on time. -/
def runTo (t : Timeline) (time : Nat) : Timeline :=
  t.tickAll time (·.onTime time)

/-! ## Time -/

/-- Waits within an operation.  Waiting for no time is no wait. -/
def wait (t : Timeline) (duration : Nat) : Timeline :=
  if duration = 0 then t
  else
    let stop := t.now + min duration longestWait
    { t.runTo (stop - 1) with now := stop }

/-- The ticks that are due now happen. -/
def settle (t : Timeline) : Timeline :=
  t.runTo t.now

/-- Sleeps: waits and settles. -/
def sleep (t : Timeline) (duration : Nat) : Timeline :=
  (t.wait duration).settle

/-- Moves the clock at once.  Reapers wake at the new time only. -/
def jump (t : Timeline) (duration : Nat) : Timeline :=
  let now := t.now + duration
  let moved := { t with now := now }
  moved.tickAll now (·.catchUp now)

end Timeline

end ClusterBroker
