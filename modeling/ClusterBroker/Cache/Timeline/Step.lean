import ClusterBroker.Cache.Timeline

/-!
# Steps of a timeline as data

A step says what is done to a cache, to its reapers or to the clock.  Looking an instance up is no
step, since it changes nothing.

* `Timeline.Step` — the steps; `Timeline.apply` — what each does.
* `Timeline.run` — steps one after the other.
-/

namespace ClusterBroker.Timeline

/-- Something that changes a timeline. -/
inductive Step where
  | put (i : Instance)
  | clear
  | spawn (name : String) (interval : Nat)
  | stop (name : String)
  | dropReaper (name : String)
  | dropCache
  | sleep (duration : Nat)
  | jump (duration : Nat)
  deriving DecidableEq

/-- The timeline after a step. -/
def apply (t : Timeline) : Step → Timeline
  | .put i => t.put i
  | .clear => t.clear
  | .spawn name interval => t.spawn name interval
  | .stop name => t.stop name
  | .dropReaper name => t.dropReaper name
  | .dropCache => t.dropCache
  | .sleep duration => t.sleep duration
  | .jump duration => t.jump duration

/-- The timeline after some steps. -/
def run (t : Timeline) (steps : List Step) : Timeline :=
  steps.foldl apply t

end ClusterBroker.Timeline
