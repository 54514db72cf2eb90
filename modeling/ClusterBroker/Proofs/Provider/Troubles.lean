import ClusterBroker.Proofs.ControlPlane.Answers
import ClusterBroker.Proofs.Provider.Refusals

/-!
# What goes wrong with an operation over the wire

An operation makes its calls one after the other, and each of them takes the next reply on the line.

**Threads.**  By `Script.threads_run` the exchanges of a script are what the control plane answers,
each in the state that the one before has left.

**Troubles.**  `Agenda.trouble?` goes through the calls of an operation and the replies to come, up to
the first call that is not answered.  **`Operation.troubles_run`** is that this decides how the
operation ends.

**Calls.**  `Operation.Makes` lists the calls of each operation.
-/

namespace ClusterBroker

open Domain (Settings)
open Wire (Line Trouble)

variable {σ : Type}

/-! ## Threads -/

/-- Exchanges are what a control plane answers from a state on, one after the other. -/
def ControlPlane.Threads (plane : ControlPlane σ) : σ → List Exchange → Prop
  | _, [] => True
  | state, e :: rest =>
    (plane.answer e.call state).1.outcome = e.outcome ∧
      plane.Threads (plane.answer e.call state).2 rest

/-- The exchanges of a script are what the control plane answers. -/
theorem Script.threads_run (p : Provider σ) (s : Script) (w : World σ) :
    ∃ made, (s.run p w).2.exchanges = w.exchanges ++ made ∧ p.plane.Threads w.plane made := by
  induction s generalizing w with
  | finish result => exact ⟨[], (List.append_nil _).symm, trivial⟩
  | note ns rest ih => exact ih (w.noteAll ns)
  | draw rest ih => exact ih _ w.drawOne
  | look key rest ih => exact ih _ w
  | call c rest ih =>
      obtain ⟨made, hmade, hthreads⟩ := ih (p.reply c w).outcome (p.afterCall c w)
      refine ⟨p.exchange c w :: made, ?_, rfl, hthreads⟩
      rw [run, hmade, List.append_cons]
      rfl
  | store i rest ih => exact ih (w.store i)
  | wait duration rest ih => exact ih (w.wait duration)

/-! ## Troubles -/

namespace Agenda

/-- The first call of an agenda that is not answered by the replies to come, and what is wrong. -/
def trouble? (region : String) : Agenda → List Wire.Reply → Option (Call × Trouble)
  | done, _ => none
  | step c rest, replies =>
    match Wire.ask region c replies with
    | (.ok answer, more) => (rest answer).trouble? region more
    | (.error trouble, _) => some (c, trouble)

/-- A call is on an agenda, whatever is answered before. -/
inductive Wants : Agenda → Call → Prop where
  | now {c : Call} {rest : c.Answer → Agenda} : Wants (.step c rest) c
  | later {c c' : Call} {rest : c.Answer → Agenda} {answer : c.Answer} :
    Wants (rest answer) c' → Wants (.step c rest) c'

lemma wants_of_trouble? {region : String} {agenda : Agenda} {replies : List Wire.Reply} {c : Call}
    {trouble : Trouble} (h : agenda.trouble? region replies = some (c, trouble)) :
    agenda.Wants c := by
  induction agenda generalizing replies with
  | done => cases h
  | step c' rest ih =>
      rw [trouble?] at h
      split at h
      · exact .later (ih _ h)
      · cases h
        exact .now

/-- Calls that follow an agenda over a line stop at its trouble. -/
lemma Followed.stop_eq {region : String} {agenda : Agenda} {made : List Exchange}
    {stop : Option (Call × Refusal)} (h : agenda.Followed made stop) {l : Line}
    (hthreads : (Wire.plane region).Threads l made) :
    stop = (agenda.trouble? region l.replies).map fun t => (t.1, t.2.refusal) := by
  induction h generalizing l with
  | done => rfl
  | @refused c rest sent answered refusal =>
      have houtcome := (Wire.answer_eq_ask region c l).1.symm.trans hthreads.1
      rw [trouble?]
      rcases hask : Wire.ask region c l.replies with ⟨trouble | answer, more⟩
      · rw [hask] at houtcome
        rw [← Except.error.inj houtcome]
        rfl
      · rw [hask] at houtcome
        cases houtcome
  | @answered c rest sent answered answer more stop _ ih =>
      obtain ⟨houtcome, hline⟩ := Wire.answer_eq_ask region c l
      have houtcome := houtcome.symm.trans hthreads.1
      rw [ih hthreads.2, trouble?]
      rcases hask : Wire.ask region c l.replies with ⟨trouble | answer', more⟩
      · rw [hask] at houtcome
        cases houtcome
      · rw [hask] at houtcome hline
        cases houtcome
        exact congrArg (fun replies => ((rest answer).trouble? region replies).map _) hline

end Agenda

namespace Operation

/-! ## Calls -/

/-- An operation makes a call, if all the calls before it are answered. -/
inductive Makes (p : Provider σ) (w : World σ) : Operation → Call → Prop where
  | get {name : String} {plan : Plan} : Makes p w (getInstance name plan) (.describe name)
  | create {id : String} {plan : Plan} {owner : String} {settings : Settings}
    {notices : List Notice} :
    Settings.ofDetails plan.details = .ok (settings, notices) →
      Makes p w (provision id plan owner) (.create (.make p.environment settings
        (.generated p.tuning.namePrefix (p.tokens w.drawn))))
  | bill {id : String} {plan : Plan} {owner arn : String} {tags : List Tag}
    {settings : Settings} {notices : List Notice} :
    Settings.ofDetails plan.details = .ok (settings, notices) →
      Makes p w (provision id plan owner) (.addTags arn tags)
  | update {target : Instance} {plan : Plan} {settings : Settings} {notices : List Notice} :
    Settings.ofDetails plan.details = .ok (settings, notices) →
      Makes p w (modify target plan)
        (.update (.make p.environment settings (.given target.name)))
  | review {target : Instance} {plan : Plan} {settings : Settings} {notices : List Notice} :
    Settings.ofDetails plan.details = .ok (settings, notices) →
      Makes p w (modify target plan) (.describe target.name)
  | delete {target : Instance} {takeSnapshot : Bool} :
    Makes p w (deprovision target takeSnapshot) (.delete target.name)
  | tag {target : Instance} {key value : String} :
    Makes p w (tag target key value) (.addTags target.serviceId [⟨key, value⟩])
  | untag {target : Instance} {key : String} :
    Makes p w (untag target key) (.removeTags target.serviceId [key])

/-- The calls on the agenda of an operation are those that it makes. -/
lemma makes_of_wants {o : Operation} {p : Provider σ} {w : World σ} {c : Call}
    (hwants : (o.agenda p w).Wants c) : o.Makes p w c := by
  cases o with
  | getInstance name plan =>
      simp only [agenda] at hwants
      split at hwants
      · cases hwants
      · rcases hwants with _ | ⟨⟨⟩⟩
        exact .get
  | provision id plan owner =>
      simp only [agenda] at hwants
      split at hwants
      · cases hwants
      · next hread =>
          rcases hwants with _ | ⟨_ | ⟨⟨⟩⟩⟩
          · exact .create hread
          · exact .bill hread
  | modify target plan =>
      simp only [agenda] at hwants
      split at hwants
      · cases hwants
      · next hread =>
          rcases hwants with _ | ⟨_ | ⟨⟨⟩⟩⟩
          · exact .update hread
          · exact .review hread
  | deprovision target takeSnapshot =>
      rcases hwants with _ | ⟨⟨⟩⟩
      exact .delete
  | tag target key value =>
      rcases hwants with _ | ⟨⟨⟩⟩
      exact .tag
  | untag target key =>
      rcases hwants with _ | ⟨⟨⟩⟩
      exact .untag
  | postProvision target => cases hwants
  | urls target => cases hwants
  | serviceName => cases hwants

section Line

variable {o : Operation} {region : String} {p : Provider Line} {w : World Line}

/-! ## Ends -/

/-- **How an operation ends over a line.**  One whose settings can be read succeeds if every call is
answered, and otherwise fails with what is wrong with the first that is not. -/
theorem troubles_run (hplane : p.plane = Wire.plane region) (hread : o.unreadable? = none) :
    match (o.agenda p w).trouble? region w.plane.replies with
    | none => ∃ outcome, (o.run p w).1 = .ok outcome
    | some (c, trouble) =>
      ∃ failure, (o.run p w).1 = .error failure ∧ o.FailsWith c trouble.refusal failure := by
  obtain ⟨made, stop, hmade, hfollowed, hresult⟩ := o.explains_run p w hread
  obtain ⟨made', hmade', hthreads⟩ := (o.script p).threads_run p w
  obtain rfl : made' = made := List.append_cancel_left (hmade'.symm.trans hmade)
  rw [hplane] at hthreads
  have hstop := hfollowed.stop_eq hthreads
  rw [run_eq_script]
  cases htrouble : (o.agenda p w).trouble? region w.plane.replies with
  | none =>
      rw [htrouble] at hstop
      subst hstop
      exact hresult
  | some found =>
      obtain ⟨c, trouble⟩ := found
      rw [htrouble] at hstop
      subst hstop
      exact hresult

/-- An operation that makes a call has settings that can be read. -/
lemma Makes.readable {c : Call} (h : o.Makes p w c) : o.unreadable? = none := by
  cases h with
  | create hread | bill hread | update hread | review hread => simp [unreadable?, hread]
  | get | delete | tag | untag => rfl

/-- The failure of an operation with a trouble. -/
lemma fails_of_trouble (hplane : p.plane = Wire.plane region) {c : Call}
    {trouble : Trouble}
    (h : (o.agenda p w).trouble? region w.plane.replies = some (c, trouble)) :
    ∃ failure, (o.run p w).1 = .error failure ∧ o.FailsWith c trouble.refusal failure := by
  have hrun := troubles_run (w := w) hplane
    (makes_of_wants (Agenda.wants_of_trouble? h)).readable
  rw [h] at hrun
  exact hrun

/-- A failed operation leaves of the cache what time leaves of it, unless it leaves an instance. -/
lemma cache_of_failure {failure : Failure} (hfail : (o.run p w).1 = .error failure)
    (hlost : failure.orphan? = none) :
    (o.run p w).2.timeline.cache = (w.timeline.runTo (o.run p w).2.timeline.now).cache := by
  rw [run_eq_script] at hfail ⊢
  rw [show ((o.script p).run p w).2.settle.timeline.now = _ from Timeline.settle_now _]
  exact (o.commits p).cache_run p w hfail hlost

end Line

end Operation

end ClusterBroker
