import ClusterBroker.Proofs.Provider.Refusals

/-!
# No cluster is lost

Making a cluster is the one operation that can fail halfway: the cluster is there, but its owner
could not be written on it.

**One run.**  `Delivery` describes the run of a provision after the cluster was made: the two calls,
what is left behind, and how time went on.  `Operation.provision_cases` says that there is no third
possibility beside a delivery and a run that made nothing.

**Two runs.**  Runs that agree up to the last answer leave the same cluster and the same cache
(`Delivery.cache_eq`), since nothing is done with that answer but to report it.
-/

namespace ClusterBroker

open Domain (Report Request Settings)

variable {σ σ' : Type}

/-! ## What a run made -/

/-- The report about a cluster that a call has made. -/
def Exchange.created? : Exchange → Option Report
  | ⟨.create _, _, _, .ok report⟩ => some report
  | _ => none

/-- A result hands out an instance: as an outcome, or as what a failure left behind. -/
def HandsOut (result : Except Failure Outcome) (i : Instance) : Prop :=
  result = .ok (.found i) ∨ ∃ reason, result = .error (.untagged i reason)

lemma HandsOut.unique {result : Except Failure Outcome} {i j : Instance} (hi : HandsOut result i)
    (hj : HandsOut result j) : i = j := by
  rcases hi with rfl | ⟨reason, rfl⟩
  · rcases hj with hj | ⟨other, hj⟩
    · injection hj with hj
      injection hj
    · cases hj
  · rcases hj with hj | ⟨other, hj⟩
    · cases hj
    · injection hj with hj
      injection hj

lemma not_handsOut {result : Except Failure Outcome} {failure : Failure}
    (h : result = .error failure) (hlost : failure.orphan? = none) (i : Instance) :
    ¬ HandsOut result i := by
  rintro (hi | ⟨reason, hi⟩)
  · rw [h] at hi
    cases hi
  · rw [h] at hi
    injection hi with hi
    simp [hi, Failure.orphan?] at hlost

/-! ## One run -/

/-- A provision has made a cluster: `e` is the call that made it, `t` the one that is to write its
owner on it. -/
structure Delivery (p : Provider σ) (made : Instance) (owner : String) (w : World σ)
    (r : Except Failure Outcome × World σ) (e t : Exchange) : Prop where
  exchanges : r.2.exchanges = w.exchanges ++ [e, t]
  call : t.call = .addTags made.serviceId [⟨"billingcode", owner⟩]
  sent : t.sent = e.answered + min p.tuning.settleDelay longestWait
  result : HandsOut r.1 made
  course : ∃ first last,
    (w.timeline.wait first).now = e.answered ∧
    ((((w.timeline.wait first).put made).wait p.tuning.settleDelay).wait last).now = t.answered ∧
    ((((w.timeline.wait first).put made).wait p.tuning.settleDelay).wait last).settle.Agrees
      r.2.timeline

/-- Writing the owner hands the instance out, whatever the answer. -/
lemma Script.billing_run (p : Provider σ) (made : Instance) (owner : String) (w : World σ) :
    let c : Call := .addTags made.serviceId [⟨"billingcode", owner⟩]
    HandsOut ((billing made owner).run p w).1 made ∧
      ((billing made owner).run p w).2.exchanges = w.exchanges ++ [p.exchange c w] ∧
      (p.timelineAfter c w).Agrees ((billing made owner).run p w).2.timeline := by
  intro c
  have hrun : (billing made owner).run p w = match (p.reply c w).outcome with
      | .ok _ => (.ok (.found made), p.afterCall c w)
      | .error refusal =>
        (.error (.untagged made (Failure.tag refusal.message).message),
          (p.afterCall c w).noteAll
            [.taggingFailed made.name (Failure.tag refusal.message).message]) := by
    simp only [billing, run, Provider.billingTag]
    cases (p.reply c w).outcome <;> rfl
  rw [hrun]
  cases (p.reply c w).outcome with
  | ok answer => exact ⟨.inl rfl, rfl, Timeline.Agrees.refl _⟩
  | error refusal => exact ⟨.inr ⟨_, rfl⟩, rfl, ⟨rfl, rfl, rfl⟩⟩

/-- Makes a cluster by a given request. -/
def Script.launch (p : Provider σ) (made : Request) (id : String) (plan : Plan) (owner : String) :
    Script :=
  request (.create made) (fun refusal => .provision refusal.message) fun report =>
  store (Provider.toInstance id plan report) <|
  wait p.tuning.settleDelay (billing (Provider.toInstance id plan report) owner)

/-- Nothing happens before a launch but notices and the choice of a name. -/
lemma Script.provision_run (p : Provider σ) (id : String) {plan : Plan} (owner : String)
    (w : World σ) {settings : Settings} {notices : List Notice}
    (h : Settings.ofDetails plan.details = .ok (settings, notices)) :
    ∃ request w₁, w₁.exchanges = w.exchanges ∧ w.timeline.Agrees w₁.timeline ∧
      (provision p id plan owner).run p w = (launch p request id plan owner).run p w₁ := by
  rw [provision, h]
  exact ⟨_, (w.noteAll notices).drawOne.noteAll _, rfl, ⟨rfl, rfl, rfl⟩, rfl⟩

/-- Storing a new instance, letting it settle and writing its owner is a delivery. -/
lemma Script.delivery (p : Provider σ) {request : Request} (id : String) (plan : Plan)
    {report : Report} (owner : String) {w w₁ : World σ} (hx : w₁.exchanges = w.exchanges)
    (ht : w.timeline.Agrees w₁.timeline)
    (hreply : (p.reply (.create request) w₁).outcome = .ok report) :
    let made := Provider.toInstance id plan report
    let w₂ := ((p.afterCall (.create request) w₁).store made).wait p.tuning.settleDelay
    let r := (billing made owner).run p w₂
    (p.exchange (.create request) w₁).created? = some report ∧
      Delivery p made owner w (r.1, r.2.settle) (p.exchange (.create request) w₁)
        (p.exchange (.addTags made.serviceId [⟨"billingcode", owner⟩]) w₂) := by
  intro made w₂ r
  obtain ⟨hhands, hexchanges, hcourse⟩ := billing_run p made owner w₂
  have hnoted : w.timeline.Agrees (w₁.timeline.noteAll (p.reply (.create request) w₁).notices) :=
    ht.trans ⟨rfl, rfl, rfl⟩
  have hdelay : (((w.timeline.wait (p.reply (.create request) w₁).latency).put made).wait
      p.tuning.settleDelay).Agrees w₂.timeline :=
    ((hnoted.wait_same _).put made).wait_same _
  have hlast := (hdelay.trans ⟨rfl, rfl, rfl⟩ : Timeline.Agrees _ (w₂.timeline.noteAll
    (p.reply (.addTags made.serviceId [⟨"billingcode", owner⟩]) w₂).notices)).wait_same
      (p.reply (.addTags made.serviceId [⟨"billingcode", owner⟩]) w₂).latency
  refine ⟨?_, ?_, rfl, ?_, hhands, _, _, (hnoted.wait_same _).now.symm, hlast.now.symm,
    (hlast.trans hcourse).settle⟩
  · simp [Provider.exchange, hreply, Exchange.created?]
  · show r.2.exchanges = _
    rw [hexchanges]
    simp [w₂, World.wait, World.store, Provider.afterCall, hx]
  · exact Timeline.wait_now _ _

namespace Operation

/-- **A provision either made nothing and failed without an orphan, or delivered.** -/
theorem provision_cases (p : Provider σ) (id : String) (plan : Plan) (owner : String)
    (w : World σ) :
    let r := (provision id plan owner).run p w
    (∃ failure made, r.1 = .error failure ∧ failure.orphan? = none ∧
      r.2.exchanges = w.exchanges ++ made ∧ ∀ e ∈ made, e.created? = none) ∨
    ∃ e t report, e.created? = some report ∧
      Delivery p (Provider.toInstance id plan report) owner w r e t := by
  intro r
  have hr : r = (((Script.provision p id plan owner).run p w).1,
      ((Script.provision p id plan owner).run p w).2.settle) := run_eq_script _ p w
  cases hparse : Settings.ofDetails plan.details with
  | error failure =>
      have hread : (provision id plan owner).unreadable? = some failure := by
        simp only [unreadable?, hparse]
      obtain ⟨⟨reason, rfl⟩, hrun⟩ := run_unreadable hread p w
      refine .inl ⟨_, [], congrArg Prod.fst hrun, rfl, ?_, by simp⟩
      simp only [r, hrun, List.append_nil]
      rfl
  | ok parsed =>
      obtain ⟨settings, notices⟩ := parsed
      obtain ⟨request, w₁, hx, ht, hlaunch⟩ := Script.provision_run p id owner w hparse
      rw [hlaunch, Script.launch] at hr
      simp only [Script.request, Script.run] at hr
      cases hreply : (p.reply (.create request) w₁).outcome with
      | error refusal =>
          simp only [hreply, Script.run] at hr
          refine .inl ⟨_, [p.exchange (.create request) w₁], congrArg Prod.fst hr, rfl, ?_,
            fun e he => ?_⟩
          · rw [hr, ← hx]
            rfl
          · obtain rfl := List.mem_singleton.1 he
            simp [Provider.exchange, hreply, Exchange.created?]
      | ok report =>
          simp only [hreply, Script.run] at hr
          obtain ⟨hcreated, hdelivery⟩ := Script.delivery p id plan owner hx ht hreply
          exact .inr ⟨_, _, report, hcreated, hr ▸ hdelivery⟩

end Operation

/-! ## Two runs -/

/-- Deliveries that took the same time leave the same cache. -/
lemma Delivery.cache_eq {p : Provider σ} {p' : Provider σ'} {made : Instance} {owner : String}
    {w : World σ} {w' : World σ'} {r : Except Failure Outcome × World σ}
    {r' : Except Failure Outcome × World σ'} {e t e' t' : Exchange}
    (h : Delivery p made owner w r e t) (h' : Delivery p' made owner w' r' e' t')
    (hdelay : p'.tuning.settleDelay = p.tuning.settleDelay)
    (hstart : w.timeline.Agrees w'.timeline) (hmade : e'.answered = e.answered)
    (hlast : t'.answered = t.answered) : r'.2.timeline.cache = r.2.timeline.cache := by
  obtain ⟨first, last, hfirst, hend, hcourse⟩ := h.course
  obtain ⟨first', last', hfirst', hend', hcourse'⟩ := h'.course
  rw [hdelay] at hend' hcourse'
  have hcreated := hstart.wait ((hfirst'.trans hmade).trans hfirst.symm)
  have hsettled := (hcreated.put made).wait_same p.tuning.settleDelay
  have hdone := (hsettled.wait ((hend'.trans hlast).trans hend.symm)).settle
  calc r'.2.timeline.cache
      = _ := hcourse'.cache
    _ = _ := hdone.cache
    _ = r.2.timeline.cache := hcourse.cache.symm

/-- Writing a tag makes one call. -/
lemma Operation.tag_call (target : Instance) (key value : String) (p : Provider σ) (w : World σ) :
    ∃ again, ((tag target key value).run p w).2.exchanges = w.exchanges ++ [again] ∧
      again.call = .addTags target.serviceId [⟨key, value⟩] := by
  refine ⟨p.exchange (.addTags target.serviceId [⟨key, value⟩]) w, ?_, rfl⟩
  rw [run_eq_script]
  simp only [script, Script.retag, Script.request, Script.run]
  cases (p.reply (.addTags target.serviceId [⟨key, value⟩]) w).outcome <;> rfl

/-- A provision hands out a cluster exactly if a call made one, and then writes its owner. -/
lemma Operation.provision_handsOut (p : Provider σ) (hdelay : p.tuning.settleDelay ≤ longestWait)
    (id : String) (plan : Plan) (owner : String) (w : World σ) :
    let r := (provision id plan owner).run p w
    ∃ made, r.2.exchanges = w.exchanges ++ made ∧
      (∀ i, HandsOut r.1 i ↔
        ∃ e ∈ made, ∃ report, e.created? = some report ∧
          i = Provider.toInstance id plan report) ∧
      ∀ e ∈ made, ∀ report, e.created? = some report →
        ∃ t, made = [e, t] ∧ t.call = .addTags report.arn [⟨"billingcode", owner⟩] ∧
          t.sent = e.answered + p.tuning.settleDelay := by
  intro r
  rcases provision_cases p id plan owner w with
    ⟨failure, made, hfail, hlost, hmade, hnone⟩ | ⟨e, t, report, hcreated, hdelivery⟩
  · refine ⟨made, hmade, fun i => ⟨fun hi => absurd hi (not_handsOut hfail hlost i), ?_⟩, ?_⟩
    · rintro ⟨e, he, report, hcreated, -⟩
      simp [hnone e he] at hcreated
    · intro e he report hcreated
      simp [hnone e he] at hcreated
  · have htag : t.created? = none := by
      have hcall := hdelivery.call
      obtain ⟨c, sent, answered, outcome⟩ := t
      cases hcall
      rfl
    have honly : ∀ e' ∈ [e, t], ∀ report', e'.created? = some report' →
        e' = e ∧ report' = report := by
      intro e' he' report' hcreated'
      rcases List.mem_cons.1 he' with rfl | he'
      · exact ⟨rfl, by simpa [hcreated] using hcreated'.symm⟩
      · obtain rfl := List.mem_singleton.1 he'
        simp [htag] at hcreated'
    refine ⟨[e, t], hdelivery.exchanges, fun i => ⟨fun hi => ?_, ?_⟩, ?_⟩
    · exact ⟨e, by simp, report, hcreated, hi.unique hdelivery.result⟩
    · rintro ⟨e', he', report', hcreated', rfl⟩
      obtain ⟨rfl, rfl⟩ := honly e' he' report' hcreated'
      exact hdelivery.result
    · intro e' he' report' hcreated'
      obtain ⟨rfl, rfl⟩ := honly e' he' report' hcreated'
      refine ⟨t, rfl, hdelivery.call, ?_⟩
      rw [hdelivery.sent, Nat.min_eq_left hdelay]

/-- A provision that hands out an instance has delivered it by its two calls. -/
lemma Operation.delivery_of_handsOut (p : Provider σ) {id : String} {plan : Plan} {owner : String}
    {w : World σ} {i : Instance} {e t : Exchange}
    (hi : HandsOut ((provision id plan owner).run p w).1 i)
    (hmade : ((provision id plan owner).run p w).2.exchanges = w.exchanges ++ [e, t]) :
    ∃ report, e.created? = some report ∧ i = Provider.toInstance id plan report ∧
      Delivery p i owner w ((provision id plan owner).run p w) e t := by
  rcases provision_cases p id plan owner w with
    ⟨failure, made, hfail, hlost, -, -⟩ | ⟨e₀, t₀, report, hcreated, hdelivery⟩
  · exact absurd hi (not_handsOut hfail hlost i)
  · have hsame : [e, t] = [e₀, t₀] := List.append_cancel_left (hmade.symm.trans hdelivery.exchanges)
    obtain ⟨rfl, rfl⟩ : e = e₀ ∧ t = t₀ := by simpa using hsame
    obtain rfl := hi.unique hdelivery.result
    exact ⟨report, hcreated, rfl, hdelivery⟩

/-- **No cluster is lost.**  A provision hands out a cluster exactly if the control plane made one,
and it is the one that was reported; the call that writes its owner is sent when the cluster has
settled.  If two runs differ from that call's answer on, one with success and one without, they hand
out the same cluster and leave the same cache, and tagging the orphan makes the failed call
again. -/
theorem Provider.provision_recoverable (p : Provider σ) (plane' : ControlPlane σ')
    (hdelay : p.tuning.settleDelay ≤ longestWait) (id : String) (plan : Plan) (owner : String)
    (w : World σ) (w' : World σ') :
    let p' : Provider σ' := ⟨p.environment, p.tuning, plane', p.tokens⟩
    let r := (Operation.provision id plan owner).run p w
    let r' := (Operation.provision id plan owner).run p' w'
    (∃ made, r.2.exchanges = w.exchanges ++ made ∧
      (∀ i, HandsOut r.1 i ↔
        ∃ e ∈ made, ∃ report, e.created? = some report ∧ i = toInstance id plan report) ∧
      ∀ e ∈ made, ∀ report, e.created? = some report →
        ∃ t, made = [e, t] ∧ t.call = .addTags report.arn [⟨"billingcode", owner⟩] ∧
          t.sent = e.answered + p.tuning.settleDelay) ∧
    ∀ i orphan reason e t t', r.1 = .ok (.found i) → r'.1 = .error (.untagged orphan reason) →
      r.2.exchanges = w.exchanges ++ [e, t] → r'.2.exchanges = w'.exchanges ++ [e, t'] →
      orphan = i ∧
      (w.timeline.Agrees w'.timeline → t'.answered = t.answered →
        r'.2.timeline.cache = r.2.timeline.cache) ∧
      ∀ {τ : Type} (q : Provider τ) (v : World τ), ∃ again,
        ((Operation.tag orphan "billingcode" owner).run q v).2.exchanges = v.exchanges ++ [again] ∧
          again.call = t'.call := by
  intro p' r r'
  refine ⟨Operation.provision_handsOut p hdelay id plan owner w, ?_⟩
  intro i orphan reason e t t' hok herror hmade hmade'
  obtain ⟨report, hcreated, hi, hdelivery⟩ :=
    Operation.delivery_of_handsOut p (.inl hok) hmade
  obtain ⟨report', hcreated', horphan, hdelivery'⟩ :=
    Operation.delivery_of_handsOut p' (.inr ⟨reason, herror⟩) hmade'
  obtain rfl : report = report' := by simpa [hcreated] using hcreated'
  obtain rfl : orphan = i := horphan.trans hi.symm
  refine ⟨rfl, fun hstart hlast => hdelivery.cache_eq hdelivery' rfl hstart rfl hlast, ?_⟩
  intro τ q v
  obtain ⟨again, hagain, hcall⟩ := Operation.tag_call orphan "billingcode" owner q v
  exact ⟨again, hagain, hcall.trans hdelivery'.call.symm⟩

namespace Rehearsal

/-- The world of a rehearsal in which the next owner cannot be written. -/
def refusing : World Rehearsal :=
  provider.start (start.refuse .addTags (.rejected "throttled") 1)

/-- The call that makes the first cluster. -/
def creation : Exchange :=
  ⟨.create request, 0, 0, .ok (newReport request)⟩

/-- The call that is to write its owner, and its answer. -/
def billing (outcome : Except Refusal Unit) : Exchange :=
  ⟨.addTags made.serviceId [⟨"billingcode", "team"⟩], 10000, 10000, outcome⟩

/-- A cluster whose owner could not be written is in the cache, and tagging it makes the failed call
again. -/
theorem refused_billing_recoverable :
    let o := Operation.provision "i-1" plan "team"
    (o.run provider refusing).2.timeline.cache
        = (o.run provider (provider.start start)).2.timeline.cache ∧
      ∃ again, ((Operation.tag made "billingcode" "team").run provider
          (o.run provider refusing).2).2.exchanges
          = (o.run provider refusing).2.exchanges ++ [again] ∧
        again.call = (billing (.error (.rejected "throttled"))).call := by
  intro o
  obtain ⟨-, htwo⟩ := provider.provision_recoverable plane (by decide) "i-1" plan "team"
    (provider.start start) refusing
  obtain ⟨-, hcache, htag⟩ := htwo made made "Tag update failed: Request rejected: throttled"
    creation (billing (.ok ())) (billing (.error (.rejected "throttled"))) rfl rfl rfl rfl
  exact ⟨hcache ⟨rfl, rfl, rfl⟩ rfl, htag provider _⟩

end Rehearsal

end ClusterBroker
