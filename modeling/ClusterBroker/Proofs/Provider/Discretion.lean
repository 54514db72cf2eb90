import ClusterBroker.ControlPlane.Wire
import ClusterBroker.Proofs.Provider.Redaction
import ClusterBroker.Proofs.Provider.Sightings

/-!
# Runs do not show private settings

Two runs are compared that differ in nothing but private settings and what a control plane may do
with them.

**Worlds.**  `World.Alike` relates worlds that show the same: time, reapers, the cache and the
exchanges without their private parts, and the notices up to their order.  Everything that happens
to a timeline keeps timelines alike.

**Scripts.**  `Script.Alike` relates scripts that go on alike as long as they find the same.  With
the same answers, alike scripts keep worlds alike and end in results that differ at most in private
parts (`Script.Alike.run`).  Operations that differ only in private settings have alike scripts
(`Operation.Alike.script`).

**Runs.**  **`Gate.sightings_alike`** says that nothing seen of two such runs differs, but for the
options and subnets in the requests.  What it asks of control planes is met behind the wire
(`Wire.alike_provider`).
-/

namespace ClusterBroker

open Domain (Report Request Settings Token)

variable {σ σ' : Type}

/-! ## Timelines -/

/-- The instances of a cache without private settings. -/
def Cache.redacted (c : Cache) : List Instance :=
  c.instances.map Instance.redacted

namespace Cache

variable {c c' : Cache}

lemma map_redacted_get? (c : Cache) (key : CacheKey) :
    (c.get? key).map Instance.redacted = c.redacted.find? fun i => i.cacheKey = key := by
  rw [redacted, List.find?_map]
  rfl

lemma redacted_put (c : Cache) (i : Instance) :
    (c.put i).redacted
      = i.redacted :: c.redacted.filter fun j => j.cacheKey ≠ i.redacted.cacheKey := by
  rw [redacted, redacted, List.filter_map]
  rfl

lemma size_redacted (c : Cache) : c.redacted.length = c.size :=
  List.length_map _

lemma isEmpty_redacted (c : Cache) : c.redacted.isEmpty = c.isEmpty :=
  List.isEmpty_map

end Cache

/-- Timelines that show the same, with their notices in some order. -/
structure Timeline.Alike (t t' : Timeline) : Prop where
  now : t.now = t'.now
  cache : t.cache.map Cache.redacted = t'.cache.map Cache.redacted
  reapers : t.reapers = t'.reapers
  notices : t.notices.Perm t'.notices

namespace Timeline.Alike

variable {t t' : Timeline}

lemma get? (h : t.Alike t') (key : CacheKey) :
    (t.get? key).map Instance.redacted = (t'.get? key).map Instance.redacted := by
  have hcache := h.cache
  unfold Timeline.get?
  cases hc : t.cache <;> cases hc' : t'.cache <;> simp only [hc, hc', Option.map_some,
    Option.map_none, Option.some.injEq, reduceCtorEq] at hcache
  · rfl
  · simp only [Option.bind_some, Cache.map_redacted_get?, hcache]

lemma size (h : t.Alike t') : t.cache.map (·.size) = t'.cache.map (·.size) := by
  have hmap (o : Option Cache) : o.map (·.size) = (o.map Cache.redacted).map List.length := by
    simp [Option.map_map, Function.comp_def, Cache.size_redacted]
  rw [hmap, hmap, h.cache]

lemma noteAll (h : t.Alike t') {ns ns' : List Notice} (hns : ns.Perm ns') :
    (t.noteAll ns).Alike (t'.noteAll ns') :=
  ⟨h.now, h.cache, h.reapers, h.notices.append hns⟩

lemma put (h : t.Alike t') {i i' : Instance} (hi : i.redacted = i'.redacted) :
    (t.put i).Alike (t'.put i') where
  now := h.now
  cache := by
    have hmap (o : Option Cache) (j : Instance) : (o.map (·.put j)).map Cache.redacted
        = (o.map Cache.redacted).map fun l =>
          j.redacted :: l.filter fun k => k.cacheKey ≠ j.redacted.cacheKey := by
      simp [Option.map_map, Function.comp_def, Cache.redacted_put]
    rw [Timeline.put, Timeline.put, hmap, hmap, h.cache, hi]
  reapers := h.reapers
  notices := h.notices

/-- Clearing caches of the same size is noted alike. -/
lemma clear (h : t.Alike t') : t.clear.Alike t'.clear := by
  have hcache := h.cache
  unfold Timeline.clear
  cases hc : t.cache <;> cases hc' : t'.cache <;> simp only [hc, hc', Option.map_some,
    Option.map_none, Option.some.injEq, reduceCtorEq] at hcache
  · exact h
  · rename_i c c'
    have hempty : c.isEmpty = c'.isEmpty := by
      rw [← c.isEmpty_redacted, hcache, c'.isEmpty_redacted]
    have hsize : c.size = c'.size := by rw [← c.size_redacted, hcache, c'.size_redacted]
    have hcleared : ({ t with cache := some .empty } : Timeline).Alike
        { t' with cache := some .empty } :=
      ⟨h.now, rfl, h.reapers, h.notices⟩
    simp only [hempty, hsize]
    split
    · exact hcleared
    · exact hcleared.noteAll (.refl _)

lemma runTo (h : t.Alike t') (time : Nat) : (t.runTo time).Alike (t'.runTo time) := by
  have hdue : t.anyDue time = t'.anyDue time := by rw [anyDue, h.reapers, anyDue]
  have hsome : t.cache.isSome = t'.cache.isSome := by
    have := congrArg Option.isSome h.cache
    simpa using this
  have hticked : (if t.anyDue time then t.clear else t).Alike
      (if t'.anyDue time then t'.clear else t') := by
    rw [hdue]
    split
    · exact h.clear
    · exact h
  refine ⟨hticked.now, hticked.cache, ?_, hticked.notices⟩
  show t.reapers.map (fun r => r.bind (afterTick t.cache.isSome time (·.onTime time)))
    = t'.reapers.map (fun r => r.bind (afterTick t'.cache.isSome time (·.onTime time)))
  rw [h.reapers, hsome]

lemma settle (h : t.Alike t') : t.settle.Alike t'.settle := by
  rw [Timeline.settle, Timeline.settle, h.now]
  exact h.runTo t'.now

/-- Waits that end at the same time do the same to timelines that show the same. -/
lemma wait (h : t.Alike t') {duration duration' : Nat}
    (hnow : (t.wait duration).now = (t'.wait duration').now) :
    (t.wait duration).Alike (t'.wait duration') := by
  have hlong : 0 < longestWait := by decide
  have hmin : min duration longestWait = min duration' longestWait := by
    rw [wait_now, wait_now, h.now] at hnow
    omega
  by_cases hd : duration = 0
  · have hd' : duration' = 0 := by omega
    rw [hd, hd', wait_zero, wait_zero]
    exact h
  · have hd' : duration' ≠ 0 := by omega
    have hlast : t.lastTickTime duration = t'.lastTickTime duration' := by
      rw [lastTickTime, lastTickTime, h.now, hmin]
    rw [wait_of_ne_zero t hd, wait_of_ne_zero t' hd', hlast]
    have hrun := h.runTo (t'.lastTickTime duration')
    exact ⟨rfl, hrun.cache, hrun.reapers, hrun.notices⟩

lemma wait_same (h : t.Alike t') (duration : Nat) :
    (t.wait duration).Alike (t'.wait duration) := by
  refine h.wait ?_
  rw [wait_now, wait_now, h.now]

end Timeline.Alike

/-! ## Worlds -/

/-- What a call was answered, in one type for all calls. -/
def Call.told : (c : Call) → Except Refusal c.Answer → Except Refusal (Option Report)
  | describe _, outcome => outcome.map some
  | create _, outcome => outcome.map some
  | update _, outcome => outcome.map fun _ => none
  | delete _, outcome => outcome.map fun _ => none
  | addTags _ _, outcome => outcome.map fun _ => none
  | removeTags _ _, outcome => outcome.map fun _ => none

/-- What an exchange was answered, and when. -/
def Exchange.answer (e : Exchange) : Except Refusal (Option Report) × Nat :=
  (e.call.told e.outcome, e.answered)

/-- Exchanges that show the same. -/
structure Exchange.Alike (e e' : Exchange) : Prop where
  call : e.call.redacted = e'.call.redacted
  sent : e.sent = e'.sent
  answer : e.answer = e'.answer

/-- The control plane gave the same answers in the same time, wherever it was sent calls at the same
time that differ in nothing but private parts. -/
def SameAnswers (xs xs' : List Exchange) : Prop :=
  ∀ (k : Nat) (e e' : Exchange), xs[k]? = some e → xs'[k]? = some e' →
    e.call.redacted = e'.call.redacted → e.sent = e'.sent → e.answer = e'.answer

lemma sameAnswers_of_map_eq {xs xs' : List Exchange}
    (h : xs.map Exchange.answer = xs'.map Exchange.answer) : SameAnswers xs xs' := by
  intro k e e' he he' _ _
  have hk := congrArg (·[k]?) h
  simpa [he, he'] using hk

/-- Worlds that show the same. -/
structure World.Alike (w : World σ) (w' : World σ') : Prop where
  timeline : w.timeline.Alike w'.timeline
  exchanges : List.Forall₂ Exchange.Alike w.exchanges w'.exchanges
  drawn : w.drawn = w'.drawn

/-- Providers with the same environment, tuning and tokens, whose control planes write the same
notices about calls that differ in nothing but private parts. -/
structure Provider.Alike (p : Provider σ) (p' : Provider σ') : Prop where
  environment : p.environment = p'.environment
  tuning : p.tuning = p'.tuning
  tokens : p.tokens = p'.tokens
  notices : ∀ c c', c.redacted = c'.redacted → ∀ state state',
    (p.plane.answer c state).1.notices.Perm (p'.plane.answer c' state').1.notices

namespace World.Alike

variable {w : World σ} {w' : World σ'}

lemma start {p : Provider σ} {p' : Provider σ'} (hp : p.Alike p') (state : σ) (state' : σ') :
    (p.start state).Alike (p'.start state') where
  timeline := by
    rw [Provider.start, Provider.start, hp.tuning]
    exact ⟨rfl, rfl, rfl, .refl _⟩
  exchanges := .nil
  drawn := rfl

lemma noteAll (h : w.Alike w') {ns ns' : List Notice} (hns : ns.Perm ns') :
    (w.noteAll ns).Alike (w'.noteAll ns') :=
  ⟨h.timeline.noteAll hns, h.exchanges, h.drawn⟩

lemma drawOne (h : w.Alike w') : w.drawOne.Alike w'.drawOne :=
  ⟨h.timeline, h.exchanges, congrArg (· + 1) h.drawn⟩

lemma store (h : w.Alike w') {i i' : Instance} (hi : i.redacted = i'.redacted) :
    (w.store i).Alike (w'.store i') :=
  ⟨h.timeline.put hi, h.exchanges, h.drawn⟩

lemma wait (h : w.Alike w') (duration : Nat) : (w.wait duration).Alike (w'.wait duration) :=
  ⟨h.timeline.wait_same duration, h.exchanges, h.drawn⟩

lemma settle (h : w.Alike w') : w.settle.Alike w'.settle :=
  ⟨h.timeline.settle, h.exchanges, h.drawn⟩

lemma shutdown (h : w.Alike w') : w.shutdown.Alike w'.shutdown where
  timeline :=
    have hreapers := congrArg (·.modify Provider.reaperName fun _ => none) h.timeline.reapers
    ⟨h.timeline.now, h.timeline.cache, hreapers, h.timeline.notices⟩
  exchanges := h.exchanges
  drawn := h.drawn

/-- The next exchanges of worlds that show the same are in the same place of what is to come. -/
lemma answered (p : Provider σ) (p' : Provider σ') {c c' : Call} (h : w.Alike w')
    (hc : c.redacted = c'.redacted) {xs xs' : List Exchange} (hxs : SameAnswers xs xs')
    (hx : (p.afterCall c w).exchanges <+: xs) (hx' : (p'.afterCall c' w').exchanges <+: xs') :
    (p.exchange c w).answer = (p'.exchange c' w').answer := by
  have hlen : w.exchanges.length = w'.exchanges.length := h.exchanges.length_eq
  have hat {τ : Type} (q : Provider τ) (d : Call) (v : World τ) {ys : List Exchange}
      (hy : (q.afterCall d v).exchanges <+: ys) :
      ys[v.exchanges.length]? = some (q.exchange d v) := by
    obtain ⟨rest, rfl⟩ := hy
    simp [Provider.afterCall]
  exact hxs _ _ _ (hat p c w hx) (hlen ▸ hat p' c' w' hx') hc h.timeline.now

/-- **Calls that differ in nothing but private parts keep worlds alike**, if they are answered
alike. -/
lemma afterCall {p : Provider σ} {p' : Provider σ'} (hp : p.Alike p') {c c' : Call}
    (h : w.Alike w') (hc : c.redacted = c'.redacted)
    (hans : (p.exchange c w).answer = (p'.exchange c' w').answer) :
    (p.afterCall c w).Alike (p'.afterCall c' w') where
  timeline := (h.timeline.noteAll (hp.notices c c' hc w.plane w'.plane)).wait (Prod.mk.inj hans).2
  exchanges := List.rel_append h.exchanges (.cons ⟨hc, h.timeline.now, hans⟩ .nil)
  drawn := h.drawn

end World.Alike

/-! ## Scripts -/

/-- Scripts that go on alike as long as they find the same, and end in results that differ in
nothing but private parts. -/
inductive Script.Alike : Script → Script → Prop where
  | finish {r r' : Except Failure Outcome} (h : redactedResult r = redactedResult r') :
    Alike (finish r) (finish r')
  | note {ns ns' : List Notice} {s s' : Script} (h : ns.Perm ns') (hrest : Alike s s') :
    Alike (note ns s) (note ns' s')
  | draw {f f' : Token → Script} (h : ∀ token, Alike (f token) (f' token)) :
    Alike (draw f) (draw f')
  | look (key : CacheKey) {f f' : Option Instance → Script}
    (h : ∀ found found', found.map Instance.redacted = found'.map Instance.redacted →
      Alike (f found) (f' found')) :
    Alike (look key f) (look key f')
  | call {c c' : Call} (hc : c.redacted = c'.redacted)
    {f : Except Refusal c.Answer → Script} {f' : Except Refusal c'.Answer → Script}
    (h : ∀ outcome outcome', c.told outcome = c'.told outcome' →
      Alike (f outcome) (f' outcome')) :
    Alike (call c f) (call c' f')
  | store {i i' : Instance} {s s' : Script} (h : i.redacted = i'.redacted) (hrest : Alike s s') :
    Alike (store i s) (store i' s')
  | wait (duration : Nat) {s s' : Script} (hrest : Alike s s') :
    Alike (wait duration s) (wait duration s')

/-- **Alike scripts show the same**: with the same answers they keep worlds alike, and their results
differ in nothing but private parts.  `xs` and `xs'` are all exchanges of the two runs, of which
these are a part. -/
theorem Script.Alike.run {p : Provider σ} {p' : Provider σ'} (hp : p.Alike p') {s s' : Script}
    (h : s.Alike s') {w : World σ} {w' : World σ'} (hw : w.Alike w') {xs xs' : List Exchange}
    (hxs : SameAnswers xs xs') (hx : (s.run p w).2.exchanges <+: xs)
    (hx' : (s'.run p' w').2.exchanges <+: xs') :
    redactedResult (s.run p w).1 = redactedResult (s'.run p' w').1 ∧
      (s.run p w).2.Alike (s'.run p' w').2 := by
  induction h generalizing w w' with
  | finish h => exact ⟨h, hw⟩
  | note h _ ih => exact ih (hw.noteAll h) hx hx'
  | draw h ih =>
      have htoken : p.tokens w.drawn = p'.tokens w'.drawn := by rw [hp.tokens, hw.drawn]
      simp only [Script.run, htoken] at hx ⊢
      exact ih _ hw.drawOne hx hx'
  | look key h ih => exact ih _ _ (hw.timeline.get? key) hw hx hx'
  | call hc h ih =>
      rename_i c c' f f'
      have hnext := ((f (p.reply c w).outcome).grows_run p (p.afterCall c w)).exchanges
      have hnext' := ((f' (p'.reply c' w').outcome).grows_run p' (p'.afterCall c' w')).exchanges
      have hans := hw.answered p p' hc hxs (hnext.trans hx) (hnext'.trans hx')
      exact ih _ _ (Prod.mk.inj hans).1 (hw.afterCall hp hc hans) hx hx'
  | store h _ ih => exact ih (hw.store h) hx hx'
  | wait duration _ ih => exact ih (hw.wait duration) hx hx'

/-! ## Operations -/

/-- Operations that differ only in private settings.  Settings that are read can be read both and
leave out the same fields. -/
inductive Operation.Alike : Operation → Operation → Prop where
  | getInstance (name : String) {plan plan' : Plan} (h : plan.redacted = plan'.redacted) :
    Alike (.getInstance name plan) (.getInstance name plan')
  | provision (id : String) {plan plan' : Plan} (owner : String)
    (h : plan.redacted = plan'.redacted) (hread : plan.details.ReadAlike plan'.details) :
    Alike (.provision id plan owner) (.provision id plan' owner)
  | modify {target target' : Instance} {plan plan' : Plan}
    (ht : target.redacted = target'.redacted) (h : plan.redacted = plan'.redacted)
    (hread : plan.details.ReadAlike plan'.details) :
    Alike (.modify target plan) (.modify target' plan')
  | postProvision {target target' : Instance} (ht : target.redacted = target'.redacted) :
    Alike (.postProvision target) (.postProvision target')
  | deprovision {target target' : Instance} (takeSnapshot : Bool)
    (ht : target.redacted = target'.redacted) :
    Alike (.deprovision target takeSnapshot) (.deprovision target' takeSnapshot)
  | tag {target target' : Instance} (key value : String)
    (ht : target.redacted = target'.redacted) :
    Alike (.tag target key value) (.tag target' key value)
  | untag {target target' : Instance} (key : String) (ht : target.redacted = target'.redacted) :
    Alike (.untag target key) (.untag target' key)
  | urls {target target' : Instance} (ht : target.redacted = target'.redacted) :
    Alike (.urls target) (.urls target')
  | serviceName : Alike .serviceName .serviceName

/-- An instance made of a report shows nothing of its plan but what is not private. -/
lemma Provider.redacted_toInstance (id : String) {plan plan' : Plan} (report : Report)
    (h : plan.redacted = plan'.redacted) :
    (toInstance id plan report).redacted = (toInstance id plan' report).redacted := by
  have hmade (q : Plan) : (toInstance id q report).redacted = toInstance id q.redacted report := rfl
  rw [hmade, hmade, h]

lemma Call.told_error (c : Call) (refusal : Refusal) : c.told (.error refusal) = .error refusal := by
  cases c <;> rfl

lemma Call.told_ok (c : Call) (answer : c.Answer) : ∃ report?, c.told (.ok answer) = .ok report? := by
  cases c <;> exact ⟨_, rfl⟩

namespace Script

variable {p : Provider σ} {p' : Provider σ'} {plan plan' : Plan} {target target' : Instance}

lemma alike_failure (failure : Failure) :
    (finish (.error failure)).Alike (finish (.error failure)) :=
  .finish rfl

lemma alike_found {i i' : Instance} (h : i.redacted = i'.redacted) :
    (finish (.ok (.found i))).Alike (finish (.ok (.found i'))) :=
  have hresult : redactedResult (.ok (.found i)) = redactedResult (.ok (.found i')) :=
    congrArg (fun j => Except.ok (Outcome.found j)) h
  .finish hresult

/-- Calls that end in the same failure if they are refused. -/
lemma alike_request {c c' : Call} (hc : c.redacted = c'.redacted) (refused : Refusal → Failure)
    {rest : c.Answer → Script} {rest' : c'.Answer → Script}
    (h : ∀ answer answer', c.told (.ok answer) = c'.told (.ok answer') →
      (rest answer).Alike (rest' answer')) :
    (request c refused rest).Alike (request c' refused rest') := by
  refine .call hc fun outcome outcome' htold => ?_
  rcases outcome with refusal | answer <;> rcases outcome' with refusal' | answer'
  · rw [c.told_error, c'.told_error] at htold
    obtain rfl := Except.error.inj htold
    exact alike_failure _
  · obtain ⟨report?, hok⟩ := c'.told_ok answer'
    rw [c.told_error, hok] at htold
    cases htold
  · obtain ⟨report?, hok⟩ := c.told_ok answer
    rw [c'.told_error, hok] at htold
    cases htold
  · exact h answer answer' htold

/-- Calls that are only waited for. -/
lemma alike_done {c c' : Call} (hc : c.redacted = c'.redacted) (refused : Refusal → Failure) :
    (request c refused fun _ => finish (.ok .done)).Alike
      (request c' refused fun _ => finish (.ok .done)) :=
  alike_request hc refused fun _ _ _ => .finish rfl

lemma alike_describe (id name : String) (h : plan.redacted = plan'.redacted) :
    (describe id name plan).Alike (describe id name plan') := by
  refine alike_request rfl _ fun report report' htold => ?_
  obtain rfl : report = report' := Option.some.inj (Except.ok.inj htold)
  have hmade := Provider.redacted_toInstance id report h
  exact .store hmade (alike_found hmade)

lemma alike_getInstance (name : String) (h : plan.redacted = plan'.redacted) :
    (getInstance name plan).Alike (getInstance name plan') := by
  have hid : plan.id = plan'.id := (congrArg Plan.id h :)
  unfold getInstance
  rw [hid]
  refine .look _ fun found found' hfound => ?_
  cases found <;> cases found' <;>
    simp only [Option.map_some, Option.map_none, Option.some.injEq, reduceCtorEq] at hfound
  · exact alike_describe "" name h
  · exact .note (.refl _) (alike_found hfound)

lemma alike_billing {made made' : Instance} (h : made.redacted = made'.redacted)
    (owner : String) : (billing made owner).Alike (billing made' owner) := by
  have hname : made.name = made'.name := (congrArg Instance.name h :)
  have harn : made.serviceId = made'.serviceId := (congrArg Instance.serviceId h :)
  unfold billing
  rw [harn, hname]
  refine .call rfl fun outcome outcome' htold => ?_
  rcases outcome with refusal | answer <;> rcases outcome' with refusal' | answer' <;>
    simp only [Call.told, Except.map, Except.error.injEq, reduceCtorEq] at htold
  · subst htold
    have hresult (reason : String) : redactedResult (.error (.untagged made reason))
        = redactedResult (.error (.untagged made' reason)) :=
      congrArg (fun j => Except.error (Failure.untagged j reason)) h
    exact .note (.refl _) (.finish (hresult _))
  · exact alike_found h

lemma alike_provision (hp : p.Alike p') (id owner : String) (h : plan.redacted = plan'.redacted)
    (hread : plan.details.ReadAlike plan'.details) :
    (provision p id plan owner).Alike (provision p' id plan' owner) := by
  obtain ⟨settings, settings', notices, notices', hparse, hparse', hnotices⟩ := hread.ofDetails
  have hid : plan.id = plan'.id := (congrArg Plan.id h :)
  simp only [provision, hparse, hparse']
  refine .note hnotices (.draw fun token => ?_)
  have hmade : (Request.make p.environment settings (.generated p.tuning.namePrefix token)).redacted
      = (Request.make p'.environment settings' (.generated p'.tuning.namePrefix token)).redacted := by
    rw [hp.environment, hp.tuning]
    exact Request.redacted_make _ settings settings' _
  have hname := congrArg Request.name hmade
  refine .note (.of_eq ?_) (alike_request ?_ _ fun report report' htold => ?_)
  · exact congrArg₂ (fun name planId => [Notice.creating name id planId]) hname hid
  · exact (congrArg Call.create hmade :)
  · obtain rfl : report = report' := Option.some.inj (Except.ok.inj htold)
    have hreported := Provider.redacted_toInstance id report h
    rw [hp.tuning]
    exact .store hreported (.wait _ (alike_billing hreported owner))

lemma alike_modify (hp : p.Alike p') (ht : target.redacted = target'.redacted)
    (h : plan.redacted = plan'.redacted) (hread : plan.details.ReadAlike plan'.details) :
    (modify p target plan).Alike (modify p' target' plan') := by
  obtain ⟨settings, settings', notices, notices', hparse, hparse', hnotices⟩ := hread.ofDetails
  have hid : target.id = target'.id := (congrArg Instance.id ht :)
  have hname : target.name = target'.name := (congrArg Instance.name ht :)
  have hplan : plan.id = plan'.id := (congrArg Plan.id h :)
  simp only [modify, hparse, hparse', hid, hname, hplan]
  have hmade : (Request.make p.environment settings (.given target.name)).redacted
      = (Request.make p'.environment settings' (.given target'.name)).redacted := by
    rw [hp.environment, hname]
    exact Request.redacted_make _ settings settings' _
  refine .note hnotices (.note (.refl _) (alike_request ?_ _ fun _ _ _ => ?_))
  · exact (congrArg Call.update hmade :)
  · exact alike_describe _ _ h

lemma alike_delete (ht : target.redacted = target'.redacted) :
    (delete target).Alike (delete target') := by
  have hname : target.name = target'.name := (congrArg Instance.name ht :)
  unfold delete
  rw [hname]
  exact .note (.refl _) (alike_done rfl _)

end Script

/-- **Operations that differ only in private settings go on alike.** -/
theorem Operation.Alike.script {p : Provider σ} {p' : Provider σ'} (hp : p.Alike p')
    {o o' : Operation} (h : o.Alike o') : (o.script p).Alike (o'.script p') := by
  cases h with
  | getInstance name h => exact Script.alike_getInstance name h
  | provision id owner h hread => exact Script.alike_provision hp id owner h hread
  | modify ht h hread => exact Script.alike_modify hp ht h hread
  | postProvision ht => exact Script.alike_found ht
  | @deprovision target target' takeSnapshot ht =>
      have hname : target.name = target'.name := (congrArg Instance.name ht :)
      cases takeSnapshot with
      | false => exact Script.alike_delete ht
      | true =>
          simp only [Operation.script, if_true, hname]
          exact .note (.refl _) (Script.alike_delete ht)
  | @tag target target' key value ht =>
      have harn : target.serviceId = target'.serviceId := (congrArg Instance.serviceId ht :)
      have hcall := congrArg (fun arn => (Call.addTags arn [⟨key, value⟩]).redacted) harn
      exact Script.alike_done hcall _
  | @untag target target' key ht =>
      have harn : target.serviceId = target'.serviceId := (congrArg Instance.serviceId ht :)
      have hcall := congrArg (fun arn => (Call.removeTags arn [key]).redacted) harn
      exact Script.alike_done hcall _
  | @urls target target' ht =>
      have hurls : Provider.urls target = Provider.urls target' := (congrArg Provider.urls ht :)
      simp only [Operation.script, hurls]
      exact .finish rfl
  | serviceName => exact .finish rfl

/-- An operation shows nothing of private settings. -/
lemma Operation.Alike.run {p : Provider σ} {p' : Provider σ'} (hp : p.Alike p')
    {o o' : Operation} (h : o.Alike o') {w : World σ} {w' : World σ'} (hw : w.Alike w')
    {xs xs' : List Exchange} (hxs : SameAnswers xs xs') (hx : (o.run p w).2.exchanges <+: xs)
    (hx' : (o'.run p' w').2.exchanges <+: xs') :
    redactedResult (o.run p w).1 = redactedResult (o'.run p' w').1 ∧
      (o.run p w).2.Alike (o'.run p' w').2 := by
  rw [o.run_eq_script] at hx ⊢
  rw [o'.run_eq_script] at hx' ⊢
  obtain ⟨hresult, hafter⟩ := (h.script hp).run hp hw hxs hx hx'
  exact ⟨hresult, hafter.settle⟩

/-! ## Runs -/

/-- Errands that differ only in private settings. -/
inductive Errand.Alike : Errand → Errand → Prop where
  | operation (vars vars' : Variables) {plan plan' : Plan} {o o' : Operation}
    (hplan : plan.redacted = plan'.redacted) (h : o.Alike o') :
    Alike (.operation vars plan o) (.operation vars' plan' o')
  | sleep (duration : Nat) : Alike (.sleep duration) (.sleep duration)
  | shutdown : Alike .shutdown .shutdown

/-- Whether a gate is no registry. -/
def Gate.isDirect : Gate σ → Bool
  | direct _ => true
  | registry _ _ => false

lemma Gate.foreignTag?_eq {g : Gate σ} {g' : Gate σ'} (hway : g.isDirect = g'.isDirect)
    {plan plan' : Plan} (h : plan.redacted = plan'.redacted) :
    g.foreignTag? plan = g'.foreignTag? plan' := by
  have hkind : plan.kind = plan'.kind := (congrArg Plan.kind h :)
  cases g <;> cases g' <;> simp_all [isDirect, foreignTag?]

/-- Sightings that do not differ in what they show, up to the order of notices and to the options
and subnets in requests. -/
structure Sighting.Alike (s s' : Sighting) : Prop where
  result : s.result.map resultTexts = s'.result.map resultTexts
  notices : s.notices.Perm s'.notices
  calls : s.calls.map Call.redacted = s'.calls.map Call.redacted
  now : s.now = s'.now
  size : s.size = s'.size

/-- What is added between worlds that show the same does not differ either. -/
lemma Sighting.alike_between {result result' : Option (Except Failure Outcome)}
    (hresult : result.map redactedResult = result'.map redactedResult) {w after : World σ}
    {w' after' : World σ'} (hw : w.Alike w') (hafter : after.Alike after') (hg : w.Grows after)
    (hg' : w'.Grows after') :
    (Sighting.between result w after).Alike (.between result' w' after') where
  result := by
    have htexts : resultTexts ∘ redactedResult = resultTexts := funext resultTexts_redacted
    have h := congrArg (Option.map resultTexts) hresult
    rw [Option.map_map, Option.map_map, htexts] at h
    exact h
  notices := by
    obtain ⟨added, hadded⟩ := hg.notices
    obtain ⟨added', hadded'⟩ := hg'.notices
    have h := hafter.timeline.notices
    rw [← hadded, ← hadded'] at h
    simp only [between, ← hadded, ← hadded', List.drop_left]
    exact (List.perm_append_left_iff _).1 (h.trans (hw.timeline.notices.symm.append_right _))
  calls := by
    have hlen : w.exchanges.length = w'.exchanges.length := hw.exchanges.length_eq
    have hcalls : after.exchanges.map (·.call.redacted)
        = after'.exchanges.map (·.call.redacted) := by
      rw [← List.forall₂_eq_eq_eq, List.forall₂_map_left_iff, List.forall₂_map_right_iff]
      exact hafter.exchanges.imp fun _ _ h => h.call
    have hdrop := congrArg (List.drop w.exchanges.length) hcalls
    rw [← List.map_drop, ← List.map_drop] at hdrop
    rw [between, between, List.map_map, List.map_map, ← hlen]
    exact hdrop
  now := hafter.timeline.now
  size := hafter.timeline.size

/-- An errand shows nothing of private settings. -/
lemma Errand.Alike.run {p : Provider σ} {p' : Provider σ'} (hp : p.Alike p') {g : Gate σ}
    {g' : Gate σ'} (hg : g.Leads p) (hg' : g'.Leads p') (hway : g.isDirect = g'.isDirect)
    {e e' : Errand} (h : e.Alike e') {w : World σ} {w' : World σ'} (hw : w.Alike w')
    {xs xs' : List Exchange} (hxs : SameAnswers xs xs') (hx : (e.run g w).2.2.exchanges <+: xs)
    (hx' : (e'.run g' w').2.2.exchanges <+: xs') :
    (e.run g w).1.map redactedResult = (e'.run g' w').1.map redactedResult ∧
      (e.run g w).2.2.Alike (e'.run g' w').2.2 := by
  cases h with
  | sleep duration => exact ⟨rfl, (hw.wait duration).settle⟩
  | shutdown =>
      simp only [Errand.run, g.shutdown_eq hg, g'.shutdown_eq hg']
      exact ⟨trivial, hw.shutdown⟩
  | @operation vars vars' plan plan' o o' hplan ho =>
      have hid : plan.id = plan'.id := (congrArg Plan.id hplan :)
      simp only [Errand.run, g.ask_eq hg, g'.ask_eq hg', Gate.foreignTag?_eq hway hplan, hid]
        at hx hx' ⊢
      cases hforeign : g'.foreignTag? plan' with
      | some tag => exact ⟨rfl, hw.noteAll (.refl _)⟩
      | none =>
          simp only [hforeign] at hx hx'
          obtain ⟨hresult, hafter⟩ := ho.run hp hw hxs hx hx'
          exact ⟨congrArg some hresult, hafter⟩

/-- **A run shows nothing of private settings.**  Two runs do the same errands, straight or through
registries, with plans that differ only in private settings; settings that are read can be read both
and leave out the same fields.  The control planes give the same answers in the same time.  Then
every errand has the same result in the two runs, as far as it can be written down, and the same
notices up to their order; cache and clock go on alike; and the calls differ in nothing but the
options and the subnets of requests. -/
theorem Gate.sightings_alike {p : Provider σ} {p' : Provider σ'} (hp : p.Alike p') {g : Gate σ}
    {g' : Gate σ'} (hg : g.Leads p) (hg' : g'.Leads p') (hway : g.isDirect = g'.isDirect)
    {errands errands' : List Errand} (h : List.Forall₂ Errand.Alike errands errands') {w : World σ}
    {w' : World σ'} (hw : w.Alike w')
    (hanswers : SameAnswers (g.play errands w).exchanges (g'.play errands' w').exchanges) :
    List.Forall₂ Sighting.Alike (g.sightings errands w) (g'.sightings errands' w') := by
  induction h generalizing w w' with
  | nil => exact .nil
  | @cons e e' rest rest' he _ ih =>
      simp only [Gate.play, e.run_gate hg, e'.run_gate hg'] at hanswers
      simp only [Gate.sightings, e.run_gate hg, e'.run_gate hg']
      obtain ⟨hresult, hafter⟩ := he.run hp hg hg' hway hw hanswers
        (g.grows_play hg rest _).exchanges (g'.grows_play hg' rest' _).exchanges
      exact .cons (Sighting.alike_between hresult hw hafter (e.grows_run hg w) (e'.grows_run hg' w'))
        (ih hafter hanswers)

/-- The notices about a call on the wire show nothing of private settings. -/
lemma Wire.notices_redacted (region : String) {c c' : Call} (h : c.redacted = c'.redacted)
    (line line' : Wire.Line) :
    ((Wire.plane region).answer c line).1.notices
      = ((Wire.plane region).answer c' line').1.notices := by
  have hnotices (d : Call) (l : Wire.Line) :
      ((Wire.plane region).answer d l).1.notices = Wire.noticeOf d.redacted := by
    have hsame : Wire.noticeOf d.redacted = Wire.noticeOf d := by cases d <;> rfl
    simp only [hsame, Wire.plane, Wire.answer]
    split <;> rfl
  rw [hnotices, hnotices, h]

/-- So for a provider behind the wire nothing has to be known about its control plane. -/
lemma Wire.alike_provider (e : Environment) (tuning : Tuning) (tokens : Nat → Domain.Token) :
    Provider.Alike ⟨e, tuning, Wire.plane e.region, tokens⟩
      ⟨e, tuning, Wire.plane e.region, tokens⟩ where
  environment := rfl
  tuning := rfl
  tokens := rfl
  notices _ _ h line line' := .of_eq (Wire.notices_redacted e.region h line line')

namespace Rehearsal

/-- The plan of rehearsals with a password in its settings. -/
def guardedPlan : Plan :=
  { plan with
    details := ⟨"\x7b\"AdvancedSecurityOptions\":\x7b\"MasterUserOptions\":\x7b" ++
      "\"MasterUserPassword\":\"hunter2\"\x7d\x7d\x7d"⟩ }

/-- A cluster is made for a plan and read twice, before and after the cache is cleared. -/
def errands (q : Plan) : List Errand :=
  [.operation .unset q (.provision "i-1" q "team"), .operation .unset q (.getInstance made.name q),
    .sleep 5000, .operation .unset q (.getInstance made.name q), .shutdown]

lemma alike_provider : provider.Alike provider where
  environment := rfl
  tuning := rfl
  tokens := rfl
  notices c c' _ state state' := by
    have hnone (d : Call) (r : Rehearsal) : (provider.plane.answer d r).1.notices = [] := by
      show (answer d r).1.notices = []
      unfold answer
      rcases r.takeRefusal d.method with ⟨_ | refusal, rest⟩ <;> rfl
    rw [hnone, hnone]

lemma readAlike_guardedPlan : plan.details.ReadAlike guardedPlan.details :=
  ⟨(.empty, []), _, rfl, rfl, fun _ => Iff.rfl⟩

lemma alike_errands : List.Forall₂ Errand.Alike (errands plan) (errands guardedPlan) :=
  .cons (.operation _ _ rfl (.provision _ _ rfl readAlike_guardedPlan))
    (.cons (.operation _ _ rfl (.getInstance _ rfl))
      (.cons (.sleep _) (.cons (.operation _ _ rfl (.getInstance _ rfl)) (.cons .shutdown .nil))))

/-- A password in the settings of a plan is not seen in a run through a registry. -/
theorem password_not_seen :
    let gate : Gate Rehearsal := .registry (fun _ _ => provider) (.withProvider provider)
    List.Forall₂ Sighting.Alike (gate.sightings (errands plan) (provider.start start))
      (gate.sightings (errands guardedPlan) (provider.start start)) := by
  intro gate
  have hgate : gate.Leads provider := Gate.leads_withProvider _ provider
  have hanswers : SameAnswers (gate.play (errands plan) (provider.start start)).exchanges
      (gate.play (errands guardedPlan) (provider.start start)).exchanges :=
    sameAnswers_of_map_eq (by decide +kernel)
  exact gate.sightings_alike alike_provider hgate hgate rfl alike_errands
    (.start alike_provider start start) hanswers

end Rehearsal

end ClusterBroker
