import Gatehouse.Proofs.Policy.Freshness
import Gatehouse.Proofs.Replay.History
import Gatehouse.Proofs.Replay.Retention
import Gatehouse.Proofs.Time.Clock

/-! # Messages that visit a shared replay cache

Any number of policies that agree on skew, window and context run the flow rule over one cache. A
message that one of them has accepted is refused from then on as long as its identifier is kept. It
is accepted again in the gap in which it still counts as fresh and its identifier has lapsed, and
only there. Freshness goes by what the policy's clock reads, lapsing by what the cache's reads.
-/

namespace Gatehouse

open ReplayRegister

/-- Over a register in memory the record of an identifier is a check of the register. -/
theorem Evaluation.recordId_memory {e : Evaluation} {r : ReplayRegister} (s : MessageFlowSettings)
    (around : Surroundings) (id : String) (expires : Instant)
    (found : e.replays = some (.memory r)) :
    e.recordId s around id expires =
      let checked := r.check around.cacheNow ⟨s.replayContext, id⟩ expires
      (if checked.1 then .ok true else .error (.replayDetected id),
        { e with replays := some (.memory checked.2) }) := by
  rcases checked : r.check around.cacheNow ⟨s.replayContext, id⟩ expires with ⟨answer, after⟩
  simp only [recordId, found, ReplayCache.check, checked, Prod.map]
  cases answer <;> rfl

/-- One evaluation of the flow rule by a policy that knows the message's identifier and issue. -/
structure Visit where
  policy : Policy
  settings : MessageFlowSettings
  around : Surroundings

namespace Visit

def now (v : Visit) : Instant :=
  v.around.now

def cacheNow (v : Visit) : Instant :=
  v.around.cacheNow

def issued (v : Visit) : Option Instant :=
  v.policy.findings.issued

/-- The identifier that is checked for replay: an empty one is none. -/
def id? (v : Visit) : Option String :=
  v.policy.findings.messageId.filter (!·.isEmpty)

/-- The rule's answer, and the cache as the visit leaves it. -/
def meet (v : Visit) (cache : Option ReplayCache) : Except Error Bool × Option ReplayCache :=
  let (answer, e) := Evaluation.checkFlow v.settings v.around ⟨v.policy, cache, []⟩
  (answer, e.replays)

/-- Whether a visit is made on given terms, by a policy that has not fixed another time before. -/
structure Observes (v : Visit) (t : FlowTerms) : Prop where
  checked : v.settings.checkReplay = true
  skew : v.policy.security.clockSkewSecs = t.skewSecs
  window : v.settings.expiresSecs.getD v.policy.security.clockSkewSecs = t.windowSecs
  context : v.settings.replayContext = t.context
  current : v.policy.time v.now = v.now

/-- Whether a visit is about the message with an identifier and an issue instant. -/
structure Carries (v : Visit) (id : String) (issued : Option Instant) : Prop where
  id : v.policy.findings.messageId = some id
  issued : v.issued = issued

/-- What an answer adds to the history of the cache. -/
def taken (v : Visit) (t : FlowTerms) : Except Error Bool → History
  | .ok true => v.id?.toList.map fun id => (⟨t.context, id⟩, t.keptUntil v.issued v.now)
  | _ => []

variable {t : FlowTerms} {v : Visit} {cache : Option ReplayCache} {r : ReplayRegister}
  {history : History} {id : String} {issued : Option Instant}

theorem Carries.id? (c : v.Carries id issued) (named : id ≠ "") : v.id? = some id := by
  simp [Visit.id?, c.id, named]

theorem Observes.policySkew (o : v.Observes t) : v.policy.clockSkew = t.skew := by
  simp only [Policy.clockSkew, SecuritySettings.clockSkew, FlowTerms.skew, o.skew]

theorem Observes.policyWindow (o : v.Observes t) :
    Evaluation.window v.settings v.policy = t.window := by
  rw [Evaluation.window_eq, o.window]
  rfl

theorem checkFresh_cases (o : v.Observes t) :
    Evaluation.checkFresh v.settings (v.policy.withTime v.now) v.now = .ok () ∧
        t.Fresh v.issued v.now ∨
      (Evaluation.checkFresh v.settings (v.policy.withTime v.now) v.now = .error .issuedInFuture ∨
        Evaluation.checkFresh v.settings (v.policy.withTime v.now) v.now = .error .messageExpired) ∧
        ¬ t.Fresh v.issued v.now := by
  have skew : (v.policy.withTime v.now).clockSkew = t.skew := o.policySkew
  have window : Evaluation.window v.settings (v.policy.withTime v.now) = t.window := o.policyWindow
  have known : (v.policy.withTime v.now).findings.issued = v.issued := rfl
  have fresh : t.Fresh v.issued v.now ↔ ¬ Evaluation.FromFuture (v.policy.withTime v.now) v.now ∧
      ¬ Evaluation.Outdated v.settings (v.policy.withTime v.now) v.now := by
    simp only [FlowTerms.Fresh, Evaluation.FromFuture, Evaluation.Outdated, skew, window, known,
      Option.mem_def]
    grind
  rw [fresh]
  rcases Evaluation.checkFresh_cases v.settings (v.policy.withTime v.now) v.now with
    ⟨early, -, fault⟩ | ⟨-, late, fault⟩ | ⟨past, recent, passes⟩
  · exact .inr ⟨.inl fault, fun fresh => fresh.1 early⟩
  · exact .inr ⟨.inr fault, fun fresh => fresh.2 late⟩
  · exact .inl ⟨passes, past, recent⟩

/-- A visit by a message that is not fresh leaves no trace. -/
theorem meet_stale (cache : Option ReplayCache) (o : v.Observes t)
    (stale : ¬ t.Fresh v.issued v.now) :
    v.meet cache = (.error .issuedInFuture, cache) ∨
      v.meet cache = (.error .messageExpired, cache) := by
  have current : v.policy.time v.around.now = v.now := o.current
  rcases checkFresh_cases o with ⟨-, fresh⟩ | ⟨fault, -⟩
  · exact absurd fresh stale
  · refine fault.imp ?_ ?_ <;>
      intro h <;> simp only [meet, Evaluation.checkFlow, Evaluation.withPolicy, current, h]

/-- A fresh message is checked for replay if it has an identifier. -/
theorem meet_fresh (o : v.Observes t) (fresh : t.Fresh v.issued v.now) (known : v.id? = some id) :
    v.meet (some (.memory r)) =
      let checked := r.check v.cacheNow ⟨t.context, id⟩ (t.keptUntil v.issued v.now)
      (if checked.1 then .ok true else .error (.replayDetected id), some (.memory checked.2)) := by
  have current : v.policy.time v.around.now = v.now := o.current
  have skew : (v.policy.withTime v.now).clockSkew = t.skew := o.policySkew
  have window : Evaluation.window v.settings (v.policy.withTime v.now) = t.window := o.policyWindow
  have issue : (v.policy.withTime v.now).findings.issued = v.issued := rfl
  have name : (v.policy.withTime v.now).findings.messageId.filter (!·.isEmpty) = some id := known
  rcases checkFresh_cases o with ⟨passes, -⟩ | ⟨-, stale⟩
  · simp only [meet, Evaluation.checkFlow, Evaluation.withPolicy, current, passes, name, o.checked,
      if_true, skew, window, issue]
    rw [Evaluation.recordId_memory v.settings v.around id _ rfl, o.context]
    rfl
  · exact absurd fresh stale

theorem meet_nameless (o : v.Observes t) (fresh : t.Fresh v.issued v.now) (unknown : v.id? = none) :
    v.meet cache = (.ok false, cache) := by
  have current : v.policy.time v.around.now = v.now := o.current
  have name : (v.policy.withTime v.now).findings.messageId.filter (!·.isEmpty) = none := unknown
  rcases checkFresh_cases o with ⟨passes, -⟩ | ⟨-, stale⟩
  · simp only [meet, Evaluation.checkFlow, Evaluation.withPolicy, current, passes, name]
  · exact absurd fresh stale

/-- A visit leaves a register in memory that follows the history with what the answer adds. -/
theorem meet_follows (o : v.Observes t) (f : r.Follows history v.cacheNow) :
    ∃ after, (v.meet (some (.memory r))).2 = some (.memory after) ∧
      after.Follows (v.taken t (v.meet (some (.memory r))).1 ++ history) v.cacheNow := by
  by_cases fresh : t.Fresh v.issued v.now
  · cases known : v.id? with
    | none =>
        rw [meet_nameless o fresh known]
        exact ⟨r, rfl, f⟩
    | some id =>
        rw [meet_fresh o fresh known]
        refine ⟨_, rfl, ?_⟩
        cases answer : (r.check v.cacheNow ⟨t.context, id⟩ (t.keptUntil v.issued v.now)).1 with
        | true => simpa [taken, known, answer] using check_taken f answer
        | false => simpa [taken, answer] using check_refused f answer
  · rcases meet_stale (some (.memory r)) o fresh with refused | refused <;>
      · rw [refused]
        exact ⟨r, rfl, f⟩

/-- A fresh message is accepted if the history has no unexpired sighting of its identifier. -/
theorem meet_accepts_iff (o : v.Observes t) (f : r.Follows history v.cacheNow)
    (fresh : t.Fresh v.issued v.now) (known : v.id? = some id) :
    (v.meet (some (.memory r))).1 = .ok true ↔
      ¬ Unexpired history v.cacheNow ⟨t.context, id⟩ := by
  rw [meet_fresh o fresh known, ← check_eq_true_iff (t.keptUntil v.issued v.now) f]
  cases answer : (r.check v.cacheNow ⟨t.context, id⟩ (t.keptUntil v.issued v.now)).1 <;>
    simp [answer]

theorem meet_verdict (o : v.Observes t) (known : v.id? = some id) :
    (v.meet (some (.memory r))).1 = .ok true ∨
      (v.meet (some (.memory r))).1 = .error (.replayDetected id) ∨
      (v.meet (some (.memory r))).1 = .error .messageExpired ∨
      (v.meet (some (.memory r))).1 = .error .issuedInFuture := by
  by_cases fresh : t.Fresh v.issued v.now
  · rw [meet_fresh o fresh known]
    cases answer : (r.check v.cacheNow ⟨t.context, id⟩ (t.keptUntil v.issued v.now)).1 <;>
      simp [answer]
  · rcases meet_stale (some (.memory r)) o fresh with refused | refused <;> simp [refused]

theorem fresh_of_accepted (o : v.Observes t) (accepted : (v.meet cache).1 = .ok true) :
    t.Fresh v.issued v.now := by
  refine Classical.byContradiction fun stale => ?_
  rcases meet_stale cache o stale with refused | refused <;> simp [refused] at accepted

theorem unexpired_taken {answer : Except Error Bool} {now : Instant} :
    Unexpired (v.taken t answer ++ history) now ⟨t.context, id⟩ ↔
      (answer = .ok true ∧ v.id? = some id ∧ now < t.keptUntil v.issued v.now) ∨
        Unexpired history now ⟨t.context, id⟩ := by
  have split : Unexpired (v.taken t answer ++ history) now ⟨t.context, id⟩ ↔
      Unexpired (v.taken t answer) now ⟨t.context, id⟩ ∨ Unexpired history now ⟨t.context, id⟩ := by
    simp only [Unexpired, List.mem_append, or_and_right, exists_or]
  rw [split]
  refine or_congr_left ?_
  cases answer with
  | error fault => simp [Unexpired, taken]
  | ok accepted =>
      cases accepted with
      | false => simp [Unexpired, taken]
      | true =>
          simp only [Unexpired, taken, List.mem_map, Option.mem_toList, Prod.mk.injEq,
            ReplayKey.mk.injEq, true_and]
          constructor
          · rintro ⟨_, ⟨_, named, rfl, rfl⟩, later⟩
            exact ⟨named, later⟩
          · rintro ⟨named, later⟩
            exact ⟨_, ⟨id, named, rfl, rfl⟩, later⟩

/-- The answers to visits in their order, each on the cache that the one before has left. -/
def answers : Option ReplayCache → List Visit → List (Except Error Bool)
  | _, [] => []
  | cache, v :: visits => (v.meet cache).1 :: answers (v.meet cache).2 visits

variable {visits : List Visit} {start : Instant} {j : Nat} {w : Visit}

theorem answer_from_register (shared : ∀ v ∈ visits, v.Observes t) (place : visits[j]? = some w) :
    ∃ r', (answers (some (.memory r)) visits)[j]? = some (w.meet (some (.memory r'))).1 := by
  induction visits generalizing r j with
  | nil => simp at place
  | cons v rest ih =>
      cases j with
      | zero =>
          obtain rfl : v = w := by simpa using place
          exact ⟨r, rfl⟩
      | succ j =>
          obtain ⟨after, left, -⟩ :=
            meet_follows (shared v (by simp)) (follows_entries r v.cacheNow)
          simp only [answers, left, List.getElem?_cons_succ]
          exact ih (fun u hu => shared u (by simp [hu])) (by simpa using place)

/-- A fresh message is accepted in a run if neither what the register knew before nor what it has
accepted since contains an unexpired sighting of its identifier. -/
theorem accepted_iff (f : r.Follows history start) (onward : ∀ v ∈ visits, start ≤ v.cacheNow)
    (clock : visits.Pairwise fun v w => v.cacheNow ≤ w.cacheNow)
    (shared : ∀ v ∈ visits, v.Observes t) (place : visits[j]? = some w) (known : w.id? = some id)
    (fresh : t.Fresh w.issued w.now) :
    (answers (some (.memory r)) visits)[j]? = some (.ok true) ↔
      ¬ Unexpired history w.cacheNow ⟨t.context, id⟩ ∧
        ∀ k < j, ∀ u, visits[k]? = some u → u.id? = some id →
          (answers (some (.memory r)) visits)[k]? = some (.ok true) →
            t.keptUntil u.issued u.now ≤ w.cacheNow := by
  -- What the first visit adds to the history is what the condition says about position zero.
  induction visits generalizing r history start j with
  | nil => simp at place
  | cons v rest ih =>
      have here : r.Follows history v.cacheNow := f.later (onward v (by simp))
      have observes : v.Observes t := shared v (by simp)
      cases j with
      | zero =>
          obtain rfl : v = w := by simpa using place
          simp [answers, meet_accepts_iff observes here fresh known]
      | succ j =>
          obtain ⟨after, left, follows⟩ := meet_follows observes here
          have later := ih follows (List.pairwise_cons.1 clock).1 (List.pairwise_cons.1 clock).2
            (fun u hu => shared u (by simp [hu])) (by simpa using place)
          simp only [answers, left, List.getElem?_cons_succ]
          rw [later, unexpired_taken, not_or]
          constructor
          · rintro ⟨⟨first, old⟩, since⟩
            refine ⟨old, fun k hk u hu named accepted => ?_⟩
            cases k with
            | zero =>
                obtain rfl : v = u := by simpa using hu
                exact Instant.not_lt.1 fun kept => first ⟨by simpa using accepted, named, kept⟩
            | succ k =>
                exact since k (by omega) u (by simpa using hu) named (by simpa using accepted)
          · rintro ⟨old, since⟩
            refine ⟨⟨?_, old⟩, fun k hk u hu named accepted => ?_⟩
            · rintro ⟨accepted, named, kept⟩
              exact Instant.not_lt.2 (since 0 (by omega) v rfl named (by simp [accepted])) kept
            · exact since (k + 1) (by omega) u (by simpa using hu) named (by simpa using accepted)

theorem accepted_iff_entries (clock : visits.Pairwise fun v w => v.cacheNow ≤ w.cacheNow)
    (shared : ∀ v ∈ visits, v.Observes t) (place : visits[j]? = some w) (known : w.id? = some id)
    (fresh : t.Fresh w.issued w.now) :
    (answers (some (.memory r)) visits)[j]? = some (.ok true) ↔
      ¬ Unexpired r.seen.entries w.cacheNow ⟨t.context, id⟩ ∧
        ∀ k < j, ∀ u, visits[k]? = some u → u.id? = some id →
          (answers (some (.memory r)) visits)[k]? = some (.ok true) →
            t.keptUntil u.issued u.now ≤ w.cacheNow := by
  cases visits with
  | nil => simp at place
  | cons v rest =>
      have onward : ∀ u ∈ v :: rest, v.cacheNow ≤ u.cacheNow := by
        intro u hu
        rcases List.mem_cons.1 hu with rfl | hu
        · exact Instant.le_refl u.cacheNow
        · exact (List.pairwise_cons.1 clock).1 u hu
      exact accepted_iff (follows_entries r v.cacheNow) onward clock shared place known fresh

theorem fresh_of_answer (shared : ∀ v ∈ visits, v.Observes t) (place : visits[j]? = some w)
    (accepted : (answers (some (.memory r)) visits)[j]? = some (.ok true)) :
    t.Fresh w.issued w.now := by
  obtain ⟨r', met⟩ := answer_from_register (r := r) shared place
  have here : (w.meet (some (.memory r'))).1 = .ok true := Option.some.inj (met.symm.trans accepted)
  exact fresh_of_accepted (shared w (List.mem_of_getElem? place)) here

/-- What becomes of a message with an identifier, whenever it is presented: it is accepted or
refused as a replay, as too old or as too new. Once accepted it is accepted again only while it is
unguarded. Where policy and cache read one clock, that is when it reads exactly the message's issue
plus skew and window, or, for an issue within a leap second, in the rest of an ordinary second from
there on. Then it is accepted again, unless another message with its identifier was accepted in
between and is still kept. -/
theorem accepted_again_only_unguarded (r : ReplayRegister)
    (clock : visits.Pairwise fun v w => v.cacheNow ≤ w.cacheNow)
    (shared : ∀ v ∈ visits, v.Observes t) (named : id ≠ "") (again : visits[j]? = some w)
    (same : w.Carries id issued) :
    let answer := fun k => (answers (some (.memory r)) visits)[k]?
    (answer j = some (.ok true) ∨ answer j = some (.error (.replayDetected id)) ∨
      answer j = some (.error .messageExpired) ∨ answer j = some (.error .issuedInFuture)) ∧
    ∀ {i : Nat} {v : Visit}, i < j → visits[i]? = some v → v.Carries id issued →
      answer i = some (.ok true) →
        (answer j = some (.ok true) ↔
          t.Unguarded issued v.now w.now w.cacheNow ∧
            ∀ k u, i < k → k < j → visits[k]? = some u → u.id? = some id →
              answer k = some (.ok true) → t.keptUntil u.issued u.now ≤ w.cacheNow) ∧
        ∀ issue, issued = some issue → w.cacheNow = w.now →
          (t.Unguarded issued v.now w.now w.cacheNow ↔
            w.now = issue + t.skew + t.window ∨
              (issue.isLeap ∧ 0 < t.skewSecs + t.windowSecs ∧ ¬ w.now.isLeap ∧
                issue + t.skew + t.window ≤ w.now ∧
                w.now.second = (issue + t.skew + t.window).second)) := by
  intro answer
  have known : w.id? = some id := same.id? named
  refine ⟨?_, fun {i v} order first before accepted => ⟨⟨fun twice => ?_, ?_⟩, ?_⟩⟩
  · obtain ⟨r', met⟩ := answer_from_register (r := r) shared again
    simpa only [answer, met, Option.some.injEq] using
      meet_verdict (shared w (List.mem_of_getElem? again)) known
  · have fresh : t.Fresh w.issued w.now := fresh_of_answer shared again twice
    have since := ((accepted_iff_entries clock shared again known fresh).1 twice).2
    have kept := since i order v first (before.id? named) accepted
    rw [before.issued] at kept
    exact ⟨⟨kept, same.issued ▸ fresh⟩, fun k u _ hk => since k hk u⟩
  · rintro ⟨⟨kept, fresh⟩, between⟩
    have fresh_v : t.Fresh v.issued v.now := fresh_of_answer shared first accepted
    have le : v.cacheNow ≤ w.cacheNow := Instant.reading_le Visit.cacheNow clock order first again
    obtain ⟨old, since⟩ :=
      (accepted_iff_entries clock shared first (before.id? named) fresh_v).1 accepted
    refine (accepted_iff_entries clock shared again known (same.issued ▸ fresh)).2 ⟨?_, ?_⟩
    · -- The first acceptance leaves nothing unexpired from before the run.
      rintro ⟨x, seen, later⟩
      exact old ⟨x, seen, Instant.lt_of_le_of_lt le later⟩
    · intro k hk u hu hid accepted_u
      rcases Nat.lt_trichotomy k i with earlier | rfl | later
      · exact Instant.le_trans (since k earlier u hu hid accepted_u) le
      · obtain rfl : v = u := Option.some.inj (first.symm.trans hu)
        exact before.issued ▸ kept
      · exact between k u later hk hu hid accepted_u
  · rintro issue rfl together
    rw [together]
    exact t.unguarded_iff

/-- A visit so many seconds after the issue of a message, with five seconds of skew and a window of
a minute. -/
def sample (seconds : Int) : Visit where
  policy :=
    { security := ⟨5⟩
      findings := { messageId := some "_m1", issued := some (.ofSecond 0) } }
  settings := { expiresSecs := some 60 }
  around := { now := .ofSecond seconds }

theorem sample_observes (seconds : Int) : (sample seconds).Observes ⟨5, 60, "SAML"⟩ :=
  ⟨rfl, rfl, rfl, rfl, rfl⟩

theorem sample_together (seconds : Int) : (sample seconds).cacheNow = (sample seconds).now :=
  rfl

theorem sample_carries (seconds : Int) : (sample seconds).Carries "_m1" (some (.ofSecond 0)) :=
  ⟨rfl, rfl⟩

/-- One second before the end of its time the message is refused, in the last instant it is accepted
again. -/
theorem accepted_again_at_the_end :
    [sample 0, sample 64, sample 65].Pairwise (fun v w => v.cacheNow ≤ w.cacheNow) ∧
      (∀ v ∈ [sample 0, sample 64, sample 65], v.Observes ⟨5, 60, "SAML"⟩) ∧
      (answers (some (.memory (.empty {}))) [sample 0, sample 64, sample 65])[2]? =
        some (.ok true) := by
  have clock : [sample 0, sample 64, sample 65].Pairwise (fun v w => v.cacheNow ≤ w.cacheNow) := by
    decide
  have shared : ∀ v ∈ [sample 0, sample 64, sample 65], v.Observes ⟨5, 60, "SAML"⟩ := by
    simp [sample_observes]
  refine ⟨clock, shared, ?_⟩
  have verdict := (accepted_again_only_unguarded (.empty {}) clock shared (j := 2) (by decide) rfl
    (sample_carries 65)).2 (i := 0) (by decide) rfl (sample_carries 0) (by rfl)
  refine verdict.1.2 ⟨(verdict.2 _ rfl rfl).2 (.inl rfl), ?_⟩
  intro k u after before found _ accepted
  obtain rfl : k = 1 := by omega
  have refused : (answers (some (.memory (.empty {}))) [sample 0, sample 64, sample 65])[1]? =
      some (.error (.replayDetected "_m1")) := by rfl
  cases refused.symm.trans accepted

/-- Two visits by one message on one clock, the second in the last instant in which it is fresh, are
both accepted. -/
theorem accepted_twice :
    [sample 0, sample 65].Pairwise (fun v w => v.now ≤ w.now) ∧
      (∀ v ∈ [sample 0, sample 65], v.cacheNow = v.now ∧ v.Observes ⟨5, 60, "SAML"⟩ ∧
        v.Carries "_m1" (some (.ofSecond 0))) ∧
      answers (some (.memory (.empty {}))) [sample 0, sample 65] = [.ok true, .ok true] := by
  refine ⟨by decide, ?_, by rfl⟩
  simp [sample_observes, sample_carries, sample_together]

end Visit

end Gatehouse
