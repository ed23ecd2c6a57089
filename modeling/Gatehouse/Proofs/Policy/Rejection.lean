import Gatehouse.Proofs.Policy.Authentication
import Gatehouse.Proofs.Policy.Chains
import Gatehouse.Proofs.Policy.Flow

/-! # What a rejection leaves behind

A message is rejected by one rule of a chain. That rule leaves no trace, but nothing takes back what
the rules before it have done: a certificate rule may have authenticated the issuer, and a flow rule
may have put the message's identifier down.
-/

namespace Gatehouse.Evaluation

open ReplayRegister (Agrees)

/-- The check by which a step has put an identifier down. -/
def Step.recorded? (around : Surroundings) (step : Step) : Option ReplayRegister.Call :=
  match step.rule with
  | .messageFlow s =>
    if step.applied then
      step.found.policy.findings.messageId.map fun id =>
        ReplayRegister.Call.check around.cacheNow ⟨s.replayContext, id⟩
          (keptUntil s around step.found.policy)
    else none
  | _ => none

def recorded (around : Surroundings) (ran : List Step) : List ReplayRegister.Call :=
  ran.filterMap (Step.recorded? around)

variable {around : Surroundings} {message : Message} {request : Option Request}
  {e next after : Evaluation} {r r' : ReplayRegister} {rule : Rule} {rules : List Rule}
  {applied : Bool} {fault : Error} {ran : List Step}

theorem apply_replays (around : Surroundings) (message : Message) (request : Option Request)
    (e : Evaluation) (other : ∀ s, rule ≠ .messageFlow s) :
    (e.apply around message request rule).2.replays = e.replays := by
  cases rule with
  | messageFlow s => exact absurd rfl (other s)
  | messageExtraction =>
      obtain ⟨issuer, role, same⟩ := extract_frame around message e
      rw [apply, same]
      rfl
  | clientCertificate s =>
      obtain ⟨authenticated, asked, same⟩ := checkCertificate_frame s around request e
      rw [apply, same]
  | ignore name => rfl
  | nullSecurity => rfl

/-- A rule that answers leaves the register as its check does, if it has made one. -/
theorem register_of_answer (memory : e.replays = some (.memory r))
    (answer : e.apply around message request rule = (.ok applied, next)) :
    next.replays =
      some (.memory (r.after (Step.recorded? around ⟨rule, e, applied⟩).toList)) := by
  by_cases flow : ∃ s, rule = .messageFlow s
  · obtain ⟨s, rfl⟩ := flow
    have outcome := checkFlow_outcome s around memory
    rw [show e.checkFlow s around = (.ok applied, next) from answer] at outcome
    generalize left : next.replays = replays at outcome
    cases outcome with
    | unchecked => rfl
    | recorded id _ _ named _ =>
        simp only [Step.recorded?, if_true, (checkedId?_eq_some.1 named).1]
        rfl
  · simp only [not_exists] at flow
    have same := apply_replays around message request e flow
    have nothing : Step.recorded? around ⟨rule, e, applied⟩ = none := by
      unfold Step.recorded?
      split
      · next s here => exact absurd here (flow s)
      · rfl
    rw [answer] at same
    rw [same, memory, nothing]
    rfl

/-- A rule that rejects the message leaves a register that holds what it held. -/
theorem register_of_rejection (memory : e.replays = some (.memory r))
    (reject : e.apply around message request rule = (.error fault, next)) :
    ∃ r', next.replays = some (.memory r') ∧ Agrees around.cacheNow r' r := by
  by_cases flow : ∃ s, rule = .messageFlow s
  · obtain ⟨s, rfl⟩ := flow
    have outcome := checkFlow_outcome s around memory
    rw [show e.checkFlow s around = (.error fault, next) from reject] at outcome
    generalize left : next.replays = replays at outcome
    cases outcome with
    | stale => exact ⟨r, rfl, fun _ _ _ => rfl⟩
    | replayed id _ _ _ held =>
        -- The identifier is held already, so the check has swept the register at most.
        refine ⟨_, rfl, ?_⟩
        intro t key le
        simp [ReplayRegister.holds_check le, held]
  · simp only [not_exists] at flow
    have same := apply_replays around message request e flow
    rw [reject] at same
    exact ⟨r, same.trans memory, fun _ _ _ => rfl⟩

/-- However a chain ends, the register holds what the checks of its steps have left. -/
theorem register_of_applyAll (around : Surroundings) (message : Message)
    (request : Option Request) (rules : List Rule) (memory : e.replays = some (.memory r)) :
    ∃ r', (applyAll around message request rules e).2.replays = some (.memory r') ∧
      Agrees around.cacheNow r'
        (r.after (recorded around (steps around message request rules e))) := by
  induction rules generalizing e r with
  | nil => exact ⟨r, memory, fun _ _ _ => rfl⟩
  | cons rule rules ih =>
      rcases answer : e.apply around message request rule with ⟨fault | applied, next⟩
      · rw [applyAll_of_rejection answer, steps_of_rejection answer]
        exact register_of_rejection memory answer
      · rw [applyAll_of_answer answer, steps_of_answer answer]
        obtain ⟨r', left, agrees⟩ := ih (register_of_answer memory answer)
        refine ⟨r', left, ?_⟩
        cases made : Step.recorded? around ⟨rule, e, applied⟩ with
        | none => simpa [recorded, made, ReplayRegister.after] using agrees
        | some c => simpa [recorded, made, ReplayRegister.after] using agrees

theorem recorded_eq_nil (unrecorded : ∀ step ∈ ran, ∀ s, step.rule = .messageFlow s →
      step.applied = false) : recorded around ran = [] := by
  rw [recorded, List.filterMap_eq_nil_iff]
  intro step mem
  unfold Step.recorded?
  split
  · next s flow => simp [unrecorded step mem s flow]
  · rfl

/-- A rejection undoes nothing that the rules before the rejecting one have done, and adds nothing
to it. The issuer counts as authenticated if it did before or a certificate rule among them has
succeeded. The register answers every later call as if, in place of the evaluation, only the checks
of the flow rules among them that succeeded had been made; if there are none, as if there had been no
evaluation. -/
theorem rejection_leaves_answers (checks : .nullSecurity ∉ e.policy.rules)
    (memory : e.replays = some (.memory r))
    (rejected : e.run around message request = (.error fault, after)) :
    let ran := steps around message request e.policy.rules e
    (∃ rule rest, e.policy.rules = ran.map Step.rule ++ rule :: rest) ∧
    (after.policy.findings.authenticated = true ↔
      e.policy.findings.authenticated = true ∨ ∃ step ∈ ran, step.Authenticates) ∧
    ∃ r', after.replays = some (.memory r') ∧ ∀ calls : List ReplayRegister.Call,
      (∀ c ∈ calls, around.cacheNow ≤ c.now) → calls.Pairwise (fun a b => a.now ≤ b.now) →
        r'.answers calls = (r.after (recorded around ran)).answers calls ∧
        ((∀ step ∈ ran, ∀ s, step.rule = .messageFlow s → step.applied = false) →
          r'.answers calls = r.answers calls) := by
  intro ran
  have flag := applyAll_authenticated around message request e checks
  obtain ⟨r', left, agrees⟩ :=
    register_of_applyAll around message request e.policy.rules memory
  have whole : applyAll around message request e.policy.rules e = (.error fault, after) := rejected
  rw [whole] at flag left
  refine ⟨steps_of_rejected rejected, flag, r', left, fun calls onward clock => ?_⟩
  have same := agrees.answers onward clock
  refine ⟨same, fun unrecorded => ?_⟩
  rw [same, recorded_eq_nil unrecorded]
  rfl

open Policy (sampleCall sampleRole)

/-- A message whose identifier is put down before the client's certificate is looked at, which the
issuer has not published. -/
def forgedCall : Call :=
  { sampleCall with
    message := { sampleCall.message with id := some "_m1" }
    rules := [.messageExtraction, .messageFlow {}, .clientCertificate {}]
    directory := some (Directory.ofList [{ sampleRole with keys := [] }]).provider }

/-- A message that is too old, which shows only after its issuer is authenticated. -/
def staleCall : Call :=
  { sampleCall with
    message := { sampleCall.message with issued := some (.ofSecond (-1000)) }
    rules := [.messageExtraction, .clientCertificate {}, .messageFlow {}] }

/-- A policy with an empty register, before a call. -/
def started (c : Call) : Evaluation where
  policy := { role := some sampleRole.name, rules := c.rules }
  replays := some (.memory (.empty {}))

def ended (c : Call) : Except Error Unit × Evaluation :=
  (started c).run (Policy.surroundings c) c.message c.request

/-- The forged message's identifier, checked again a second later. -/
def resend : ReplayRegister.Call :=
  .check (.ofSecond 1) ⟨"SAML", "_m1"⟩ (.ofSecond 400)

/-- What the register in memory of an evaluation answers to later calls. -/
def laterAnswers (e : Evaluation) (calls : List ReplayRegister.Call) : Option (List (Option Bool)) :=
  match e.replays with
  | some (.memory r) => some (r.answers calls)
  | _ => none

theorem forged_rejected : (ended forgedCall).1 =
    .error (.transportCredentialRejected
      "client certificate not trusted for https://idp.example") := by
  rfl

theorem stale_rejected : (ended staleCall).1 = .error .messageExpired := by
  rfl

theorem forged_leaves_id :
    .nullSecurity ∉ (started forgedCall).policy.rules ∧
      (started forgedCall).replays = some (.memory (.empty {})) ∧
      (∃ fault, (ended forgedCall).1 = .error fault) ∧
      (ended forgedCall).2.policy.findings.authenticated = false ∧
      laterAnswers (ended forgedCall).2 [resend] =
        some (((ReplayRegister.empty {}).after
          [.check (.ofSecond 0) ⟨"SAML", "_m1"⟩ (.ofSecond 360)]).answers [resend]) := by
  have checks : .nullSecurity ∉ (started forgedCall).policy.rules := by decide
  have run : ended forgedCall = (.error _, (ended forgedCall).2) :=
    Prod.ext forged_rejected rfl
  obtain ⟨-, -, r', left, answers⟩ := rejection_leaves_answers checks rfl run
  have made : recorded (Policy.surroundings forgedCall)
      (steps (Policy.surroundings forgedCall) forgedCall.message forgedCall.request
        (started forgedCall).policy.rules (started forgedCall)) =
      [.check (.ofSecond 0) ⟨"SAML", "_m1"⟩ (.ofSecond 360)] := by
    decide +kernel
  have same := (answers [resend] (by decide +kernel) (List.pairwise_singleton _ _)).1
  refine ⟨checks, rfl, ⟨_, forged_rejected⟩, by decide +kernel, ?_⟩
  rw [laterAnswers, left, ← made]
  exact congrArg some same

/-- A rejected message may leave its issuer authenticated, and it may be taken for a replay when it
is sent again. -/
theorem rejections_leave_traces :
    (.nullSecurity ∉ (started staleCall).policy.rules ∧
      (ended staleCall).1 = .error .messageExpired ∧
      (started staleCall).policy.findings.authenticated = false ∧
      (ended staleCall).2.policy.findings.authenticated = true) ∧
    (.nullSecurity ∉ (started forgedCall).policy.rules ∧
      (ended forgedCall).1 =
        .error (.transportCredentialRejected
          "client certificate not trusted for https://idp.example") ∧
      laterAnswers (started forgedCall) [resend] = some [some true] ∧
      laterAnswers (ended forgedCall).2 [resend] = some [some false]) :=
  ⟨⟨by decide, stale_rejected, rfl, by decide +kernel⟩,
    by decide, forged_rejected, by decide +kernel, by decide +kernel⟩

end Gatehouse.Evaluation
