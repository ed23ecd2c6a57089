import Gatehouse.Proofs.Replay.History

/-! # Calls on a register

A register is known by what it holds from now on. Two registers that hold the same identifiers then
answer every later call alike, however often either of them has been swept.
-/

namespace Gatehouse.ReplayRegister

inductive Call where
  | check (now : Instant) (key : ReplayKey) (expires : Instant)
  | purge (now : Instant)
  deriving DecidableEq

def Call.now : Call → Instant
  | check now _ _ => now
  | purge now => now

/-- The answer to a check, and the register after the call. A purge has no answer here. -/
def perform (r : ReplayRegister) : Call → Option Bool × ReplayRegister
  | .check now key expires => (r.check now key expires).map some id
  | .purge now => (none, (r.purge now).2)

def after (r : ReplayRegister) (calls : List Call) : ReplayRegister :=
  calls.foldl (fun r c => (r.perform c).2) r

def answers : ReplayRegister → List Call → List (Option Bool)
  | _, [] => []
  | r, c :: calls => (r.perform c).1 :: answers (r.perform c).2 calls

/-- Whether two registers hold the same identifiers from an instant on. -/
def Agrees (now : Instant) (r r' : ReplayRegister) : Prop :=
  ∀ t key, now ≤ t → r.holds t key = r'.holds t key

variable {r r' : ReplayRegister} {now t expires : Instant} {key key' : ReplayKey} {c : Call}
  {calls : List Call}

theorem holds_eq_false_iff : r.holds t key = false ↔
    ∀ expires, r.seen.get? key = some expires → expires ≤ t := by
  rw [← Bool.not_eq_true, holds_iff]
  simp only [not_exists, not_and, Instant.not_lt]

theorem check_eq (r : ReplayRegister) (now : Instant) (key : ReplayKey) (expires : Instant) :
    (r.check now key expires).1 = !r.holds now key := by
  rw [← holds_swept (Instant.le_refl now), check]
  cases (r.swept now).holds now key <;> rfl

/-- A check that finds the identifier held changes nothing that is seen from then on; any other puts
the identifier down until it expires. -/
theorem holds_check (le : now ≤ t) :
    (r.check now key expires).2.holds t key' =
      if r.holds now key = false ∧ key' = key then decide (t < expires) else r.holds t key' := by
  have same : (r.swept now).holds now key = r.holds now key := holds_swept (Instant.le_refl now)
  rw [check, same]
  cases held : r.holds now key with
  | true => simp [holds_swept le]
  | false =>
      by_cases this : key' = key
      · simp [holds, Table.get?_insert, this]
      · have other : (r.swept now).holds t key' = r.holds t key' := holds_swept le
        simpa [holds, Table.get?_insert, this] using other

theorem holds_purge (le : now ≤ t) : (r.purge now).2.holds t key = r.holds t key :=
  holds_unexpired le

theorem Agrees.later (h : Agrees now r r') (le : now ≤ t) : Agrees t r r' :=
  fun u key hu => h u key (Instant.le_trans le hu)

theorem Agrees.perform (h : Agrees now r r') (le : now ≤ c.now) :
    (r.perform c).1 = (r'.perform c).1 ∧ Agrees c.now (r.perform c).2 (r'.perform c).2 := by
  have onward : Agrees c.now r r' := h.later le
  cases c with
  | check t key expires =>
      have here : r.holds t key = r'.holds t key := h t key le
      constructor
      · simp only [ReplayRegister.perform, Prod.map, check_eq, here]
      · intro u key' (hu : t ≤ u)
        simp only [ReplayRegister.perform, Prod.map, id, holds_check hu, here, onward u key' hu]
  | purge t =>
      refine ⟨rfl, ?_⟩
      intro u key (hu : t ≤ u)
      simp only [ReplayRegister.perform, holds_purge hu, onward u key hu]

/-- Registers that agree give the same answers to every run of later calls. -/
theorem Agrees.answers (h : Agrees now r r') (onward : ∀ c ∈ calls, now ≤ c.now)
    (clock : calls.Pairwise fun a b => a.now ≤ b.now) : r.answers calls = r'.answers calls := by
  induction calls generalizing r r' now with
  | nil => rfl
  | cons c calls ih =>
      obtain ⟨same, next⟩ := h.perform (onward c (by simp))
      obtain ⟨later, clock⟩ := List.pairwise_cons.1 clock
      simp only [ReplayRegister.answers, same, ih next later clock]

end Gatehouse.ReplayRegister
