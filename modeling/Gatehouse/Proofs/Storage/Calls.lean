import Gatehouse.Proofs.Storage.Store

/-! # Calls on a store

Any sequence of calls may be made on a store. What a call does to what the store shows under a name
depends on the name alone: the calls that concern another name, and the sweeps, are not seen.
-/

namespace Gatehouse

namespace RecordName

/-- Whether context and key have the lengths that are allowed. -/
def Fits (n : RecordName) : Prop :=
  (1 ≤ n.context.utf8ByteSize ∧ n.context.utf8ByteSize ≤ 255) ∧
    1 ≤ n.key.utf8ByteSize ∧ n.key.utf8ByteSize ≤ 255

variable {context key : String} {name : RecordName}

theorem isLegal_iff {s : String} : isLegal s = true ↔ 1 ≤ s.utf8ByteSize ∧ s.utf8ByteSize ≤ 255 := by
  simp only [isLegal, Bool.and_eq_true, decide_eq_true_eq]
  rfl

theorem of_fitting (fits : Fits ⟨context, key⟩) : RecordName.of context key = .ok ⟨context, key⟩ :=
  of_eq_ok (isLegal_iff.2 fits.1) (isLegal_iff.2 fits.2)

theorem of_misfit (misfit : ¬ Fits ⟨context, key⟩) :
    ∃ reason, RecordName.of context key = .error (.invalidKey reason) := by
  unfold RecordName.of
  by_cases context_legal : isLegal context = true
  · have key_illegal : isLegal key = false := by
      rw [← Bool.not_eq_true]
      exact fun key_legal => misfit ⟨isLegal_iff.1 context_legal, isLegal_iff.1 key_legal⟩
    simp [context_legal, key_illegal]
  · simp [context_legal]

end RecordName

namespace Store

inductive Action where
  | create (context key : String) (record : Record)
  | read (context key : String)
  | take (context key : String)
  | delete (context key : String)
  | purge (context : String)

/-- What an action is about, unless it is about a whole context. -/
def Action.name? : Action → Option RecordName
  | create context key _ => some ⟨context, key⟩
  | read context key => some ⟨context, key⟩
  | take context key => some ⟨context, key⟩
  | delete context key => some ⟨context, key⟩
  | purge _ => none

/-- An action, with what the clock reads then. -/
structure Call where
  now : Instant
  action : Action

inductive Answer where
  | created (result : Except StorageError Unit)
  | shown (result : Except StorageError (Option Record))
  | deleted (result : Except StorageError Bool)
  | purged (count : Nat)

def perform (s : Store) (c : Call) : Answer × Store :=
  match c.action with
  | .create context key record => (s.create c.now context key record).map .created id
  | .read context key => (.shown (s.read c.now context key), s)
  | .take context key => (s.take c.now context key).map .shown id
  | .delete context key => (s.delete context key).map .deleted id
  | .purge context => (s.purge c.now context).map .purged id

def after (s : Store) (calls : List Call) : Store :=
  calls.foldl (fun s c => (s.perform c).2) s

/-- The calls that have been made and what each was answered. -/
def history (s : Store) : List Call → List (Call × Answer)
  | [] => []
  | c :: calls => (c, (s.perform c).1) :: history (s.perform c).2 calls

variable {s : Store} {now t : Instant} {name other : RecordName} {context key : String} {c : Call}
  {record : Record} {calls : List Call}

theorem after_append (s : Store) (calls : List Call) (c : Call) :
    s.after (calls ++ [c]) = ((s.after calls).perform c).2 := by
  simp [after]

theorem history_append (s : Store) (calls : List Call) (c : Call) :
    s.history (calls ++ [c]) = s.history calls ++ [(c, ((s.after calls).perform c).1)] := by
  induction calls generalizing s with
  | nil => rfl
  | cons first calls ih => exact congrArg _ (ih _)

/-! ## What a call does to what is shown -/

theorem live?_create (fits : RecordName.Fits ⟨context, key⟩) (le : now ≤ t) :
    (s.create now context key record).2.live? t name =
      if name = ⟨context, key⟩ ∧ s.live? now name = none then
        (some record).filter fun r => !r.isExpired t
      else s.live? t name := by
  have named := RecordName.of_fitting fits
  cases held : s.live? now ⟨context, key⟩ with
  | none =>
      rw [create_of_free record named held, live?_insert]
      by_cases same : name = ⟨context, key⟩
      · rw [if_pos same, if_pos ⟨same, same ▸ held⟩]
      · rw [if_neg same, if_neg fun both => same both.1]
        exact live?_swept le
  | some shown =>
      rw [create_of_shown record named held, live?_swept le, if_neg]
      rintro ⟨rfl, free⟩
      cases held.symm.trans free

theorem live?_take (fits : RecordName.Fits ⟨context, key⟩) :
    (s.take now context key).2.live? t name =
      if name = ⟨context, key⟩ then none else s.live? t name := by
  rw [take_of_named (RecordName.of_fitting fits), live?_erase]

theorem live?_delete (fits : RecordName.Fits ⟨context, key⟩) :
    (s.delete context key).2.live? t name =
      if name = ⟨context, key⟩ then none else s.live? t name := by
  simp only [delete, RecordName.of_fitting fits]
  exact live?_erase _

/-- A purge takes away only what has expired by then. -/
theorem live?_purge (le : now ≤ t) : (s.purge now context).2.live? t name = s.live? t name := by
  apply Option.ext
  intro r
  rw [live?_eq_some, live?_eq_some]
  simp only [purge, Table.get?_filter, Option.filter_eq_some_iff]
  constructor
  · intro shown
    exact ⟨shown.1.1, shown.2⟩
  · intro shown
    have unexpired : r.isExpired now = false := by
      simpa [Record.isExpired, Instant.not_le] using Instant.lt_of_le_of_lt le shown.2
    exact ⟨⟨shown.1, by simp [unexpired]⟩, shown.2⟩

/-- A call under a name that does not fit does nothing. -/
theorem perform_misfit (own : c.action.name? = some name) (misfit : ¬ name.Fits) :
    (s.perform c).2 = s := by
  obtain ⟨reason, unnamed⟩ := RecordName.of_misfit misfit
  obtain ⟨now, action⟩ := c
  cases action with
  | create context key record =>
      obtain rfl := Option.some.inj own
      simp [perform, create_of_unnamed record unnamed]
  | read context key => rfl
  | take context key =>
      obtain rfl := Option.some.inj own
      simp [perform, take_of_unnamed unnamed]
  | delete context key =>
      obtain rfl := Option.some.inj own
      simp [perform, delete, unnamed]
  | purge context => cases own

/-- A call that is not about a name does nothing to what is shown under it. -/
theorem live?_perform_other (other : c.action.name? ≠ some name) (le : c.now ≤ t) :
    (s.perform c).2.live? t name = s.live? t name := by
  obtain ⟨now, action⟩ := c
  cases own : action.name? with
  | none =>
      cases action with
      | purge context => exact live?_purge le
      | create | read | take | delete => cases own
  | some called =>
      by_cases fits : called.Fits
      · have apart : ¬ name = called := fun same => other (own.trans (congrArg some same.symm))
        cases action with
        | create context key record =>
            obtain rfl := Option.some.inj own
            exact (live?_create fits le).trans (if_neg fun both => apart both.1)
        | read context key => rfl
        | take context key =>
            obtain rfl := Option.some.inj own
            exact (live?_take fits).trans (if_neg apart)
        | delete context key =>
            obtain rfl := Option.some.inj own
            exact (live?_delete fits).trans (if_neg apart)
        | purge context => cases own
      · rw [perform_misfit own fits]

end Store

end Gatehouse
