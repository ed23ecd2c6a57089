import Gatehouse.Proofs.Storage.Calls
import Mathlib.Data.List.Induction

/-! # What a store answers

A store in memory answers as if it were a plain map that forgets a record only when it is taken,
deleted or replaced after its expiry. When the store is swept or purged, and what else it holds, is
not seen in the answers.
-/

namespace Gatehouse.Store

/-- What a map that is never swept holds under a name after a call, given what it held before. -/
def kept (name : RecordName) (last : Option Record) (c : Call) : Option Record :=
  match c.action with
  | .create context key record =>
      if name = ⟨context, key⟩ ∧ last.filter (fun r => !r.isExpired c.now) = none then some record
      else last
  | .take context key => if name = ⟨context, key⟩ then none else last
  | .delete context key => if name = ⟨context, key⟩ then none else last
  | _ => last

/-- What a call and its answer tell about the record that was last created under a name. -/
def told (name : RecordName) (last : Option Record) : Call × Answer → Option Record
  | (⟨_, .create context key record⟩, .created (.ok ())) =>
      if name = ⟨context, key⟩ then some record else last
  | (⟨_, .take context key⟩, _) => if name = ⟨context, key⟩ then none else last
  | (⟨_, .delete context key⟩, _) => if name = ⟨context, key⟩ then none else last
  | _ => last

/-- The record that was last created under a name, unless it has been taken or deleted since. -/
def latest (name : RecordName) (events : List (Call × Answer)) : Option Record :=
  events.foldl (told name) none

/-- The record that was last created under a name and is still there, if it has not expired. -/
def standing (now : Instant) (name : RecordName) (events : List (Call × Answer)) : Option Record :=
  (latest name events).filter fun r => !r.isExpired now

/-- Whether a store shows a record under a name, from an instant on, until the record expires. -/
def Shows (s : Store) (now : Instant) (name : RecordName) (last : Option Record) : Prop :=
  ∀ t, now ≤ t → s.live? t name = last.filter fun r => !r.isExpired t

variable {s s' : Store} {now t : Instant} {name : RecordName} {context key : String} {c : Call}
  {last live : Option Record} {calls past : List Call}

theorem Shows.here (h : Shows s now name last) :
    s.live? now name = last.filter fun r => !r.isExpired now :=
  h now (Instant.le_refl now)

theorem Shows.later (h : Shows s now name last) (le : now ≤ t) : Shows s t name last :=
  fun u hu => h u (Instant.le_trans le hu)

theorem shows_empty (sweep : Sweep) : Shows (empty sweep) now name none := by
  intro t _
  rfl

theorem kept_other (other : c.action.name? ≠ some name) : kept name last c = last := by
  obtain ⟨now, action⟩ := c
  cases action with
  | create context key record => exact if_neg fun both => other (congrArg some both.1.symm)
  | read context key => rfl
  | take context key => exact if_neg fun same => other (congrArg some same.symm)
  | delete context key => exact if_neg fun same => other (congrArg some same.symm)
  | purge context => rfl

/-- A store follows the plain map through every call. -/
theorem Shows.perform (h : Shows s c.now name last) (fits : name.Fits) :
    Shows (s.perform c).2 c.now name (kept name last c) := by
  intro t le
  by_cases own : c.action.name? = some name
  · obtain ⟨now, action⟩ := c
    have le : now ≤ t := le
    cases action with
    | create context key record =>
        obtain rfl := Option.some.inj own
        refine (live?_create fits le).trans ?_
        rw [h.here, h t le]
        simp only [kept]
        split <;> rfl
    | read context key => exact h t le
    | take context key =>
        obtain rfl := Option.some.inj own
        refine (live?_take fits).trans ?_
        simp [kept]
    | delete context key =>
        obtain rfl := Option.some.inj own
        refine (live?_delete fits).trans ?_
        simp [kept]
    | purge context => cases own
  · rw [live?_perform_other own le, kept_other own]
    exact h t le

/-- The answers tell what the plain map holds. -/
theorem Shows.told (h : Shows s c.now name last) (fits : name.Fits) :
    told name last (c, (s.perform c).1) = kept name last c := by
  obtain ⟨now, action⟩ := c
  cases action with
  | create context key record =>
      by_cases same : name = ⟨context, key⟩
      · subst same
        have named := RecordName.of_fitting fits
        have here := h.here
        simp only at here
        cases held : last.filter fun r => !r.isExpired now with
        | none =>
            rw [held] at here
            simp [Store.perform, create_of_free record named here, Store.told, kept, held]
        | some shown =>
            rw [held] at here
            simp [Store.perform, create_of_shown record named here, Store.told, kept, held]
      · cases answer : (s.create now context key record).1 <;>
          simp [Store.perform, answer, Store.told, kept, same]
  | read context key => rfl
  | take context key => rfl
  | delete context key => rfl
  | purge context => rfl

/-- However often it is swept, a store that starts empty follows the plain map. -/
theorem shows_after (sweep : Sweep) (fits : name.Fits)
    (clock : calls.Pairwise fun a b => a.now ≤ b.now) (onward : ∀ c ∈ calls, c.now ≤ now) :
    Shows ((empty sweep).after calls) now name (calls.foldl (kept name) none) := by
  -- From the end, so that what is known before a call is known at the instant of the call.
  induction calls using List.reverseRecOn generalizing now with
  | nil => exact shows_empty sweep
  | append_singleton calls c ih =>
      obtain ⟨clock, -, last⟩ := List.pairwise_append.1 clock
      have shows := ih clock fun a mem => last a mem c (List.mem_singleton_self c)
      rw [after_append, List.foldl_append]
      exact (shows.perform fits).later (onward c (by simp))

theorem latest_history (sweep : Sweep) (fits : name.Fits)
    (clock : calls.Pairwise fun a b => a.now ≤ b.now) :
    latest name ((empty sweep).history calls) = calls.foldl (kept name) none := by
  induction calls using List.reverseRecOn with
  | nil => rfl
  | append_singleton calls c ih =>
      obtain ⟨clock, -, last⟩ := List.pairwise_append.1 clock
      have shows : Shows ((empty sweep).after calls) c.now name (calls.foldl (kept name) none) :=
        shows_after sweep fits clock fun a mem => last a mem c (List.mem_singleton_self c)
      have told := shows.told fits
      rw [latest] at ih ⊢
      rw [history_append, List.foldl_append, List.foldl_append, ih clock]
      exact told

/-- The plain map needs to be told only of the calls that are about the name. -/
theorem foldl_kept_filter : (calls.filter fun c => c.action.name? = some name).foldl (kept name) last =
    calls.foldl (kept name) last := by
  induction calls generalizing last with
  | nil => rfl
  | cons c calls ih =>
      by_cases own : c.action.name? = some name
      · simp [own, ih]
      · simp [own, ih, kept_other own]

/-! ## The answers -/

/-- How a store answers what is asked of it under a name, given what is to be shown there. -/
structure AnswersAs (s : Store) (now : Instant) (context key : String) (live : Option Record) :
    Prop where
  created : ∀ record, (s.create now context key record).1 = .ok () ↔
    RecordName.Fits ⟨context, key⟩ ∧ live = none
  duplicate : ∀ record, (s.create now context key record).1 = .error (.duplicate context key) ↔
    RecordName.Fits ⟨context, key⟩ ∧ live ≠ none
  invalid : ∀ record, (∃ reason, (s.create now context key record).1 =
    .error (.invalidKey reason)) ↔ ¬ RecordName.Fits ⟨context, key⟩
  read : RecordName.Fits ⟨context, key⟩ → s.read now context key = .ok live
  take : RecordName.Fits ⟨context, key⟩ → (s.take now context key).1 = .ok live
  unread : ¬ RecordName.Fits ⟨context, key⟩ →
    ∃ reason, s.read now context key = .error (.invalidKey reason)
  untaken : ¬ RecordName.Fits ⟨context, key⟩ →
    ∃ reason, (s.take now context key).1 = .error (.invalidKey reason)

theorem answersAs (shown : RecordName.Fits ⟨context, key⟩ → s.live? now ⟨context, key⟩ = live) :
    AnswersAs s now context key live := by
  by_cases fits : RecordName.Fits ⟨context, key⟩
  · have named := RecordName.of_fitting fits
    have reads : s.read now context key = .ok live := by
      simp [read, named, Except.map, shown fits]
    have takes : (s.take now context key).1 = .ok live := by
      rw [take_of_named named, shown fits]
    cases held : live with
    | none =>
        have free := (shown fits).trans held
        have creates : ∀ record, (s.create now context key record).1 = .ok () := by
          intro record
          rw [create_of_free record named free]
        constructor <;> simp_all
    | some r =>
        have taken := (shown fits).trans held
        have refuses : ∀ record, (s.create now context key record).1 =
            .error (.duplicate context key) := by
          intro record
          rw [create_of_shown record named taken]
        constructor <;> simp_all
  · obtain ⟨reason, unnamed⟩ := RecordName.of_misfit fits
    have refuses : ∀ record, (s.create now context key record).1 =
        .error (.invalidKey reason) := by
      intro record
      rw [create_of_unnamed record unnamed]
    have reads : s.read now context key = .error (.invalidKey reason) := by
      simp [read, unnamed, Except.map]
    have takes : (s.take now context key).1 = .error (.invalidKey reason) := by
      rw [take_of_unnamed unnamed]
    constructor <;> simp_all

/-- Stores that show the same under a name give the same answers about it. -/
theorem same_answers (same : RecordName.Fits ⟨context, key⟩ →
      s.live? now ⟨context, key⟩ = s'.live? now ⟨context, key⟩) :
    (∀ record, (s.create now context key record).1 = (s'.create now context key record).1) ∧
      s.read now context key = s'.read now context key ∧
      (s.take now context key).1 = (s'.take now context key).1 := by
  by_cases fits : RecordName.Fits ⟨context, key⟩
  · have named := RecordName.of_fitting fits
    have same := same fits
    refine ⟨fun record => ?_, ?_, ?_⟩
    · cases held : s'.live? now ⟨context, key⟩ with
      | none =>
          rw [create_of_free record named (same.trans held), create_of_free record named held]
      | some shown =>
          rw [create_of_shown record named (same.trans held), create_of_shown record named held]
    · simp only [read, named, Except.map, same]
    · rw [take_of_named named, take_of_named named, same]
  · obtain ⟨reason, unnamed⟩ := RecordName.of_misfit fits
    refine ⟨fun record => ?_, ?_, ?_⟩
    · rw [create_of_unnamed record unnamed, create_of_unnamed record unnamed]
    · simp only [read, unnamed, Except.map]
    · rw [take_of_unnamed unnamed, take_of_unnamed unnamed]

theorem purge_count (s : Store) (now : Instant) (context : String) : (s.purge now context).1 =
    (s.records.entries.filter fun e => e.1.context = context && e.2.isExpired now).length := by
  have parts := List.length_eq_countP_add_countP
    (fun e => decide (e.1.context = context) && e.2.isExpired now) (l := s.records.entries)
  simp only [purge, Table.size, Table.filter, ← List.countP_eq_length_filter]
  simp only [Bool.not_eq_true, Bool.decide_eq_false] at parts
  omega

/-- Whatever calls have been made on a store that starts empty, while the clock has not gone back:
what it answers to a creation, a reading or a taking follows from the record that was last created
under the name, and from nothing else. The calls that are not about the name, and how often the store
is swept, make no difference. A purge returns the number of expired records that are held in its
context. -/
theorem answers_from_history (sweep : Sweep) (clock : past.Pairwise fun a b => a.now ≤ b.now)
    (onward : ∀ c ∈ past, c.now ≤ now) (context key : String) :
    let s := (empty sweep).after past
    AnswersAs s now context key (standing now ⟨context, key⟩ ((empty sweep).history past)) ∧
    (s.purge now context).1 =
      (s.records.entries.filter fun e => e.1.context = context && e.2.isExpired now).length ∧
    ∀ other : Sweep,
      let s' := (empty other).after (past.filter fun c => c.action.name? = some ⟨context, key⟩)
      (∀ record, (s.create now context key record).1 = (s'.create now context key record).1) ∧
        s.read now context key = s'.read now context key ∧
        (s.take now context key).1 = (s'.take now context key).1 := by
  intro s
  refine ⟨answersAs fun fits => ?_, purge_count s now context, fun other => ?_⟩
  · rw [standing, latest_history sweep fits clock]
    exact (shows_after sweep fits clock onward).here
  · apply same_answers
    intro fits
    have whole := shows_after sweep fits clock onward
    have part := shows_after other fits
      (clock.sublist (List.filter_sublist (p := fun c => c.action.name? = some ⟨context, key⟩)))
      fun c mem => onward c (List.mem_filter.1 mem).1
    rw [whole.here, part.here, foldl_kept_filter]

/-- Two records in two contexts, and a purge of one of them after its record has expired. -/
def samplePast : List Call :=
  [⟨.ofSecond 0, .create "a" "k" ⟨"v", .ofSecond 10⟩⟩,
    ⟨.ofSecond 5, .create "b" "k" ⟨"w", .ofSecond 6⟩⟩, ⟨.ofSecond 8, .purge "b"⟩]

/-- A store that is swept by every creation. -/
def sampleStore : Store :=
  (empty ⟨.ofSeconds 0, none⟩).after samplePast

theorem sampleStore_answers :
    samplePast.Pairwise (fun a b => a.now ≤ b.now) ∧ (∀ c ∈ samplePast, c.now ≤ .ofSecond 9) ∧
      sampleStore.read (.ofSecond 9) "a" "k" = .ok (some ⟨"v", .ofSecond 10⟩) ∧
      (sampleStore.create (.ofSecond 9) "b" "k" ⟨"w", .ofSecond 12⟩).1 = .ok () ∧
      ∃ reason, (sampleStore.take (.ofSecond 9) "a" "").1 = .error (.invalidKey reason) := by
  have clock : samplePast.Pairwise fun a b => a.now ≤ b.now := by decide +kernel
  have onward : ∀ c ∈ samplePast, c.now ≤ .ofSecond 9 := by decide +kernel
  have first := (answers_from_history ⟨.ofSeconds 0, none⟩ clock onward "a" "k").1
  have second := (answers_from_history ⟨.ofSeconds 0, none⟩ clock onward "b" "k").1
  have third := (answers_from_history ⟨.ofSeconds 0, none⟩ clock onward "a" "").1
  refine ⟨clock, onward, (first.read ?_).trans ?_, (second.created _).2 ⟨?_, ?_⟩, third.untaken ?_⟩
  · exact ⟨by decide, by decide⟩
  · exact congrArg Except.ok (by decide +kernel)
  · exact ⟨by decide, by decide⟩
  · decide +kernel
  · exact fun fits => absurd fits.2.1 (by decide)

/-- A name that is not allowed is refused, where the history has nothing under it to show. -/
theorem misfit_unread :
    standing (.ofSecond 0) ⟨"", "k"⟩ ((empty {}).history []) = none ∧
      ¬ RecordName.Fits ⟨"", "k"⟩ ∧
      (empty {}).read (.ofSecond 0) "" "k" ≠
        .ok (standing (.ofSecond 0) ⟨"", "k"⟩ ((empty {}).history [])) ∧
      ((empty {}).take (.ofSecond 0) "" "k").1 ≠
        .ok (standing (.ofSecond 0) ⟨"", "k"⟩ ((empty {}).history [])) := by
  have misfit : ¬ RecordName.Fits ⟨"", "k"⟩ := fun fits => absurd fits.1.1 (by decide)
  refine ⟨rfl, misfit, ?_, ?_⟩
  · intro reads
    cases reads
  · intro takes
    cases takes

end Gatehouse.Store
