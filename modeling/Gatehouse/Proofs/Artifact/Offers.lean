import Gatehouse.Proofs.Artifact.Uses

/-! # Offers over a run

What stands in a slot is the message that was stored there last, unless it has been taken since. A
storage in memory shows nothing else; and as long as its clock has not passed the end of the offer,
it shows that.
-/

namespace Gatehouse.Use

def after (start : Storage) (uses : List Use) : Storage :=
  uses.foldl (fun s u => (u.perform s).2) start

/-- The answer to the call at a position of a run. -/
def answer (start : Storage) (uses : List Use) (j : Nat) : Option Answer :=
  uses[j]?.map fun u => (u.perform (after start (uses.take j))).1

def Retrieves (u : Use) : Prop :=
  ∃ presenter, u.kind = .retrieve presenter

/-- Whether the call at a position puts a message into a slot or takes one out of it. -/
def Touches (start : Storage) (uses : List Use) (slot : Slot) (j : Nat) : Prop :=
  ∃ u, uses[j]? = some u ∧ u.slot = slot ∧
    (u.Retrieves ∨ answer start uses j = some (.stored (.ok ())))

/-- Whether an offer stands in a slot before the call at `j`: the call at `i` has put it there and
nothing has happened in the slot since. -/
structure Stands (start : Storage) (uses : List Use) (slot : Slot) (i j : Nat) (o : Offer) :
    Prop where
  before : i < j
  offers : ∃ v, uses[i]? = some v ∧ v.slot = slot ∧ v.offer? = some o
  stored : answer start uses i = some (.stored (.ok ()))
  untouched : ∀ k, i < k → k < j → ¬ Touches start uses slot k

variable {start : Storage} {uses : List Use} {slot : Slot} {i j : Nat} {o : Offer} {u : Use}
  {s left : Store}

theorem after_take_succ (place : uses[j]? = some u) :
    after start (uses.take (j + 1)) = (u.perform (after start (uses.take j))).2 := by
  simp only [after, List.take_add_one, place, Option.toList_some, List.foldl_append,
    List.foldl_cons, List.foldl_nil]

theorem answer_eq (place : uses[j]? = some u) :
    answer start uses j = some (u.perform (after start (uses.take j))).1 := by
  rw [answer, place, Option.map_some]

theorem Stands.touches (h : Stands start uses slot i j o) : Touches start uses slot i := by
  obtain ⟨v, place, same, -⟩ := h.offers
  exact ⟨v, place, same, .inr h.stored⟩

theorem Stands.unique {i' : Nat} {o' : Offer} (h : Stands start uses slot i j o)
    (h' : Stands start uses slot i' j o') : i = i' ∧ o = o' := by
  rcases Nat.lt_trichotomy i i' with earlier | rfl | later
  · exact absurd h'.touches (h.untouched i' earlier h'.before)
  · obtain ⟨v, place, -, offers⟩ := h.offers
    obtain ⟨v', place', -, offers'⟩ := h'.offers
    obtain rfl : v = v' := Option.some.inj (place.symm.trans place')
    exact ⟨rfl, Option.some.inj (offers.symm.trans offers')⟩
  · exact absurd h.touches (h'.untouched i later h.before)

theorem Stands.first (place : uses[j]? = some u) (offers : u.offer? = some o)
    (stored : answer start uses j = some (.stored (.ok ()))) :
    Stands start uses u.slot j (j + 1) o where
  before := Nat.lt_succ_self j
  offers := ⟨u, place, rfl, offers⟩
  stored := stored
  untouched k later earlier := by omega

theorem Stands.later (h : Stands start uses slot i j o) (rest : ¬ Touches start uses slot j) :
    Stands start uses slot i (j + 1) o where
  before := Nat.lt_succ_of_lt h.before
  offers := h.offers
  stored := h.stored
  untouched k after earlier := by
    rcases Nat.lt_succ_iff_lt_or_eq.1 earlier with earlier | rfl
    · exact h.untouched k after earlier
    · exact rest

theorem Stands.cases (h : Stands start uses slot i (j + 1) o) :
    i = j ∨ Stands start uses slot i j o ∧ ¬ Touches start uses slot j := by
  rcases Nat.lt_succ_iff_lt_or_eq.1 h.before with before | last
  · refine .inr ⟨⟨before, h.offers, h.stored, fun k after earlier => ?_⟩, ?_⟩
    · exact h.untouched k after (Nat.lt_succ_of_lt earlier)
    · exact h.untouched j before (Nat.lt_succ_self j)
  · exact .inl last

/-- What a store before the call at a position has to do with the offers that stand there. -/
structure Tracks (start : Storage) (uses : List Use) (j : Nat) (s : Store) : Prop where
  /-- What is shown stands. -/
  shown : ∀ {slot t r}, s.live? t slot.name = some r →
    ∃ i o, Stands start uses slot i j o ∧ r = o.record
  /-- What stands is shown until it expires, once the clock has reached its earlier readings. -/
  kept : ∀ {slot i o t}, Stands start uses slot i j o →
    (∀ k u, k < j → uses[k]? = some u → u.clocks.storage ≤ t) → t < o.expires →
      s.live? t slot.name = some o.record

/-- What stands is what is shown, from the latest reading of the clock on. -/
theorem Tracks.live?_of_stands {t : Instant} (h : Tracks start uses j s)
    (stands : Stands start uses slot i j o)
    (clock : ∀ k u, k < j → uses[k]? = some u → u.clocks.storage ≤ t) :
    s.live? t slot.name = if o.expires ≤ t then none else some o.record := by
  by_cases late : o.expires ≤ t
  · rw [if_pos late, Option.eq_none_iff_forall_ne_some]
    intro r seen
    obtain ⟨i', o', stands', rfl⟩ := h.shown seen
    obtain rfl : o = o' := (stands.unique stands').2
    exact Instant.not_le.2 (Store.live?_eq_some.1 seen).2 late
  · rw [if_neg late]
    exact h.kept stands clock (Instant.not_le.1 late)

theorem Tracks.live?_of_none (h : Tracks start uses j s)
    (none : ∀ i o, ¬ Stands start uses slot i j o) (t : Instant) :
    s.live? t slot.name = .none := by
  rw [Option.eq_none_iff_forall_ne_some]
  intro r seen
  obtain ⟨i, o, stands, -⟩ := h.shown seen
  exact none i o stands

theorem after_memory (sweep : Store) (uses : List Use) :
    ∃ s, after (.memory sweep) uses = .memory s := by
  induction uses generalizing sweep with
  | nil => exact ⟨sweep, rfl⟩
  | cons u uses ih =>
      obtain ⟨left, next, -⟩ := perform_effect u sweep
      obtain ⟨s, last⟩ := ih left
      exact ⟨s, by rw [after, List.foldl_cons, next]; exact last⟩

theorem alone_of_stored {first : Store} (place : uses[i]? = some u) (offers : u.offer? = some o)
    (stored : answer (.memory first) uses i = some (.stored (.ok ()))) :
    o.content.parent = none ∧ RecordName.isLegal u.slot.context := by
  obtain ⟨s, here⟩ := after_memory first (uses.take i)
  obtain ⟨left, -, effect⟩ := perform_effect u s
  rw [answer_eq place, here] at stored
  rw [Option.some.inj stored] at effect
  cases effect with
  | stored o' offers' alone legal _ =>
      obtain rfl : o = o' := Option.some.inj (offers.symm.trans offers')
      exact ⟨alone, legal⟩

/-- How a store has to change with a call for it to go on showing what stands. -/
structure Follows (start : Storage) (uses : List Use) (j : Nat) (u : Use) (s left : Store) :
    Prop where
  /-- What is shown afterwards is not new, or has just been stored. -/
  shown : ∀ {slot t r}, left.live? t slot.name = some r →
    s.live? t slot.name = some r ∧ ¬ Touches start uses slot j ∨
      ∃ o, Stands start uses slot j (j + 1) o ∧ r = o.record
  /-- What is shown in a slot that the call does not touch is shown still. -/
  kept : ∀ {slot t r}, ¬ Touches start uses slot j → u.clocks.storage ≤ t →
    s.live? t slot.name = some r → left.live? t slot.name = some r
  /-- What has just been stored is shown until it expires. -/
  stored : ∀ {slot t o}, Stands start uses slot j (j + 1) o → t < o.expires →
    left.live? t slot.name = some o.record

theorem Tracks.next (h : Tracks start uses j s) (place : uses[j]? = some u)
    (f : Follows start uses j u s left) : Tracks start uses (j + 1) left where
  shown {slot t r} seen := by
    rcases f.shown seen with ⟨before, rest⟩ | ⟨o, stands, same⟩
    · obtain ⟨i, o, stands, same⟩ := h.shown before
      exact ⟨i, o, stands.later rest, same⟩
    · exact ⟨j, o, stands, same⟩
  kept {slot i o t} stands clock fresh := by
    rcases stands.cases with rfl | ⟨before, rest⟩
    · exact f.stored stands fresh
    · refine f.kept rest (clock j u (Nat.lt_succ_self j) place) ?_
      exact h.kept before (fun k v hk => clock k v (Nat.lt_succ_of_lt hk)) fresh

theorem touches_iff {a : Answer} (place : uses[j]? = some u)
    (answered : answer start uses j = some a) :
    Touches start uses slot j ↔ u.slot = slot ∧ (u.Retrieves ∨ a = .stored (.ok ())) := by
  constructor
  · rintro ⟨v, place', same, changes⟩
    obtain rfl : u = v := Option.some.inj (place.symm.trans place')
    refine ⟨same, changes.imp_right fun stored => ?_⟩
    exact Option.some.inj (answered.symm.trans stored)
  · rintro ⟨same, changes⟩
    refine ⟨u, place, same, changes.imp_right fun stored => ?_⟩
    rw [answered, stored]

theorem not_stands_of_answer {a : Answer} (answered : answer start uses j = some a)
    (other : a ≠ .stored (.ok ())) : ¬ Stands start uses slot j (j + 1) o := by
  intro stands
  exact other (Option.some.inj (answered.symm.trans stands.stored))

theorem follows_of_effect {first : Store} {a : Answer} (h : Tracks (.memory first) uses j s)
    (place : uses[j]? = some u) (answered : answer (.memory first) uses j = some a)
    (effect : u.Effect s a left) : Follows (.memory first) uses j u s left := by
  cases effect with
  | stored o offers alone legal free =>
      refine ⟨fun {slot t r} seen => ?_, fun {slot t r} rest le seen => ?_,
        fun {slot t o'} stands fresh => ?_⟩
      · rw [Store.live?_insert] at seen
        by_cases same : slot.name = u.slot.name
        · rw [if_pos same] at seen
          obtain rfl := Slot.name_inj.1 same
          have record : o.record = r := Option.some.inj (Option.filter_eq_some_iff.1 seen).1
          exact .inr ⟨o, Stands.first place offers answered, record.symm⟩
        · rw [if_neg same] at seen
          refine .inl ⟨Store.live?_of_swept seen, ?_⟩
          rw [touches_iff place answered]
          rintro ⟨rfl, -⟩
          exact same rfl
      · have other : slot.name ≠ u.slot.name := by
          intro same
          exact rest ((touches_iff place answered).2 ⟨(Slot.name_inj.1 same).symm, .inr rfl⟩)
        rw [Store.live?_insert, if_neg other, Store.live?_swept le]
        exact seen
      · obtain ⟨v, place', rfl, offers'⟩ := stands.offers
        obtain rfl : u = v := Option.some.inj (place.symm.trans place')
        obtain rfl : o = o' := Option.some.inj (offers.symm.trans offers')
        rw [Store.live?_insert, if_pos rfl]
        have running : ¬ o.expires ≤ t := Instant.not_le.2 fresh
        refine Option.filter_eq_some_iff.2 ⟨rfl, ?_⟩
        simp [Record.isExpired, Offer.record, running]
  | refused o fault left offers unchanged =>
      have rest : ∀ slot, ¬ Touches (.memory first) uses slot j := by
        intro slot
        rw [touches_iff place answered]
        rintro ⟨-, ⟨presenter, kind⟩ | stored⟩
        · simp [offer?, kind] at offers
        · cases stored
      refine ⟨fun {slot t r} seen => .inl ⟨?_, rest slot⟩, fun {slot t r} _ le seen => ?_,
        fun stands => absurd stands (not_stands_of_answer answered (by simp))⟩
      · rcases unchanged with rfl | rfl
        · exact seen
        · exact Store.live?_of_swept seen
      · rcases unchanged with rfl | rfl
        · exact seen
        · exact (Store.live?_swept le).trans seen
  | retrieved presenter kind legal =>
      refine ⟨fun {slot t r} seen => ?_, fun {slot t r} rest le seen => ?_,
        fun stands => absurd stands (not_stands_of_answer answered (by simp))⟩
      · rw [Store.live?_erase] at seen
        by_cases same : slot.name = u.slot.name
        · rw [if_pos same] at seen
          cases seen
        · rw [if_neg same] at seen
          refine .inl ⟨seen, ?_⟩
          rw [touches_iff place answered]
          rintro ⟨rfl, -⟩
          exact same rfl
      · have other : slot.name ≠ u.slot.name := by
          intro same
          exact rest ((touches_iff place answered).2
            ⟨(Slot.name_inj.1 same).symm, .inl ⟨presenter, kind⟩⟩)
        rw [Store.live?_erase, if_neg other]
        exact seen
  | unnamed presenter fault kind illegal =>
      refine ⟨fun {slot t r} seen => .inl ⟨seen, ?_⟩, fun _ _ seen => seen,
        fun stands => absurd stands (not_stands_of_answer answered (by simp))⟩
      -- What is shown was stored, and nothing is stored under a context that is not legal.
      obtain ⟨i, o, stands, -⟩ := h.shown seen
      obtain ⟨v, place', same, offers⟩ := stands.offers
      have legal := (alone_of_stored place' offers stands.stored).2
      rw [touches_iff place answered]
      rintro ⟨rfl, -⟩
      exact illegal (same ▸ legal)
  | relyingParty result kind =>
      have rest : ∀ slot, ¬ Touches (.memory first) uses slot j := by
        intro slot
        rw [touches_iff place answered]
        rintro ⟨-, ⟨presenter, other⟩ | stored⟩
        · cases kind.symm.trans other
        · cases stored
      exact ⟨fun {slot t r} seen => .inl ⟨seen, rest slot⟩, fun _ _ seen => seen,
        fun stands => absurd stands (not_stands_of_answer answered (by simp))⟩

/-- At every position of a run a storage that was empty at first tracks the offers. -/
theorem tracks (sweep : Sweep) (uses : List Use) (le : j ≤ uses.length) :
    ∃ s, after (.memory (.empty sweep)) (uses.take j) = .memory s ∧
      Tracks (.memory (.empty sweep)) uses j s := by
  induction j with
  | zero =>
      refine ⟨.empty sweep, rfl, ⟨fun seen => ?_, fun stands => ?_⟩⟩
      · cases seen
      · exact absurd stands.before (Nat.not_lt_zero _)
  | succ j ih =>
      obtain ⟨s, here, tracks⟩ := ih (Nat.le_of_succ_le le)
      have place : uses[j]? = some uses[j] := List.getElem?_eq_getElem le
      obtain ⟨left, next, effect⟩ := perform_effect uses[j] s
      refine ⟨left, ?_, tracks.next place (follows_of_effect tracks place ?_ effect)⟩
      · rw [after_take_succ place, here, next]
      · rw [answer_eq place, here]

end Gatehouse.Use
