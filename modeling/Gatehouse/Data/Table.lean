/-! # Tables

A finite table: pairs of a key and its value, in which no key stands twice. What a table means is
the function `get?`; each operation has a lemma that says what it does to that function.
-/

namespace Gatehouse

structure Table (κ ν : Type) where
  entries : List (κ × ν)
  keys_nodup : (entries.map Prod.fst).Nodup

namespace Table

variable {κ ν : Type}

def empty : Table κ ν :=
  ⟨[], List.nodup_nil⟩

instance : Inhabited (Table κ ν) := ⟨empty⟩

def size (t : Table κ ν) : Nat :=
  t.entries.length

/-- The table without the entries that `keep` refuses. -/
def filter (keep : κ → ν → Bool) (t : Table κ ν) : Table κ ν :=
  ⟨t.entries.filter fun e => keep e.1 e.2,
    t.keys_nodup.sublist (List.filter_sublist.map Prod.fst)⟩

variable [DecidableEq κ]

def get? (t : Table κ ν) (k : κ) : Option ν :=
  (t.entries.find? fun e => e.1 = k).map Prod.snd

def erase (t : Table κ ν) (k : κ) : Table κ ν :=
  t.filter fun k' _ => k' ≠ k

/-- The table with a value for a key, in place of any that the key had. -/
def insert (t : Table κ ν) (k : κ) (v : ν) : Table κ ν where
  entries := (t.erase k).entries ++ [(k, v)]
  keys_nodup := by
    rw [List.map_append, List.nodup_append]
    refine ⟨(t.erase k).keys_nodup, by simp, ?_⟩
    intro a ha b hb
    obtain ⟨e, he, rfl⟩ := List.mem_map.1 ha
    have hk := (List.mem_filter.1 he).2
    simp only [List.map_cons, List.map_nil, List.mem_singleton] at hb
    simpa [hb] using hk

theorem get?_empty (k : κ) : (empty : Table κ ν).get? k = none :=
  rfl

theorem mem_of_get? {t : Table κ ν} {k : κ} {v : ν} (h : t.get? k = some v) :
    (k, v) ∈ t.entries := by
  obtain ⟨e, he, rfl⟩ := Option.map_eq_some_iff.1 h
  have hk : e.1 = k := by simpa using List.find?_some he
  exact hk ▸ List.mem_of_find?_eq_some he

theorem get?_eq_some_iff {t : Table κ ν} {k : κ} {v : ν} :
    t.get? k = some v ↔ (k, v) ∈ t.entries := by
  refine ⟨mem_of_get?, fun h => ?_⟩
  obtain ⟨entries, nodup⟩ := t
  simp only [get?] at h ⊢
  induction entries with
  | nil => simp at h
  | cons e entries ih =>
    rw [List.map_cons, List.nodup_cons] at nodup
    rw [List.find?_cons]
    rcases List.mem_cons.1 h with rfl | h
    · simp
    · have hne : e.1 ≠ k := fun he => nodup.1 (he ▸ List.mem_map.2 ⟨(k, v), h, rfl⟩)
      simpa [hne] using ih nodup.2 h

theorem get?_filter (keep : κ → ν → Bool) (t : Table κ ν) (k : κ) :
    (t.filter keep).get? k = (t.get? k).filter (keep k) := by
  apply Option.ext
  intro v
  rw [get?_eq_some_iff, Option.filter_eq_some_iff, get?_eq_some_iff]
  simp [filter, List.mem_filter]

theorem get?_erase (t : Table κ ν) (k k' : κ) :
    (t.erase k).get? k' = if k' = k then none else t.get? k' := by
  rw [erase, get?_filter]
  by_cases h : k' = k
  · simp [h]
  · cases t.get? k' <;> simp [h]

theorem get?_insert (t : Table κ ν) (k k' : κ) (v : ν) :
    (t.insert k v).get? k' = if k' = k then some v else t.get? k' := by
  by_cases h : k' = k
  · rw [if_pos h, get?_eq_some_iff]
    simp [insert, h]
  · rw [if_neg h]
    apply Option.ext
    intro w
    rw [get?_eq_some_iff, get?_eq_some_iff]
    simp [insert, erase, filter, h]

end Table

end Gatehouse
