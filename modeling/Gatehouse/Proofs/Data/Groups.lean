import Gatehouse.Data.Groups

/-! # What groups hold

Pairs that are put into groups one after the other are all kept: under each key stand the values
that came with it, in the order in which they came, and no value stands anywhere else.
-/

namespace Gatehouse.Groups

variable {κ ν : Type} [DecidableEq κ] {g : Groups κ ν} {pairs : List (κ × ν)} {k : κ}

/-- The values that come with a key in a list of pairs. -/
def under (k : κ) (pairs : List (κ × ν)) : List ν :=
  (pairs.filter fun p => p.1 = k).map Prod.snd

theorem under_append (k : κ) (pairs more : List (κ × ν)) :
    under k (pairs ++ more) = under k pairs ++ under k more := by
  rw [under, List.filter_append, List.map_append, under, under]

theorem addAll_append (g : Groups κ ν) (pairs more : List (κ × ν)) :
    g.addAll (pairs ++ more) = (g.addAll pairs).addAll more :=
  List.foldl_append

theorem get_addAll : (g.addAll pairs).get k = g.get k ++ under k pairs := by
  induction pairs generalizing g with
  | nil => exact (List.append_nil _).symm
  | cons p pairs ih =>
      have step : (g.addAll (p :: pairs)).get k = (g.add p.1 p.2).get k ++ under k pairs := ih
      rw [step, get_add]
      by_cases same : p.1 = k
      · simp [under, same]
      · simp [under, same, Ne.symm same]

/-- No key stands twice, so what is not under a key is what is left when it is taken out. -/
theorem length_values {entries : List (κ × List ν)} (nodup : (entries.map Prod.fst).Nodup)
    (k : κ) :
    (entries.flatMap Prod.snd).length =
      ((entries.filter fun e => e.1 ≠ k).flatMap Prod.snd).length +
        (((entries.find? fun e => e.1 = k).map Prod.snd).getD []).length := by
  induction entries with
  | nil => rfl
  | cons e entries ih =>
      obtain ⟨absent, nodup⟩ := List.nodup_cons.1 nodup
      by_cases same : e.1 = k
      · have others : entries.filter (fun e => e.1 ≠ k) = entries := by
          rw [List.filter_eq_self]
          intro e' mem
          have different : e'.1 ≠ k := fun again =>
            absent (List.mem_map.2 ⟨e', mem, again.trans same.symm⟩)
          simpa using different
        rw [List.filter_cons_of_neg (by simpa using same), others,
          List.find?_cons_of_pos (by simpa using same), List.flatMap_cons, List.length_append]
        exact Nat.add_comm ..
      · rw [List.filter_cons_of_pos (by simpa using same),
          List.find?_cons_of_neg (by simpa using same), List.flatMap_cons, List.flatMap_cons,
          List.length_append, List.length_append, ih nodup]
        omega

theorem size_eq (g : Groups κ ν) (k : κ) :
    g.size = (Groups.mk (g.table.erase k)).size + (g.get k).length :=
  length_values g.table.keys_nodup k

theorem size_add (g : Groups κ ν) (k : κ) (v : ν) : (g.add k v).size = g.size + 1 := by
  have others : (g.add k v).size =
      (Groups.mk (g.table.erase k)).size + (g.get k ++ [v]).length := by
    simp [size, add, Table.insert]
  rw [others, size_eq g k, List.length_append]
  rfl

theorem size_addAll : (g.addAll pairs).size = g.size + pairs.length := by
  induction pairs generalizing g with
  | nil => rfl
  | cons p pairs ih =>
      have step : (g.addAll (p :: pairs)).size = (g.add p.1 p.2).size + pairs.length := ih
      rw [step, size_add, List.length_cons]
      omega

end Gatehouse.Groups
