import Gatehouse.Data.Table

/-! # Groups

Values collected under keys. A group keeps the order in which its values came.
-/

namespace Gatehouse

structure Groups (κ ν : Type) where
  table : Table κ (List ν)

namespace Groups

variable {κ ν : Type}

def empty : Groups κ ν :=
  ⟨.empty⟩

def size (g : Groups κ ν) : Nat :=
  (g.table.entries.flatMap fun e => e.2).length

variable [DecidableEq κ]

def get (g : Groups κ ν) (k : κ) : List ν :=
  (g.table.get? k).getD []

/-- Adds a value at the end of a key's group. -/
def add (g : Groups κ ν) (k : κ) (v : ν) : Groups κ ν :=
  ⟨g.table.insert k (g.get k ++ [v])⟩

/-- Adds the values of a list of pairs, in their order. -/
def addAll (g : Groups κ ν) (pairs : List (κ × ν)) : Groups κ ν :=
  pairs.foldl (fun g p => g.add p.1 p.2) g

theorem get_add (g : Groups κ ν) (k k' : κ) (v : ν) :
    (g.add k v).get k' = if k' = k then g.get k' ++ [v] else g.get k' := by
  simp only [get, add, Table.get?_insert]
  split <;> simp_all

end Groups

end Gatehouse
