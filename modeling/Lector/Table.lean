/-!
# Tables

A table holds values under keys, one value under each key.

## Main definitions

* `Table` - finite maps.
* `Table.get?`, `Table.insert`, `Table.erase` - look-up and change.
* `Table.keys` - the keys.

## Main results

* `Table.get?_insert`, `Table.get?_erase` - what a look-up finds after a change.
-/

namespace Lector

/-- A finite map. -/
structure Table (κ α : Type) where
  entries : List (κ × α)
  nodup : (entries.map Prod.fst).Nodup

namespace Table

variable {κ α : Type}

def empty : Table κ α := ⟨[], List.nodup_nil⟩

instance : Inhabited (Table κ α) := ⟨empty⟩

def size (t : Table κ α) : Nat := t.entries.length

/-- The keys, in no order that could be relied on. -/
def keys (t : Table κ α) : List κ := t.entries.map Prod.fst

variable [DecidableEq κ]

def get? (t : Table κ α) (key : κ) : Option α :=
  (t.entries.find? fun e => e.1 = key).map Prod.snd

def contains (t : Table κ α) (key : κ) : Bool := (t.get? key).isSome

def erase (t : Table κ α) (key : κ) : Table κ α where
  entries := t.entries.filter fun e => e.1 ≠ key
  nodup := (List.filter_sublist.map _).nodup t.nodup

/-- The table with a value under a key, in place of any that was there. -/
def insert (t : Table κ α) (key : κ) (value : α) : Table κ α where
  entries := (key, value) :: (t.erase key).entries
  nodup := List.nodup_cons.mpr ⟨by simp [erase], (t.erase key).nodup⟩

@[simp] theorem get?_empty (key : κ) : (empty : Table κ α).get? key = none := rfl

@[simp] theorem get?_erase (t : Table κ α) (key k : κ) :
    (t.erase key).get? k = if k = key then none else t.get? k := by
  simp only [get?, erase, List.find?_filter]
  split
  · next hk =>
    subst hk
    simp
  · next hk =>
    congr 2
    funext e
    by_cases he : e.1 = k
    · simp [he, hk]
    · simp [he]

@[simp] theorem get?_insert (t : Table κ α) (key : κ) (value : α) (k : κ) :
    (t.insert key value).get? k = if k = key then some value else t.get? k := by
  by_cases hk : k = key
  · subst hk
    simp [get?, insert]
  · have he := get?_erase t key k
    simp only [get?, hk, if_false] at he ⊢
    rw [insert, List.find?_cons_of_neg (by simpa using fun h => hk h.symm), he]

theorem contains_of_get? {t : Table κ α} {key : κ} {value : α} (h : t.get? key = some value) :
    t.contains key = true := by
  simp [contains, h]

/-- A change loses no key. -/
theorem contains_insert {t : Table κ α} {k : κ} (h : t.contains k = true) (key : κ) (value : α) :
    (t.insert key value).contains k = true := by
  simp only [contains, get?_insert] at h ⊢
  split
  · rfl
  · exact h

theorem mem_keys_iff (t : Table κ α) (key : κ) : key ∈ t.keys ↔ (t.get? key).isSome := by
  simp only [keys, get?, List.mem_map, Option.isSome_map, List.find?_isSome, decide_eq_true_eq]

end Table

end Lector
