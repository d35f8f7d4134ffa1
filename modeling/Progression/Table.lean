-- Tables: at most one value for each key, in no particular order.

namespace Progression

structure Table (κ ν : Type) where
  entries : List (κ × ν)

namespace Table

variable {κ ν : Type} [DecidableEq κ]

def empty : Table κ ν := ⟨[]⟩

def get? (table : Table κ ν) (key : κ) : Option ν := table.entries.lookup key

/-- Removes the value of a key. -/
def erase (table : Table κ ν) (key : κ) : Table κ ν :=
  ⟨table.entries.filter fun entry => entry.1 ≠ key⟩

/-- Sets the value of a key. -/
def put (table : Table κ ν) (key : κ) (value : ν) : Table κ ν :=
  ⟨(key, value) :: (table.erase key).entries⟩

/-- Changes the value of a key, if it has one. -/
def change (table : Table κ ν) (key : κ) (f : ν → ν) : Table κ ν :=
  match table.get? key with
  | some value => table.put key (f value)
  | none => table

def ofList (entries : List (κ × ν)) : Table κ ν :=
  entries.foldl (fun table entry => table.put entry.1 entry.2) empty

/-! ## What a look-up finds -/

@[simp]
theorem get?_empty (key : κ) : (empty : Table κ ν).get? key = none := rfl

@[simp]
theorem get?_erase_self (table : Table κ ν) (key : κ) : (table.erase key).get? key = none := by
  obtain ⟨entries⟩ := table
  simp only [get?, erase]
  induction entries with
  | nil => rfl
  | cons entry rest ih =>
    obtain ⟨k, v⟩ := entry
    by_cases h : k = key
    · simpa [h] using ih
    · have hk : (key == k) = false := by simpa using fun e => h e.symm
      simpa [h, List.lookup_cons, hk] using ih

theorem get?_erase_of_ne (table : Table κ ν) {key other : κ} (h : other ≠ key) :
    (table.erase key).get? other = table.get? other := by
  obtain ⟨entries⟩ := table
  simp only [get?, erase]
  induction entries with
  | nil => rfl
  | cons entry rest ih =>
    obtain ⟨k, v⟩ := entry
    by_cases hk : k = key
    · have ho : (other == k) = false := by simpa [hk] using h
      simpa [hk, List.lookup_cons, hk ▸ ho] using ih
    · by_cases ho : other = k
      · subst ho; simp [hk]
      · have hf : (other == k) = false := by simpa using ho
        simpa [hk, List.lookup_cons, hf] using ih

@[simp]
theorem get?_put_self (table : Table κ ν) (key : κ) (value : ν) :
    (table.put key value).get? key = some value := by
  simp [get?, put]

theorem get?_put_of_ne (table : Table κ ν) {key other : κ} (value : ν) (h : other ≠ key) :
    (table.put key value).get? other = table.get? other := by
  have hf : (other == key) = false := by simpa using h
  rw [← get?_erase_of_ne table h]
  simp [get?, put, List.lookup_cons, hf]

theorem get?_erase (table : Table κ ν) (key other : κ) :
    (table.erase key).get? other = if other = key then none else table.get? other := by
  split
  · rename_i h
    rw [h, get?_erase_self]
  · rename_i h
    exact get?_erase_of_ne table h

theorem get?_put (table : Table κ ν) (key other : κ) (value : ν) :
    (table.put key value).get? other = if other = key then some value else table.get? other := by
  split
  · rename_i h
    rw [h, get?_put_self]
  · rename_i h
    exact get?_put_of_ne table value h

theorem get?_change (table : Table κ ν) (key other : κ) (f : ν → ν) :
    (table.change key f).get? other
      = if other = key then (table.get? key).map f else table.get? other := by
  unfold change
  cases h : table.get? key with
  | none => by_cases ho : other = key <;> simp [ho, h]
  | some value => exact get?_put table key other (f value)

end Table

end Progression
