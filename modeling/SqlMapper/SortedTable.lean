/-!
Tables sorted by key.

A `SortedTable` holds one entry for each of its keys, in ascending order of the keys by code
points. Inserting under a key that is present replaces the entry.
-/

namespace SqlMapper

def insertSorted {α : Type} (key : String) (value : α) : List (String × α) → List (String × α)
  | [] => [(key, value)]
  | (known, old) :: rest =>
    if key < known then (key, value) :: (known, old) :: rest
    else if key = known then (key, value) :: rest
    else (known, old) :: insertSorted key value rest

theorem mem_insertSorted {α : Type} {key : String} {value : α} {entries : List (String × α)}
    {entry : String × α} (member : entry ∈ insertSorted key value entries) :
    entry = (key, value) ∨ entry ∈ entries := by
  induction entries with
  | nil => simpa [insertSorted] using member
  | cons head rest ih =>
    obtain ⟨known, old⟩ := head
    simp only [insertSorted] at member
    split at member
    · simpa using member
    · split at member
      · exact (List.mem_cons.mp member).imp id (List.mem_cons_of_mem _)
      · cases List.mem_cons.mp member with
        | inl first => exact Or.inr (first ▸ List.mem_cons_self)
        | inr later => exact (ih later).imp id (List.mem_cons_of_mem _)

theorem pairwise_insertSorted {α : Type} (key : String) (value : α) {entries : List (String × α)}
    (sorted : entries.Pairwise fun left right => left.1 < right.1) :
    (insertSorted key value entries).Pairwise fun left right => left.1 < right.1 := by
  induction entries with
  | nil => simp [insertSorted]
  | cons head rest ih =>
    obtain ⟨known, old⟩ := head
    obtain ⟨below, restSorted⟩ := List.pairwise_cons.mp sorted
    simp only [insertSorted]
    split
    · next less =>
      refine List.pairwise_cons.mpr ⟨fun entry member => ?_, sorted⟩
      cases List.mem_cons.mp member with
      | inl first => exact first ▸ less
      | inr later => exact String.lt_trans less (below entry later)
    · next notLess =>
      split
      · next same =>
        exact List.pairwise_cons.mpr ⟨fun entry member => same ▸ below entry member, restSorted⟩
      · next different =>
        refine List.pairwise_cons.mpr ⟨fun entry member => ?_, ih restSorted⟩
        cases mem_insertSorted member with
        | inl new =>
          have notBelow : ¬ key ≤ known := fun atMost =>
            different (String.le_antisymm atMost (String.not_lt.mp notLess))
          exact new ▸ String.not_le.mp notBelow
        | inr present => exact below entry present

structure SortedTable (α : Type) where
  entries : List (String × α)
  sorted : entries.Pairwise fun left right => left.1 < right.1

namespace SortedTable

variable {α : Type}

def empty : SortedTable α := ⟨[], List.Pairwise.nil⟩

instance : Inhabited (SortedTable α) := ⟨empty⟩

def insert (table : SortedTable α) (key : String) (value : α) : SortedTable α :=
  ⟨insertSorted key value table.entries, pairwise_insertSorted key value table.sorted⟩

/-- The table of a list of entries, in which a later entry replaces an earlier one. -/
def ofList (entries : List (String × α)) : SortedTable α :=
  entries.foldl (fun table entry => table.insert entry.1 entry.2) empty

def get? (table : SortedTable α) (key : String) : Option α :=
  (table.entries.find? (·.1 == key)).map (·.2)

def values (table : SortedTable α) : List α :=
  table.entries.map (·.2)

def keys (table : SortedTable α) : List String :=
  table.entries.map (·.1)

end SortedTable

theorem find?_insertSorted_self {α : Type} (key : String) (value : α)
    (entries : List (String × α)) :
    (insertSorted key value entries).find? (·.1 == key) = some (key, value) := by
  induction entries with
  | nil => simp [insertSorted]
  | cons head rest ih =>
    obtain ⟨known, old⟩ := head
    simp only [insertSorted]
    split
    · simp
    · split
      · simp
      · next different =>
        have other : (known == key) = false := by
          simpa using fun same => different same.symm
        simpa [List.find?_cons, other] using ih

theorem find?_insertSorted_of_ne {α : Type} {key other : String} (value : α)
    (entries : List (String × α)) (different : other ≠ key) :
    (insertSorted key value entries).find? (·.1 == other) =
      entries.find? (·.1 == other) := by
  have mismatch : (key == other) = false := by simpa using fun same => different same.symm
  induction entries with
  | nil => simp [insertSorted, mismatch]
  | cons head rest ih =>
    obtain ⟨known, old⟩ := head
    simp only [insertSorted]
    split
    · simp [List.find?_cons, mismatch]
    · split
      · next same =>
        subst same
        simp [mismatch]
      · by_cases found : (known == other) = true
        · simp [found]
        · simpa [List.find?_cons, found] using ih

namespace SortedTable

variable {α : Type}

@[simp]
theorem get?_insert_self (table : SortedTable α) (key : String) (value : α) :
    (table.insert key value).get? key = some value := by
  simp [get?, insert, find?_insertSorted_self]

theorem get?_insert_of_ne (table : SortedTable α) {key other : String} (value : α)
    (different : other ≠ key) : (table.insert key value).get? other = table.get? other := by
  simp [get?, insert, find?_insertSorted_of_ne value table.entries different]

end SortedTable

end SqlMapper
