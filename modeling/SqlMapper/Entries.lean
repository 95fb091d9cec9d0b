/-!
Lists of keyed entries in insertion order.

`setEntry` gives a key a value: a key that is present keeps its place, and a new key goes to the
end. Its lemmas say what happens to the keys and to the value found under each key.
-/

namespace SqlMapper

variable {α : Type}

/-- Gives a key a value, in place if the key is present and at the end if not. -/
def setEntry (key : String) (value : α) : List (String × α) → List (String × α)
  | [] => [(key, value)]
  | (known, old) :: rest =>
    if known = key then (known, value) :: rest else (known, old) :: setEntry key value rest

/-- The entries in which each key counts once: its first place and its last value. -/
def distinctEntries (entries : List (String × α)) : List (String × α) :=
  entries.foldl (fun known entry => setEntry entry.1 entry.2 known) []

def entry? (key : String) (entries : List (String × α)) : Option α :=
  (entries.find? (·.1 == key)).map (·.2)

theorem keys_setEntry (key : String) (value : α) (entries : List (String × α)) :
    (setEntry key value entries).map (·.1) =
      if key ∈ entries.map (·.1) then entries.map (·.1) else entries.map (·.1) ++ [key] := by
  induction entries with
  | nil => simp [setEntry]
  | cons entry rest ih =>
    obtain ⟨known, old⟩ := entry
    by_cases same : known = key
    · simp [setEntry, same]
    · have other : ¬ key = known := fun equal => same equal.symm
      by_cases present : key ∈ rest.map (·.1) <;> simp_all [setEntry]

theorem nodup_keys_setEntry (key : String) (value : α) {entries : List (String × α)}
    (distinct : (entries.map (·.1)).Nodup) : ((setEntry key value entries).map (·.1)).Nodup := by
  rw [keys_setEntry]
  split
  · exact distinct
  · next absent =>
    rw [List.nodup_append]
    refine ⟨distinct, by simp, ?_⟩
    intro left member right last
    simp only [List.mem_singleton] at last
    exact fun same => absent (last ▸ same ▸ member)

@[simp]
theorem entry?_setEntry_self (key : String) (value : α) (entries : List (String × α)) :
    entry? key (setEntry key value entries) = some value := by
  induction entries with
  | nil => simp [setEntry, entry?]
  | cons entry rest ih =>
    obtain ⟨known, old⟩ := entry
    by_cases same : known = key
    · simp [setEntry, entry?, same]
    · simpa [setEntry, entry?, same] using ih

theorem entry?_setEntry_of_ne {key other : String} (value : α) (entries : List (String × α))
    (different : other ≠ key) :
    entry? other (setEntry key value entries) = entry? other entries := by
  have mismatch : ¬ key = other := fun same => different same.symm
  induction entries with
  | nil => simp [setEntry, entry?, mismatch]
  | cons entry rest ih =>
    obtain ⟨known, old⟩ := entry
    by_cases same : known = key
    · subst same
      simp [setEntry, entry?, mismatch]
    · by_cases found : known = other
      · subst found
        simp [setEntry, entry?, same]
      · simpa [setEntry, entry?, same, found] using ih

end SqlMapper
