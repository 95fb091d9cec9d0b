import SqlMapper.Record
import SqlMapper.Row

namespace SqlMapper

/-! Looking up entries.

Where keys are pairwise different, finding a value under a key and having the
entry are the same.  Records and rows are such lists.
-/

variable {α : Type} {key : String} {value : α} {entries : List (String × α)}

theorem mem_of_found (found : entry? key entries = some value) : (key, value) ∈ entries := by
  unfold entry? at found
  rw [Option.map_eq_some_iff] at found
  obtain ⟨⟨known, held⟩, found, same⟩ := found
  have matching : known = key := by simpa using List.find?_some found
  subst matching same
  exact List.mem_of_find?_eq_some found

theorem entry?_cons_self (key : String) (value : α) (rest : List (String × α)) :
    entry? key ((key, value) :: rest) = some value := by
  unfold entry?
  simp

theorem entry?_cons_of_ne {other : String} (different : key ≠ other) (value : α)
    (rest : List (String × α)) : entry? other ((key, value) :: rest) = entry? other rest := by
  unfold entry?
  simp [different]

theorem entry?_of_absent (absent : key ∉ entries.map (·.1)) : entry? key entries = none := by
  cases found : entry? key entries with
  | none => rfl
  | some value => exact absurd (List.mem_map_of_mem (mem_of_found found)) absent

theorem entry?_of_mem (distinct : (entries.map (·.1)).Nodup) (member : (key, value) ∈ entries) :
    entry? key entries = some value := by
  induction entries with
  | nil => cases member
  | cons entry rest ih =>
      obtain ⟨known, held⟩ := entry
      obtain ⟨absent, distinctRest⟩ := List.nodup_cons.mp distinct
      rcases List.mem_cons.mp member with same | later
      · cases same
        exact entry?_cons_self key value rest
      · have different : known ≠ key := by
          intro same
          subst same
          exact absent (List.mem_map.mpr ⟨_, later, rfl⟩)
        rw [entry?_cons_of_ne different]
        exact ih distinctRest later

theorem entry?_map {held : Option α} (change : String → α → α)
    (found : entry? key entries = held) :
    entry? key (entries.map fun entry => (entry.1, change entry.1 entry.2)) =
      held.map (change key) := by
  subst found
  induction entries with
  | nil => rfl
  | cons entry rest ih =>
      obtain ⟨known, value⟩ := entry
      by_cases same : known = key
      · subst same
        simp only [List.map_cons, entry?_cons_self, Option.map_some]
      · simp only [List.map_cons, entry?_cons_of_ne same, ih]

theorem entry?_eraseP {known : String} (different : known ≠ key)
    (entries : List (String × α)) :
    entry? known (entries.eraseP (·.1 == key)) = entry? known entries := by
  induction entries with
  | nil => rfl
  | cons entry rest ih =>
      obtain ⟨name, value⟩ := entry
      by_cases here : name = key
      · subst here
        rw [List.eraseP_cons_of_pos (by simp), entry?_cons_of_ne different.symm]
      · rw [List.eraseP_cons_of_neg (by simpa using here)]
        by_cases found : name = known
        · subst found
          rw [entry?_cons_self, entry?_cons_self]
        · rw [entry?_cons_of_ne found, entry?_cons_of_ne found, ih]

/-! Entries that are set one after the other. -/

theorem setEntry_of_absent (absent : key ∉ entries.map (·.1)) (value : α) :
    setEntry key value entries = entries ++ [(key, value)] := by
  induction entries with
  | nil => rfl
  | cons entry rest ih =>
      obtain ⟨known, held⟩ := entry
      rw [List.map_cons, List.mem_cons, not_or] at absent
      rw [setEntry, if_neg (Ne.symm absent.1), ih absent.2, List.cons_append]

theorem distinctEntries_of_nodup (distinct : (entries.map (·.1)).Nodup) :
    distinctEntries entries = entries := by
  suffices appended : ∀ known : List (String × α), ((known ++ entries).map (·.1)).Nodup →
      entries.foldl (fun known entry => setEntry entry.1 entry.2 known) known = known ++ entries by
    exact appended [] distinct
  clear distinct
  induction entries with
  | nil => exact fun known _ => (List.append_nil known).symm
  | cons entry rest ih =>
      intro known distinct
      have absent : entry.1 ∉ known.map (·.1) := by
        rw [List.map_append, List.nodup_append] at distinct
        exact fun member => distinct.2.2 _ member _ List.mem_cons_self rfl
      rw [List.append_cons] at distinct ⊢
      rw [List.foldl_cons, setEntry_of_absent absent]
      exact ih _ distinct

namespace Record

variable {record : Record} {value : Value}

theorem get?_of_mem (member : (key, value) ∈ record.entries) : record.get? key = some value :=
  entry?_of_mem record.distinct member

theorem get?_foldl_set {entries : List (String × Value)} (distinct : (entries.map (·.1)).Nodup)
    (record : Record) {held : Option Value} (found : entry? key entries = held) :
    (entries.foldl (fun record entry => record.set entry.1 entry.2) record).get? key =
      held.or (record.get? key) := by
  subst found
  induction entries generalizing record with
  | nil => rfl
  | cons entry rest ih =>
      obtain ⟨known, value⟩ := entry
      obtain ⟨absent, distinctRest⟩ := List.nodup_cons.mp distinct
      rw [List.foldl_cons, ih distinctRest]
      by_cases same : known = key
      · subst same
        rw [entry?_of_absent absent, entry?_cons_self, get?_set_self]
        rfl
      · rw [entry?_cons_of_ne same, get?_set_of_ne record value fun equal => same equal.symm]

theorem get?_ofList {entries : List (String × Value)} (distinct : (entries.map (·.1)).Nodup)
    (key : String) : (ofList entries).get? key = entry? key entries := by
  rw [ofList, get?_foldl_set distinct empty rfl]
  exact Option.or_none

end Record

namespace SortedTable

variable {table : SortedTable α}

theorem nodup_keys (table : SortedTable α) : (table.entries.map (·.1)).Nodup := by
  rw [List.Nodup, List.pairwise_map]
  refine table.sorted.imp ?_
  intro left right less same
  rw [same] at less
  exact String.lt_irrefl _ less

theorem get?_eq_some_iff : table.get? key = some value ↔ (key, value) ∈ table.entries :=
  ⟨mem_of_found, entry?_of_mem table.nodup_keys⟩

end SortedTable

end SqlMapper
