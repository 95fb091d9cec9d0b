import Mathlib.Data.List.Perm.Basic

namespace SqlMapper

/-! Lists shared out by a key.

If each item is given to its key, and the keys are pairwise different, what the keys
have together is what there was.
-/

variable {α β κ : Type} [BEq κ] [LawfulBEq κ] {keys : List κ} {items : List α}

theorem perm_flatMap_filter (distinct : keys.Nodup) (key : α → κ) (items : List α) :
    (keys.flatMap fun place => items.filter (key · == place)).Perm
      (items.filter fun item => keys.contains (key item)) := by
  induction keys with
  | nil => simp
  | cons place rest ih =>
      obtain ⟨fresh, distinctRest⟩ := List.nodup_cons.mp distinct
      let taken := items.filter fun item => (place :: rest).contains (key item)
      have own : taken.filter (key · == place) = items.filter (key · == place) := by
        rw [List.filter_filter]
        refine List.filter_congr fun item _ => ?_
        by_cases here : key item = place <;> simp [here]
      have later : taken.filter (fun item => !(key item == place)) =
          items.filter fun item => rest.contains (key item) := by
        rw [List.filter_filter]
        refine List.filter_congr fun item _ => ?_
        by_cases here : key item = place <;> simp [here, fresh]
      rw [List.flatMap_cons]
      refine List.Perm.trans ?_ (List.filter_append_perm (key · == place) taken)
      rw [own, later]
      exact (ih distinctRest).append_left _

theorem perm_of_shared (distinct : keys.Nodup) (key : α → κ)
    (covered : ∀ item ∈ items, key item ∈ keys) :
    (keys.flatMap fun place => items.filter (key · == place)).Perm items := by
  have all : (items.filter fun item => keys.contains (key item)) = items :=
    List.filter_eq_self.mpr fun item member => List.contains_iff_mem.mpr (covered item member)
  have shared := perm_flatMap_filter distinct key items
  rwa [all] at shared

end SqlMapper
