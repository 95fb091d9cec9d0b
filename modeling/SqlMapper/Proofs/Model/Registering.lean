import SqlMapper.Model.Registry

namespace SqlMapper.Registry

/-! What a registry holds.

Each model stands under its own name and is what became of a declaration.  So the models are
listed by their names, and no two of them share one.
-/

variable {settings : Settings} {declared : List Model} {registry after : Registry} {model : Model}

/-- The registry has grown out of declarations. -/
structure GrownFrom (declared : List Model) (settings : Settings) (registry : Registry) : Prop where
  settled : registry.settings = settings
  named : ∀ entry ∈ registry.table.entries, entry.1 = entry.2.name
  accepted : ∀ entry ∈ registry.table.entries,
    ∃ declaration ∈ declared, declaration.settled settings = .ok entry.2

theorem GrownFrom.define {declaration : Model} (grown : GrownFrom declared settings registry)
    (member : declaration ∈ declared) (defined : registry.define declaration = .ok after) :
    GrownFrom declared settings after := by
  unfold Registry.define at defined
  rw [grown.settled] at defined
  cases accepted : declaration.settled settings with
  | error error =>
      rw [accepted] at defined
      cases defined
  | ok model =>
      rw [accepted] at defined
      cases defined
      constructor
      · rfl
      · intro entry inside
        rcases mem_insertSorted inside with new | present
        · exact new ▸ rfl
        · exact grown.named entry present
      · intro entry inside
        rcases mem_insertSorted inside with new | present
        · exact ⟨declaration, member, new ▸ accepted⟩
        · exact grown.accepted entry present

theorem grownFrom_foldlM {declarations : List Model} (grown : GrownFrom declared settings registry)
    (members : ∀ declaration ∈ declarations, declaration ∈ declared)
    (defined : declarations.foldlM define registry = .ok after) :
    GrownFrom declared settings after := by
  induction declarations generalizing registry with
  | nil =>
      cases defined
      exact grown
  | cons declaration rest ih =>
      obtain ⟨member, members⟩ := List.forall_mem_cons.mp members
      rw [List.foldlM_cons] at defined
      cases first : registry.define declaration with
      | error error =>
          rw [first] at defined
          cases defined
      | ok next =>
          rw [first] at defined
          exact ih (grown.define member first) members defined

theorem grownFrom_ofModels (registered : ofModels settings declared = .ok registry) :
    GrownFrom declared settings registry :=
  grownFrom_foldlM
    ⟨rfl, fun _ inside => absurd inside List.not_mem_nil,
      fun _ inside => absurd inside List.not_mem_nil⟩
    (fun _ member => member) registered

theorem sorted_of_registered (registered : ofModels settings declared = .ok registry) :
    registry.models.Pairwise fun left right => left.name < right.name := by
  refine List.pairwise_map.mpr (registry.table.sorted.imp_of_mem ?_)
  intro left right first second below
  have named := (grownFrom_ofModels registered).named
  rwa [← named left first, ← named right second]

theorem declared_of_registered (registered : ofModels settings declared = .ok registry)
    (member : model ∈ registry.models) :
    ∃ declaration ∈ declared, declaration.settled settings = .ok model := by
  obtain ⟨entry, inside, same⟩ := List.mem_map.mp member
  subst same
  exact (grownFrom_ofModels registered).accepted entry inside

/-- The registry with a single model. -/
def single (settings : Settings) (model : Model) : Registry :=
  { settings, table := SortedTable.empty.insert model.name model }

theorem models_single (settings : Settings) (model : Model) :
    (single settings model).models = [model] := rfl

theorem ofModels_singleton {declaration : Model}
    (accepted : declaration.settled settings = .ok model) :
    ofModels settings [declaration] = .ok (single settings model) := by
  unfold ofModels
  rw [List.foldlM_cons, define, empty]
  simp only [accepted]
  rfl

end SqlMapper.Registry
