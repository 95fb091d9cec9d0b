import SqlMapper.Model.Basic
import SqlMapper.Proofs.Text.Names

namespace SqlMapper

/-! Made-up names of indexes.

A made-up name shows the fields of an index one after the other, its kind and its
leading direction, and nothing else.  So two of them agree exactly if these
three do; the fields can be read back if no field has an underscore in its name.
-/

open Text (sameName lowerAscii)

variable {left right : Index} {kind : IndexKind} {direction : Direction}

/-! Folded text. -/

def folded (text : String) : List Char :=
  text.toList.map Char.toLower

theorem sameName_iff_folded {left right : String} :
    sameName left right = true ↔ folded left = folded right := by
  rw [Text.sameName_iff, lowerAscii, lowerAscii, String.ofList_inj]
  rfl

theorem folded_append (left right : String) :
    folded (left ++ right) = folded left ++ folded right := by
  simp [folded]

theorem underscore_mem_folded {text : String} (member : '_' ∈ folded text) :
    '_' ∈ text.toList := by
  obtain ⟨char, present, lowered⟩ := List.mem_map.mp member
  have code : char.toLower.toNat = 95 := by rw [lowered]; rfl
  rcases Text.toLower_cases char with same | ⟨low, high, moved⟩
  · rw [← lowered, same]
    exact present
  · omega

/-- Texts without underscores are told apart when an underscore follows each of them. -/
theorem append_underscore_inj {front back frontRest backRest : List Char}
    (frontFree : '_' ∉ front) (backFree : '_' ∉ back)
    (same : front ++ '_' :: frontRest = back ++ '_' :: backRest) :
    front = back ∧ frontRest = backRest := by
  have cut {chars rest : List Char} (free : '_' ∉ chars) :
      (chars ++ '_' :: rest).takeWhile (· != '_') = chars := by
    have plain : ∀ char ∈ chars, (char != '_') = true := by
      intro char member
      rw [bne_iff_ne]
      intro same
      exact free (same ▸ member)
    rw [List.takeWhile_append_of_pos plain]
    simp
  have fronts := congrArg (List.takeWhile (· != '_')) same
  rw [cut frontFree, cut backFree] at fronts
  subst fronts
  exact ⟨rfl, (List.cons.inj (List.append_cancel_left same)).2⟩

theorem fields_of_flatMap {lefts rights : List String}
    (leftFree : ∀ field ∈ lefts, '_' ∉ field.toList)
    (rightFree : ∀ field ∈ rights, '_' ∉ field.toList)
    (same : lefts.flatMap (fun field => folded field ++ ['_']) =
      rights.flatMap fun field => folded field ++ ['_']) :
    lefts.map lowerAscii = rights.map lowerAscii := by
  induction lefts generalizing rights with
  | nil =>
      cases rights with
      | nil => rfl
      | cons field rest => simp at same
  | cons first lefts ih =>
      cases rights with
      | nil => simp at same
      | cons second rights =>
          simp only [List.flatMap_cons, List.append_assoc, List.singleton_append] at same
          obtain ⟨fields, rest⟩ := append_underscore_inj
            (fun member => leftFree first List.mem_cons_self (underscore_mem_folded member))
            (fun member => rightFree second List.mem_cons_self (underscore_mem_folded member)) same
          have tail := ih (fun field member => leftFree field (List.mem_cons_of_mem _ member))
            (fun field member => rightFree field (List.mem_cons_of_mem _ member)) rest
          rw [List.map_cons, List.map_cons, tail]
          exact congrArg (· :: _) (Text.sameName_iff.mp (sameName_iff_folded.mpr fields))

namespace Index

/-- The part of a made-up name that shows the fields. -/
def stem (index : Index) : String :=
  String.join (index.columns.map fun column => column.field ++ "_")

/-- The part of a made-up name behind the fields. -/
def ending (kind : IndexKind) (direction : Direction) : String :=
  kind.keyword ++ "_" ++ direction.keyword ++ "_idx"

theorem madeUpName_eq (index : Index) :
    index.madeUpName = index.stem ++ ending index.kind index.leadingDirection := by
  simp only [madeUpName, stem, ending, String.append_assoc]

theorem folded_stem (index : Index) :
    folded index.stem = index.fields.flatMap fun field => folded field ++ ['_'] := by
  have underscore : folded "_" = ['_'] := rfl
  unfold stem fields
  induction index.columns with
  | nil => rfl
  | cons column rest ih =>
      simp only [List.map_cons, String.join_cons, folded_append, List.flatMap_cons, ih, underscore]

theorem getLast?_folded_stem (index : Index) :
    folded index.stem = [] ∨ (folded index.stem).getLast? = some '_' := by
  rw [folded_stem]
  rcases List.eq_nil_or_concat index.fields with none | ⟨front, last, split⟩
  · left
    rw [none]
    rfl
  · right
    rw [split]
    simp [List.flatMap_append]

/-- What stands in front of two different endings is not the same text, unless it
goes on with letters, which a stem does not. -/
theorem ending_inj {front back : List Char} {otherKind : IndexKind} {otherDirection : Direction}
    (frontEnds : front = [] ∨ front.getLast? = some '_')
    (backEnds : back = [] ∨ back.getLast? = some '_')
    (same : front ++ folded (ending kind direction) =
      back ++ folded (ending otherKind otherDirection)) :
    front = back ∧ kind = otherKind ∧ direction = otherDirection := by
  have directions : direction = otherDirection := by
    have reversed := congrArg List.reverse same
    cases kind <;> cases otherKind <;> cases direction <;> cases otherDirection <;>
      simp [folded, ending, IndexKind.keyword, Direction.keyword] at reversed ⊢
  subst directions
  have longer (direction : Direction) : folded (ending .nonclustered direction) =
      ['n', 'o', 'n'] ++ folded (ending .clustered direction) := by
    cases direction <;> rfl
  have apart {short long : List Char} (ends : short = [] ∨ short.getLast? = some '_')
      (equal : short ++ folded (ending .clustered direction) =
        long ++ folded (ending .nonclustered direction)) : False := by
    rw [longer, ← List.append_assoc] at equal
    have grown := List.append_cancel_right equal
    rcases ends with empty | last
    · rw [empty] at grown
      simp at grown
    · rw [grown] at last
      simp at last
  cases kind with
  | clustered =>
      cases otherKind with
      | clustered => exact ⟨List.append_cancel_right same, rfl, rfl⟩
      | nonclustered => exact (apart frontEnds same).elim
  | nonclustered =>
      cases otherKind with
      | clustered => exact (apart backEnds same.symm).elim
      | nonclustered => exact ⟨List.append_cancel_right same, rfl, rfl⟩

theorem sameName_madeUpName :
    sameName left.madeUpName right.madeUpName = true ↔
      sameName left.stem right.stem = true ∧ left.kind = right.kind ∧
        left.leadingDirection = right.leadingDirection := by
  rw [sameName_iff_folded, sameName_iff_folded, madeUpName_eq, madeUpName_eq, folded_append,
    folded_append]
  constructor
  · exact ending_inj (getLast?_folded_stem left) (getLast?_folded_stem right)
  · rintro ⟨stems, kinds, directions⟩
    rw [stems, kinds, directions]

/-- Fields without underscores can be read back from the stem. -/
theorem fields_of_sameName_stem (leftFree : ∀ field ∈ left.fields, '_' ∉ field.toList)
    (rightFree : ∀ field ∈ right.fields, '_' ∉ field.toList)
    (same : sameName left.stem right.stem = true) :
    left.fields.map lowerAscii = right.fields.map lowerAscii := by
  rw [sameName_iff_folded, folded_stem, folded_stem] at same
  exact fields_of_flatMap leftFree rightFree same

end Index

end SqlMapper
