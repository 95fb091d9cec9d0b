import SqlMapper.Proofs.Order.Reading
import SqlMapper.Proofs.Statement.Parts

namespace SqlMapper

/-! Lists of order terms.

A list of terms is cut at every comma before any term is read.  Brackets do not count
then, so a written list is read again as it was exactly if no name in it has a comma.
-/

open Text (isBlank trimmed trimBack trimFront)

variable {chars front back : List Char} {text : String}

/-! What is left of a text without the blanks around it. -/

theorem Text.mem_trimmed {char : Char} (member : char ∈ chars) (solid : isBlank char = false) :
    char ∈ trimmed chars := by
  have kept {chars : List Char} (member : char ∈ chars) : char ∈ chars.dropWhile isBlank := by
    rw [← List.takeWhile_append_dropWhile (p := isBlank) (l := chars), List.mem_append] at member
    refine member.resolve_left fun dropped => ?_
    rw [List.all_eq_true.mp List.all_takeWhile char dropped] at solid
    cases solid
  exact List.mem_reverse.mpr (kept (List.mem_reverse.mpr (kept member)))

theorem exists_part_of_mem {separates : Char → Bool} {char : Char} (member : char ∈ chars)
    (inside : separates char = false) : ∃ part ∈ chars.splitOnP separates, char ∈ part := by
  induction chars with
  | nil => cases member
  | cons first rest ih =>
      rw [List.splitOnP_cons_eq_if_modifyHead]
      obtain ⟨head, parts, split⟩ :=
        List.exists_cons_of_ne_nil (List.splitOnP_ne_nil separates rest)
      rcases List.mem_cons.mp member with same | later
      · rw [if_neg (by simp [← same, inside]), split]
        exact ⟨first :: head, List.mem_cons_self, List.mem_cons.mpr (.inl same)⟩
      · obtain ⟨part, found, here⟩ := ih later
        split
        · exact ⟨part, List.mem_cons_of_mem _ found, here⟩
        · rw [split] at found ⊢
          rcases List.mem_cons.mp found with joined | other
          · exact ⟨first :: head, List.mem_cons_self, List.mem_cons_of_mem _ (joined ▸ here)⟩
          · exact ⟨part, List.mem_cons_of_mem _ other, here⟩

namespace OrderTerm

def isComma (char : Char) : Bool := char = ','

/-- The terms of a text that is cut at its commas. -/
def cutAtCommas (chars : List Char) : List String :=
  ((chars.splitOnP isComma).map trimmed).filter (!·.isEmpty) |>.map String.ofList

theorem splitList_eq (text : String) : splitList text = cutAtCommas text.toList := rfl

theorem cutAtCommas_append (front back : List Char) :
    cutAtCommas (front ++ ',' :: back) = cutAtCommas front ++ cutAtCommas back := by
  have cut : (front ++ ',' :: back).splitOnP isComma =
      front.splitOnP isComma ++ back.splitOnP isComma :=
    List.splitOnP_append_cons front back rfl
  simp only [cutAtCommas, cut, List.map_append, List.filter_append]

theorem cutAtCommas_intercalate (parts : List (List Char)) :
    cutAtCommas ([','].intercalate parts) = parts.flatMap cutAtCommas := by
  induction parts with
  | nil => rfl
  | cons part others ih =>
      cases others with
      | nil => simp
      | cons next others =>
          have later : (part :: next :: others).flatMap cutAtCommas =
              cutAtCommas part ++ (next :: others).flatMap cutAtCommas := List.flatMap_cons
          rw [List.intercalate_cons_cons, List.append_assoc, List.singleton_append,
            cutAtCommas_append, ih, later]

theorem cutAtCommas_of_not_mem (whole : ',' ∉ chars) (trim : trimmed chars = chars)
    (given : chars ≠ []) : cutAtCommas chars = [String.ofList chars] := by
  have single : chars.splitOnP isComma = [chars] := by
    refine List.splitOnP_eq_singleton fun char member => ?_
    exact decide_eq_false fun same => whole (same ▸ member)
  simp [cutAtCommas, single, trim, given]

/-- Text that shows is left of a cut. -/
theorem length_cutAtCommas_pos {char : Char} (member : char ∈ chars)
    (inside : isComma char = false) (solid : isBlank char = false) :
    0 < (cutAtCommas chars).length := by
  obtain ⟨part, found, here⟩ := exists_part_of_mem member inside
  have left : trimmed part ∈ ((chars.splitOnP isComma).map trimmed).filter (!·.isEmpty) := by
    refine List.mem_filter.mpr ⟨List.mem_map_of_mem found, ?_⟩
    simpa using List.ne_nil_of_mem (Text.mem_trimmed here solid)
  rw [cutAtCommas, List.length_map]
  exact List.length_pos_of_mem left

/-! Written lists. -/

variable {term : OrderTerm} {terms : List OrderTerm}

/-- The text of a list of terms, as statements have it. -/
def listed (terms : List OrderTerm) : String :=
  (Sql.separated "," (terms.map sql)).render .sqlServer

theorem splitList_listed (terms : List OrderTerm) :
    splitList (listed terms) =
      terms.flatMap fun term => splitList (term.sql.render .sqlServer) := by
  have comma : ",".toList = [','] := rfl
  rw [splitList_eq, listed, Sql.render_separated, String.toList_intercalate, comma,
    cutAtCommas_intercalate]
  simp only [List.flatMap_map, splitList_eq]

theorem not_mem_render (whole : ',' ∉ term.column.toList) :
    ',' ∉ (term.sql.render .sqlServer).toList := by
  have name : ',' ∉ quoted term.column := by
    simpa [quoted, mem_doubled_iff] using whole
  have ending : ',' ∉ (term.direction.map fun direction =>
      ' ' :: direction.keyword.toList).getD [] := by
    rcases term.direction with _ | _ | _ <;> decide
  rw [toList_render, List.mem_append]
  exact fun member => member.elim name ending

theorem splitList_render (whole : ',' ∉ term.column.toList) :
    splitList (term.sql.render .sqlServer) = [term.sql.render .sqlServer] := by
  have given : (term.sql.render .sqlServer).toList ≠ [] := by
    rw [toList_render]
    exact List.append_ne_nil_of_left_ne_nil (List.cons_ne_nil _ _) _
  rw [splitList_eq, cutAtCommas_of_not_mem (not_mem_render whole) (trimmed_render term) given,
    String.ofList_toList]

theorem length_splitList_pos (term : OrderTerm) :
    0 < (splitList (term.sql.render .sqlServer)).length := by
  rw [splitList_eq, toList_render]
  exact length_cutAtCommas_pos (List.mem_append_left _ List.mem_cons_self) rfl rfl

/-- A comma in a name leaves an opening bracket in one term and a closing one in another. -/
theorem one_lt_length_splitList (cut : ',' ∈ term.column.toList) :
    1 < (splitList (term.sql.render .sqlServer)).length := by
  obtain ⟨before, after, whole⟩ := List.append_of_mem (mem_doubled_iff.mpr cut)
  have text : (term.sql.render .sqlServer).toList = ('[' :: before) ++ ',' :: (after ++ ']' ::
      (term.direction.map fun direction => ' ' :: direction.keyword.toList).getD []) := by
    rw [toList_render, quoted, whole]
    simp
  have opening : 0 < (cutAtCommas ('[' :: before)).length :=
    length_cutAtCommas_pos List.mem_cons_self rfl rfl
  have closing : 0 < (cutAtCommas (after ++ ']' ::
      (term.direction.map fun direction => ' ' :: direction.keyword.toList).getD [])).length :=
    length_cutAtCommas_pos (List.mem_append_right _ List.mem_cons_self) rfl rfl
  rw [splitList_eq, text, cutAtCommas_append, List.length_append]
  omega

theorem splitList_render_iff :
    splitList (term.sql.render .sqlServer) = [term.sql.render .sqlServer] ↔
      ',' ∉ term.column.toList := by
  refine ⟨fun single cut => ?_, splitList_render⟩
  have several := one_lt_length_splitList cut
  rw [single] at several
  exact absurd several (by simp)

theorem length_le_splitList_listed (terms : List OrderTerm) :
    terms.length ≤ (splitList (listed terms)).length := by
  rw [splitList_listed]
  induction terms with
  | nil => exact Nat.le_refl 0
  | cons term terms ih =>
      have here := length_splitList_pos term
      rw [List.flatMap_cons, List.length_append, List.length_cons]
      omega

theorem length_lt_splitList_listed (member : term ∈ terms) (cut : ',' ∈ term.column.toList) :
    terms.length < (splitList (listed terms)).length := by
  obtain ⟨before, after, whole⟩ := List.append_of_mem member
  have here := one_lt_length_splitList cut
  have first := length_le_splitList_listed before
  have later := length_le_splitList_listed after
  rw [splitList_listed] at first later ⊢
  rw [whole, List.flatMap_append, List.flatMap_cons]
  simp only [List.length_append, List.length_cons]
  omega

theorem length_of_mapM_ofText {texts : List String} (read : texts.mapM ofText = .ok terms) :
    terms.length = texts.length := by
  induction texts generalizing terms with
  | nil =>
      cases read
      rfl
  | cons text texts ih =>
      rw [List.mapM_cons] at read
      obtain ⟨term, _, read⟩ := exists_of_bind_eq_ok read
      obtain ⟨rest, others, same⟩ := exists_of_bind_eq_ok read
      cases same
      rw [List.length_cons, List.length_cons, ih others]

theorem mapM_ofText_render
    (visible : ∀ term ∈ terms, ∃ char ∈ term.column.toList, isBlank char = false) :
    (terms.map fun term => term.sql.render .sqlServer).mapM ofText = .ok terms := by
  induction terms with
  | nil => rfl
  | cons term terms ih =>
      obtain ⟨here, others⟩ := List.forall_mem_cons.mp visible
      rw [List.map_cons, List.mapM_cons, ofText_render term here, ih others]
      rfl

theorem splitList_listed_of_whole (whole : ∀ term ∈ terms, ',' ∉ term.column.toList) :
    splitList (listed terms) = terms.map fun term => term.sql.render .sqlServer := by
  rw [splitList_listed, List.map_eq_flatMap]
  exact List.flatMap_congr fun term member => splitList_render (whole term member)

/-- A written list is cut term by term, and a term stays in one piece if its name has no
comma.  The terms that are read are those that were written exactly if no name has one. -/
theorem list_read_again_iff
    (visible : ∀ term ∈ terms, ∃ char ∈ term.column.toList, isBlank char = false) :
    splitList (listed terms) =
        terms.flatMap (fun term => splitList (term.sql.render .sqlServer)) ∧
      (∀ term ∈ terms, splitList (term.sql.render .sqlServer) = [term.sql.render .sqlServer] ↔
        ',' ∉ term.column.toList) ∧
      ((splitList (listed terms)).mapM ofText = .ok terms ↔
        ∀ term ∈ terms, ',' ∉ term.column.toList) := by
  refine ⟨splitList_listed terms, fun term _ => splitList_render_iff, ?_, fun whole => ?_⟩
  · intro read term member cut
    have more := length_lt_splitList_listed member cut
    rw [length_of_mapM_ofText read] at more
    exact Nat.lt_irrefl _ more
  · rw [splitList_listed_of_whole whole]
    exact mapM_ofText_render visible

/-- Brackets, blanks and direction words in names are no hindrance. -/
theorem list_read_again_odd :
    let terms : List OrderTerm := [
      { column := "]] odd desc", direction := some .ascending }, { column := " [a].[b] " },
      { column := "asc", direction := some .descending }]
    (∀ term ∈ terms, ∃ char ∈ term.column.toList, isBlank char = false) ∧
      (splitList (listed terms)).mapM ofText = .ok terms := by
  intro terms
  have visible : ∀ term ∈ terms, ∃ char ∈ term.column.toList, isBlank char = false := by
    simp only [terms, List.forall_mem_cons]
    exact ⟨⟨'d', by decide, rfl⟩, ⟨'a', by decide, rfl⟩, ⟨'s', by decide, rfl⟩, nofun⟩
  exact ⟨visible, (list_read_again_iff visible).2.2.mpr (by decide)⟩

/-- A term with a comma in its name is taken for two terms, and both are read. -/
theorem list_may_be_cut :
    let term : OrderTerm := { column := "last,first", direction := some .descending }
    (∃ char ∈ term.column.toList, isBlank char = false) ∧
      ofText (term.sql.render .sqlServer) = .ok term ∧
      splitList (listed [term]) = ["[last", "first] DESC"] ∧
      (splitList (listed [term])).mapM ofText =
        .ok [{ column := "[last" }, { column := "first]", direction := some .descending }] := by
  intro term
  have visible : ∃ char ∈ term.column.toList, isBlank char = false := ⟨'l', by decide, rfl⟩
  have cut : splitList (listed [term]) = ["[last", "first] DESC"] := by decide
  refine ⟨visible, ofText_render term visible, cut, ?_⟩
  rw [cut]
  rfl

end OrderTerm

end SqlMapper
