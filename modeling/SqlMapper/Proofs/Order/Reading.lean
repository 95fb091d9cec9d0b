import SqlMapper.Proofs.Order.Directions
import SqlMapper.Proofs.Statement.References
import SqlMapper.Proofs.Text.Blank

namespace SqlMapper

/-! Reading order terms.

A term divides into a name and the direction behind it, if its last word is one.  What
is read is the name out of its brackets, and there is nothing to read in exactly the
terms whose name or direction is no good.  A term that is written is read again as it
was.
-/

open Text (isBlank trimmed trimBack trimFront sameName)

variable {chars front word name column inner : List Char} {direction : Direction}

namespace OrderTerm

/-! The name and the direction. -/

/-- How a text divides into a name and the direction word behind it.  A last word that
stands alone is the name, whatever it spells. -/
inductive Divides (chars : List Char) : List Char → Option (List Char × Direction) → Prop where
  | directed {front word : List Char} {direction : Direction}
      (last : Text.LastWord chars front word) (preceded : front ≠ [])
      (spelled : Spells word direction) : Divides chars (trimmed front) (some (word, direction))
  | bare {front word : List Char} (last : Text.LastWord chars front word)
      (other : ∀ direction, Spells word direction → front = []) : Divides chars chars none

variable {ending : Option (List Char × Direction)}

theorem exists_divides (chars : List Char) : ∃ name ending, Divides chars name ending := by
  obtain ⟨front, word, last⟩ := Text.exists_lastWord chars
  by_cases directed : front ≠ [] ∧ ∃ direction, Spells word direction
  · obtain ⟨preceded, direction, spelled⟩ := directed
    exact ⟨_, _, .directed last preceded spelled⟩
  · refine ⟨_, _, .bare last fun direction spelled => ?_⟩
    exact Classical.byContradiction fun preceded => directed ⟨preceded, direction, spelled⟩

theorem cutDirection_of_divides (divides : Divides chars name ending)
    (solid : ∀ char ∈ chars.head?, isBlank char = false) :
    cutDirection chars = (name, ending.map (·.1)) := by
  cases divides with
  | directed last preceded spelled =>
      rename_i front word direction
      obtain ⟨wordIs, frontIs⟩ := last.eq
      have head : trimFront front = front := by
        refine Text.trimFront_of_head fun char first => solid char ?_
        rw [last.whole, List.head?_append, Option.mem_def.mp first]
        rfl
      simp only [cutDirection, wordIs, frontIs]
      rw [if_pos (by simpa [preceded] using isDirectionWord_iff.mpr ⟨direction, spelled⟩), trimmed,
        head]
      rfl
  | bare last other =>
      rename_i front word
      obtain ⟨wordIs, frontIs⟩ := last.eq
      simp only [cutDirection, wordIs, frontIs]
      rw [if_neg]
      · rfl
      · intro directed
        obtain ⟨found, preceded⟩ := (Bool.and_eq_true _ _).mp directed
        obtain ⟨direction, spelled⟩ := isDirectionWord_iff.mp found
        rw [other direction spelled] at preceded
        cases preceded

theorem Divides.unique {other : List Char} {ending' : Option (List Char × Direction)}
    (divides : Divides chars name ending) (again : Divides chars other ending')
    (solid : ∀ char ∈ chars.head?, isBlank char = false) : name = other ∧ ending = ending' := by
  have cut := (cutDirection_of_divides divides solid).symm.trans
    (cutDirection_of_divides again solid)
  obtain ⟨sameName, sameWord⟩ := Prod.mk.inj cut
  refine ⟨sameName, ?_⟩
  cases divides with
  | bare => cases again with
    | bare => rfl
    | directed => cases sameWord
  | directed _ _ spelled => cases again with
    | bare => cases sameWord
    | directed _ _ spelledAgain =>
        cases sameWord
        rw [spelled.unique spelledAgain]

/-! Names in brackets. -/

/-- A name in brackets stands for its inside, in which each pair of closing brackets is
one of them; any other name for itself. -/
inductive Unwraps : List Char → List Char → Prop where
  | bracketed (inner : List Char) : Unwraps ('[' :: (inner ++ [']'])) (undoubled ']' inner)
  | plain {name : List Char} (bare : ∀ inner, name ≠ '[' :: (inner ++ [']'])) : Unwraps name name

theorem unbracketed_bracketed (inner : List Char) :
    unbracketed ('[' :: (inner ++ [']'])) = undoubled ']' inner := by
  rw [unbracketed, if_pos List.getLast?_concat, List.dropLast_concat]

theorem unbracketed_plain (bare : ∀ inner, name ≠ '[' :: (inner ++ [']'])) :
    unbracketed name = name := by
  unfold unbracketed
  split
  · next rest =>
    split
    · next closed =>
      obtain ⟨inner, same⟩ := List.getLast?_eq_some_iff.mp closed
      exact absurd (congrArg _ same) (bare inner)
    · rfl
  · rfl

theorem unwraps_iff : Unwraps name column ↔ unbracketed name = column := by
  constructor
  · rintro (inner | bare)
    · exact unbracketed_bracketed inner
    · exact unbracketed_plain bare
  · rintro rfl
    by_cases bracketed : ∃ inner, name = '[' :: (inner ++ [']'])
    · obtain ⟨inner, same⟩ := bracketed
      rw [same, unbracketed_bracketed]
      exact .bracketed inner
    · have bare : ∀ inner, name ≠ '[' :: (inner ++ [']']) := fun inner same =>
        bracketed ⟨inner, same⟩
      rw [unbracketed_plain bare]
      exact .plain bare

/-- A name that is no good: nothing, a direction in its place, or blanks alone. -/
def RefusedName (name : List Char) : Prop :=
  name = [] ∨ sameName (String.ofList name) "asc" = true ∨
    sameName (String.ofList name) "desc" = true ∨
    ∃ column, Unwraps name column ∧ ∀ char ∈ column, isBlank char = true

theorem refusedName_iff : RefusedName name ↔
    ((Direction.ofWord? (String.ofList name)).isSome || (unbracketed name).all isBlank) = true := by
  have direction : (Direction.ofWord? (String.ofList name)).isSome = true ↔
      sameName (String.ofList name) "asc" = true ∨ sameName (String.ofList name) "desc" = true := by
    unfold Direction.ofWord?
    split
    · simp_all
    · split <;> simp_all
  rw [Bool.or_eq_true, direction, List.all_eq_true]
  unfold RefusedName
  simp only [unwraps_iff, exists_eq_left']
  constructor
  · rintro (empty | ascending | descending | blank)
    · subst empty
      exact .inr fun char member => absurd member List.not_mem_nil
    · exact .inl (.inl ascending)
    · exact .inl (.inr descending)
    · exact .inr blank
  · rintro ((ascending | descending) | blank)
    · exact .inr (.inl ascending)
    · exact .inr (.inr (.inl descending))
    · exact .inr (.inr (.inr blank))

/-! Terms. -/

variable {text : String}

theorem ofText_of_refused (divides : Divides (trimmed text.toList) name ending)
    (refused : RefusedName name) : ofText text = .error (.invalidOrder text) := by
  have cut := cutDirection_of_divides divides (Text.head_trimmed _)
  simp only [ofText, cut]
  rw [if_pos (refusedName_iff.mp refused)]
  rfl

theorem ofText_of_foreign (divides : Divides (trimmed text.toList) name (some (word, direction)))
    (accepted : ¬ RefusedName name) (foreign : ¬ IsPlain word) :
    ofText text = .error (.invalidOrder (String.ofList word)) := by
  have cut := cutDirection_of_divides divides (Text.head_trimmed _)
  have unread : Direction.ofWord? (String.ofList word) = none := by
    cases read : Direction.ofWord? (String.ofList word) with
    | none => rfl
    | some other => exact absurd (ofWord?_eq_some_iff_spells.mp read).2 foreign
  simp only [ofText, cut]
  rw [if_neg (refusedName_iff.not.mp accepted)]
  simp only [Option.map_some, Direction.ofWord, unread]
  rfl

theorem ofText_of_accepted (divides : Divides (trimmed text.toList) name ending)
    (accepted : ¬ RefusedName name) (plain : ∀ word ∈ ending.map (·.1), IsPlain word) :
    ofText text = .ok {
      column := String.ofList (unbracketed name), direction := ending.map (·.2) } := by
  have cut := cutDirection_of_divides divides (Text.head_trimmed _)
  simp only [ofText, cut]
  rw [if_neg (refusedName_iff.not.mp accepted)]
  cases divides with
  | bare => rfl
  | directed _ _ spelled =>
      have read := ofWord?_eq_some_iff_spells.mpr ⟨spelled, plain _ rfl⟩
      simp only [Option.map_some, Direction.ofWord, read]
      rfl

/-- What becomes of a term. -/
theorem ofText_cases (divides : Divides (trimmed text.toList) name ending) :
    RefusedName name ∧ ofText text = .error (.invalidOrder text) ∨
      ¬ RefusedName name ∧ (∃ word ∈ ending.map (·.1), ¬ IsPlain word ∧
        ofText text = .error (.invalidOrder (String.ofList word))) ∨
      ¬ RefusedName name ∧ (∀ word ∈ ending.map (·.1), IsPlain word) ∧
        ofText text = .ok {
          column := String.ofList (unbracketed name), direction := ending.map (·.2) } := by
  by_cases refused : RefusedName name
  · exact .inl ⟨refused, ofText_of_refused divides refused⟩
  · by_cases plain : ∀ word ∈ ending.map (·.1), IsPlain word
    · exact .inr (.inr ⟨refused, plain, ofText_of_accepted divides refused plain⟩)
    · refine .inr (.inl ⟨refused, ?_⟩)
      simp only [not_forall] at plain
      obtain ⟨word, given, foreign⟩ := plain
      obtain ⟨⟨_, direction⟩, same, rfl⟩ := Option.map_eq_some_iff.mp given
      subst same
      exact ⟨_, rfl, foreign, ofText_of_foreign divides refused foreign⟩

/-! Written terms. -/

def quoted (column : String) : List Char :=
  '[' :: (doubled ']' column.toList ++ [']'])

theorem undoubled_cons_of_ne {first : Char} (different : first ≠ ']') (rest : List Char) :
    undoubled ']' (first :: rest) = first :: undoubled ']' rest := by
  cases rest with
  | nil => rfl
  | cons second rest => rw [undoubled, if_neg fun both => different both.1]

theorem undoubled_doubled (chars : List Char) : undoubled ']' (doubled ']' chars) = chars := by
  induction chars with
  | nil => rfl
  | cons char chars ih =>
      by_cases same : char = ']'
      · subst same
        rw [doubled_cons_self, undoubled, if_pos ⟨rfl, rfl⟩, ih]
      · rw [doubled_cons_of_ne same, undoubled_cons_of_ne same, ih]

theorem unbracketed_quoted (column : String) : unbracketed (quoted column) = column.toList := by
  rw [quoted, unbracketed_bracketed, undoubled_doubled]

theorem not_refusedName_quoted {column : String}
    (visible : ∃ char ∈ column.toList, isBlank char = false) : ¬ RefusedName (quoted column) := by
  have apart {text : String} (letter : text.toList.head?.map Char.toLower ≠ some '[') :
      sameName (String.ofList (quoted column)) text ≠ true := by
    intro same
    rw [Text.sameName_iff, Text.lowerAscii, Text.lowerAscii, String.ofList_inj,
      String.toList_ofList] at same
    have heads := congrArg List.head? same
    rw [List.head?_map, List.head?_map] at heads
    exact letter heads.symm
  rintro (empty | ascending | descending | ⟨inside, unwraps, blank⟩)
  · cases empty
  · exact apart (by decide) ascending
  · exact apart (by decide) descending
  · obtain ⟨char, member, solid⟩ := visible
    rw [unwraps_iff, unbracketed_quoted] at unwraps
    rw [blank char (unwraps ▸ member)] at solid
    cases solid

theorem head?_quoted (column : String) :
    ∀ char ∈ (quoted column).head?, isBlank char = false := by
  rintro char ⟨⟩
  decide

theorem getLast?_quoted (column : String) :
    ∀ char ∈ (quoted column).getLast?, isBlank char = false := by
  intro char last
  rw [quoted, ← List.cons_append, List.getLast?_concat] at last
  cases last
  decide

/-- A name in brackets ends in no direction, whatever stands in it. -/
theorem divides_quoted (column : String) : Divides (quoted column) (quoted column) none := by
  obtain ⟨front, word, last⟩ := Text.exists_lastWord (quoted column)
  refine .bare last fun direction spelled => ?_
  have closing : (quoted column).getLast? = some ']' := by
    rw [quoted, ← List.cons_append, List.getLast?_concat]
  have ends := getLast?_of_spells spelled
  rw [last.whole, List.getLast?_append] at closing
  cases final : word.getLast? with
  | none => simp [final] at ends
  | some char =>
      rw [final] at closing ends
      cases closing
      exact absurd ends (by decide)

theorem divides_directed (column : String) (direction : Direction) :
    Divides (quoted column ++ ' ' :: direction.keyword.toList) (quoted column)
      (some (direction.keyword.toList, direction)) := by
  have last : Text.LastWord (quoted column ++ ' ' :: direction.keyword.toList)
      (quoted column ++ [' ']) direction.keyword.toList := {
    whole := by simp
    solid := Text.solid_of_all (by cases direction <;> decide)
    apart := by
      rintro char ends
      rw [List.getLast?_concat] at ends
      cases ends
      decide }
  have name : trimmed (quoted column ++ [' ']) = quoted column := by
    have front : trimFront (quoted column ++ [' ']) = quoted column ++ [' '] :=
      Text.trimFront_of_head (by rintro char ⟨⟩; decide)
    have back : trimBack (quoted column ++ [' ']) = trimBack (quoted column) := by
      simp [trimBack, isBlank]
    rw [trimmed, front, back, Text.trimBack_of_getLast (getLast?_quoted column)]
  have divides := Divides.directed last (by simp) (spells_keyword direction)
  rwa [name] at divides

theorem toList_render (term : OrderTerm) :
    (term.sql.render .sqlServer).toList = quoted term.column ++
      (term.direction.map fun direction => ' ' :: direction.keyword.toList).getD [] := by
  obtain ⟨column, _ | direction⟩ := term <;>
    simp [sql, Piece.render, Sql.toList_quote, quoted]

/-- What is written of a term has no blanks at its ends. -/
theorem trimmed_render (term : OrderTerm) :
    trimmed (term.sql.render .sqlServer).toList = (term.sql.render .sqlServer).toList := by
  obtain ⟨column, _ | direction⟩ := term
  · rw [toList_render, Text.trimmed_of_ends]
    · simpa using head?_quoted column
    · simpa using getLast?_quoted column
  · rw [toList_render, Text.trimmed_of_ends]
    · exact head?_quoted column
    · have ends : (quoted column ++ ' ' :: direction.keyword.toList).getLast? = some 'C' := by
        rw [List.getLast?_append_of_ne_nil _ (List.cons_ne_nil _ _)]
        cases direction <;> decide
      intro char last
      cases ends.symm.trans last
      decide

theorem divides_render (term : OrderTerm) :
    Divides (trimmed (term.sql.render .sqlServer).toList) (quoted term.column)
      (term.direction.map fun direction => (direction.keyword.toList, direction)) := by
  rw [trimmed_render, toList_render]
  obtain ⟨column, _ | direction⟩ := term
  · simpa using divides_quoted column
  · exact divides_directed column direction

/-- What is written of a term is read as that term. -/
theorem ofText_render (term : OrderTerm)
    (visible : ∃ char ∈ term.column.toList, isBlank char = false) :
    ofText (term.sql.render .sqlServer) = .ok term := by
  rw [ofText_of_accepted (divides_render term) (not_refusedName_quoted visible),
    unbracketed_quoted, String.ofList_toList]
  · obtain ⟨column, direction⟩ := term
    cases direction <;> rfl
  · intro word given
    obtain ⟨column, _ | direction⟩ := term
    · cases given
    · cases given
      cases direction <;> decide

/-- Every text divides in one way.  It is refused for its name or for a direction in
letters that are not plain, and otherwise read as its name, out of the brackets, and its
direction.  So a term whose name shows is read again as it was written. -/
theorem ofText_exact :
    (∀ text : String, ∃ name ending,
      (∀ other ending', Divides (trimmed text.toList) other ending' ↔
        other = name ∧ ending' = ending) ∧
      ((∃ error, ofText text = .error error) ↔
        RefusedName name ∨ ∃ word ∈ ending.map (·.1), ¬ IsPlain word) ∧
      ∀ term, ofText text = .ok term ↔
        ¬ RefusedName name ∧ (∀ word ∈ ending.map (·.1), IsPlain word) ∧
          Unwraps name term.column.toList ∧ term.direction = ending.map (·.2)) ∧
    ∀ term : OrderTerm, (∃ char ∈ term.column.toList, isBlank char = false) →
      ofText (term.sql.render .sqlServer) = .ok term := by
  refine ⟨fun text => ?_, ofText_render⟩
  obtain ⟨name, ending, divides⟩ := exists_divides (trimmed text.toList)
  refine ⟨name, ending, fun other ending' => ⟨fun again => ?_, ?_⟩, ?_⟩
  · exact again.unique divides (Text.head_trimmed _)
  · rintro ⟨rfl, rfl⟩
    exact divides
  · rcases ofText_cases divides with
      ⟨refused, done⟩ | ⟨accepted, word, given, foreign, done⟩ | ⟨accepted, plain, done⟩
    · rw [done]
      exact ⟨⟨fun _ => .inl refused, fun _ => ⟨_, rfl⟩⟩,
        fun term => ⟨nofun, fun read => absurd refused read.1⟩⟩
    · rw [done]
      exact ⟨⟨fun _ => .inr ⟨word, given, foreign⟩, fun _ => ⟨_, rfl⟩⟩,
        fun term => ⟨nofun, fun read => absurd (read.2.1 word given) foreign⟩⟩
    · rw [done]
      refine ⟨⟨nofun, ?_⟩, fun term => ?_⟩
      · rintro (refused | ⟨word, given, foreign⟩)
        · exact absurd refused accepted
        · exact absurd (plain word given) foreign
      · constructor
        · intro same
          cases same
          exact ⟨accepted, plain, unwraps_iff.mpr String.toList_ofList.symm, rfl⟩
        · rintro ⟨_, _, unwraps, directed⟩
          rw [unwraps_iff.mp unwraps, String.ofList_toList, ← directed]

/-- A name full of brackets behind which a direction seems to stand is read again, and a
direction with a long s is one that is refused. -/
theorem ofText_exact_odd :
    ofText ((sql { column := "]] odd desc", direction := some .ascending }).render .sqlServer) =
        .ok { column := "]] odd desc", direction := some .ascending } ∧
      ∃ error, ofText "name a\u017Fc" = .error error := by
  obtain ⟨read, written⟩ := ofText_exact
  refine ⟨written _ ⟨'o', by decide, by decide⟩, ?_⟩
  obtain ⟨name, ending, divides, fails, _⟩ := read "name a\u017Fc"
  have last : Text.LastWord (trimmed "name a\u017Fc".toList) "name ".toList "a\u017Fc".toList := {
    whole := by decide
    solid := Text.solid_of_all (by decide)
    apart := by rintro char ⟨⟩; decide }
  have spelled : Spells "a\u017Fc".toList .ascending := spells_iff.mpr (by decide)
  obtain ⟨rfl, rfl⟩ := (divides _ _).mp (.directed last (by decide) spelled)
  exact fails.mpr (.inr ⟨_, rfl, by decide⟩)

end OrderTerm

end SqlMapper
