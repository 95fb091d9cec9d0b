import SqlMapper.Text.Blank

namespace SqlMapper.Text

/-! Texts without blanks at their ends are left alone by `trim`. -/

theorem trimFront_of_head {chars : List Char}
    (solid : ∀ char ∈ chars.head?, isBlank char = false) : trimFront chars = chars := by
  cases chars with
  | nil => rfl
  | cons first rest => exact trimFront_cons_of_not_blank (solid first rfl)

theorem trimBack_of_getLast {chars : List Char}
    (solid : ∀ char ∈ chars.getLast?, isBlank char = false) : trimBack chars = chars := by
  rw [← List.head?_reverse] at solid
  have kept : chars.reverse.dropWhile isBlank = chars.reverse := trimFront_of_head solid
  rw [trimBack, kept, List.reverse_reverse]

theorem trimmed_of_ends {chars : List Char}
    (front : ∀ char ∈ chars.head?, isBlank char = false)
    (back : ∀ char ∈ chars.getLast?, isBlank char = false) : trimmed chars = chars := by
  rw [trimmed, trimFront_of_head front, trimBack_of_getLast back]

theorem head_trimmed (chars : List Char) :
    ∀ char ∈ (trimmed chars).head?, isBlank char = false := by
  intro char first
  have front : trimmed chars <+: trimFront chars := by
    have dropped := List.reverse_prefix.mpr
      (List.dropWhile_suffix (l := (trimFront chars).reverse) isBlank)
    rwa [List.reverse_reverse] at dropped
  obtain ⟨rest, same⟩ := front
  have stopped := List.head?_dropWhile_not isBlank chars
  rw [← trimFront, ← same, List.head?_append, Option.mem_def.mp first] at stopped
  simpa using stopped

theorem trim_of_ends {text : String}
    (front : ∀ char ∈ text.toList.head?, isBlank char = false)
    (back : ∀ char ∈ text.toList.getLast?, isBlank char = false) : trim text = text := by
  rw [trim, trimmed_of_ends front back, String.ofList_toList]

theorem isBlank_of_isDigit {char : Char} (digit : char.isDigit = true) : isBlank char = false := by
  obtain ⟨lower, upper⟩ := Char.isDigit_iff_toNat.mp digit
  have zero : '0'.toNat = 48 := rfl
  have nine : '9'.toNat = 57 := rfl
  simp [isBlank]
  omega

/-! Words hold no blanks, so they are the words of themselves. -/

theorem solid_of_mem_splitOnP {chars part : List Char} (member : part ∈ chars.splitOnP isBlank) :
    ∀ char ∈ part, isBlank char = false := by
  induction chars generalizing part with
  | nil =>
      rw [List.splitOnP_nil, List.mem_singleton] at member
      exact member ▸ fun _ inside => absurd inside List.not_mem_nil
  | cons first rest ih =>
      rw [List.splitOnP_cons_eq_if_modifyHead] at member
      split at member
      · rcases List.mem_cons.mp member with empty | later
        · exact empty ▸ fun _ inside => absurd inside List.not_mem_nil
        · exact ih later
      · next solid =>
        -- The first character joins the first part of the rest.
        obtain ⟨head, parts, split⟩ :=
          List.exists_cons_of_ne_nil (List.splitOnP_ne_nil isBlank rest)
        rw [split] at member ih
        rcases List.mem_cons.mp member with joined | later
        · rw [joined]
          exact List.forall_mem_cons.mpr ⟨by simpa using solid, ih List.mem_cons_self⟩
        · exact ih (List.mem_cons_of_mem _ later)

/-- A text that is one of the words of a text. -/
structure IsWord (word : String) : Prop where
  solid : ∀ char ∈ word.toList, isBlank char = false
  present : word.toList ≠ []

theorem isWord_of_mem_words {text word : String} (member : word ∈ words text) : IsWord word := by
  obtain ⟨part, kept, same⟩ := List.mem_map.mp member
  obtain ⟨inside, present⟩ := List.mem_filter.mp kept
  subst same
  constructor
  · rw [String.toList_ofList]
    exact solid_of_mem_splitOnP inside
  · rw [String.toList_ofList]
    exact List.isEmpty_eq_false_iff.mp (by simpa using present)

theorem IsWord.words_eq {word : String} (single : IsWord word) : words word = [word] := by
  rw [words, List.splitOnP_eq_singleton single.solid]
  simp [List.isEmpty_eq_false_iff.mpr single.present]

theorem IsWord.words_append {word : String} (single : IsWord word) {char : Char}
    (blank : isBlank char = true) (rest : String) :
    words (word ++ String.ofList (char :: rest.toList)) = word :: words rest := by
  rw [words, String.toList_append, String.toList_ofList,
    List.splitOnP_append_cons_of_forall_mem single.solid _ blank]
  simp [List.isEmpty_eq_false_iff.mpr single.present, words]

/-! The last word of a text. -/

variable {chars front word : List Char}

/-- The last run of characters without blanks, and what stands in front of it. -/
structure LastWord (chars front word : List Char) : Prop where
  whole : chars = front ++ word
  solid : ∀ char ∈ word, isBlank char = false
  apart : ∀ char ∈ front.getLast?, isBlank char = true

theorem solid_of_all (checked : word.all (fun char => !isBlank char) = true) :
    ∀ char ∈ word, isBlank char = false := by
  simpa using checked

theorem exists_lastWord (chars : List Char) : ∃ front word, LastWord chars front word := by
  let solid := fun char => !isBlank char
  refine ⟨(chars.reverse.dropWhile solid).reverse, (chars.reverse.takeWhile solid).reverse,
    ?_, ?_, ?_⟩
  · rw [← List.reverse_append, List.takeWhile_append_dropWhile, List.reverse_reverse]
  · intro char member
    have taken := List.all_eq_true.mp List.all_takeWhile char (List.mem_reverse.mp member)
    simpa [solid] using taken
  · intro char last
    rw [List.getLast?_reverse] at last
    have stopped := List.head?_dropWhile_not solid chars.reverse
    rw [Option.mem_def.mp last] at stopped
    simpa [solid] using stopped

theorem LastWord.eq (last : LastWord chars front word) :
    (chars.reverse.takeWhile fun char => !isBlank char).reverse = word ∧
      (chars.reverse.dropWhile fun char => !isBlank char).reverse = front := by
  obtain ⟨whole, solid, apart⟩ := last
  have taken : ∀ char ∈ word.reverse, (!isBlank char) = true := by
    simpa using solid
  subst whole
  rw [List.reverse_append, List.takeWhile_append_of_pos taken, List.dropWhile_append_of_pos taken]
  rw [← List.head?_reverse] at apart
  cases backwards : front.reverse with
  | nil => simp [List.reverse_eq_nil_iff.mp backwards]
  | cons char others =>
      have stop : isBlank char = true := apart char (by rw [backwards]; rfl)
      have straight : front = (char :: others).reverse := by rw [← backwards, List.reverse_reverse]
      simp [stop, straight]

end SqlMapper.Text
