import Mathlib.Data.List.Basic
import SqlMapper.Json.Printer
import SqlMapper.Json.Token
import SqlMapper.Proofs.Decimal.Padded

namespace SqlMapper.Json

/-! Tokens found again.

What the printer writes for a text, a natural number or a word is one token, whatever
comes behind it, as long as the run of characters ends there.
-/

open Decimal (digit? digitValue)

variable {char : Char} {text : String} {after : List Char} {token : Token}

/-! Texts. -/

namespace Token

theorem hexDigit?_digitChar {digit : Nat} (small : digit < 16) :
    hexDigit? (Nat.digitChar digit) = some digit := by
  have all : ∀ digit < 16, hexDigit? (Nat.digitChar digit) = some digit := by decide
  exact all digit small

/-- An escape of two characters. -/
theorem readCodes_escape {mark : Char} {code : Nat} (meant : escape? mark = some code)
    (rest : List Char) :
    readCodes ('\\' :: mark :: rest) =
      (readCodes rest).map fun found => (code :: found.1, found.2) := by
  have other : mark ≠ 'u' := by
    rintro rfl
    cases meant
  rw [readCodes.eq_def]
  split
  · next empty => cases empty
  · next same => cases same
  · next same =>
    cases same
    exact absurd rfl other
  · next same =>
    cases same
    rw [meant]
    cases readCodes rest <;> rfl
  · next _ _ escaped same =>
    cases same
    exact absurd rfl (escaped mark rest rfl)

theorem readCodes_printed (quote : char ≠ '"') (backslash : char ≠ '\\')
    (printed : 0x20 ≤ char.toNat) (rest : List Char) :
    readCodes (char :: rest) =
      (readCodes rest).map fun found => (char.toNat :: found.1, found.2) := by
  rw [readCodes.eq_def]
  split
  · next empty => cases empty
  · next same =>
    cases same
    exact absurd rfl quote
  · next same =>
    cases same
    exact absurd rfl backslash
  · next same =>
    cases same
    exact absurd rfl backslash
  · next same =>
    cases same
    rw [if_neg (by omega)]
    cases readCodes rest <;> rfl

theorem readCodes_escaped (char : Char) (rest : List Char) :
    readCodes (escaped char ++ rest) =
      (readCodes rest).map fun found => (char.toNat :: found.1, found.2) := by
  unfold escaped
  split
  · next same => exact readCodes_escape (by rw [same]; rfl) rest
  split
  · next same => exact readCodes_escape (by rw [same]; rfl) rest
  split
  · next quote backslash printed => exact readCodes_printed quote backslash printed rest
  split
  · next same => exact readCodes_escape (by rw [same]; rfl) rest
  split
  · next same => exact readCodes_escape (by rw [same]; rfl) rest
  split
  · next same => exact readCodes_escape (by rw [same]; rfl) rest
  split
  · next code => exact readCodes_escape (by rw [code]; rfl) rest
  split
  · next code => exact readCodes_escape (by rw [code]; rfl) rest
  · next control _ _ _ _ _ =>
    have high : hexDigit? (Nat.digitChar (char.toNat / 16)) = some (char.toNat / 16) :=
      hexDigit?_digitChar (by omega)
    have low : hexDigit? (Nat.digitChar (char.toNat % 16)) = some (char.toNat % 16) :=
      hexDigit?_digitChar (by omega)
    have zero : hexDigit? '0' = some 0 := by decide
    have whole : 0 * 4096 + 0 * 256 + char.toNat / 16 * 16 + char.toNat % 16 = char.toNat := by
      omega
    simp only [List.cons_append, List.nil_append, readCodes, high, low, zero]
    change (do
      let found ← readCodes rest
      some ((0 * 4096 + 0 * 256 + char.toNat / 16 * 16 + char.toNat % 16) :: found.1, found.2)) = _
    rw [whole]
    cases readCodes rest <;> rfl

theorem readCodes_quoted (chars after : List Char) :
    readCodes (chars.flatMap escaped ++ '"' :: after) = some (chars.map Char.toNat, after) := by
  induction chars with
  | nil => rfl
  | cons char rest ih =>
      rw [List.flatMap_cons, List.append_assoc, readCodes_escaped, ih]
      rfl

theorem joinSurrogates_map_toNat (chars : List Char) :
    joinSurrogates (chars.map Char.toNat) = some chars := by
  induction chars with
  | nil => rfl
  | cons char rest ih =>
      have valid : char.toNat < 0xD800 ∨ 0xDFFF < char.toNat ∧ char.toNat < 0x110000 := char.valid
      rw [List.map_cons, joinSurrogates.eq_def]
      simp only []
      rw [if_neg (by omega), if_neg (by omega), ih, Option.map_some, Char.ofNat_toNat]

theorem scan_quoted (text : String) (after : List Char) :
    scan ((quoted text).toList ++ after) = (scan after).map (.text (some text) :: ·) := by
  rw [quoted, String.toList_ofList, List.append_assoc, List.cons_append, scan,
    if_neg (by decide), if_pos rfl]
  have found := readCodes_quoted text.toList after
  split
  · next missing =>
    rw [List.singleton_append, found] at missing
    cases missing
  · next codes rest read =>
    rw [List.singleton_append, found] at read
    cases read
    rw [joinSurrogates_map_toNat, Option.map_some, String.ofList_toList]

/-! Runs of characters. -/

/-- What comes behind ends a run of characters: it is neither a letter nor part of a numeral. -/
def Breaks (after : List Char) : Prop :=
  ∀ char ∈ after.head?, isNumeralChar char = false ∧ char.isAlpha = false

theorem takeRun_append {accept : Char → Bool} {run : List Char}
    (accepted : ∀ char ∈ run, accept char = true)
    (ended : ∀ char ∈ after.head?, accept char = false) :
    takeRun accept (run ++ after) = (run, after) := by
  induction run with
  | nil =>
      cases after with
      | nil => rfl
      | cons char rest => simp [takeRun, ended char rfl]
  | cons char rest ih =>
      obtain ⟨here, later⟩ := List.forall_mem_cons.mp accepted
      rw [List.cons_append, takeRun, if_pos here, ih later]

theorem scan_punctuation (mark : punctuation? char = some token) (rest : List Char) :
    scan (char :: rest) = (scan rest).map (token :: ·) := by
  have visible : isSpace char = false := by
    unfold punctuation? at mark
    split at mark <;> first | rfl | cases mark
  have unquoted : char ≠ '"' := by
    rintro rfl
    cases mark
  rw [scan, if_neg (by simp [visible]), if_neg unquoted, mark]

/-- A word begins with a letter that begins nothing else. -/
theorem scan_word {first : Char} {letters : List Char}
    (spelled : word? (first :: letters) = some token) (breaks : Breaks after) :
    scan (first :: letters ++ after) = (scan after).map (token :: ·) := by
  have shape : (isSpace first = false ∧ first ≠ '"') ∧ punctuation? first = none ∧
      isNumeralChar first = false ∧ letters.all Char.isAlpha = true := by
    unfold word? at spelled
    split at spelled
    · next same =>
      cases same
      decide
    split at spelled
    · next same =>
      cases same
      decide
    split at spelled
    · next same =>
      cases same
      decide
    · cases spelled
  obtain ⟨⟨visible, unquoted⟩, unmarked, lettered, alpha⟩ := shape
  have run : takeRun Char.isAlpha (letters ++ after) = (letters, after) :=
    takeRun_append (List.all_eq_true.mp alpha) fun char member => (breaks char member).2
  rw [List.cons_append, scan, if_neg (by simp [visible]), if_neg unquoted, unmarked]
  simp only [lettered, run, spelled]
  rfl

/-! Natural numbers. -/

theorem takeDigits_map {digits : List Char} (numeral : ∀ char ∈ digits, char.isDigit = true) :
    Numeral.takeDigits digits = (digits.map digitValue, []) := by
  induction digits with
  | nil => rfl
  | cons char rest ih =>
      obtain ⟨here, later⟩ := List.forall_mem_cons.mp numeral
      rw [Numeral.takeDigits, Decimal.digit?_of_isDigit here, ih later]
      rfl

/-- No zero stands in front of other digits. -/
theorem head?_toDigits {value : Nat} (positive : 0 < value) :
    (Nat.toDigits 10 value).head? ≠ some '0' := by
  induction value using Nat.strongRecOn with
  | ind value ih =>
      by_cases small : value < 10
      · have all : ∀ value < 10, 0 < value → Nat.digitChar value ≠ '0' := by decide
        rw [Nat.toDigits_of_lt_base small, List.head?_cons]
        simpa using all value small positive
      · have leading := ih (value / 10) (by omega) (by omega)
        have present : Nat.toDigits 10 (value / 10) ≠ [] := Nat.toDigits_ne_nil
        rw [Nat.toDigits_of_base_le (by decide) (by omega)]
        rwa [List.head?_append_of_ne_nil _ present]

theorem digitValue_eq_zero_iff (digit : char.isDigit = true) :
    digitValue char = 0 ↔ char = '0' := by
  obtain ⟨lower, _⟩ := Char.isDigit_iff_toNat.mp digit
  have zero : '0'.toNat = 48 := rfl
  rw [← Char.toNat_inj, digitValue]
  omega

theorem ofChars?_toDigits (value : Nat) :
    Numeral.ofChars? (Nat.toDigits 10 value) = some {
      negative := false, whole := (Nat.toDigits 10 value).map digitValue
      fraction := [], exponent := none } := by
  have digits : ∀ char ∈ Nat.toDigits 10 value, char.isDigit = true := fun char member =>
    Nat.isDigit_of_mem_toDigits (by decide) (by decide) member
  have unsigned (rest : List Char) : Nat.toDigits 10 value ≠ '-' :: rest := by
    intro signed
    exact absurd (digits '-' (signed ▸ List.mem_cons_self)) (by decide)
  have proper : 1 < (Nat.toDigits 10 value).length →
      ∀ first, (Nat.toDigits 10 value).head? = some first → ¬ digitValue first = 0 := by
    intro several first front zero
    rw [digitValue_eq_zero_iff (digits first (List.mem_of_mem_head? front))] at zero
    by_cases positive : 0 < value
    · exact head?_toDigits positive (zero ▸ front)
    · rw [Nat.eq_zero_of_not_pos positive, Nat.toDigits_zero] at several
      simp at several
  rw [Numeral.ofChars?]
  · simpa [takeDigits_map digits] using proper
  · exact unsigned

theorem number?_toDigits {value : Nat} (lower : -0x8000000000000000 ≤ (value : Int))
    (upper : (value : Int) < 0x10000000000000000) :
    Numeral.number? {
      negative := false, whole := (Nat.toDigits 10 value).map digitValue
      fraction := [], exponent := none } = some (.whole value lower upper) := by
  have small : value < 0x10000000000000000 := by omega
  have whole : Decimal.ofDigits ((Nat.toDigits 10 value).map digitValue) = value := by
    rw [Decimal.ofDigits_map_digitValue, Nat.ofDigitChars_ten_toDigits]
  rw [Numeral.number?]
  simp only [whole, Numeral.isPlain]
  rw [if_pos (by simpa using small), Number.ofInt?, dif_pos ⟨lower, upper⟩]

/-- A digit begins a numeral. -/
theorem begins_of_isDigit (digit : char.isDigit = true) :
    isSpace char = false ∧ char ≠ '"' ∧ punctuation? char = none := by
  refine ⟨?_, ?_, ?_⟩
  · refine Bool.eq_false_iff.mpr fun space => ?_
    simp only [isSpace, Bool.or_eq_true, decide_eq_true_eq] at space
    rcases space with ((rfl | rfl) | rfl) | rfl <;> cases digit
  · rintro rfl
    cases digit
  · unfold punctuation?
    split <;> first | rfl | cases digit

theorem isNumeralChar_of_isDigit (digit : char.isDigit = true) : isNumeralChar char = true := by
  simp [isNumeralChar, Decimal.digit?_of_isDigit digit]

theorem scan_natural {value : Nat} (lower : -0x8000000000000000 ≤ (value : Int))
    (upper : (value : Int) < 0x10000000000000000) (breaks : Breaks after) :
    scan ((toString value).toList ++ after) =
      (scan after).map (.number (some (.whole value lower upper)) :: ·) := by
  have read := ofChars?_toDigits value
  have number := number?_toDigits lower upper
  have digits : ∀ char ∈ Nat.toDigits 10 value, char.isDigit = true := fun char member =>
    Nat.isDigit_of_mem_toDigits (by decide) (by decide) member
  obtain ⟨first, rest, split⟩ :=
    List.exists_cons_of_ne_nil (Nat.toDigits_ne_nil : Nat.toDigits 10 value ≠ [])
  rw [Nat.toString_eq_ofList_toDigits, String.toList_ofList, split]
  rw [split] at digits read number
  obtain ⟨here, later⟩ := List.forall_mem_cons.mp digits
  obtain ⟨visible, unquoted, unmarked⟩ := begins_of_isDigit here
  have run : takeRun isNumeralChar (rest ++ after) = (rest, after) :=
    takeRun_append (fun char member => isNumeralChar_of_isDigit (later char member))
      fun char member => (breaks char member).1
  rw [List.cons_append, scan, if_neg (by simp [visible]), if_neg unquoted, unmarked]
  simp only [isNumeralChar_of_isDigit here, run, read, if_true, Option.bind_eq_bind,
    Option.bind_some, number]

end Token

end SqlMapper.Json
