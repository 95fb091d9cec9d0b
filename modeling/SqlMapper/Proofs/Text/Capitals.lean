import Mathlib.Data.List.Chain
import SqlMapper.Order
import SqlMapper.Proofs.Text.Names

namespace SqlMapper.Text

/-! Words in capitals.

Which words become a given word in capitals, by Unicode's mappings?  Those that are
spelled with the same letters in either case, and the long s is a letter s too.  No
other character takes part: the upper case of every other one is no plain letter, or it
is several letters that do not stand side by side in the word.
-/

open OrderTerm (foldLetter)

variable {char first second : Char} {more word capitals : List Char}

/-- The dotless i is a small letter of the plain I too, which leaves the other capitals. -/
def IsCapital (char : Char) : Prop :=
  65 ≤ char.toNat ∧ char.toNat ≤ 90 ∧ char ≠ 'I'

instance (char : Char) : Decidable (IsCapital char) :=
  inferInstanceAs (Decidable (_ ∧ _))

/-- The upper case of some single character begins with these two. -/
def Paired (first second : Char) : Prop :=
  ∃ entry ∈ CaseTable.upperExpansions, (entry.2.map Char.ofNat).take 2 = [first, second]

instance (first second : Char) : Decidable (Paired first second) :=
  inferInstanceAs (Decidable (∃ entry ∈ CaseTable.upperExpansions, _))

theorem ofNat_of_ascii (property : Char → Prop)
    (checked : ∀ code < 0x80, property (Char.ofNat code)) (ascii : char.toNat < 0x80) :
    property char := by
  have here := checked char.toNat ascii
  rwa [Char.ofNat_toNat] at here

theorem toNat_ofNat_le (code : Nat) :
    (Char.ofNat code).toNat = code ∨ (Char.ofNat code).toNat = 0 := by
  by_cases valid : code.isValidChar
  · left
    rw [Char.ofNat, dif_pos valid]
    rfl
  · right
    rw [Char.ofNat, dif_neg valid]
    rfl

/-- Only the long s and the dotless i have a plain letter as their upper case. -/
theorem shifted_plain {code moved : Nat}
    (shifted : CaseTable.shifted? CaseTable.upperRuns code = some moved) (plain : moved < 0x80) :
    code = 0x131 ∨ code = 0x17F := by
  have far : ∀ run ∈ CaseTable.upperRuns, 0x80 ≤ (run.first : Int) + run.shift ∨
      (run.first = 0x131 ∨ run.first = 0x17F) ∧ run.count * run.step = 1 := by
    decide +kernel
  obtain ⟨run, found, same⟩ := Option.map_eq_some_iff.mp shifted
  have covers := List.find?_some found
  simp only [CaseTable.Run.covers, Bool.and_eq_true, decide_eq_true_eq] at covers
  have checked := far run (List.mem_of_find?_eq_some found)
  omega

theorem mem_of_lookup {codes : List Nat} {code : Nat}
    (found : CaseTable.upperExpansions.lookup code = some codes) :
    (code, codes) ∈ CaseTable.upperExpansions := by
  obtain ⟨before, after, same, _⟩ := List.lookup_eq_some_iff.mp found
  rw [same]
  exact List.mem_append_right _ List.mem_cons_self

theorem length_of_expansion :
    ∀ entry ∈ CaseTable.upperExpansions, 2 ≤ entry.2.length := by
  decide +kernel

theorem upperOf_ne_nil (char : Char) : upperOf char ≠ [] := by
  unfold upperOf
  split
  · exact List.cons_ne_nil _ _
  · split
    · next codes found =>
      have long := length_of_expansion _ (mem_of_lookup found)
      refine List.ne_nil_of_length_pos ?_
      rw [List.length_map]
      exact Nat.lt_of_lt_of_le Nat.two_pos long
    · split <;> exact List.cons_ne_nil _ _

/-- A character whose upper case begins with a capital is that letter, or its upper case
is several characters. -/
theorem upperOf_eq_cons (starts : upperOf char = first :: more) (capital : IsCapital first) :
    more = [] ∧ foldLetter char = first.toLower ∨
      ∃ second others, more = second :: others ∧ Paired first second := by
  obtain ⟨low, high, notDotless⟩ := capital
  unfold upperOf at starts
  split at starts
  · next ascii =>
    obtain ⟨same, rest⟩ := List.cons.inj starts
    refine .inl ⟨rest.symm, ?_⟩
    rw [← same]
    exact ofNat_of_ascii (fun char => foldLetter char = char.toUpper.toLower)
      (by decide +kernel) ascii
  · next beyond =>
    split at starts
    · next codes found =>
      have member := mem_of_lookup found
      have long := length_of_expansion _ member
      rcases codes with _ | ⟨code, _ | ⟨next, codes⟩⟩
      · simp at long
      · simp at long
      · obtain ⟨same, rest⟩ := List.cons.inj starts
        exact .inr ⟨_, _, rest.symm, _, member, by rw [← same]; rfl⟩
    · split at starts
      · next code shifted =>
        obtain ⟨same, rest⟩ := List.cons.inj starts
        refine .inl ⟨rest.symm, ?_⟩
        -- A plain letter is the image of a special character only, and not of the dotless i.
        have image : code = first.toNat := by
          have kept := toNat_ofNat_le code
          rw [same] at kept
          omega
        rcases shifted_plain shifted (by omega) with dotless | long
        · rw [dotless] at shifted
          have plain : CaseTable.shifted? CaseTable.upperRuns 0x131 = some 'I'.toNat := by
            decide +kernel
          have letter : 'I'.toNat = first.toNat :=
            (Option.some.inj (plain.symm.trans shifted)).trans image
          exact absurd (Char.toNat_inj.mp letter.symm) notDotless
        · rw [long] at shifted
          have plain : CaseTable.shifted? CaseTable.upperRuns 0x17F = some 'S'.toNat := by
            decide +kernel
          have letter : 'S'.toNat = first.toNat :=
            (Option.some.inj (plain.symm.trans shifted)).trans image
          rw [foldLetter, if_pos long, ← Char.toNat_inj.mp letter]
          rfl
      · obtain ⟨same, _⟩ := List.cons.inj starts
        subst same
        omega

theorem upperOf_of_foldLetter (same : foldLetter char = first.toLower) (capital : IsCapital first) :
    upperOf char = [first] := by
  have ascii : first.toNat < 0x80 := Nat.lt_of_le_of_lt capital.2.1 (by decide)
  unfold foldLetter at same
  split at same
  · next long =>
    have isS : first = 'S' := ofNat_of_ascii
      (fun first => 's' = first.toLower → IsCapital first → first = 'S')
      (by decide +kernel) ascii same capital
    have spelled : char = Char.ofNat 0x17F := by rw [← Char.ofNat_toNat char, long]
    rw [isS, spelled]
    decide +kernel
  · have small : char.toNat < 0x80 := by
      have lowered : first.toLower.toNat < 0x80 := ofNat_of_ascii
        (fun first => first.toLower.toNat < 0x80) (by decide +kernel) ascii
      rw [← same] at lowered
      rcases toLower_cases char with kept | ⟨_, high, _⟩
      · rwa [kept] at lowered
      · omega
    rw [upperOf, if_pos small]
    have again : char.toUpper = char.toLower.toUpper := ofNat_of_ascii
      (fun char => char.toUpper = char.toLower.toUpper) (by decide +kernel) small
    have back : first.toLower.toUpper = first := ofNat_of_ascii
      (fun first => IsCapital first → first.toLower.toUpper = first)
      (by decide +kernel) ascii capital
    rw [again, same, back]

/-- A word is another one in capitals if it is spelled with the same letters. -/
theorem upper_eq_iff (letters : ∀ char ∈ capitals, IsCapital char)
    (apart : capitals.IsChain fun first second => ¬ Paired first second) :
    word.flatMap upperOf = capitals ↔ word.map foldLetter = capitals.map Char.toLower := by
  induction word generalizing capitals with
  | nil => simp [eq_comm]
  | cons char word ih =>
      rw [List.flatMap_cons, List.map_cons]
      constructor
      · intro spelled
        obtain ⟨first, more, starts⟩ := List.exists_cons_of_ne_nil (upperOf_ne_nil char)
        rw [starts, List.cons_append] at spelled
        subst spelled
        obtain ⟨letter, later⟩ := List.forall_mem_cons.mp letters
        rcases upperOf_eq_cons starts letter with ⟨alone, same⟩ | ⟨second, others, rest, paired⟩
        · subst alone
          rw [List.nil_append] at later apart ⊢
          rw [List.map_cons, same, (ih later apart.tail).mp rfl]
        · subst rest
          exact absurd paired (List.isChain_cons_cons.mp apart).1
      · intro spelled
        cases capitals with
        | nil => cases spelled
        | cons first capitals =>
            obtain ⟨same, others⟩ := List.cons.inj spelled
            obtain ⟨letter, later⟩ := List.forall_mem_cons.mp letters
            rw [upperOf_of_foldLetter same letter, (ih later apart.tail).mpr others]
            rfl

end SqlMapper.Text
