import SqlMapper.Proofs.Decimal.Equality
import SqlMapper.Proofs.Entries
import SqlMapper.Proofs.Json.Reparsing

namespace SqlMapper.Json

/-! Equal documents and their texts.

Documents are equal whatever the order of their members and the sign of their zeros.
The compact text shows both, so that equal documents with one text are the same
document.
-/

def Number.same : Number → Number → Bool
  | .whole left _ _, .whole right _ _ => left == right
  | .real left _, .real right _ => left == right
  | _, _ => false

mutual

/-- Whether two documents are equal.  Objects are compared as maps. -/
def same : Json → Json → Bool
  | .null, .null => true
  | .bool left, .bool right => left == right
  | .number left, .number right => left.same right
  | .text left, .text right => left == right
  | .array left, .array right => sameItems left right
  | .object left, .object right => sameMembers left right
  | _, _ => false

def sameItems : List Json → List Json → Bool
  | [], [] => true
  | item :: items, other :: others => item.same other && sameItems items others
  | _, _ => false

/-- Whether each member is found among the others, which are used up on the way. -/
def sameMembers : List (String × Json) → List (String × Json) → Bool
  | [], others => others.isEmpty
  | (key, value) :: members, others =>
    match entry? key others with
    | some other => value.same other && sameMembers members (others.eraseP (·.1 == key))
    | none => false

end

mutual

theorem same_self : ∀ document : Json, document.same document = true
  | .null => rfl
  | .bool _ | .text _ => by simp [same]
  | .number (.whole _ _ _) => by simp [same, Number.same]
  | .number (.real _ finite) => (Decimal.Binary.beq_iff finite finite).mpr (.inl rfl)
  | .array items => sameItems_self items
  | .object members => sameMembers_self members

theorem sameItems_self : ∀ items : List Json, sameItems items items = true
  | [] => rfl
  | item :: items => by rw [sameItems, same_self item, sameItems_self items, Bool.and_self]

theorem sameMembers_self : ∀ members : List (String × Json), sameMembers members members = true
  | [] => rfl
  | (key, value) :: members => by
      rw [sameMembers, entry?_cons_self, List.eraseP_cons_of_pos (by simp)]
      simp only [same_self value, sameMembers_self members, Bool.and_self]

end

/-! Objects as maps. -/

section

variable {key : String} {value : Json} {members others : List (String × Json)}

theorem sameMembers_cons_iff : sameMembers ((key, value) :: members) others = true ↔
    ∃ other, entry? key others = some other ∧ value.same other = true ∧
      sameMembers members (others.eraseP (·.1 == key)) = true := by
  rw [sameMembers]
  cases entry? key others <;> simp

/-- Objects that name no member twice are equal exactly if they have as many members and
every member is found in the other with an equal value. -/
theorem sameMembers_iff (distinct : (members.map (·.1)).Nodup) :
    sameMembers members others = true ↔ members.length = others.length ∧
      ∀ member ∈ members, ∃ other, entry? member.1 others = some other ∧
        member.2.same other = true := by
  induction members generalizing others with
  | nil => cases others <;> simp [sameMembers]
  | cons member members ih =>
      obtain ⟨key, value⟩ := member
      obtain ⟨absent, distinctRest⟩ := List.nodup_cons.mp distinct
      have later : ∀ member ∈ members,
          entry? member.1 (others.eraseP (·.1 == key)) = entry? member.1 others := by
        intro member inside
        refine entry?_eraseP (fun same => absent ?_) others
        exact List.mem_map.mpr ⟨member, inside, same⟩
      have shorter {other : Json} (found : entry? key others = some other) :
          others.length = (others.eraseP (·.1 == key)).length + 1 :=
        (List.length_eraseP_add_one (mem_of_found found) (by simp)).symm
      rw [sameMembers_cons_iff, List.length_cons, List.forall_mem_cons]
      constructor
      · rintro ⟨other, found, equal, rest⟩
        obtain ⟨counted, each⟩ := (ih distinctRest).mp rest
        refine ⟨by rw [counted, shorter found], ⟨other, found, equal⟩, fun member inside => ?_⟩
        rw [← later member inside]
        exact each member inside
      · rintro ⟨counted, ⟨other, found, equal⟩, each⟩
        refine ⟨other, found, equal, (ih distinctRest).mpr ⟨?_, fun member inside => ?_⟩⟩
        · rw [shorter found] at counted
          omega
        · rw [later member inside]
          exact each member inside

end

/-! Texts. -/

variable {after later : List Char}

theorem eq_of_quoted {left right : String}
    (written : (quoted left).toList ++ after = (quoted right).toList ++ later) :
    left = right ∧ after = later := by
  have spelled (text : String) (rest : List Char) :
      (quoted text).toList ++ rest = '"' :: (text.toList.flatMap escaped ++ '"' :: rest) := by
    simp [quoted]
  rw [spelled, spelled, List.cons.injEq] at written
  have codes := Token.readCodes_quoted left.toList after
  rw [written.2, Token.readCodes_quoted, Option.some.injEq, Prod.mk.injEq] at codes
  have chars := List.map_injective_iff.mpr (fun _ _ => Char.toNat_inj.mp) codes.1
  exact ⟨(String.toList_inj.mp chars).symm, codes.2.symm⟩

theorem Number.eq_of_compact {left right : Number} (equal : left.same right = true)
    (written : left.compact.toList ++ after = right.compact.toList ++ later) :
    left = right ∧ after = later := by
  cases left with
  | whole value lower upper =>
      cases right with
      | whole other _ _ =>
          obtain rfl : value = other := by simpa [same] using equal
          exact ⟨rfl, List.append_cancel_left written⟩
      | real _ _ => cases equal
  | real value finite =>
      cases right with
      | whole _ _ _ => cases equal
      | real other otherFinite =>
          obtain ⟨rfl, rest⟩ := numberNotation.eq_of_render finite otherFinite equal written
          exact ⟨rfl, rest⟩

/-! What is equal to a document of each form. -/

section

variable {right : Json}

theorem eq_of_null_same (equal : Json.null.same right = true) : right = .null := by
  cases right <;> first | rfl | cases equal

theorem eq_of_bool_same {value : Bool} (equal : (Json.bool value).same right = true) :
    right = .bool value := by
  cases right with
  | bool other =>
      rw [same, beq_iff_eq] at equal
      rw [equal]
  | null | number _ | text _ | array _ | object _ => cases equal

theorem eq_of_text_same {value : String} (equal : (Json.text value).same right = true) :
    right = .text value := by
  cases right with
  | text other =>
      rw [same, beq_iff_eq] at equal
      rw [equal]
  | null | bool _ | number _ | array _ | object _ => cases equal

theorem exists_of_number_same {value : Number} (equal : (Json.number value).same right = true) :
    ∃ other, right = .number other ∧ value.same other = true := by
  cases right with
  | number other => exact ⟨other, rfl, equal⟩
  | null | bool _ | text _ | array _ | object _ => cases equal

theorem exists_of_array_same {items : List Json} (equal : (Json.array items).same right = true) :
    ∃ others, right = .array others ∧ sameItems items others = true := by
  cases right with
  | array others => exact ⟨others, rfl, equal⟩
  | null | bool _ | number _ | text _ | object _ => cases equal

theorem exists_of_object_same {members : List (String × Json)}
    (equal : (Json.object members).same right = true) :
    ∃ others, right = .object others ∧ sameMembers members others = true := by
  cases right with
  | object others => exact ⟨others, rfl, equal⟩
  | null | bool _ | number _ | text _ | array _ => cases equal

end

/-- The text of items, each behind a comma, up to the end of the array. -/
def itemsChars (items : List Json) (after : List Char) : List Char :=
  items.flatMap (fun item => ',' :: item.compact.toList) ++ ']' :: after

/-- The text of members, each behind a comma, up to the end of the object. -/
def membersChars (members : List (String × Json)) (after : List Char) : List Char :=
  members.flatMap (fun member => ',' :: memberChars member) ++ '\x7d' :: after

theorem itemsChars_cons (item : Json) (items : List Json) (after : List Char) :
    itemsChars (item :: items) after = ',' :: (item.compact.toList ++ itemsChars items after) := by
  simp [itemsChars]

theorem membersChars_cons (key : String) (value : Json) (members : List (String × Json))
    (after : List Char) :
    membersChars ((key, value) :: members) after =
      ',' :: ((quoted key).toList ++
        ':' :: (value.compact.toList ++ membersChars members after)) := by
  simp [membersChars, memberChars]

/-- The text of an array tells the text of its items. -/
theorem itemsChars_of_array {items others : List Json} (equal : sameItems items others = true)
    (written : (Json.array items).compact.toList ++ after =
      (Json.array others).compact.toList ++ later) :
    itemsChars items after = itemsChars others later := by
  cases items with
  | nil =>
      cases others with
      | nil => exact congrArg _ (List.append_cancel_left written)
      | cons => cases equal
  | cons item items =>
      cases others with
      | nil => cases equal
      | cons other others =>
          simpa [toList_compact_array, itemsChars] using written

/-- The text of an object tells the text of its members. -/
theorem membersChars_of_object {members others : List (String × Json)}
    (equal : sameMembers members others = true)
    (written : (Json.object members).compact.toList ++ after =
      (Json.object others).compact.toList ++ later) :
    membersChars members after = membersChars others later := by
  cases members with
  | nil =>
      rw [sameMembers, List.isEmpty_iff] at equal
      subst equal
      exact congrArg _ (List.append_cancel_left written)
  | cons member members =>
      cases others with
      | nil => cases equal
      | cons other others =>
          simpa [toList_compact_object, membersChars] using written

mutual

/-- Equal documents with one text are the same, whatever comes behind it. -/
theorem eq_of_compact : ∀ (left right : Json), left.same right = true →
    ∀ after later : List Char,
      left.compact.toList ++ after = right.compact.toList ++ later → left = right ∧ after = later
  | .null, right, equal => by
      cases eq_of_null_same equal
      exact fun _ _ written => ⟨rfl, List.append_cancel_left written⟩
  | .bool value, right, equal => by
      cases eq_of_bool_same equal
      exact fun _ _ written => ⟨rfl, List.append_cancel_left written⟩
  | .text value, right, equal => by
      cases eq_of_text_same equal
      exact fun _ _ written => ⟨rfl, List.append_cancel_left written⟩
  | .number value, right, equal => by
      obtain ⟨other, rfl, equal⟩ := exists_of_number_same equal
      intro after later written
      obtain ⟨rfl, rest⟩ := Number.eq_of_compact equal written
      exact ⟨rfl, rest⟩
  | .array items, right, equal => by
      obtain ⟨others, rfl, equal⟩ := exists_of_array_same equal
      intro after later written
      obtain ⟨rfl, rest⟩ :=
        eq_of_items items others equal after later (itemsChars_of_array equal written)
      exact ⟨rfl, rest⟩
  | .object members, right, equal => by
      obtain ⟨others, rfl, equal⟩ := exists_of_object_same equal
      intro after later written
      obtain ⟨rfl, rest⟩ :=
        eq_of_members members others equal after later (membersChars_of_object equal written)
      exact ⟨rfl, rest⟩

theorem eq_of_items : ∀ (items others : List Json), sameItems items others = true →
    ∀ after later : List Char,
      itemsChars items after = itemsChars others later → items = others ∧ after = later
  | [], [], _ => fun _ _ written => ⟨rfl, (List.cons.inj written).2⟩
  | [], _ :: _, equal => by cases equal
  | _ :: _, [], equal => by cases equal
  | item :: items, other :: others, equal => by
      intro after later written
      rw [sameItems, Bool.and_eq_true] at equal
      rw [itemsChars_cons, itemsChars_cons, List.cons.injEq] at written
      obtain ⟨rfl, behind⟩ := eq_of_compact item other equal.1 _ _ written.2
      obtain ⟨rfl, rest⟩ := eq_of_items items others equal.2 _ _ behind
      exact ⟨rfl, rest⟩

theorem eq_of_members : ∀ (members others : List (String × Json)),
    sameMembers members others = true → ∀ after later : List Char,
      membersChars members after = membersChars others later → members = others ∧ after = later
  | [], others, equal => by
      rw [sameMembers, List.isEmpty_iff] at equal
      subst equal
      exact fun _ _ written => ⟨rfl, (List.cons.inj written).2⟩
  | (key, value) :: members, [], equal => by cases equal
  | (key, value) :: members, (name, other) :: others, equal => by
      intro after later written
      rw [membersChars_cons, membersChars_cons, List.cons.injEq] at written
      obtain ⟨rfl, named⟩ := eq_of_quoted written.2
      -- The first member is found in the first place.
      rw [sameMembers, entry?_cons_self, List.eraseP_cons_of_pos (by simp),
        Bool.and_eq_true] at equal
      obtain ⟨rfl, behind⟩ := eq_of_compact value other equal.1 _ _ (List.cons.inj named).2
      obtain ⟨rfl, rest⟩ := eq_of_members members others equal.2 _ _ behind
      exact ⟨rfl, rest⟩

end

/-- Of equal documents, only the same have one text. -/
theorem compact_eq_iff {left right : Json} (equal : left.same right = true) :
    left.compact = right.compact ↔ left = right := by
  refine ⟨fun written => ?_, fun same => same ▸ rfl⟩
  exact (eq_of_compact left right equal [] [] (by rw [written])).1

end SqlMapper.Json
