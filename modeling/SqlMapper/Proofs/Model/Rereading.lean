import SqlMapper.Model.Document
import SqlMapper.Proofs.Json.Nesting
import SqlMapper.Proofs.Json.Reparsing
import SqlMapper.Proofs.Text.Blank

namespace SqlMapper

/-! Declarations that are written and read again.

Readers take many spellings and writers use one.  What has been read is what its own
spelling says, as a document and as a text.
-/

open Json (Written Fits)
open Json.Written

variable {α : Type} {document part : Written} {room : Nat}

/-! Readers of parts. -/

/-- The document is a structure, and the part is given for one of its fields. -/
def IsPart (document part : Written) : Prop :=
  ∃ spellings parts, document.fields? spellings = some parts ∧ some part ∈ parts

theorem IsPart.shallow (given : IsPart document part) (shallow : Shallow (room + 1) document) :
    Shallow room part := by
  obtain ⟨spellings, parts, found, member⟩ := given
  cases shallow with
  | null | bool | number | text | unreadable => cases found
  | @array _ items each =>
      simp only [fields?] at found
      split at found
      · cases found
        rcases List.mem_append.mp member with here | missing
        · obtain ⟨item, inside, same⟩ := List.mem_map.mp here
          cases same
          exact each _ inside
        · cases List.eq_of_mem_replicate missing
      · cases found
  | @object _ members each =>
      obtain ⟨names, _, chosen⟩ := exists_of_mem_mapM found member
      split at chosen
      · cases chosen
      · next entry only =>
        cases chosen
        have kept : entry ∈ members.filter fun member => names.contains member.1 :=
          only ▸ List.mem_cons_self
        exact each _ (List.mem_filter.mp kept).1
      · cases chosen

/-- Each item of a list is read from a part of it. -/
theorem part_of_readList {read : Written → Option α} {items : List α} {item : α}
    (done : readList read document = some items) (member : item ∈ items) :
    ∃ part, read part = some item ∧
      ∀ {room : Nat}, Shallow (room + 1) document → Shallow room part := by
  unfold readList at done
  split at done
  · obtain ⟨part, inside, found⟩ := exists_of_mem_mapM done member
    refine ⟨part, found, fun shallow => ?_⟩
    cases shallow with
    | array each => exact each part inside
  · cases done

/-- A list with the empty one as default is empty or read from a part. -/
theorem given_of_withDefault {read : Written → Option α} {given : Option Written}
    {items : List α} {item : α} (done : withDefault [] (readList read) given = some items)
    (member : item ∈ items) : ∃ part, given = some part ∧ readList read part = some items := by
  cases given with
  | none =>
      cases done
      cases member
  | some part => exact ⟨part, rfl, done⟩

/-! Readers of what writers write. -/

theorem Json.ofNat_eq {value : Nat} (lower : -0x8000000000000000 ≤ (value : Int))
    (upper : (value : Int) < 0x10000000000000000) :
    Json.ofNat value = .number (.whole value lower upper) := by
  rw [ofNat, Number.ofInt?, dif_pos ⟨lower, upper⟩]
  rfl

theorem readOptional_ofText? (text : Option String) :
    readOptional readText (Json.ofText? text).toWritten = some text := by
  cases text <;> rfl

theorem fits_ofText? (room : Nat) (text : Option String) : Fits room (Json.ofText? text) := by
  cases text with
  | none => exact .null room
  | some text => exact .text room text

theorem readList_map {read : Written → Option α} {write : α → Json} {items : List α}
    (back : ∀ item ∈ items, read (write item).toWritten = some item) :
    readList read (Json.array (items.map write)).toWritten = some items := by
  rw [Json.toWritten, Json.itemsToWritten_eq_map, List.map_map, readList]
  induction items with
  | nil => rfl
  | cons item rest ih =>
      obtain ⟨first, others⟩ := List.forall_mem_cons.mp back
      rw [List.map_cons, List.mapM_cons, ih others, Function.comp_apply, first]
      rfl

theorem fits_map {write : α → Json} {items : List α}
    (each : ∀ item ∈ items, Fits room (write item)) :
    Fits (room + 1) (.array (items.map write)) := by
  refine .array fun json member => ?_
  obtain ⟨item, inside, same⟩ := List.mem_map.mp member
  exact same ▸ each item inside

/-! Types. -/

namespace FieldType

theorem read_toJson (type : FieldType) : FieldType.read type.toJson.toWritten = some type := by
  induction type with
  | array item ih =>
      change (FieldType.read item.toJson.toWritten).map FieldType.array = some (.array item)
      rw [ih]
      rfl
  | string | text | number | date | boolean | point | json => rfl

theorem ne_array_of_word {word : String} {type : FieldType}
    (found : FieldType.words.lookup word = some type) (item : FieldType) : type ≠ .array item := by
  intro same
  have listed : ∀ entry ∈ FieldType.words, entry.2.isSerialized = true → entry.2 = .json := by
    decide
  obtain ⟨before, after, split, _⟩ := List.lookup_eq_some_iff.mp found
  have serialized := listed (word, type) (split ▸ by simp) (by rw [same]; rfl)
  rw [same] at serialized
  cases serialized

/-- A type that is read is nested no deeper than the document that it is read from. -/
theorem fits_of_read {type : FieldType} (done : FieldType.read document = some type)
    (shallow : Shallow room document) : Fits room type.toJson := by
  induction type generalizing document room with
  | array item ih =>
      unfold FieldType.read at done
      split at done
      · obtain ⟨inner, found, same⟩ := Option.map_eq_some_iff.mp done
        cases same
        cases shallow with
        | object each =>
            have below := ih found (each _ List.mem_cons_self)
            exact .object (List.forall_mem_singleton.mpr below)
      · unfold readWord at done
        split at done
        · exact absurd rfl (ne_array_of_word done item)
        · exact absurd rfl (ne_array_of_word done item)
        · cases done
  | string | text | number | date | boolean | point | json => exact .text room _

end FieldType

/-! Fields. -/

theorem IndexKind.read_keyword (kind : IndexKind) :
    IndexKind.read (.text kind.keyword) = some kind := by
  cases kind <;> rfl

theorem Direction.read_keyword (direction : Direction) :
    Direction.read (.text direction.keyword) = some direction := by
  cases direction <;> rfl

namespace FieldIndex

theorem read_toJson (index : FieldIndex) : read index.toJson.toWritten = some index := by
  have written : fields? [["unique"], ["name"], ["kind"], ["type"]] index.toJson.toWritten =
      some [some (.bool index.unique), some (Json.ofText? index.name).toWritten,
        some (.text index.kind.keyword), some (.text index.direction.keyword)] := rfl
  rw [read, written]
  simp [withDefault, readBool, readOptional_ofText?, IndexKind.read_keyword,
    Direction.read_keyword]

theorem readDeclaration_toJson (index : Option FieldIndex) :
    readDeclaration ((index.map toJson).getD .null).toWritten = some index := by
  cases index with
  | none => rfl
  | some index =>
      change (if index.toJson.toWritten.isReadable then
        (read index.toJson.toWritten).map some else none) = some (some index)
      rw [if_pos (Json.isReadable_toWritten _), read_toJson]
      rfl

theorem fits_toJson (room : Nat) (index : Option FieldIndex) :
    Fits (room + 1) ((index.map toJson).getD .null) := by
  cases index with
  | none => exact .null _
  | some index =>
      refine .object fun member listed => ?_
      simp only [List.mem_cons, List.not_mem_nil, or_false] at listed
      rcases listed with rfl | rfl | rfl | rfl
      · exact .bool room _
      · exact fits_ofText? room _
      · exact .text room _
      · exact .text room _

end FieldIndex

namespace Field

theorem readOptional_limit (limit : Option UInt32) :
    readOptional readUInt32 ((limit.map fun limit => Json.ofNat limit.toNat).getD .null).toWritten =
      some limit := by
  cases limit with
  | none => rfl
  | some limit =>
      have small := limit.toNat_lt
      rw [Option.map_some, Option.getD_some, Json.ofNat_eq (by omega) (by omega), Json.toWritten,
        readOptional, readUInt32, if_pos (by omega), Int.toNat_natCast, UInt32.ofNat_toNat]
      · rfl
      · intro none
        cases none

theorem fits_limit (room : Nat) (limit : Option UInt32) :
    Fits room ((limit.map fun limit => Json.ofNat limit.toNat).getD .null) := by
  cases limit with
  | none => exact .null room
  | some limit =>
      have small := limit.toNat_lt
      rw [Option.map_some, Option.getD_some, Json.ofNat_eq (by omega) (by omega)]
      exact .natural room (by omega) (by omega)

theorem read_toJson (field : Field) : read field.toJson.toWritten = some field := by
  have written : fields? spellings field.toJson.toWritten =
      some [some (.text field.name), some field.type.toJson.toWritten, some (.bool field.nullable),
        some ((field.limit.map fun limit => Json.ofNat limit.toNat).getD .null).toWritten,
        some ((field.index.map FieldIndex.toJson).getD .null).toWritten,
        some (.bool field.primaryKey), some (Json.ofText? field.column).toWritten] := rfl
  rw [read, written]
  simp [required, withDefault, readText, readBool, readOptional_ofText?, readOptional_limit,
    FieldType.read_toJson, FieldIndex.readDeclaration_toJson]

theorem fits_toJson {field : Field} (type : Fits (room + 1) field.type.toJson) :
    Fits (room + 2) field.toJson := by
  refine .object fun member listed => ?_
  simp only [List.mem_cons, List.not_mem_nil, or_false] at listed
  rcases listed with rfl | rfl | rfl | rfl | rfl | rfl | rfl
  · exact .text _ _
  · exact type
  · exact .bool _ _
  · exact fits_limit _ _
  · exact FieldIndex.fits_toJson room _
  · exact .bool _ _
  · exact fits_ofText? _ _

theorem type_of_read {field : Field} (done : read document = some field) :
    ∃ part, IsPart document part ∧ FieldType.read part = some field.type := by
  obtain ⟨parts, found, assembled⟩ := Option.bind_eq_some_iff.mp done
  split at assembled
  · next name type nullable limit index primaryKey column =>
    obtain ⟨_, _, rest⟩ := Option.bind_eq_some_iff.mp assembled
    obtain ⟨own, listed, rest⟩ := Option.bind_eq_some_iff.mp rest
    obtain ⟨_, _, rest⟩ := Option.bind_eq_some_iff.mp rest
    obtain ⟨_, _, rest⟩ := Option.bind_eq_some_iff.mp rest
    obtain ⟨_, _, rest⟩ := Option.bind_eq_some_iff.mp rest
    obtain ⟨_, _, rest⟩ := Option.bind_eq_some_iff.mp rest
    obtain ⟨_, _, same⟩ := Option.bind_eq_some_iff.mp rest
    cases same
    obtain ⟨part, given, read⟩ := Option.bind_eq_some_iff.mp listed
    exact ⟨part, ⟨_, _, found, by simp [given]⟩, read⟩
  · cases assembled

end Field

/-! Indexes over several fields. -/

namespace IndexColumn

theorem read_toText {column : IndexColumn} (single : Text.IsWord column.field) :
    read (.text column.toText) = some column := by
  obtain ⟨field, direction⟩ := column
  cases direction with
  | ascending =>
      change (ofText field).toOption = _
      rw [ofText, single.words_eq]
      rfl
  | descending =>
      have split : Text.words (field ++ " DESC") = [field, "DESC"] :=
        single.words_append rfl "DESC"
      change (ofText (field ++ " DESC")).toOption = _
      rw [ofText, split]
      rfl

theorem isWord_of_read {column : IndexColumn} (done : read document = some column) :
    Text.IsWord column.field := by
  obtain ⟨text, _, found⟩ := Option.bind_eq_some_iff.mp done
  have inside : column.field ∈ Text.words text := by
    unfold ofText at found
    split at found
    · cases found
    · next only =>
      cases found
      exact only ▸ List.mem_cons_self
    · next first word rest several =>
      cases known : Direction.ofWord word with
      | error error =>
          rw [known] at found
          cases found
      | ok direction =>
          simp only [known, bind, Except.bind] at found
          split at found
          · cases found
            exact several ▸ List.mem_cons_self
          · cases found
  exact Text.isWord_of_mem_words inside

end IndexColumn

namespace Index

/-- All columns of the index are called by words. -/
def Worded (index : Index) : Prop :=
  ∀ column ∈ index.columns, Text.IsWord column.field

theorem read_toJson {index : Index} (worded : index.Worded) :
    read index.toJson.toWritten = some index := by
  have written : fields? [["columns"], ["unique"], ["name"], ["kind"]] index.toJson.toWritten =
      some [
        some (Json.array (index.columns.map fun column => .text column.toText)).toWritten,
        some (.bool index.unique), some (Json.ofText? index.name).toWritten,
        some (.text index.kind.keyword)] := rfl
  have columns : readList IndexColumn.read (Json.array
      (index.columns.map fun column => .text column.toText)).toWritten = some index.columns :=
    readList_map fun column member => IndexColumn.read_toText (worded column member)
  rw [read, written]
  simp [required, withDefault, readBool, readOptional_ofText?, IndexKind.read_keyword, columns]

theorem fits_toJson (room : Nat) (index : Index) : Fits (room + 2) index.toJson := by
  refine .object fun member listed => ?_
  simp only [List.mem_cons, List.not_mem_nil, or_false] at listed
  rcases listed with rfl | rfl | rfl | rfl
  · exact fits_map fun column _ => .text room _
  · exact .bool _ _
  · exact fits_ofText? _ _
  · exact .text _ _

theorem worded_of_read {index : Index} (done : read document = some index) : index.Worded := by
  obtain ⟨parts, _, assembled⟩ := Option.bind_eq_some_iff.mp done
  split at assembled
  · obtain ⟨own, listed, rest⟩ := Option.bind_eq_some_iff.mp assembled
    obtain ⟨_, _, rest⟩ := Option.bind_eq_some_iff.mp rest
    obtain ⟨_, _, rest⟩ := Option.bind_eq_some_iff.mp rest
    obtain ⟨_, _, same⟩ := Option.bind_eq_some_iff.mp rest
    cases same
    obtain ⟨part, _, columns⟩ := Option.bind_eq_some_iff.mp listed
    intro column member
    obtain ⟨item, found, _⟩ := part_of_readList columns member
    exact IndexColumn.isWord_of_read found
  · cases assembled

end Index

/-! Models. -/

namespace Model

/-- What holds of a model as it is read. -/
structure AsRead (model : Model) : Prop where
  unsettled : model.key = "id"
  worded : ∀ index ∈ model.indexes, index.Worded

theorem read_toJson {model : Model} (fresh : model.AsRead) :
    read model.toJson.toWritten = some model := by
  have written : fields? [["name"], ["table"], ["fields"], ["indexes"]] model.toJson.toWritten =
      some [some (.text model.name), some (Json.ofText? model.table).toWritten,
        some (Json.array (model.fields.map Field.toJson)).toWritten,
        some (Json.array (model.indexes.map Index.toJson)).toWritten] := rfl
  have ownFields : readList Field.read (Json.array (model.fields.map Field.toJson)).toWritten =
      some model.fields := readList_map fun field _ => field.read_toJson
  have ownIndexes : readList Index.read (Json.array (model.indexes.map Index.toJson)).toWritten =
      some model.indexes :=
    readList_map fun index member => Index.read_toJson (fresh.worded index member)
  obtain ⟨name, table, fields, indexes, key⟩ := model
  cases fresh.unsettled
  rw [read, written]
  simp [required, withDefault, readText, readOptional_ofText?, ownFields, ownIndexes]

theorem fits_toJson {model : Model}
    (types : ∀ field ∈ model.fields, Fits (room + 1) field.type.toJson) :
    Fits (room + 4) model.toJson := by
  refine .object fun member listed => ?_
  simp only [List.mem_cons, List.not_mem_nil, or_false] at listed
  rcases listed with rfl | rfl | rfl | rfl
  · exact .text _ _
  · exact fits_ofText? _ _
  · exact fits_map fun field inside => Field.fits_toJson (types field inside)
  · exact fits_map fun index _ => index.fits_toJson room

theorem parts_of_read {model : Model} (done : read document = some model) :
    model.AsRead ∧
      ∃ part, IsPart document part ∧ readList Field.read part = some model.fields := by
  obtain ⟨parts, found, assembled⟩ := Option.bind_eq_some_iff.mp done
  split at assembled
  · next name table fields indexes =>
    obtain ⟨_, _, rest⟩ := Option.bind_eq_some_iff.mp assembled
    obtain ⟨_, _, rest⟩ := Option.bind_eq_some_iff.mp rest
    obtain ⟨_, fieldsListed, rest⟩ := Option.bind_eq_some_iff.mp rest
    obtain ⟨_, indexesListed, same⟩ := Option.bind_eq_some_iff.mp rest
    cases same
    obtain ⟨part, given, read⟩ := Option.bind_eq_some_iff.mp fieldsListed
    refine ⟨⟨rfl, fun index member => ?_⟩, part, ⟨_, _, found, by simp [given]⟩, read⟩
    obtain ⟨_, _, listed⟩ := given_of_withDefault indexesListed member
    obtain ⟨item, read, _⟩ := part_of_readList listed member
    exact Index.worded_of_read read
  · cases assembled

theorem types_of_read {model : Model} (done : read document = some model)
    (shallow : Shallow (room + 3) document) :
    ∀ field ∈ model.fields, Fits room field.type.toJson := by
  intro field member
  obtain ⟨_, part, given, listed⟩ := parts_of_read done
  obtain ⟨item, read, below⟩ := part_of_readList listed member
  obtain ⟨inner, own, type⟩ := Field.type_of_read read
  exact FieldType.fits_of_read type (own.shallow (below (given.shallow shallow)))

end Model

theorem Settings.read_toJson (settings : Settings) :
    read settings.toJson.toWritten = some settings := rfl

theorem Settings.fits_toJson (room : Nat) (settings : Settings) :
    Fits (room + 1) settings.toJson := by
  refine .object fun member listed => ?_
  simp only [List.mem_cons, List.not_mem_nil, or_false] at listed
  rcases listed with rfl | rfl | rfl
  · exact .text _ _
  · exact .bool _ _
  · exact .bool _ _

/-! Declarations. -/

namespace Declarations

variable {declarations : Declarations}

theorem read_toJson (fresh : ∀ model ∈ declarations.models, model.AsRead) :
    read declarations.toJson.toWritten = some declarations := by
  have written : fields? [["settings"], ["models"]] declarations.toJson.toWritten =
      some [some declarations.settings.toJson.toWritten,
        some (Json.array (declarations.models.map Model.toJson)).toWritten] := rfl
  have models : readList Model.read
      (Json.array (declarations.models.map Model.toJson)).toWritten = some declarations.models :=
    readList_map fun model member => Model.read_toJson (fresh model member)
  rw [read, written]
  simp [withDefault, Settings.read_toJson, models]

theorem fits_toJson
    (types : ∀ model ∈ declarations.models, ∀ field ∈ model.fields,
      Fits (room + 1) field.type.toJson) : Fits (room + 6) declarations.toJson := by
  refine .object fun member listed => ?_
  simp only [List.mem_cons, List.not_mem_nil, or_false] at listed
  rcases listed with rfl | rfl
  · exact declarations.settings.fits_toJson _
  · exact fits_map fun model inside => Model.fits_toJson (types model inside)

theorem part_of_read (done : read document = some declarations) {model : Model}
    (member : model ∈ declarations.models) :
    ∃ item, Model.read item = some model ∧
      ∀ {room : Nat}, Shallow (room + 2) document → Shallow room item := by
  obtain ⟨parts, found, assembled⟩ := Option.bind_eq_some_iff.mp done
  split at assembled
  · next settings models =>
    obtain ⟨_, _, rest⟩ := Option.bind_eq_some_iff.mp assembled
    obtain ⟨_, modelsListed, same⟩ := Option.bind_eq_some_iff.mp rest
    cases same
    obtain ⟨part, given, listed⟩ := given_of_withDefault modelsListed member
    obtain ⟨item, read, below⟩ := part_of_readList listed member
    have own : IsPart document part := ⟨_, _, found, by simp [given]⟩
    exact ⟨item, read, fun shallow => below (own.shallow shallow)⟩
  · cases assembled

/-- What has been read is read again from what is written of it, as a document and as a text,
and the models that come of it are the same. -/
theorem read_again (done : read document = some declarations) :
    ∃ again, read declarations.toJson.toWritten = some again ∧ again = declarations ∧
      again.registry = declarations.registry ∧
      ∀ text, Json.Written.parse? text = some document →
        ofText? declarations.toJson.compact = some again := by
  have fresh : ∀ model ∈ declarations.models, model.AsRead := by
    intro model member
    obtain ⟨item, read, _⟩ := part_of_read done member
    exact (Model.parts_of_read read).1
  refine ⟨declarations, read_toJson fresh, rfl, rfl, fun text parsed => ?_⟩
  -- Types stand five levels deep, both where they were read and where they are written.
  have types : ∀ model ∈ declarations.models, ∀ field ∈ model.fields,
      Fits (121 + 1) field.type.toJson := by
    intro model member
    obtain ⟨item, read, below⟩ := part_of_read done member
    exact Model.types_of_read read (below (shallow_of_parse? parsed))
  have printed : parse? declarations.toJson.compact = some declarations.toJson.toWritten :=
    parse?_compact (fits_toJson types)
  rw [ofText?, printed, Option.bind_some, read_toJson fresh]

/-- Settings and a field as arrays, an alias, a flag for an index and a sloppy direction. -/
def looseNote : Json :=
  .object [
    ("settings", .array [.text "sales", .bool true]),
    ("models", .array [
      .object [
        ("name", .text "Note"),
        ("fields", .array [
          .object [("name", .text "text"), ("type", .object [("Text", .null)]),
            ("allowNull", .bool false), ("index", .bool true)],
          .array [.text "rows", .object [("Array", .object [("Array", .text "Number")])]]]),
        ("indexes", .array [
          .object [("columns", .array [.text "text", .text " rows  desc "])]])]])]

def note : Declarations where
  settings := { schema := "sales", keysNamedAfterModel := true }
  models := [{
    name := "Note"
    fields := [
      { name := "text", type := .text, nullable := false, index := some {} },
      { name := "rows", type := .array (.array .number) }]
    indexes := [{ columns := [⟨"text", .ascending⟩, ⟨"rows", .descending⟩] }] }]

theorem read_again_note :
    read looseNote.toWritten = some note ∧ read note.toJson.toWritten = some note := by
  have done : read looseNote.toWritten = some note := rfl
  obtain ⟨again, found, same, _⟩ := read_again done
  exact ⟨done, same ▸ found⟩

end Declarations

end SqlMapper
