import SqlMapper.Json.Written
import SqlMapper.Proofs.Json.Scanning

namespace SqlMapper.Json

/-! Documents parsed again.

The compact text of a document is parsed as that document, provided that all its numbers
are natural and that nothing is nested too deep.
-/

open Token (Breaks)

/-- All numbers of the document are natural, and its arrays and objects take no more levels
than there is room for. -/
inductive Fits : Nat → Json → Prop where
  | null (room : Nat) : Fits room .null
  | bool (room : Nat) (value : Bool) : Fits room (.bool value)
  | natural {value : Nat} (room : Nat) (lower : -0x8000000000000000 ≤ (value : Int))
      (upper : (value : Int) < 0x10000000000000000) :
      Fits room (.number (.whole value lower upper))
  | text (room : Nat) (value : String) : Fits room (.text value)
  | array {room : Nat} {items : List Json} (each : ∀ item ∈ items, Fits room item) :
      Fits (room + 1) (.array items)
  | object {room : Nat} {members : List (String × Json)}
      (each : ∀ member ∈ members, Fits room member.2) : Fits (room + 1) (.object members)

/-! The text of parts. -/

theorem toList_null : (compact .null).toList = ['n', 'u', 'l', 'l'] := rfl

theorem toList_true : (compact (.bool true)).toList = ['t', 'r', 'u', 'e'] := rfl

theorem toList_false : (compact (.bool false)).toList = ['f', 'a', 'l', 's', 'e'] := rfl

theorem compactItems_eq_map (items : List Json) : compactItems items = items.map compact := by
  induction items with
  | nil => rfl
  | cons item rest ih => rw [compactItems, ih, List.map_cons]

theorem compactMembers_eq_map (members : List (String × Json)) :
    compactMembers members =
      members.map fun member => quoted member.1 ++ ":" ++ member.2.compact := by
  induction members with
  | nil => rfl
  | cons member rest ih =>
      obtain ⟨key, value⟩ := member
      rw [compactMembers, ih, List.map_cons]

theorem toList_intercalate (first : String) (rest : List String) :
    (String.intercalate "," (first :: rest)).toList =
      first.toList ++ rest.flatMap fun other => ',' :: other.toList := by
  induction rest generalizing first with
  | nil => simp
  | cons next rest ih =>
      rw [String.intercalate_cons_cons, String.toList_append, String.toList_append, ih]
      simp

/-- The text of a member. -/
def memberChars (member : String × Json) : List Char :=
  (quoted member.1).toList ++ ':' :: member.2.compact.toList

theorem toList_compact_array (item : Json) (items : List Json) :
    (Json.array (item :: items)).compact.toList =
      '[' :: (item.compact.toList ++
        (items.flatMap (fun item => ',' :: item.compact.toList) ++ [']'])) := by
  rw [compact, compactItems_eq_map, List.map_cons, String.toList_append, String.toList_append,
    toList_intercalate, List.flatMap_map]
  simp

theorem toList_compact_object (member : String × Json) (members : List (String × Json)) :
    (Json.object (member :: members)).compact.toList =
      '\x7b' :: (memberChars member ++
        (members.flatMap (fun member => ',' :: memberChars member) ++ ['\x7d'])) := by
  rw [compact, compactMembers_eq_map, List.map_cons, String.toList_append, String.toList_append,
    toList_intercalate, List.flatMap_map]
  simp [memberChars]

/-! Documents as they are written. -/

theorem itemsToWritten_eq_map (items : List Json) :
    itemsToWritten items = items.map toWritten := by
  induction items with
  | nil => rfl
  | cons item rest ih => rw [itemsToWritten, ih, List.map_cons]

theorem membersToWritten_eq_map (members : List (String × Json)) :
    membersToWritten members = members.map fun member => (member.1, member.2.toWritten) := by
  induction members with
  | nil => rfl
  | cons member rest ih =>
      obtain ⟨key, value⟩ := member
      rw [membersToWritten, ih, List.map_cons]

mutual

theorem isSome_toJson?_toWritten : ∀ json : Json, json.toWritten.toJson?.isSome = true
  | .null | .bool _ | .number _ | .text _ => rfl
  | .array items => by
      rw [toWritten, Written.toJson?, Option.isSome_map]
      exact isSome_itemsToJson? items
  | .object members => by
      rw [toWritten, Written.toJson?, Option.isSome_map]
      exact isSome_membersToJson? members

theorem isSome_itemsToJson? :
    ∀ items : List Json, (Written.itemsToJson? (itemsToWritten items)).isSome = true
  | [] => rfl
  | item :: rest => by
      obtain ⟨value, first⟩ := Option.isSome_iff_exists.mp (isSome_toJson?_toWritten item)
      obtain ⟨values, others⟩ := Option.isSome_iff_exists.mp (isSome_itemsToJson? rest)
      simp [itemsToWritten, Written.itemsToJson?, first, others]

theorem isSome_membersToJson? :
    ∀ members : List (String × Json),
      (Written.membersToJson? (membersToWritten members)).isSome = true
  | [] => rfl
  | (key, item) :: rest => by
      obtain ⟨value, first⟩ := Option.isSome_iff_exists.mp (isSome_toJson?_toWritten item)
      obtain ⟨values, others⟩ := Option.isSome_iff_exists.mp (isSome_membersToJson? rest)
      simp [membersToWritten, Written.membersToJson?, first, others]

end

theorem isReadable_toWritten (json : Json) : json.toWritten.isReadable = true :=
  isSome_toJson?_toWritten json

namespace Written

/-! Following the tokens of a text. -/

/-- What a state becomes while characters are read. -/
def follow (chars : List Char) (state : State) : Option State :=
  (Token.scan chars).bind (·.foldlM step state)

theorem follow_of_scan {chars after : List Char} {token : Token}
    (scanned : Token.scan chars = (Token.scan after).map (token :: ·)) (state : State) :
    follow chars state = (step state token).bind (follow after) := by
  have later : follow after = fun next => (Token.scan after).bind (·.foldlM step next) := rfl
  rw [follow, scanned, later]
  cases Token.scan after with
  | none => simp
  | some tokens => simp [List.foldlM_cons, bind]

/-- The state takes any value, with the frames that are open around it.  What a closing bracket
does there is left open: it may end an array without items. -/
def Awaits (frames : List Frame) (state : State) : Prop :=
  ∀ token, token ≠ .closeArray → step state token = begin frames token

theorem awaits_value (frames : List Frame) : Awaits frames (.value frames) :=
  fun _ _ => rfl

theorem awaits_firstItem (frame : Frame) (frames : List Frame) :
    Awaits (frame :: frames) (.firstItem (frame :: frames)) := by
  intro token beginning
  cases token <;> first | rfl | exact absurd rfl beginning

theorem follow_scalar {frames : List Frame} {state : State} {chars after : List Char}
    {token : Token} {value : Written} (awaits : Awaits frames state)
    (scanned : Token.scan chars = (Token.scan after).map (token :: ·))
    (scalar : scalar? token = some value) :
    follow chars state = (deliver value frames).bind (follow after) := by
  have begun : begin frames token = deliver value frames := by
    unfold begin
    split
    · cases scalar
    · cases scalar
    · rw [scalar, Option.bind_some]
  have beginning : token ≠ .closeArray := by
    rintro rfl
    cases scalar
  rw [follow_of_scan scanned, awaits token beginning, begun]

/-- Wherever a value may stand, the text of the document is read as the document. -/
def Reparses (room : Nat) (json : Json) : Prop :=
  ∀ {frames : List Frame} {state : State} {after : List Char},
    frames.length + room ≤ maxDepth → Awaits frames state → Breaks after →
      follow (json.compact.toList ++ after) state =
        (deliver json.toWritten frames).bind (follow after)

theorem breaks_of_mark {char : Char} (mark : char ∈ [',', ']', '\x7d']) (rest : List Char) :
    Breaks (char :: rest) := by
  intro other front
  cases front
  simp only [List.mem_cons, List.not_mem_nil, or_false] at mark
  rcases mark with rfl | rfl | rfl <;> exact ⟨rfl, rfl⟩

/-- Another part or the closing mark comes behind a part. -/
theorem breaks_of_parts {α : Type} (parts : List α) (write : α → List Char) {mark : Char}
    (closing : mark ∈ [',', ']', '\x7d']) (after : List Char) :
    Breaks (parts.flatMap (fun part => ',' :: write part) ++ mark :: after) := by
  cases parts with
  | nil => exact breaks_of_mark closing after
  | cons part parts => exact breaks_of_mark (by decide) _

/-! Arrays. -/

theorem close_array {frames : List Frame} (fitting : frames.length < maxDepth)
    (items : List Written) :
    close (.array items) frames = deliver (.array items.reverse) frames := by
  rw [close, if_pos fitting]

/-- The rest of an array.  What is there of it so far is listed last one first. -/
theorem follow_items {room : Nat} {items : List Json} (each : ∀ item ∈ items, Reparses room item)
    {frames : List Frame} (fitting : frames.length + (room + 1) ≤ maxDepth) (done : List Written)
    (after : List Char) :
    follow (items.flatMap (fun item => ',' :: item.compact.toList) ++ ']' :: after)
        (.separator (.array done :: frames)) =
      (deliver (.array (done.reverse ++ items.map toWritten)) frames).bind (follow after) := by
  induction items generalizing done with
  | nil =>
      rw [List.flatMap_nil, List.nil_append, follow_of_scan (Token.scan_punctuation rfl after)]
      change (close (.array done) frames).bind (follow after) = _
      rw [close_array (by omega), List.map_nil, List.append_nil]
  | cons item items ih =>
      obtain ⟨first, others⟩ := List.forall_mem_cons.mp each
      rw [List.flatMap_cons, List.cons_append, List.cons_append,
        follow_of_scan (Token.scan_punctuation rfl _)]
      change follow _ (.value (.array done :: frames)) = _
      rw [List.append_assoc, first (by rw [List.length_cons]; omega) (awaits_value _)
        (breaks_of_parts items _ (by decide) after)]
      change follow _ (.separator (.array (item.toWritten :: done) :: frames)) = _
      rw [ih others]
      simp

theorem reparses_array {room : Nat} {items : List Json}
    (each : ∀ item ∈ items, Reparses room item) : Reparses (room + 1) (.array items) := by
  intro frames state after fitting awaits breaks
  have opened (inner : List Char) : follow ('[' :: inner) state =
      follow inner (.firstItem (.array [] :: frames)) := by
    rw [follow_of_scan (Token.scan_punctuation rfl inner), awaits .openArray nofun]
    rfl
  cases items with
  | nil =>
      change follow ('[' :: ']' :: after) state = _
      rw [opened, follow_of_scan (Token.scan_punctuation rfl after)]
      change (close (.array []) frames).bind (follow after) = _
      rw [close_array (by omega)]
      rfl
  | cons item items =>
      obtain ⟨first, others⟩ := List.forall_mem_cons.mp each
      have spelled : (Json.array (item :: items)).compact.toList ++ after =
          '[' :: (item.compact.toList ++
            (items.flatMap (fun item => ',' :: item.compact.toList) ++ ']' :: after)) := by
        simp [toList_compact_array]
      rw [spelled, opened, first (by rw [List.length_cons]; omega) (awaits_firstItem _ _)
        (breaks_of_parts items _ (by decide) after)]
      change follow _ (.separator (.array [item.toWritten] :: frames)) = _
      rw [follow_items others fitting, toWritten, itemsToWritten_eq_map]
      rfl

/-! Objects. -/

/-- The members of an object as they are kept while it is open. -/
def kept (members : List (String × Written)) : List (Option String × Written) :=
  members.map fun member => (some member.1, member.2)

theorem close_object {frames : List Frame} (fitting : frames.length < maxDepth)
    (members : List (String × Written)) :
    close (.object (kept members)) frames = deliver (.object members.reverse) frames := by
  have keys (members : List (String × Written)) :
      (kept members).mapM (fun member => member.1.map fun key => (key, member.2)) =
        some members := by
    induction members with
    | nil => rfl
    | cons member members ih =>
        rw [kept, List.map_cons, List.mapM_cons, ← kept, ih]
        rfl
  have reversed : (kept members).reverse = kept members.reverse := (List.map_reverse).symm
  simp only [close, if_pos fitting, reversed, keys]

/-- The state takes the key of a member. -/
def AwaitsKey (members : List (Option String × Written)) (frames : List Frame) (state : State) :
    Prop :=
  ∀ key, step state (.text key) = some (.colon (.member members key :: frames))

theorem follow_member {room : Nat} {member : String × Json} (value : Reparses room member.2)
    {frames : List Frame} (fitting : frames.length + (room + 1) ≤ maxDepth)
    {done : List (String × Written)} {state : State}
    (awaits : AwaitsKey (kept done) frames state) {after : List Char} (breaks : Breaks after) :
    follow (memberChars member ++ after) state =
      follow after
        (.separator (.object (kept ((member.1, member.2.toWritten) :: done)) :: frames)) := by
  rw [memberChars, List.append_assoc, follow_of_scan (Token.scan_quoted member.1 _), awaits,
    Option.bind_some, List.cons_append, follow_of_scan (Token.scan_punctuation rfl _)]
  change follow _ (.value (.member (kept done) (some member.1) :: frames)) = _
  rw [value (by rw [List.length_cons]; omega) (awaits_value _) breaks]
  rfl

/-- The rest of an object, like that of an array. -/
theorem follow_members {room : Nat} {members : List (String × Json)}
    (each : ∀ member ∈ members, Reparses room member.2) {frames : List Frame}
    (fitting : frames.length + (room + 1) ≤ maxDepth) (done : List (String × Written))
    (after : List Char) :
    follow (members.flatMap (fun member => ',' :: memberChars member) ++ '\x7d' :: after)
        (.separator (.object (kept done) :: frames)) =
      (deliver (.object (done.reverse ++
        members.map fun member => (member.1, member.2.toWritten))) frames).bind (follow after) := by
  induction members generalizing done with
  | nil =>
      rw [List.flatMap_nil, List.nil_append, follow_of_scan (Token.scan_punctuation rfl after)]
      change (close (.object (kept done)) frames).bind (follow after) = _
      rw [close_object (by omega), List.map_nil, List.append_nil]
  | cons member members ih =>
      obtain ⟨first, others⟩ := List.forall_mem_cons.mp each
      rw [List.flatMap_cons, List.cons_append, List.cons_append,
        follow_of_scan (Token.scan_punctuation rfl _)]
      change follow _ (.key (.object (kept done) :: frames)) = _
      rw [List.append_assoc, follow_member first fitting (fun _ => rfl)
        (breaks_of_parts members _ (by decide) after), ih others]
      simp

theorem reparses_object {room : Nat} {members : List (String × Json)}
    (each : ∀ member ∈ members, Reparses room member.2) :
    Reparses (room + 1) (.object members) := by
  intro frames state after fitting awaits breaks
  have opened (inner : List Char) : follow ('\x7b' :: inner) state =
      follow inner (.firstKey (.object [] :: frames)) := by
    rw [follow_of_scan (Token.scan_punctuation rfl inner), awaits .openObject nofun]
    rfl
  cases members with
  | nil =>
      change follow ('\x7b' :: '\x7d' :: after) state = _
      rw [opened, follow_of_scan (Token.scan_punctuation rfl after)]
      change (close (.object (kept [])) frames).bind (follow after) = _
      rw [close_object (by omega)]
      rfl
  | cons member members =>
      obtain ⟨first, others⟩ := List.forall_mem_cons.mp each
      have spelled : (Json.object (member :: members)).compact.toList ++ after =
          '\x7b' :: (memberChars member ++
            (members.flatMap (fun member => ',' :: memberChars member) ++ '\x7d' :: after)) := by
        simp [toList_compact_object]
      have awaitsKey : AwaitsKey (kept []) frames (.firstKey (.object [] :: frames)) :=
        fun _ => rfl
      rw [spelled, opened, follow_member first fitting awaitsKey
        (breaks_of_parts members _ (by decide) after), follow_members others fitting, toWritten,
        membersToWritten_eq_map]
      rfl

/-! Whole documents. -/

theorem reparses_of_fits {room : Nat} {json : Json} (fits : Fits room json) :
    Reparses room json := by
  induction fits with
  | null room =>
      intro frames state after fitting awaits breaks
      rw [toList_null]
      exact follow_scalar awaits (Token.scan_word rfl breaks) rfl
  | bool room value =>
      intro frames state after fitting awaits breaks
      cases value with
      | true =>
          rw [toList_true]
          exact follow_scalar awaits (Token.scan_word rfl breaks) rfl
      | false =>
          rw [toList_false]
          exact follow_scalar awaits (Token.scan_word rfl breaks) rfl
  | natural room lower upper =>
      intro frames state after fitting awaits breaks
      exact follow_scalar awaits (Token.scan_natural lower upper breaks) rfl
  | text room value =>
      intro frames state after fitting awaits breaks
      exact follow_scalar awaits (Token.scan_quoted value after) rfl
  | array each ih => exact reparses_array ih
  | object each ih => exact reparses_object ih

theorem parse?_of_follow {text : String} {document : Written}
    (followed : follow text.toList (.value []) = some (.done document)) :
    parse? text = some document := by
  obtain ⟨tokens, scanned, run⟩ := Option.bind_eq_some_iff.mp followed
  rw [parse?, scanned, Option.bind_some, ofTokens?, run]

/-- What is printed is parsed as what it was printed from. -/
theorem parse?_compact {json : Json} (fits : Fits maxDepth json) :
    parse? json.compact = some json.toWritten := by
  have nothingOpen : ([] : List Frame).length + maxDepth ≤ maxDepth := by simp
  have followed := reparses_of_fits fits nothingOpen (awaits_value []) (nofun : Breaks [])
  have ended : follow [] (.done json.toWritten) = some (.done json.toWritten) := by
    rw [follow, Token.scan]
    rfl
  rw [List.append_nil, deliver, Option.bind_some, ended] at followed
  exact parse?_of_follow followed

end Written

end SqlMapper.Json
