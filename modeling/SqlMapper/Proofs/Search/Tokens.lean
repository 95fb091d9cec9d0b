import SqlMapper.Condition
import SqlMapper.Proofs.Search.Predicate
import SqlMapper.Proofs.Statement.Symbols

namespace SqlMapper

/-! Clauses as the database reads them.

A search clause is cut into tokens, at the conjunctions that join its predicates, and
each part is read as a predicate.  The second half of a range stands behind a
conjunction of its own, at which nothing is cut.  The text of a condition is read as
the predicate that the condition says.
-/

open Sql (Symbol isNameChar)

variable {left right : List Symbol} {letters : List Char} {separator : Char}

namespace Search

inductive Token where
  | word (letters : String)
  | mark (char : Char)
  | name (identifier : String)
  | parameter (name : String)
deriving DecidableEq, Repr

/-- The word that ends behind some letters. -/
def wordOf (letters : List Char) : List Token :=
  if letters.isEmpty then [] else [.word (String.ofList letters)]

def markOf (char : Char) : List Token :=
  if Text.isBlank char then [] else [.mark char]

@[simp]
theorem markOf_close : markOf ')' = [.mark ')'] := rfl

@[simp]
theorem markOf_comma : markOf ',' = [.mark ','] := rfl

/-- The tokens of a text, with the letters of a word that has already begun. -/
def tokens (letters : List Char) : List Symbol → List Token
  | [] => wordOf letters
  | .char char :: rest =>
    if isNameChar char then tokens (letters ++ [char]) rest
    else wordOf letters ++ (markOf char ++ tokens [] rest)
  | .name identifier :: rest => wordOf letters ++ .name identifier :: tokens [] rest
  | .parameter name :: rest => wordOf letters ++ .parameter name :: tokens [] rest

@[simp]
theorem tokens_nil : tokens [] [] = [] := rfl

/-- The parts of a text between its conjunctions.  In a range, the next conjunction
belongs to the part. -/
def conjuncts : Bool → List Token → List (List Token)
  | _, [] => [[]]
  | false, .word "AND" :: rest => [] :: conjuncts false rest
  | true, .word "AND" :: rest => (conjuncts false rest).modifyHead (.word "AND" :: ·)
  | _, .word "BETWEEN" :: rest => (conjuncts true rest).modifyHead (.word "BETWEEN" :: ·)
  | ranging, token :: rest => (conjuncts ranging rest).modifyHead (token :: ·)

def number? (digits : List Char) : Option Nat :=
  if digits.all Char.isDigit then some (Nat.ofDigitChars 10 digits 0) else none

def scalar? : Token → Option Scalar
  | .name identifier => some (.column identifier)
  | .parameter name => some (.parameter name)
  | .word "NULL" => some .null
  | .word letters => (number? letters.toList).map .number
  | .mark _ => none

/-- A single operand, which may stand in parentheses. -/
def operand? : List Token → Option Scalar
  | [.mark '(', operand, .mark ')'] => scalar? operand
  | [operand] => scalar? operand
  | _ => none

/-- The items of a list up to the parenthesis that closes it. -/
def items? : List Token → Option (List Scalar)
  | [item, .mark ')'] => return [← scalar? item]
  | item :: .mark ',' :: rest => return (← scalar? item) :: (← items? rest)
  | _ => none

/-- What is said of a scalar. -/
def about? (tested : Scalar) : List Token → Option Predicate
  | [.word "IS", .word "NULL"] => some (.isNull tested)
  | [.word "IS", .word "NOT", .word "NULL"] => some (.isNotNull tested)
  | [.word "BETWEEN", low, .word "AND", high] =>
    return .between tested (← scalar? low) (← scalar? high)
  | .word "IN" :: .mark '(' :: items => (items? items).map (.oneOf tested)
  | .word "NOT" :: .word "IN" :: .mark '(' :: items => (items? items).map (.noneOf tested)
  | .mark '=' :: operand => (operand? operand).map (.equals tested)
  | .mark '!' :: .mark '=' :: operand => (operand? operand).map (.compares .different tested)
  | .mark '>' :: .mark '=' :: operand => (operand? operand).map (.compares .atLeast tested)
  | .mark '>' :: operand => (operand? operand).map (.compares .greater tested)
  | .mark '<' :: .mark '=' :: operand => (operand? operand).map (.compares .atMost tested)
  | .mark '<' :: operand => (operand? operand).map (.compares .less tested)
  | _ => none

def predicate? : List Token → Option Predicate
  | [] => none
  | tested :: rest => do about? (← scalar? tested) rest

/-- The truth of a search clause on a row, if it can be read.  Without a clause every
row is let through. -/
def truth? (scope : Scope) : Option String → Option Truth
  | none => some .holds
  | some text =>
    match tokens [] (Sql.symbols text) with
    | .word "WHERE" :: body => do
      return .all ((← (conjuncts false body).mapM predicate?).map (Predicate.truth scope))
    | _ => none

section

variable {tested : Scalar} {operand low high : Token} {rest : List Token}

theorem predicate?_name (column : String) (rest : List Token) :
    predicate? (.name column :: rest) = about? (.column column) rest := rfl

theorem about?_equals : about? tested [.mark '=', .mark '(', operand, .mark ')'] =
    (scalar? operand).map (.equals tested) := rfl

theorem about?_compares (comparison : Comparison) :
    about? tested (comparison.token.toList.map .mark ++ [.mark '(', operand, .mark ')']) =
      (scalar? operand).map (.compares comparison tested) := by
  cases comparison <;> rfl

theorem about?_between : about? tested [.word "BETWEEN", low, .word "AND", high] =
    (scalar? low).bind fun low => (scalar? high).bind fun high =>
      some (.between tested low high) := rfl

theorem about?_oneOf : about? tested (.word "IN" :: .mark '(' :: rest) =
    (items? rest).map (.oneOf tested) := rfl

theorem about?_noneOf : about? tested (.word "NOT" :: .word "IN" :: .mark '(' :: rest) =
    (items? rest).map (.noneOf tested) := rfl

end

theorem tokens_append (apart : isNameChar separator = false) :
    tokens letters (left ++ .char separator :: right) =
      tokens letters left ++ (markOf separator ++ tokens [] right) := by
  induction left generalizing letters with
  | nil => simp [tokens, apart]
  | cons symbol rest ih =>
      cases symbol with
      | char char =>
          rw [List.cons_append, tokens, tokens]
          split
          · exact ih
          · rw [ih, List.append_assoc, List.append_assoc]
      | name identifier => rw [List.cons_append, tokens, tokens, ih, List.append_assoc]; rfl
      | parameter name => rw [List.cons_append, tokens, tokens, ih, List.append_assoc]; rfl

/-- Words that end apart from what follows are cut on their own. -/
theorem tokens_words {words : String}
    (apart : words.toList.getLast?.any (!isNameChar ·) = true) (rest : List Symbol) :
    tokens letters (words.toList.map .char ++ rest) =
      tokens letters (words.toList.map .char) ++ tokens [] rest := by
  obtain ⟨front, separator, same, plain⟩ := Sql.exists_last_of_any apart
  have parted : isNameChar separator = false := by simpa using plain
  have cut (rest : List Symbol) : tokens letters (words.toList.map .char ++ rest) =
      tokens letters (front.map .char) ++ (markOf separator ++ tokens [] rest) := by
    rw [same, List.map_append, List.append_assoc]
    exact tokens_append parted
  have alone := cut []
  rw [List.append_nil, tokens_nil, List.append_nil] at alone
  rw [cut, alone, List.append_assoc]

/-- A part that no conjunction cuts. -/
def Whole (part : List Token) : Prop :=
  ∀ rest, conjuncts false (part ++ rest) = (conjuncts false rest).modifyHead (part ++ ·)

/-- A token at which no conjunction is cut and no range begins. -/
def Token.Solid (token : Token) : Prop :=
  token ≠ .word "AND" ∧ token ≠ .word "BETWEEN"

@[simp]
theorem Token.solid_word {letters : String} :
    Solid (.word letters) ↔ letters ≠ "AND" ∧ letters ≠ "BETWEEN" := by
  simp [Solid]

@[simp]
theorem Token.solid_mark (char : Char) : Solid (.mark char) := by
  simp [Solid]

@[simp]
theorem Token.solid_name (identifier : String) : Solid (.name identifier) := by
  simp [Solid]

@[simp]
theorem Token.solid_parameter (name : String) : Solid (.parameter name) := by
  simp [Solid]

theorem conjuncts_cons {token : Token} (solid : token.Solid) (ranging : Bool)
    (rest : List Token) :
    conjuncts ranging (token :: rest) = (conjuncts ranging rest).modifyHead (token :: ·) := by
  obtain ⟨join, range⟩ := solid
  cases token with
  | word letters => rw [conjuncts] <;> simp_all
  | mark | name | parameter => rw [conjuncts] <;> simp

theorem whole_of_solid {part : List Token} (solid : ∀ token ∈ part, token.Solid) :
    Whole part := by
  intro rest
  induction part with
  | nil =>
      rw [List.nil_append]
      cases conjuncts false rest <;> rfl
  | cons token part ih =>
      obtain ⟨here, others⟩ := List.forall_mem_cons.mp solid
      rw [List.cons_append, conjuncts_cons here, ih others, List.modifyHead_modifyHead]
      rfl

theorem whole_range {low high : Token} (solid : low.Solid) (solidHigh : high.Solid)
    (column : String) : Whole [.name column, .word "BETWEEN", low, .word "AND", high] := by
  intro rest
  have range : conjuncts false (.word "BETWEEN" :: low :: .word "AND" :: high :: rest) =
      (conjuncts true (low :: .word "AND" :: high :: rest)).modifyHead (.word "BETWEEN" :: ·) := rfl
  have join : conjuncts true (.word "AND" :: high :: rest) =
      (conjuncts false (high :: rest)).modifyHead (.word "AND" :: ·) := rfl
  simp only [List.cons_append, List.nil_append]
  rw [conjuncts_cons (Token.solid_name column), range, conjuncts_cons solid, join,
    conjuncts_cons solidHigh]
  cases conjuncts false rest <;> rfl

end Search

open Search

namespace Operand

def token : Operand → Token
  | .null => .word "NULL"
  | .bit true => .word "1"
  | .bit false => .word "0"
  | .parameter name => .parameter name

def scalar : Operand → Scalar
  | .null => .null
  | .bit value => .number (if value then 1 else 0)
  | .parameter name => .parameter name

theorem scalar?_token (operand : Operand) : scalar? operand.token = some operand.scalar := by
  cases operand with
  | null => rfl
  | bit value => cases value <;> rfl
  | parameter name => rfl

@[simp]
theorem solid_token (operand : Operand) : operand.token.Solid := by
  cases operand with
  | null => simp [token]
  | bit value => cases value <;> simp [token]
  | parameter name => simp [token]

/-- The tokens of the items of a list and of the parenthesis that closes it. -/
def listTokens : List Operand → List Token
  | [] => [.mark ')']
  | [item] => [item.token, .mark ')']
  | item :: rest => item.token :: .mark ',' :: listTokens rest

theorem tokens_sql (operand : Operand) :
    tokens [] (operand.sql.flatMap Piece.symbols) = [operand.token] := by
  cases operand with
  | null => rfl
  | bit value => cases value <;> rfl
  | parameter name => rfl

theorem tokens_separated (operand : Operand) (separator : Char)
    (apart : isNameChar separator = false) (rest : List Symbol) :
    tokens [] (operand.sql.flatMap Piece.symbols ++ .char separator :: rest) =
      operand.token :: (markOf separator ++ tokens [] rest) := by
  rw [tokens_append apart, operand.tokens_sql]
  rfl

theorem tokens_closed (operand : Operand) :
    tokens [] ((operand.sql ++ [Piece.text ")"]).flatMap Piece.symbols) =
      [operand.token, .mark ')'] := by
  rw [List.flatMap_append]
  exact operand.tokens_separated ')' rfl []

theorem tokens_range (low high : Operand) :
    tokens [] ((low.sql ++ [Piece.text " AND "] ++ high.sql).flatMap Piece.symbols) =
      [low.token, .word "AND", high.token] := by
  rw [List.append_assoc, List.flatMap_append]
  exact (low.tokens_separated ' ' rfl _).trans
    (congrArg (low.token :: Token.word "AND" :: ·) high.tokens_sql)

theorem tokens_list : ∀ {items : List Operand}, items ≠ [] →
    tokens [] ((Sql.separated "," (items.map sql) ++ [Piece.text ")"]).flatMap Piece.symbols) =
      listTokens items
  | [item], _ => by simpa [Sql.separated, listTokens] using item.tokens_closed
  | item :: next :: others, _ => by
      have rest := tokens_list (List.cons_ne_nil next others)
      have here := item.tokens_separated ',' rfl
        ((Sql.separated "," ((next :: others).map sql) ++ [Piece.text ")"]).flatMap Piece.symbols)
      rw [rest] at here
      simpa [Sql.separated, Piece.symbols, List.intercalate_cons_cons, listTokens] using here

theorem items?_listTokens : ∀ {items : List Operand}, items ≠ [] →
    items? (listTokens items) = some (items.map scalar)
  | [item], _ => by simp [listTokens, items?, scalar?_token]
  | item :: next :: others, _ => by
      have rest := items?_listTokens (List.cons_ne_nil next others)
      simp [listTokens, items?, scalar?_token, rest]

theorem solid_listTokens : ∀ items : List Operand, ∀ token ∈ listTokens items, token.Solid
  | [] => by simp [listTokens]
  | [item] => by simp [listTokens]
  | item :: next :: others => by
      have rest := solid_listTokens (next :: others)
      simpa [listTokens] using rest

end Operand

namespace Condition

/-- The predicate that a condition says.  One with a subquery is none of a single row. -/
def predicate? : Condition → Option Predicate
  | .isNull column => some (.isNull (.column column))
  | .isNotNull column => some (.isNotNull (.column column))
  | .equals column operand => some (.equals (.column column) operand.scalar)
  | .compares column comparison operand =>
    some (.compares comparison (.column column) operand.scalar)
  | .between column low high => some (.between (.column column) low.scalar high.scalar)
  | .oneOf _ [] => some (.equals (.number 0) (.number 1))
  | .oneOf column items => some (.oneOf (.column column) (items.map Operand.scalar))
  | .noneOf _ [] => some (.equals (.number 0) (.number 0))
  | .noneOf column items => some (.noneOf (.column column) (items.map Operand.scalar))
  | .greatest _ _ _ _ => none

def tokens : Condition → List Token
  | .isNull column => [.name column, .word "IS", .word "NULL"]
  | .isNotNull column => [.name column, .word "IS", .word "NOT", .word "NULL"]
  | .equals column operand =>
    [.name column, .mark '=', .mark '(', operand.token, .mark ')']
  | .compares column comparison operand =>
    .name column :: (comparison.token.toList.map .mark ++
      [.mark '(', operand.token, .mark ')'])
  | .between column low high =>
    [.name column, .word "BETWEEN", low.token, .word "AND", high.token]
  | .oneOf _ [] => [.word "0", .mark '=', .word "1"]
  | .oneOf column items => .name column :: .word "IN" :: .mark '(' :: Operand.listTokens items
  | .noneOf _ [] => [.word "0", .mark '=', .word "0"]
  | .noneOf column items =>
    .name column :: .word "NOT" :: .word "IN" :: .mark '(' :: Operand.listTokens items
  | .greatest _ _ _ _ => []

variable {condition : Condition} {predicate : Predicate}

theorem tokens_about (column : String) {words : String}
    (apart : words.toList.getLast?.any (!isNameChar ·) = true) {rest : Sql} {last : List Token}
    (read : Search.tokens [] (rest.flatMap Piece.symbols) = last) :
    Search.tokens [] ((.name column :: .text words :: rest).flatMap Piece.symbols) =
      .name column :: (Search.tokens [] (words.toList.map .char) ++ last) := by
  rw [← read]
  exact congrArg (Token.name column :: ·) (tokens_words apart (rest.flatMap Piece.symbols))

theorem tokens_sql (said : condition.predicate?.isSome = true) :
    Search.tokens [] (condition.sql.flatMap Piece.symbols) = condition.tokens := by
  cases condition with
  | isNull column => rfl
  | isNotNull column => rfl
  | equals column operand => exact tokens_about column rfl operand.tokens_closed
  | compares column comparison operand =>
      have apart : (" " ++ comparison.token ++ " (").toList.getLast?.any (!isNameChar ·) = true := by
        cases comparison <;> rfl
      refine (tokens_about column apart operand.tokens_closed).trans ?_
      cases comparison <;> rfl
  | between column low high => exact tokens_about column rfl (low.tokens_range high)
  | oneOf column items =>
      cases items with
      | nil => rfl
      | cons first others =>
          exact tokens_about column rfl (Operand.tokens_list (List.cons_ne_nil first others))
  | noneOf column items =>
      cases items with
      | nil => rfl
      | cons first others =>
          exact tokens_about column rfl (Operand.tokens_list (List.cons_ne_nil first others))
  | greatest => cases said

theorem predicate?_tokens (said : condition.predicate? = some predicate) :
    Search.predicate? condition.tokens = some predicate := by
  cases condition with
  | isNull column => exact said
  | isNotNull column => exact said
  | equals column operand =>
      rw [tokens, predicate?_name, about?_equals, operand.scalar?_token]
      exact said
  | compares column comparison operand =>
      rw [tokens, predicate?_name, about?_compares, operand.scalar?_token]
      exact said
  | between column low high =>
      rw [tokens, predicate?_name, about?_between, low.scalar?_token, high.scalar?_token]
      exact said
  | oneOf column items =>
      cases items with
      | nil => exact said
      | cons first others =>
          rw [tokens, predicate?_name, about?_oneOf,
            Operand.items?_listTokens (List.cons_ne_nil first others)]
          · exact said
          · exact List.cons_ne_nil first others
  | noneOf column items =>
      cases items with
      | nil => exact said
      | cons first others =>
          rw [tokens, predicate?_name, about?_noneOf,
            Operand.items?_listTokens (List.cons_ne_nil first others)]
          · exact said
          · exact List.cons_ne_nil first others
  | greatest => cases said

theorem whole_tokens (condition : Condition) : Whole condition.tokens := by
  cases condition with
  | isNull column => exact whole_of_solid (by simp [tokens])
  | isNotNull column => exact whole_of_solid (by simp [tokens])
  | equals column operand => exact whole_of_solid (by simp [tokens])
  | compares column comparison operand =>
      refine whole_of_solid ?_
      cases comparison <;> simp [tokens, Comparison.token]
  | between column low high => exact whole_range low.solid_token high.solid_token column
  | oneOf column items =>
      cases items with
      | nil => exact whole_of_solid (by simp [tokens])
      | cons first others =>
          have solid := Operand.solid_listTokens (first :: others)
          exact whole_of_solid (by simpa [tokens] using solid)
  | noneOf column items =>
      cases items with
      | nil => exact whole_of_solid (by simp [tokens])
      | cons first others =>
          have solid := Operand.solid_listTokens (first :: others)
          exact whole_of_solid (by simpa [tokens] using solid)
  | greatest => exact whole_of_solid (by simp [tokens])

theorem conjuncts_body : ∀ {conditions : List Condition}, conditions ≠ [] →
    (∀ condition ∈ conditions, condition.predicate?.isSome = true) →
      conjuncts false (Search.tokens [] ((body conditions).flatMap Piece.symbols)) =
        conditions.map tokens
  | [condition], _, said => by
      have same : body [condition] = condition.sql := by simp [body, sqlAll, Sql.separated]
      have whole := condition.whole_tokens []
      rw [List.append_nil] at whole
      rw [same, tokens_sql (said condition List.mem_cons_self), whole]
      simp [conjuncts]
  | condition :: next :: others, _, said => by
      obtain ⟨here, rest⟩ := List.forall_mem_cons.mp said
      have cut := conjuncts_body (List.cons_ne_nil next others) rest
      have same : (body (condition :: next :: others)).flatMap Piece.symbols =
          condition.sql.flatMap Piece.symbols ++
            Symbol.char ' ' :: (['A', 'N', 'D', ' '].map .char ++
              (body (next :: others)).flatMap Piece.symbols) := by
        simp [body, sqlAll, Sql.separated, List.intercalate_cons_cons, Piece.symbols]
      -- No conjunction within the first condition is cut, so the first cut is behind it.
      have join (later : List Symbol) :
          markOf ' ' ++ Search.tokens [] (['A', 'N', 'D', ' '].map .char ++ later) =
            .word "AND" :: Search.tokens [] later := rfl
      have joined (later : List Token) :
          conjuncts false (.word "AND" :: later) = [] :: conjuncts false later := rfl
      rw [same, tokens_append rfl, join, tokens_sql here, condition.whole_tokens, joined, cut]
      simp

theorem predicates_tokens : ∀ {conditions : List Condition} {predicates : List Predicate},
    conditions.map predicate? = predicates.map some →
      (conditions.map tokens).mapM Search.predicate? = some predicates
  | [], predicates, said => by
      cases predicates with
      | nil => rfl
      | cons => cases said
  | condition :: rest, predicates, said => by
      cases predicates with
      | nil => cases said
      | cons predicate predicates =>
          obtain ⟨here, others⟩ := List.cons.inj said
          simp [predicate?_tokens here, predicates_tokens others]

/-- The clause of conditions that say predicates is true where all of these are. -/
theorem truth?_clause {conditions : List Condition} {predicates : List Predicate} (scope : Scope)
    (said : conditions.map predicate? = predicates.map some)
    (readable : Sql.Readable (body conditions))
    (named : ∀ name ∈ (body conditions).parameters, Sql.IsLabel name) :
    truth? scope ((clause? conditions).map (Sql.render .sqlServer)) =
      some (.all (predicates.map (Predicate.truth scope))) := by
  cases conditions with
  | nil =>
      cases predicates with
      | nil => rfl
      | cons => cases said
  | cons first others =>
      have present : ∀ condition ∈ first :: others, condition.predicate?.isSome = true := by
        intro condition member
        have included : condition.predicate? ∈ predicates.map some :=
          said ▸ List.mem_map_of_mem member
        obtain ⟨predicate, _, same⟩ := List.mem_map.mp included
        rw [← same]
        rfl
      have clause : clause? (first :: others) = some (.text "WHERE " :: body (first :: others)) :=
        rfl
      have read : Sql.symbols (Sql.render .sqlServer (.text "WHERE " :: body (first :: others))) =
          (.text "WHERE " :: body (first :: others)).flatMap Piece.symbols :=
        Sql.symbols_render (.words rfl readable) named
      have opened : Search.tokens [] ((.text "WHERE " :: body (first :: others)).flatMap
          Piece.symbols) =
            .word "WHERE" :: Search.tokens [] ((body (first :: others)).flatMap Piece.symbols) :=
        rfl
      have cut := conjuncts_body (List.cons_ne_nil first others) present
      simp only [clause, Option.map_some, truth?, read, opened, cut, predicates_tokens said]
      rfl

end Condition

end SqlMapper
