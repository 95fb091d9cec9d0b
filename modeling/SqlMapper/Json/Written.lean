import SqlMapper.Entries
import SqlMapper.Json.Token

/-!
JSON text as it is written.

A `Written` document keeps what a `Json` document cannot: members given twice, and the places
where the text is well formed but has no value, such as a numeral out of range. A reader that
skips over such a place never notices it. `Json.parse?` reads a whole text and skips nothing.
-/

namespace SqlMapper.Json

inductive Written where
  | null
  | bool (value : Bool)
  | number (value : Number)
  | text (value : String)
  | array (items : List Written)
  | object (members : List (String × Written))
  | unreadable

namespace Written

instance : Inhabited Written := ⟨.null⟩

/-- Arrays and objects may be nested this deep. -/
def maxDepth : Nat := 127

/-- An array or object that is still open. What it holds so far is listed last one first. -/
inductive Frame where
  | array (items : List Written)
  | object (members : List (Option String × Written))
  | member (members : List (Option String × Written)) (key : Option String)

inductive State where
  | value (frames : List Frame)
  | firstItem (frames : List Frame)
  | firstKey (frames : List Frame)
  | key (frames : List Frame)
  | colon (frames : List Frame)
  | separator (frames : List Frame)
  | done (document : Written)

def deliver (value : Written) : List Frame → Option State
  | [] => some (.done value)
  | .array items :: frames => some (.separator (.array (value :: items) :: frames))
  | .member members key :: frames => some (.separator (.object ((key, value) :: members) :: frames))
  | .object _ :: _ => none

/-- Closes a container. It has no value if it is nested too deep or if one of its keys has none. -/
def close (frame : Frame) (frames : List Frame) : Option State :=
  let value := match frame with
    | .array items => .array items.reverse
    | .object members | .member members _ =>
      match members.reverse.mapM fun member => member.1.map fun key => (key, member.2) with
      | some members => .object members
      | none => .unreadable
  deliver (if frames.length < maxDepth then value else .unreadable) frames

def scalar? : Token → Option Written
  | .null => some .null
  | .bool value => some (.bool value)
  | .number value => some (value.elim .unreadable .number)
  | .text value => some (value.elim .unreadable .text)
  | _ => none

def begin (frames : List Frame) : Token → Option State
  | .openArray => some (.firstItem (.array [] :: frames))
  | .openObject => some (.firstKey (.object [] :: frames))
  | token => (scalar? token).bind (deliver · frames)

def readKey (frames : List Frame) (token : Token) : Option State :=
  match frames, token with
  | .object members :: frames, .text key => some (.colon (.member members key :: frames))
  | _, _ => none

def step (state : State) (token : Token) : Option State :=
  match state, token with
  | .value frames, token => begin frames token
  | .firstItem (frame :: frames), .closeArray => close frame frames
  | .firstItem frames, token => begin frames token
  | .firstKey (frame :: frames), .closeObject => close frame frames
  | .firstKey frames, token => readKey frames token
  | .key frames, token => readKey frames token
  | .colon frames, .colon => some (.value frames)
  | .separator (.array items :: frames), .comma => some (.value (.array items :: frames))
  | .separator (.array items :: frames), .closeArray => close (.array items) frames
  | .separator (.object members :: frames), .comma => some (.key (.object members :: frames))
  | .separator (.object members :: frames), .closeObject => close (.object members) frames
  | _, _ => none

def ofTokens? (tokens : List Token) : Option Written :=
  match tokens.foldlM step (.value []) with
  | some (.done document) => some document
  | _ => none

def parse? (text : String) : Option Written :=
  (Token.scan text.toList).bind ofTokens?

mutual

/-- The document without regard to how it was written: of a member given twice the first place and
the last value count. -/
def toJson? : Written → Option Json
  | .null => some .null
  | .bool value => some (.bool value)
  | .number value => some (.number value)
  | .text value => some (.text value)
  | .array items => (itemsToJson? items).map .array
  | .object members => (membersToJson? members).map fun members => .object (distinctEntries members)
  | .unreadable => none

def itemsToJson? : List Written → Option (List Json)
  | [] => some []
  | item :: rest => do
    let value ← item.toJson?
    let values ← itemsToJson? rest
    some (value :: values)

/-- The members of an object, each as often as it is written. -/
def membersToJson? : List (String × Written) → Option (List (String × Json))
  | [] => some []
  | (key, value) :: rest => do
    let value ← value.toJson?
    let values ← membersToJson? rest
    some ((key, value) :: values)

end

def isReadable (document : Written) : Bool :=
  document.toJson?.isSome

end Written

mutual

def toWritten : Json → Written
  | .null => .null
  | .bool value => .bool value
  | .number value => .number value
  | .text value => .text value
  | .array items => .array (itemsToWritten items)
  | .object members => .object (membersToWritten members)

def itemsToWritten : List Json → List Written
  | [] => []
  | item :: rest => item.toWritten :: itemsToWritten rest

def membersToWritten : List (String × Json) → List (String × Written)
  | [] => []
  | (key, value) :: rest => (key, value.toWritten) :: membersToWritten rest

end

def parse? (text : String) : Option Json :=
  (Written.parse? text).bind Written.toJson?

end SqlMapper.Json
