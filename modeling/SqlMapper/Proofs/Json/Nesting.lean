import SqlMapper.Json.Written

namespace SqlMapper.Json.Written

/-! How deep parsed documents are nested.

A container that is closed too deep inside others has no value, so what has one is never
nested deeper than the limit.
-/

/-- The arrays and objects of the document take no more levels than there is room for. -/
inductive Shallow : Nat → Written → Prop where
  | null (room : Nat) : Shallow room .null
  | bool (room : Nat) (value : Bool) : Shallow room (.bool value)
  | number (room : Nat) (value : Number) : Shallow room (.number value)
  | text (room : Nat) (value : String) : Shallow room (.text value)
  | array {room : Nat} {items : List Written} (each : ∀ item ∈ items, Shallow room item) :
      Shallow (room + 1) (.array items)
  | object {room : Nat} {members : List (String × Written)}
      (each : ∀ member ∈ members, Shallow room member.2) : Shallow (room + 1) (.object members)
  | unreadable (room : Nat) : Shallow room .unreadable

/-- What an open array or object holds so far. -/
def Frame.contents : Frame → List Written
  | .array items => items
  | .object members | .member members _ => members.map (·.2)

/-- What open arrays and objects hold fits below the place where they stand. -/
def FramesFit : List Frame → Prop
  | [] => True
  | frame :: frames =>
    (∀ value ∈ frame.contents, Shallow (maxDepth - (frames.length + 1)) value) ∧ FramesFit frames

/-- The invariant of parsing: everything that is open fits, and in the end the document does. -/
def StateFits : State → Prop
  | .value frames | .firstItem frames | .firstKey frames | .key frames | .colon frames
  | .separator frames => FramesFit frames
  | .done document => Shallow maxDepth document

variable {frames : List Frame} {frame : Frame} {value : Written} {state next : State}
  {token : Token} {tokens : List Token}

theorem fits_of_deliver (shallow : Shallow (maxDepth - frames.length) value)
    (fit : FramesFit frames) (delivered : deliver value frames = some next) : StateFits next := by
  unfold deliver at delivered
  split at delivered
  · cases delivered
    exact shallow
  · cases delivered
    exact ⟨List.forall_mem_cons.mpr ⟨shallow, fit.1⟩, fit.2⟩
  · cases delivered
    exact ⟨List.forall_mem_cons.mpr ⟨shallow, fit.1⟩, fit.2⟩
  · cases delivered

theorem exists_of_mem_mapM {α β : Type} {read : α → Option β} {items : List α}
    {values : List β} (done : items.mapM read = some values) {value : β} (member : value ∈ values) :
    ∃ item ∈ items, read item = some value := by
  induction items generalizing values with
  | nil =>
      cases done
      cases member
  | cons item items ih =>
      rw [List.mapM_cons] at done
      obtain ⟨first, found, rest⟩ := Option.bind_eq_some_iff.mp done
      obtain ⟨others, later, same⟩ := Option.bind_eq_some_iff.mp rest
      cases same
      rcases List.mem_cons.mp member with here | there
      · exact ⟨item, List.mem_cons_self, here ▸ found⟩
      · obtain ⟨other, inside, read⟩ := ih later there
        exact ⟨other, List.mem_cons_of_mem _ inside, read⟩

theorem shallow_of_members {room : Nat} {members : List (Option String × Written)}
    (each : ∀ value ∈ members.map (·.2), Shallow room value) :
    Shallow (room + 1)
      (match members.reverse.mapM fun member => member.1.map fun key => (key, member.2) with
        | some members => .object members
        | none => .unreadable) := by
  split
  · next found =>
    refine .object fun member inside => ?_
    obtain ⟨⟨key, value⟩, held, same⟩ := exists_of_mem_mapM found inside
    obtain ⟨_, _, rfl⟩ := Option.map_eq_some_iff.mp same
    exact each value (List.mem_map.mpr ⟨_, List.mem_reverse.mp held, rfl⟩)
  · exact .unreadable _

theorem fits_of_close (fit : FramesFit (frame :: frames))
    (closed : close frame frames = some next) : StateFits next := by
  obtain ⟨each, around⟩ := fit
  refine fits_of_deliver ?_ around closed
  split
  · next inside =>
    -- One level of the room around a container is its own.
    have room : maxDepth - frames.length = maxDepth - (frames.length + 1) + 1 := by omega
    rw [room]
    cases frame with
    | array items => exact .array fun item member => each item (List.mem_reverse.mp member)
    | object members | member members key => exact shallow_of_members each
  · exact .unreadable _

theorem shallow_of_scalar? {room : Nat} (scalar : scalar? token = some value) :
    Shallow room value := by
  cases token with
  | null =>
      cases scalar
      exact .null room
  | bool value =>
      cases scalar
      exact .bool room value
  | number value =>
      cases value <;> cases scalar
      · exact .unreadable room
      · exact .number room _
  | text value =>
      cases value <;> cases scalar
      · exact .unreadable room
      · exact .text room _
  | openArray | closeArray | openObject | closeObject | colon | comma => cases scalar

theorem fits_of_begin (fit : FramesFit frames) (begun : begin frames token = some next) :
    StateFits next := by
  unfold begin at begun
  split at begun
  · cases begun
    exact ⟨nofun, fit⟩
  · cases begun
    exact ⟨nofun, fit⟩
  · obtain ⟨value, scalar, delivered⟩ := Option.bind_eq_some_iff.mp begun
    exact fits_of_deliver (shallow_of_scalar? scalar) fit delivered

theorem fits_of_readKey (fit : FramesFit frames) (read : readKey frames token = some next) :
    StateFits next := by
  unfold readKey at read
  split at read
  · cases read
    exact fit
  · cases read

/-- Each token leads from fitting contents to fitting contents. -/
theorem fits_of_step (fit : StateFits state) (stepped : step state token = some next) :
    StateFits next := by
  unfold step at stepped
  split at stepped
  · exact fits_of_begin fit stepped
  · exact fits_of_close fit stepped
  · exact fits_of_begin fit stepped
  · exact fits_of_close fit stepped
  · exact fits_of_readKey fit stepped
  · exact fits_of_readKey fit stepped
  · cases stepped
    exact fit
  · cases stepped
    exact fit
  · exact fits_of_close fit stepped
  · cases stepped
    exact fit
  · exact fits_of_close fit stepped
  · cases stepped

theorem fits_of_steps (fit : StateFits state) (stepped : tokens.foldlM step state = some next) :
    StateFits next := by
  induction tokens generalizing state with
  | nil =>
      cases stepped
      exact fit
  | cons token tokens ih =>
      rw [List.foldlM_cons] at stepped
      obtain ⟨middle, first, rest⟩ := Option.bind_eq_some_iff.mp stepped
      exact ih (fits_of_step fit first) rest

/-- What is parsed is nested no deeper than the limit. -/
theorem shallow_of_parse? {text : String} {document : Written}
    (parsed : parse? text = some document) : Shallow maxDepth document := by
  obtain ⟨tokens, _, read⟩ := Option.bind_eq_some_iff.mp parsed
  unfold ofTokens? at read
  split at read
  · next ended =>
    cases read
    have nothingOpen : StateFits (.value []) := trivial
    exact fits_of_steps nothingOpen ended
  · cases read

end SqlMapper.Json.Written
