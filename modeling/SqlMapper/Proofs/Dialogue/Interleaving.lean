import SqlMapper.Proofs.Dialogue.Run
import SqlMapper.Proofs.Sharing

namespace SqlMapper.Dialogue

/-! Dialogues side by side.

Each dialogue hears what it hears from the server, in the states in which the others
leave it.  What holds for a dialogue in whatever states the server is holds for it side
by side with others, and if answers depend on requests alone, it asks what it would ask
if it were the only one.  If no dialogue has to wait, one is done before the next begins.
-/

variable {interface : Interface} {σ α β γ : Type} {waits : Nat → Prop} {server : Server interface σ}
  {state : σ} {reply : (request : interface.Request) → interface.Answer request}
  {dialogue : Dialogue interface α} {dialogues : List (Dialogue interface α)}
  {trace : List (Nat × Exchange interface)} {values : List α} {place : Nat}

/-- The exchanges of the dialogue at a place. -/
def exchangesAt (place : Nat) (trace : List (Nat × Exchange interface)) :
    List (Exchange interface) :=
  (trace.filter (·.1 == place)).map (·.2)

theorem exchangesAt_cons (place other : Nat) (exchange : Exchange interface)
    (trace : List (Nat × Exchange interface)) :
    exchangesAt place ((other, exchange) :: trace) =
      if other = place then exchange :: exchangesAt place trace else exchangesAt place trace := by
  by_cases same : other = place <;> simp [exchangesAt, same]

theorem mem_exchangesAt {exchange : Exchange interface} :
    exchange ∈ exchangesAt place trace ↔ (place, exchange) ∈ trace := by
  simp [exchangesAt]

theorem map_tagged (place : Nat) (exchanges : List (Exchange interface)) :
    (exchanges.map (place, ·)).map (·.2) = exchanges := by
  rw [List.map_map]
  exact List.map_id exchanges

/-- The server as one dialogue among others meets it: at each request in the next of the
states that are listed, and in the last state once there are no more. -/
def revisited (server : Server interface σ) (last : σ) : Server interface (List σ)
  | request, [] => ((server request last).1, [])
  | request, state :: later => ((server request state).1, later)

/-- What holds for the answers of a server in any state holds for them here. -/
theorem answer_revisited (server : Server interface σ) (last : σ) (request : interface.Request)
    (states : List σ) :
    ∃ state, (revisited server last request states).1 = (server request state).1 := by
  cases states with
  | nil => exact ⟨last, rfl⟩
  | cons state later => exact ⟨state, rfl⟩

theorem steady_revisited (steadily : Steady server reply) (last : σ) :
    Steady (revisited server last) reply := by
  intro request states
  obtain ⟨state, same⟩ := answer_revisited server last request states
  rw [same, steadily]

theorem Joined.each (joined : Joined waits server dialogues state trace values) (last : σ)
    (found : dialogues[place]? = some dialogue) :
    ∃ states, values[place]? = some (dialogue.run (revisited server last) states).value ∧
      exchangesAt place trace = (dialogue.run (revisited server last) states).exchanges := by
  induction joined generalizing dialogue with
  | finished values state =>
      rw [List.getElem?_map] at found
      obtain ⟨value, held, same⟩ := Option.map_eq_some_iff.mp found
      subst same
      exact ⟨[], held, rfl⟩
  | @turn dialogues other request next state trace values asks begun rest ih =>
      -- Its own turn adds the present state; the turns of others add none.
      rw [exchangesAt_cons]
      by_cases same : other = place
      · subst same
        rw [asks] at found
        cases found
        obtain ⟨states, value, exchanges⟩ :=
          ih (List.getElem?_set_self (List.getElem?_eq_some_iff.mp asks).1)
        rw [if_pos rfl, exchanges]
        exact ⟨state :: states, value, rfl⟩
      · rw [if_neg same]
        exact ih (by rw [List.getElem?_set_ne same, found])

/-- A dialogue that is done gets no turn any more. -/
theorem Joined.silent {value : α} (joined : Joined waits server dialogues state trace values)
    (ended : dialogues[place]? = some (.done value)) : ∀ entry ∈ trace, entry.1 ≠ place := by
  obtain ⟨_, _, nothing⟩ := joined.each state ended
  intro entry member here
  subst here
  have listed := mem_exchangesAt.mpr member
  rw [nothing] at listed
  cases listed

theorem Joined.length_values (joined : Joined waits server dialogues state trace values) :
    values.length = dialogues.length := by
  induction joined with
  | finished values state => exact (List.length_map _).symm
  | turn asks begun rest ih => rw [ih, List.length_set]

theorem Joined.each_item {write : β → Dialogue interface α} {items : List β} {item : β}
    (joined : Joined waits server (items.map write) state trace values) (last : σ)
    (here : items[place]? = some item) :
    ∃ states, values[place]? = some ((write item).run (revisited server last) states).value ∧
      exchangesAt place trace = ((write item).run (revisited server last) states).exchanges :=
  joined.each last (by rw [List.getElem?_map, here, Option.map_some])

theorem Joined.values_eq {write : β → Dialogue interface α} {items : List β} {result : β → α}
    (joined : Joined waits server (items.map write) state trace values) (last : σ)
    (each : ∀ item ∈ items, ∀ states,
      ((write item).run (revisited server last) states).value = result item) :
    values = items.map result := by
  refine List.ext_getElem? fun place => ?_
  cases here : items[place]? with
  | none =>
      have short : values.length = items.length := joined.length_values.trans (List.length_map _)
      rw [List.getElem?_map, here]
      exact List.getElem?_eq_none_iff.mpr (short ▸ List.getElem?_eq_none_iff.mp here)
  | some item =>
      obtain ⟨states, value, _⟩ := joined.each_item last here
      rw [value, each item (List.mem_of_getElem? here), List.getElem?_map, here]
      rfl

/-- Taking turns changes neither what a dialogue asks nor what comes of it. -/
theorem Joined.alone (steadily : Steady server reply)
    (joined : Joined waits server dialogues state trace values) :
    values = dialogues.map (fun dialogue => (dialogue.outcome reply).value) ∧
      ∀ place dialogue, dialogues[place]? = some dialogue →
        exchangesAt place trace = (dialogue.outcome reply).exchanges := by
  have still := steady_revisited steadily state
  constructor
  · rw [← List.map_id dialogues] at joined
    exact joined.values_eq state fun dialogue _ states => (run_of_steady still dialogue states).1
  · intro place dialogue found
    obtain ⟨states, _, exchanges⟩ := joined.each state found
    rw [exchanges, (run_of_steady still dialogue states).2]

/-! Dialogues that do not wait. -/

theorem mapM_done (values : List α) :
    (values.map (.done : α → Dialogue interface α)).mapM id = .done values := by
  induction values with
  | nil => rfl
  | cons value values ih =>
      rw [List.map_cons, List.mapM_cons, ih]
      rfl

theorem done_of_lt (inside : place < (values.map (.done : α → Dialogue interface α)).length) :
    ∃ value, (values.map (.done : α → Dialogue interface α))[place]? = some (.done value) := by
  rw [List.length_map] at inside
  exact ⟨values[place], by simp [inside]⟩

/-- The first dialogue that is not done goes on. -/
theorem mapM_of_turn {request : interface.Request}
    {next : interface.Answer request → Dialogue interface α}
    (asks : dialogues[place]? = some (.ask request next))
    (ended : ∀ earlier < place, ∃ value, dialogues[earlier]? = some (.done value)) :
    dialogues.mapM id = .ask request fun answer => (dialogues.set place (next answer)).mapM id := by
  induction place generalizing dialogues with
  | zero =>
      cases dialogues with
      | nil => cases asks
      | cons first rest =>
          cases asks
          simp only [List.set_cons_zero, List.mapM_cons, id, ask_bind]
  | succ place ih =>
      cases dialogues with
      | nil => cases asks
      | cons first rest =>
          -- What stands in front is done and asks nothing.
          obtain ⟨value, here⟩ := ended 0 (Nat.succ_pos place)
          cases here
          have turn : rest[place]? = some (.ask request next) := asks
          have later := ih turn fun earlier before =>
            ended (earlier + 1) (Nat.succ_lt_succ before)
          simp only [List.set_cons_succ, List.mapM_cons, id, done_bind, later, ask_bind]

/-- If no dialogue waits, they run one after the other. -/
theorem Joined.prompt (joined : Joined waits server dialogues state trace values)
    (prompt : ∀ place, ¬ waits place) :
    values = ((dialogues.mapM id).run server state).value ∧
      trace.map (·.2) = ((dialogues.mapM id).run server state).exchanges := by
  induction joined with
  | finished values state =>
      rw [mapM_done]
      exact ⟨rfl, rfl⟩
  | @turn dialogues place request next state trace values asks begun rest ih =>
      have ended : ∀ earlier < place, ∃ value, dialogues[earlier]? = some (.done value) :=
        fun earlier before => (begun earlier before).resolve_left (prompt earlier)
      rw [mapM_of_turn asks ended, run, List.map_cons]
      exact ⟨ih.1, congrArg (List.cons _) ih.2⟩

/-- A dialogue that may begin can come to its end before the others get a turn. -/
theorem Joined.ahead {before after : List (Dialogue interface α)} (dialogue : Dialogue interface α)
    (begun : ∀ earlier < before.length,
      waits earlier ∨ ∃ value, before[earlier]? = some (.done value))
    (rest : Joined waits server (before ++ .done (dialogue.run server state).value :: after)
      (dialogue.run server state).state trace values) :
    Joined waits server (before ++ dialogue :: after) state
      ((dialogue.run server state).exchanges.map (before.length, ·) ++ trace) values := by
  induction dialogue generalizing state with
  | done value => exact rest
  | ask request next ih =>
      have asks : (before ++ .ask request next :: after)[before.length]? =
          some (.ask request next) := by simp
      refine .turn asks ?_ ?_
      · intro earlier inside
        rw [List.getElem?_append_left inside]
        exact begun earlier inside
      · rw [List.set_append_right _ _ (Nat.le_refl _), Nat.sub_self]
        exact ih _ rest

/-- Treating one after the other is possible, whoever may have to wait. -/
theorem joined_mapM (waits : Nat → Prop) (write : β → Dialogue interface α) (items : List β)
    (server : Server interface σ) (state : σ) :
    ∃ trace, Joined waits server (items.map write) state trace
        ((items.mapM write).run server state).value ∧
      trace.map (·.2) = ((items.mapM write).run server state).exchanges := by
  -- The dialogues in front of those that are left are done.
  suffices behind : ∀ ended : List α, ∃ trace,
      Joined waits server (ended.map .done ++ items.map write) state trace
          (ended ++ ((items.mapM write).run server state).value) ∧
        trace.map (·.2) = ((items.mapM write).run server state).exchanges from behind []
  induction items generalizing state with
  | nil =>
      intro ended
      refine ⟨[], ?_, rfl⟩
      have nothingLeft : Joined waits server (ended.map .done) state [] ended :=
        .finished ended state
      simpa [run] using nothingLeft
  | cons item items ih =>
      intro ended
      obtain ⟨trace, joined, exchanges⟩ :=
        ih ((write item).run server state).state (ended ++ [((write item).run server state).value])
      rw [List.map_append, List.append_assoc, List.append_assoc] at joined
      refine ⟨((write item).run server state).exchanges.map (ended.length, ·) ++ trace, ?_, ?_⟩
      · have place : (ended.map (Dialogue.done : α → Dialogue interface α)).length = ended.length :=
          List.length_map _
        rw [List.mapM_cons, run_bind, ← place]
        simp only [run_bind, pure_eq_done, run]
        exact .ahead (write item) (fun _ inside => .inr (done_of_lt inside)) joined
      · rw [List.mapM_cons, run_bind, List.map_append, map_tagged, exchanges]
        simp [run_bind, run]

/-! What dialogues may ask. -/

/-- Whatever it is told, the dialogue asks nothing but what is allowed and ends as ensured. -/
def Confined (allowed : interface.Request → Prop) (ensured : α → Prop) :
    Dialogue interface α → Prop
  | .done value => ensured value
  | .ask request next => allowed request ∧ ∀ answer, (next answer).Confined allowed ensured

theorem Confined.mono {allowed wider : interface.Request → Prop} {ensured : α → Prop}
    {dialogue : Dialogue interface α} (confined : dialogue.Confined allowed ensured)
    (wide : ∀ request, allowed request → wider request) : dialogue.Confined wider ensured := by
  induction dialogue with
  | done value => exact confined
  | ask request next ih =>
      exact ⟨wide request confined.1, fun answer => ih answer (confined.2 answer)⟩

theorem Confined.bind {allowed : interface.Request → Prop} {ensured : α → Prop} {last : β → Prop}
    {dialogue : Dialogue interface α} {next : α → Dialogue interface β}
    (first : dialogue.Confined allowed ensured)
    (rest : ∀ value, ensured value → (next value).Confined allowed last) :
    (dialogue >>= next).Confined allowed last := by
  induction dialogue with
  | done value => exact rest value first
  | ask request later ih => exact ⟨first.1, fun answer => ih answer (first.2 answer)⟩

/-- A result of which something is ensured unless it is a failure. -/
def Sure {ε : Type} (ensured : α → Prop) : Except ε α → Prop
  | .ok value => ensured value
  | .error _ => True

theorem Confined.bind_run {ε : Type} {allowed : interface.Request → Prop} {ensured : α → Prop}
    {last : β → Prop} {operation : ExceptT ε (Dialogue interface) α}
    {next : α → ExceptT ε (Dialogue interface) β}
    (first : (ExceptT.run operation).Confined allowed (Sure ensured))
    (rest : ∀ value, ensured value → (ExceptT.run (next value)).Confined allowed (Sure last)) :
    (ExceptT.run (operation >>= next)).Confined allowed (Sure last) := by
  rw [ExceptT.run_bind]
  refine first.bind fun result sure => ?_
  cases result with
  | ok value => exact rest value sure
  | error error => trivial

/-- Side by side, each dialogue still asks only what it may ask. -/
theorem Joined.confined {allowed : Nat → interface.Request → Prop} {ensured : α → Prop}
    (joined : Joined waits server dialogues state trace values)
    (each : ∀ (place : Nat) (dialogue : Dialogue interface α),
      dialogues[place]? = some dialogue → dialogue.Confined (allowed place) ensured) :
    ∀ entry ∈ trace, allowed entry.1 entry.2.request := by
  induction joined with
  | finished values state => exact fun _ member => absurd member List.not_mem_nil
  | @turn dialogues place request next state trace values asks begun rest ih =>
      obtain ⟨here, later⟩ := each place _ asks
      refine List.forall_mem_cons.mpr ⟨here, ih fun other dialogue found => ?_⟩
      by_cases same : place = other
      · subst same
        rw [List.getElem?_set_self (List.getElem?_eq_some_iff.mp asks).1] at found
        cases found
        exact later _
      · rw [List.getElem?_set_ne same] at found
        exact each other dialogue found

end SqlMapper.Dialogue
