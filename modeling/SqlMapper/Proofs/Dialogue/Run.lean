import SqlMapper.Dialogue

namespace SqlMapper.Dialogue

/-! How dialogues run.

Whatever a server does, each answer in a transcript is one that it gave.  A server
that answers by the request alone always lets a dialogue come to the same end, and
then several dialogues in a row do not know of one another.
-/

variable {interface : Interface} {ε σ α β : Type} {server : Server interface σ} {state : σ}

/-- The run of a dialogue that can fail. -/
def attempt (operation : ExceptT ε (Dialogue interface) α) (server : Server interface σ)
    (state : σ) : Ending interface σ (Except ε α) :=
  (ExceptT.run operation).run server state

theorem attempt_bind_ok {operation : ExceptT ε (Dialogue interface) α}
    {next : α → ExceptT ε (Dialogue interface) β} {value : α}
    {exchanges : List (Exchange interface)} {after : σ}
    (done : attempt operation server state = { value := .ok value, exchanges, state := after }) :
    attempt (operation >>= next) server state =
      { attempt (next value) server after with
        exchanges := exchanges ++ (attempt (next value) server after).exchanges } := by
  unfold attempt at done ⊢
  rw [ExceptT.run_bind, run_bind]
  simp only [done]

theorem attempt_bind_error {operation : ExceptT ε (Dialogue interface) α}
    {next : α → ExceptT ε (Dialogue interface) β} {error : ε}
    {exchanges : List (Exchange interface)} {after : σ}
    (failed : attempt operation server state =
      { value := .error error, exchanges, state := after }) :
    attempt (operation >>= next) server state =
      { value := .error error, exchanges, state := after } := by
  unfold attempt at failed ⊢
  rw [ExceptT.run_bind, run_bind]
  simp only [failed, pure_eq_done, run, List.append_nil]

theorem run_map (dialogue : Dialogue interface α) (change : α → β) (server : Server interface σ)
    (state : σ) :
    (change <$> dialogue).run server state =
      { dialogue.run server state with value := change (dialogue.run server state).value } := by
  rw [← bind_pure_comp, run_bind]
  simp [run]

theorem answered {dialogue : Dialogue interface α} {exchange : Exchange interface}
    (member : exchange ∈ (dialogue.run server state).exchanges) :
    ∃ state, exchange.answer = (server exchange.request state).1 := by
  induction dialogue generalizing state with
  | done value => cases member
  | ask request rest ih =>
      rcases List.mem_cons.mp member with first | later
      · subst first
        exact ⟨state, rfl⟩
      · exact ih _ later

/-! Dialogues in a row. -/

/-- What comes of dialogues that do not depend on the state of the server. -/
theorem run_mapM_of_each {γ : Type} {write : α → Dialogue interface β} {items : List α}
    {result : α → β} {pick : Exchange interface → Option γ} {picked : α → List γ}
    (each : ∀ item ∈ items, ∀ state, ((write item).run server state).value = result item ∧
      ((write item).run server state).exchanges.filterMap pick = picked item) (state : σ) :
    ((items.mapM write).run server state).value = items.map result ∧
      ((items.mapM write).run server state).exchanges.filterMap pick = items.flatMap picked := by
  induction items generalizing state with
  | nil => exact ⟨rfl, rfl⟩
  | cons item items ih =>
      obtain ⟨first, rest⟩ := List.forall_mem_cons.mp each
      obtain ⟨value, exchanges⟩ := first state
      obtain ⟨values, others⟩ := ih rest ((write item).run server state).state
      rw [List.mapM_cons, run_bind]
      simp only [run_bind, pure_eq_done, run, List.append_nil, List.filterMap_append]
      exact ⟨by rw [value, values, List.map_cons], by rw [exchanges, others, List.flatMap_cons]⟩

/-! Servers that answer by the request alone. -/

variable {reply : (request : interface.Request) → interface.Answer request}

def Steady (server : Server interface σ)
    (reply : (request : interface.Request) → interface.Answer request) : Prop :=
  ∀ request state, (server request state).1 = reply request

/-- The server that does nothing but answer. -/
def steady (reply : (request : interface.Request) → interface.Answer request) :
    Server interface Unit :=
  fun request state => (reply request, state)

/-- What has been asked, and what has come of it. -/
def outcome (reply : (request : interface.Request) → interface.Answer request)
    (dialogue : Dialogue interface α) : Ending interface Unit α :=
  dialogue.run (steady reply) ()

theorem run_of_steady (steadily : Steady server reply) (dialogue : Dialogue interface α)
    (state : σ) :
    (dialogue.run server state).value = (dialogue.outcome reply).value ∧
      (dialogue.run server state).exchanges = (dialogue.outcome reply).exchanges := by
  unfold outcome
  induction dialogue generalizing state with
  | done value => exact ⟨rfl, rfl⟩
  | ask request rest ih =>
      obtain ⟨value, exchanges⟩ := ih (reply request) (server request state).2
      simp only [run, steadily request state, steady]
      exact ⟨value, congrArg (List.cons _) exchanges⟩

theorem outcome_mapM (write : α → Dialogue interface β) (items : List α) :
    (items.mapM write).outcome reply = {
      value := items.map fun item => ((write item).outcome reply).value
      exchanges := items.flatMap fun item => ((write item).outcome reply).exchanges
      state := () } := by
  induction items with
  | nil => rfl
  | cons item items ih =>
      unfold outcome at ih ⊢
      rw [List.mapM_cons, run_bind]
      simp only [run_bind, ih, pure_eq_done, run, List.append_nil, List.map_cons, List.flatMap_cons]

end SqlMapper.Dialogue
