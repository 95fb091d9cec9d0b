/-!
Programs that ask questions and go on with the answers.

A `Dialogue` does nothing by itself: it is done, or it holds a request together with what it does
for each answer. `Dialogue.run` lets a server answer and keeps a transcript; `Dialogue.interpret`
turns each request into a dialogue over other requests. The lemmas say how both go through
sequencing. `Dialogue.Joined` tells in what ways several dialogues can go on side by side.
-/

namespace SqlMapper

structure Interface where
  Request : Type
  Answer : Request → Type

inductive Dialogue (interface : Interface) (α : Type) where
  | done (value : α)
  | ask (request : interface.Request) (next : interface.Answer request → Dialogue interface α)

def Interface.ask (interface : Interface) (request : interface.Request) :
    Dialogue interface (interface.Answer request) :=
  .ask request .done

structure Exchange (interface : Interface) where
  request : interface.Request
  answer : interface.Answer request

abbrev Server (interface : Interface) (σ : Type) :=
  (request : interface.Request) → σ → interface.Answer request × σ

structure Ending (interface : Interface) (σ α : Type) where
  value : α
  exchanges : List (Exchange interface)
  state : σ

namespace Dialogue

variable {interface other : Interface} {σ α β γ : Type}

def bind : Dialogue interface α → (α → Dialogue interface β) → Dialogue interface β
  | .done value, next => next value
  | .ask request rest, next => .ask request fun answer => (rest answer).bind next

instance : Monad (Dialogue interface) where
  pure := .done
  bind := bind

@[simp]
theorem pure_eq_done (value : α) : (pure value : Dialogue interface α) = .done value := rfl

@[simp]
theorem done_bind (value : α) (next : α → Dialogue interface β) :
    (Dialogue.done value >>= next) = next value := rfl

@[simp]
theorem ask_bind (request : interface.Request)
    (rest : interface.Answer request → Dialogue interface α) (next : α → Dialogue interface β) :
    (Dialogue.ask request rest >>= next) = .ask request fun answer => rest answer >>= next := rfl

theorem bind_done (dialogue : Dialogue interface α) : (dialogue >>= Dialogue.done) = dialogue := by
  induction dialogue with
  | done value => rfl
  | ask request rest ih => exact congrArg (Dialogue.ask request) (funext ih)

theorem bind_assoc (dialogue : Dialogue interface α) (next : α → Dialogue interface β)
    (last : β → Dialogue interface γ) :
    (dialogue >>= next >>= last) = dialogue >>= fun value => next value >>= last := by
  induction dialogue with
  | done value => rfl
  | ask request rest ih => exact congrArg (Dialogue.ask request) (funext ih)

instance : LawfulMonad (Dialogue interface) :=
  LawfulMonad.mk' (Dialogue interface) bind_done (fun _ _ => rfl) bind_assoc

def run (server : Server interface σ) : Dialogue interface α → σ → Ending interface σ α
  | .done value, state => { value, exchanges := [], state }
  | .ask request next, state =>
    let (answer, state) := server request state
    let ending := (next answer).run server state
    { ending with exchanges := { request, answer } :: ending.exchanges }

/-- Makes other requests in place of each request. -/
def interpret
    (meaning : (request : interface.Request) → Dialogue other (interface.Answer request)) :
    Dialogue interface α → Dialogue other α
  | .done value => .done value
  | .ask request next => meaning request >>= fun answer => (next answer).interpret meaning

/-- The first dialogue runs to its end and the second goes on from the state that it leaves. -/
theorem run_bind (server : Server interface σ) (dialogue : Dialogue interface α)
    (next : α → Dialogue interface β) (state : σ) :
    (dialogue >>= next).run server state =
      let first := dialogue.run server state
      let second := (next first.value).run server first.state
      { second with exchanges := first.exchanges ++ second.exchanges } := by
  induction dialogue generalizing state with
  | done value => rfl
  | ask request rest ih => simp only [ask_bind, run, ih, List.cons_append]

theorem interpret_bind
    (meaning : (request : interface.Request) → Dialogue other (interface.Answer request))
    (dialogue : Dialogue interface α) (next : α → Dialogue interface β) :
    (dialogue >>= next).interpret meaning =
      dialogue.interpret meaning >>= fun value => (next value).interpret meaning := by
  induction dialogue with
  | done value => rfl
  | ask request rest ih => simp only [ask_bind, interpret, ih, bind_assoc]

/-- A way in which dialogues go on side by side until all of them are done. In each step one of
them asks what it has to ask; the trace tells which. The dialogues are begun in their order, and
each goes on until it has to wait for an answer. `waits` holds at the places of those that may
have to wait: one that never does is done before any behind it gets a turn. -/
inductive Joined (waits : Nat → Prop) (server : Server interface σ) :
    List (Dialogue interface α) → σ → List (Nat × Exchange interface) → List α → Prop where
  | finished (values : List α) (state : σ) :
      Joined waits server (values.map .done) state [] values
  | turn {dialogues : List (Dialogue interface α)} {place : Nat} {request : interface.Request}
      {next : interface.Answer request → Dialogue interface α} {state : σ}
      {trace : List (Nat × Exchange interface)} {values : List α}
      (asks : dialogues[place]? = some (.ask request next))
      (begun : ∀ earlier < place,
        waits earlier ∨ ∃ value, dialogues[earlier]? = some (.done value))
      (rest : Joined waits server (dialogues.set place (next (server request state).1))
        (server request state).2 trace values) :
      Joined waits server dialogues state
        ((place, { request, answer := (server request state).1 }) :: trace) values

end Dialogue

end SqlMapper
