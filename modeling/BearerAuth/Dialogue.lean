/-!
# Dialogues

A computation that asks questions and goes on with their answers. It is a finite tree, so it
can be answered by one responder from beginning to end, or one question at a time while other
computations go on.
-/
namespace BearerAuth

inductive Dialogue (Q : Type) (A : Q → Type) (α : Type)
  | done (result : α)
  | ask (question : Q) (next : A question → Dialogue Q A α)

namespace Dialogue

variable {Q : Type} {A : Q → Type} {α β : Type}

def bind (dialogue : Dialogue Q A α) (f : α → Dialogue Q A β) : Dialogue Q A β :=
  match dialogue with
  | done result => f result
  | ask question next => ask question fun answer => (next answer).bind f

instance : Monad (Dialogue Q A) where
  pure := done
  bind := bind

/-- Ask one question and return its answer. -/
def question (q : Q) : Dialogue Q A (A q) := ask q done

/-- Answer every question in turn, with a state that the answers may change. -/
def run {σ : Type} (respond : (q : Q) → σ → A q × σ) : Dialogue Q A α → σ → α × σ
  | done result, state => (result, state)
  | ask q next, state =>
    let (answer, state) := respond q state
    (next answer).run respond state

@[simp] theorem pure_eq_done (result : α) : (pure result : Dialogue Q A α) = done result := rfl

@[simp] theorem done_bind (result : α) (f : α → Dialogue Q A β) :
    done result >>= f = f result := rfl

@[simp] theorem ask_bind (q : Q) (next : A q → Dialogue Q A α) (f : α → Dialogue Q A β) :
    ask q next >>= f = ask q fun answer => next answer >>= f := rfl

@[simp] theorem run_done {σ : Type} (respond : (q : Q) → σ → A q × σ) (result : α) (state : σ) :
    (done result : Dialogue Q A α).run respond state = (result, state) := rfl

@[simp] theorem run_ask {σ : Type} (respond : (q : Q) → σ → A q × σ) (q : Q)
    (next : A q → Dialogue Q A α) (state : σ) :
    (ask q next).run respond state =
      (next (respond q state).1).run respond (respond q state).2 := rfl

theorem bind_done (dialogue : Dialogue Q A α) : dialogue >>= done = dialogue := by
  induction dialogue with
  | done result => rfl
  | ask question next ih =>
    rw [ask_bind]
    exact congrArg (ask question) (funext ih)

theorem bind_assoc {γ : Type} (dialogue : Dialogue Q A α) (f : α → Dialogue Q A β)
    (g : β → Dialogue Q A γ) : dialogue >>= f >>= g = dialogue >>= fun a => f a >>= g := by
  induction dialogue with
  | done result => rfl
  | ask question next ih =>
    simp only [ask_bind]
    exact congrArg (ask question) (funext ih)

instance : LawfulMonad (Dialogue Q A) :=
  LawfulMonad.mk' _ (fun dialogue => bind_done dialogue) (fun _ _ => rfl) bind_assoc

/-- Answering a composed dialogue answers its parts one after the other. -/
theorem run_bind {σ : Type} (respond : (q : Q) → σ → A q × σ) (dialogue : Dialogue Q A α)
    (f : α → Dialogue Q A β) (state : σ) :
    (dialogue >>= f).run respond state =
      (f (dialogue.run respond state).1).run respond (dialogue.run respond state).2 := by
  induction dialogue generalizing state with
  | done result => rfl
  | ask question next ih => simp only [ask_bind, run_ask, ih]

end Dialogue
end BearerAuth
