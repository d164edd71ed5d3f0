import BearerAuth.Proofs.Results
import BearerAuth.Validation.Validator
import Mathlib.Tactic.Common

/-!
# What a dialogue ensures

A dialogue ensures a property of its result if it comes to such a result whatever possible
answers it gets. Which answers are possible is a parameter, so that one proof about the
dialogue serves every way in which its questions are answered.
-/
namespace BearerAuth

namespace Dialogue

variable {Q : Type} {A : Q → Type} {α β : Type} {possible : (q : Q) → A q → Prop}

/-- Every course of possible answers leads to a good result. -/
def Ensures (possible : (q : Q) → A q → Prop) (good : α → Prop) : Dialogue Q A α → Prop
  | done result => good result
  | ask q next => ∀ answer, possible q answer → (next answer).Ensures possible good

theorem Ensures.mono {good better : α → Prop} {dialogue : Dialogue Q A α}
    (h : dialogue.Ensures possible better) (hgood : ∀ result, better result → good result) :
    dialogue.Ensures possible good := by
  induction dialogue with
  | done result => exact hgood result h
  | ask q next ih => exact fun answer ha => ih answer (h answer ha)

theorem Ensures.bind {good : β → Prop} {between : α → Prop} {dialogue : Dialogue Q A α}
    {f : α → Dialogue Q A β} (h : dialogue.Ensures possible between)
    (hf : ∀ result, between result → (f result).Ensures possible good) :
    (dialogue >>= f).Ensures possible good := by
  induction dialogue with
  | done result => exact hf result h
  | ask q next ih => exact fun answer ha => ih answer (h answer ha)

theorem ensures_true (dialogue : Dialogue Q A α) : dialogue.Ensures possible fun _ => True := by
  induction dialogue with
  | done result => trivial
  | ask q next ih => exact fun answer _ => ih answer

/-- One responder gives one course of answers. -/
theorem Ensures.run {good : α → Prop} {dialogue : Dialogue Q A α}
    (h : dialogue.Ensures possible good) {σ : Type} (respond : (q : Q) → σ → A q × σ)
    (hrespond : ∀ q state, possible q (respond q state).1) (state : σ) :
    good (dialogue.run respond state).1 := by
  induction dialogue generalizing state with
  | done result => exact h
  | ask q next ih => exact ih _ (h _ (hrespond q state)) _

end Dialogue

namespace Validation

variable {α β : Type} {possible : (q : Question) → q.Answer → Prop}

/-- Of a validation, only what it accepts is promised anything. -/
def Ensures (possible : (q : Question) → q.Answer → Prop) (good : α → Prop)
    (validation : Validation α) : Prop :=
  Dialogue.Ensures possible (fun result => ∀ a, result = .ok a → good a) validation.run

theorem ensures_pure {good : α → Prop} {a : α} (h : good a) :
    Ensures possible good (pure a : Validation α) := by
  intro b hb
  cases hb
  exact h

theorem ensures_throw {good : α → Prop} (rejection : Rejection) :
    Ensures possible good (throw rejection : Validation α) :=
  nofun

theorem ensures_check {result : Except Rejection α} {good : α → Prop}
    (h : ∀ a, result = .ok a → good a) : Ensures possible good (check result) :=
  h

theorem ensures_checkEnvelope {result : Except EnvelopeError α} {good : α → Prop}
    (h : ∀ a, result = .ok a → good a) : Ensures possible good (checkEnvelope result) :=
  ensures_check fun a ha => h a (mapError_eq_ok_iff.mp ha)

theorem ensures_true (validation : Validation α) : Ensures possible (fun _ => True) validation :=
  (Dialogue.ensures_true validation.run).mono fun _ _ _ _ => trivial

theorem Ensures.mono {good better : α → Prop} {validation : Validation α}
    (h : validation.Ensures possible better) (hgood : ∀ a, better a → good a) :
    validation.Ensures possible good :=
  Dialogue.Ensures.mono h fun _ hresult a ha => hgood a (hresult a ha)

theorem Ensures.bind {good : β → Prop} {between : α → Prop} {validation : Validation α}
    {f : α → Validation β} (h : validation.Ensures possible between)
    (hf : ∀ a, between a → (f a).Ensures possible good) :
    Ensures possible good (validation >>= f) := by
  unfold Ensures
  rw [ExceptT.run_bind]
  refine Dialogue.Ensures.bind h fun result hresult => ?_
  cases result with
  | ok a => exact hf a (hresult a rfl)
  | error rejection => exact nofun

theorem ensures_ask {good : α → Prop} {q : Question} {f : q.Answer → Validation α}
    (h : ∀ answer, possible q answer → (f answer).Ensures possible good) :
    Ensures possible good ((liftM (Dialogue.question q : Inquiry q.Answer) :
      Validation q.Answer) >>= f) :=
  h

end Validation
end BearerAuth
