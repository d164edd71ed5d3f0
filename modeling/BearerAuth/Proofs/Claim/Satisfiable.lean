import BearerAuth.Proofs.Claim.Numbers
import BearerAuth.Proofs.Claim.Positions
import BearerAuth.Proofs.Validation.Ensures
import BearerAuth.Proofs.Validation.Policy

/-!
# Requirements that can be met

Null is the one value that nothing meets. A requirement with null in it, however deep, is met by
nothing, and any other one by itself at least.
-/
namespace BearerAuth

open Json Json.Value

/-- Null stands somewhere in the value, which may be null itself. -/
def Json.Value.HasNull (value : Value) : Prop := ∃ p, value.at? p = some .null

theorem Json.Value.HasNull.of_child {value child : Value} {step : Step}
    (hchild : value.child? step = some child) (h : child.HasNull) : value.HasNull := by
  obtain ⟨p, hp⟩ := h
  exact ⟨step :: p, by rw [at?_cons, hchild, Option.bind_some, hp]⟩

namespace Claim

theorem Follows.refl (step : Step) : Follows step step := by
  cases step with
  | key name => rfl
  | index i => trivial

/-- Each value but null is what it has to be for itself. -/
theorem Meets.refl {value : Value} (h : value ≠ .null) : Meets value value := by
  cases value with
  | null => exact absurd rfl h
  | bool value => rfl
  | number number => exact (Number.same_iff number number).mpr (.inl rfl)
  | string text => rfl
  | array items => trivial
  | object members => trivial

theorem not_meets_null {received : Value} : ¬ Meets .null received := by
  cases received <;> exact id

theorem contains_self {value : Value} (h : value.Ordered) (hnull : ¬ value.HasNull) :
    Contains value value := by
  induction value using induction_children with
  | h value ih =>
    rw [contains_iff_branches h]
    have hroot : value ≠ .null := fun heq => hnull ⟨[], congrArg some heq⟩
    refine ⟨.refl hroot, fun step child hchild => ⟨step, child, .refl step, hchild, ?_⟩⟩
    exact ih step child hchild (h.child hchild) fun hdeeper => hnull (hdeeper.of_child hchild)

/-- The null of a requirement would have to go to a value that meets it. -/
theorem not_contains_of_hasNull {required received : Value} (h : required.Ordered)
    (hnull : required.HasNull) : ¬ Contains required received := by
  intro hcontains
  obtain ⟨p, hp⟩ := hnull
  obtain ⟨f, hf⟩ := (contains_iff_exists_embeds h).mp hcontains
  obtain ⟨got, -, hmeets⟩ := hf.meets p .null hp
  exact not_meets_null hmeets

end Claim

namespace Validation

/-- Whatever is answered, an accepted token has passed the checks on its claims. -/
theorem stages_ensures_checkClaims {possible : (q : Question) → q.Answer → Prop} (policy : Policy)
    (keyIdDisabled : Bool) (text : String) :
    (stages policy keyIdDisabled text).Ensures possible fun token =>
      ∃ now, policy.checkClaims token.claims now = .ok token.standard := by
  unfold stages
  -- Up to the claims, nothing has to be known of what the stages find.
  refine (ensures_true _).bind fun segments _ => ?_
  refine (ensures_true _).bind fun header _ => ?_
  refine (ensures_true _).bind fun _ _ => ?_
  refine (ensures_true _).bind fun key _ => ?_
  refine (ensures_true _).bind fun _ _ => ?_
  refine (ensures_true _).bind fun claims _ => ?_
  refine ensures_ask fun now _ => ?_
  refine (ensures_check fun standard hstandard => hstandard).bind fun standard hstandard => ?_
  exact ensures_pure ⟨now, hstandard⟩

end Validation

/-- A policy whose required claims no token has rejects every token, whatever its validation is
told about keys and time. -/
theorem Policy.rejects_of_unmet {policy : Policy} {wants : Members}
    (hrequired : policy.requiredClaims = some wants)
    (hunmet : ∀ claims, ∃ fault, Claim.checkMembers wants claims = .error fault)
    (keyIdDisabled : Bool) (text : String) {σ : Type}
    (respond : (q : Question) → σ → q.Answer × σ) (state : σ) :
    ∃ rejection, ((validate policy keyIdDisabled text).run respond state).1 = .error rejection := by
  have hensures : (validate policy keyIdDisabled text).Ensures (fun _ _ => True) fun result =>
      ∀ token, result = .ok token →
        ∃ now, policy.checkClaims token.claims now = .ok token.standard :=
    Validation.stages_ensures_checkClaims policy keyIdDisabled text
  have hresult := hensures.run respond (fun _ _ => trivial) state
  cases hrun : ((validate policy keyIdDisabled text).run respond state).1 with
  | error rejection => exact ⟨rejection, rfl⟩
  | ok token =>
    obtain ⟨now, hclaims⟩ := hresult token hrun
    obtain ⟨-, -, -, -, hmet⟩ := Policy.checkClaims_eq_ok_iff.mp hclaims
    obtain ⟨fault, hfault⟩ := hunmet token.claims
    exact nomatch hfault.symm.trans
      (Policy.checkRequiredClaims_eq_ok_iff.mp hmet wants hrequired)

namespace Claim

/-- Null alone decides whether a requirement can be met. -/
structure NullDecides (required : Value) : Prop where
  satisfiable : ∀ name, (∃ received, checkNamed name required received = .ok ()) ↔
    ¬ required.HasNull
  itself : ¬ required.HasNull → ∀ name, checkNamed name required required = .ok ()
  nothing : required.HasNull → ∀ name received,
    ∃ fault, checkNamed name required received = .error fault
  /-- The requirement may be that of a policy. With null in it, the claims of no token meet it, and
  the policy rejects every token, whatever a validation is told about keys and time. -/
  rejects : ∀ (policy : Policy) (wants : Members), policy.requiredClaims = some wants →
    required = .object wants → required.HasNull →
      (∀ claims, ∃ fault, checkMembers wants claims = .error fault) ∧
        ∀ (keyIdDisabled : Bool) (text : String) (σ : Type)
          (respond : (q : Question) → σ → q.Answer × σ) (state : σ), ∃ rejection,
            ((validate policy keyIdDisabled text).run respond state).1 = .error rejection
  /-- Without null, claims that are as the policy has them meet it. -/
  accepts : ∀ (policy : Policy) (wants : Members), policy.requiredClaims = some wants →
    required = .object wants → ¬ required.HasNull → checkMembers wants wants = .ok () ∧
      policy.checkRequiredClaims wants = .ok ()

/-- A requirement can be met exactly if it has no null, and then by itself. -/
theorem null_decides {required : Value} (h : required.Ordered) : NullDecides required := by
  have hnothing (hnull : required.HasNull) (received : Value) :
      ∃ fault, check required received = .error fault := by
    cases hchecked : check required received with
    | error fault => exact ⟨fault, rfl⟩
    | ok _ => exact absurd hchecked (not_contains_of_hasNull h hnull)
  refine { satisfiable := ?_, itself := ?_, nothing := ?_, rejects := ?_, accepts := ?_ }
  · intro name
    constructor
    · rintro ⟨received, hmet⟩ hnull
      exact not_contains_of_hasNull h hnull (checkNamed_eq_ok_iff.mp hmet)
    · exact fun hnull => ⟨required, checkNamed_eq_ok_iff.mpr (contains_self h hnull)⟩
  · exact fun hnull name => checkNamed_eq_ok_iff.mpr (contains_self h hnull)
  · intro hnull name received
    obtain ⟨fault, hfault⟩ := hnothing hnull received
    exact ⟨fault.under name, by rw [checkNamed, hfault]⟩
  · rintro policy wants hrequired rfl hnull
    have hunmet (claims : Members) : ∃ fault, checkMembers wants claims = .error fault :=
      hnothing hnull (.object claims)
    exact ⟨hunmet, fun keyIdDisabled text _ respond state =>
      Policy.rejects_of_unmet hrequired hunmet keyIdDisabled text respond state⟩
  · rintro policy wants hrequired rfl hnull
    have hself : checkMembers wants wants = .ok () := contains_self h hnull
    refine ⟨hself, Policy.checkRequiredClaims_eq_ok_iff.mpr fun required heq => ?_⟩
    cases hrequired.symm.trans heq
    exact hself

/-- An owner that is asked for as null, deep in the groups. -/
def ownerless : Value :=
  .object [("groups", .array [.array [], .object [("owner", .null)]])]

def ownerlessText : String := "\x7b\"groups\": [[], \x7b\"owner\": null\x7d]\x7d"

/-- The same without the owner. -/
def grouped : Value := .object [("groups", .array [.array [], .object []])]

def groupedText : String := "\x7b\"groups\": [[], \x7b\x7d]\x7d"

theorem null_decides_ownerless :
    Value.read? ownerlessText = some ownerless ∧ Value.read? groupedText = some grouped ∧
      (∀ received, ∃ fault, checkNamed "claims" ownerless received = .error fault) ∧
        ¬ grouped.HasNull ∧ checkNamed "claims" grouped grouped = .ok () := by
  have hownerless : Value.read? ownerlessText = some ownerless := by cbv
  have hgrouped : Value.read? groupedText = some grouped := by cbv
  have hnull : ownerless.HasNull := ⟨[.key "groups", .index 1, .key "owner"], rfl⟩
  have hmet : checkNamed "token" grouped grouped = .ok () := rfl
  have hdecides := null_decides (Value.ordered_of_read? hgrouped)
  have hfree : ¬ grouped.HasNull := (hdecides.satisfiable "token").mp ⟨grouped, hmet⟩
  refine ⟨hownerless, hgrouped, fun received => ?_, hfree, hdecides.itself hfree "claims"⟩
  exact (null_decides (Value.ordered_of_read? hownerless)).nothing hnull "claims" received

end Claim
end BearerAuth
