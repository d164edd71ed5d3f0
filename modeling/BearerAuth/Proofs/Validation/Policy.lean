import BearerAuth.Proofs.Results
import BearerAuth.Proofs.Time.Deadline
import BearerAuth.Validation.ClaimPolicy

/-!
# What a policy accepts

Each check of a policy, said as the condition under which it passes. The checks on claims pass
together exactly if each of them does, whatever their order.
-/
namespace BearerAuth

open Json

/-- The texts that a value is, or holds, in their order. -/
def Json.Value.texts : Value → List String
  | .string text => [text]
  | .array items => items.filterMap string?
  | _ => []

namespace Policy

variable {policy : Policy} {claims : Members}

theorem checkType_eq_ok_iff {header : Header} :
    policy.checkType header = .ok () ↔
      ∀ required, policy.requiredTokenType = some required → header.typ = some required := by
  unfold checkType
  cases policy.requiredTokenType with
  | none => exact iff_of_true rfl nofun
  | some required =>
    by_cases htyp : header.typ = some required
    · simp [htyp]
    · simp [htyp]

theorem checkIssuer_eq_ok_iff {issuer : String} :
    policy.checkIssuer claims = .ok issuer ↔ policy.issuer ≠ "" ∧
      claims.get? "iss" = some (.string policy.issuer) ∧ issuer = policy.issuer := by
  rw [← Value.bind_string?_eq_some_iff]
  unfold checkIssuer
  by_cases h : policy.issuer ≠ "" ∧ (claims.get? "iss").bind Value.string? = some policy.issuer
  · simp only [if_pos h, Except.ok.injEq]
    exact ⟨fun he => ⟨h.1, h.2, he.symm⟩, fun he => he.2.2.symm⟩
  · simp only [if_neg h]
    exact iff_of_false nofun fun he => h ⟨he.1, he.2.1⟩

/-- The audience that a token counts as having. -/
def audienceOf (claims : Members) : List String := (audienceList claims).toOption.getD []

theorem audienceOf_eq : audienceOf claims = ((claims.get? "aud").map Value.texts).getD [] := by
  unfold audienceOf audienceList
  cases claims.get? "aud" with
  | none => rfl
  | some value => cases value <;> rfl

/-- The texts that `aud` is, or holds. -/
theorem mem_audienceOf_iff {name : String} :
    name ∈ audienceOf claims ↔ claims.get? "aud" = some (.string name) ∨
      ∃ items, claims.get? "aud" = some (.array items) ∧ .string name ∈ items := by
  rw [audienceOf_eq]
  cases claims.get? "aud" with
  | none => simp
  | some value => cases value <;> simp [Value.texts, Value.string?_eq_some_iff, eq_comm (a := name)]

theorem checkAudience_eq_ok_iff {audience : List String} :
    policy.checkAudience claims = .ok audience ↔ audience = audienceOf claims ∧
      ∀ required, policy.audience? = some required → required ∈ audience := by
  unfold checkAudience audienceOf
  cases hrequired : policy.audience? with
  | none =>
    cases audienceList claims with
    | error fault => simp [Except.toOption, eq_comm]
    | ok list => simp [Except.toOption, eq_comm]
  | some required =>
    cases audienceList claims with
    | error fault =>
      refine iff_of_false nofun ?_
      rintro ⟨rfl, hmem⟩
      exact List.not_mem_nil (hmem required rfl)
    | ok list =>
      by_cases hmem : required ∈ list
      · simp only [if_pos hmem, Except.ok.injEq, Option.some.injEq]
        constructor
        · rintro rfl
          exact ⟨rfl, fun other h => h ▸ hmem⟩
        · rintro ⟨rfl, -⟩
          rfl
      · simp only [if_neg hmem]
        refine iff_of_false nofun ?_
        rintro ⟨rfl, hall⟩
        exact hmem (hall required rfl)

theorem checkRequiredClaims_eq_ok_iff :
    policy.checkRequiredClaims claims = .ok () ↔
      ∀ required, policy.requiredClaims = some required →
        Claim.checkMembers required claims = .ok () := by
  unfold checkRequiredClaims
  cases policy.requiredClaims with
  | none => exact iff_of_true rfl nofun
  | some required => simp [mapError_eq_ok_iff]

/-- All checks on the claims, and what they make of them. -/
theorem checkClaims_eq_ok_iff {now : Instant} {standard : StandardClaims} :
    policy.checkClaims claims now = .ok standard ↔
      Claim.expiryTime claims = .ok standard.expiresAt ∧
        now.toNanos < standard.expiresAt.toNanos + policy.clockDrift.toNanos ∧
          policy.checkIssuer claims = .ok standard.issuer ∧
            policy.checkAudience claims = .ok standard.audience ∧
              policy.checkRequiredClaims claims = .ok () := by
  simp only [checkClaims, bind_eq_ok_iff, mapError_eq_ok_iff]
  constructor
  · rintro ⟨expiresAt, hexpires, ⟨⟩, hgood, issuer, hissuer, audience, haudience, ⟨⟩, hclaims, he⟩
    cases he
    exact ⟨hexpires, Claim.checkExpiry_eq_ok_iff.mp hgood, hissuer, haudience, hclaims⟩
  · rintro ⟨hexpires, hgood, hissuer, haudience, hclaims⟩
    exact ⟨_, hexpires, (), Claim.checkExpiry_eq_ok_iff.mpr hgood, _, hissuer, _, haudience, (),
      hclaims, rfl⟩

/-- The four checks on claims do not read what another one has found. -/
theorem failure?_checkClaims (policy : Policy) (claims : Members) (now : Instant) :
    failure? (policy.checkClaims claims now) =
      (failure? ((Claim.expiryTime claims).mapError Rejection.claim >>= fun expiresAt =>
          Claim.checkExpiry expiresAt policy.clockDrift now)).or
        ((failure? (policy.checkIssuer claims)).or
          ((failure? (policy.checkAudience claims)).or
            (failure? (policy.checkRequiredClaims claims)))) := by
  unfold checkClaims
  cases (Claim.expiryTime claims).mapError Rejection.claim with
  | error rejection => rfl
  | ok expiresAt =>
    show failure? (Claim.checkExpiry expiresAt policy.clockDrift now >>= _) =
      (failure? (Claim.checkExpiry expiresAt policy.clockDrift now)).or _
    cases Claim.checkExpiry expiresAt policy.clockDrift now with
    | error rejection => rfl
    | ok _ =>
      cases policy.checkIssuer claims with
      | error rejection => rfl
      | ok issuer =>
        cases policy.checkAudience claims with
        | error rejection => rfl
        | ok audience => cases policy.checkRequiredClaims claims <;> rfl

end Policy
end BearerAuth
