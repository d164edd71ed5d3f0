import BearerAuth.Proofs.Claim.Containment
import BearerAuth.Proofs.Validation.Policy

/-!
# What a policy decides

Each check on claims passes under a condition of its own, and otherwise there is one thing that
it finds. The first check that does not pass decides the result, and what is read of the claims
is the values under a few names.
-/
namespace BearerAuth

open Json

inductive ClaimCheck
  | readable
  | expiry
  | issuer
  | audience
  | requiredClaims
  deriving DecidableEq, Repr

/-- The checks in the order in which they are made. -/
def ClaimCheck.all : List ClaimCheck := [readable, expiry, issuer, audience, requiredClaims]

theorem ClaimCheck.mem_all (check : ClaimCheck) : check ∈ all := by
  cases check <;> decide

/-- The shapes in which a claim may say whom a token is for, or that it is for nobody. -/
def Kind.NamesAudience (kind : Kind) : Prop := kind = .null ∨ kind = .string ∨ kind = .sequence

/-- Two sets of claims have the same values under some names. -/
def Json.Members.Agree (names : List String) (claims claims' : Members) : Prop :=
  ∀ name ∈ names, claims.get? name = claims'.get? name

namespace Claim

variable {claims claims' : Members}

theorem expiryTime_of_agree (h : claims.get? "exp" = claims'.get? "exp") :
    expiryTime claims = expiryTime claims' := by
  rw [expiryTime, expiryTime, h]

/-- Of the received claims only those are read that a required one has the name of. -/
theorem checkMembers_of_agree {required : Members}
    (h : Members.Agree (required.map Prod.fst) claims claims') :
    checkMembers required claims = checkMembers required claims' := by
  induction required with
  | nil => simp [checkMembers]
  | cons head rest ih =>
    obtain ⟨name, want⟩ := head
    have hrest := ih fun other hmem => h other (List.mem_cons_of_mem _ hmem)
    rw [checkMembers, checkMembers, h name (List.mem_cons_self ..), hrest]

end Claim

namespace Policy

section

variable (policy : Policy) (claims : Members) (now : Instant)

/-- When a check passes. -/
def Passes : ClaimCheck → Prop
  | .readable => ∃ t, Claim.expiryTime claims = .ok t
  | .expiry => ∀ t, Claim.expiryTime claims = .ok t →
      now.toNanos < t.toNanos + policy.clockDrift.toNanos
  | .issuer => policy.issuer ≠ "" ∧ claims.get? "iss" = some (.string policy.issuer)
  | .audience => ∀ required, policy.requiredAudience = some required → required ≠ "" →
      claims.get? "aud" = some (.string required) ∨
        ∃ items, claims.get? "aud" = some (.array items) ∧ .string required ∈ items
  | .requiredClaims => ∀ required, policy.requiredClaims = some required →
      ∀ name want, (name, want) ∈ required →
        ∃ got, claims.get? name = some got ∧ Claim.Contains want got

/-- What a check finds that does not pass. -/
inductive Finds : ClaimCheck → Rejection → Prop
  | unreadable {fault : ClaimFault} (unread : Claim.expiryTime claims = .error fault) :
      Finds .readable (.claim fault)
  | expired {t : Instant} (read : Claim.expiryTime claims = .ok t)
      (late : t.toNanos + policy.clockDrift.toNanos ≤ now.toNanos) : Finds .expiry (.expired t)
  | issuer (other : policy.issuer = "" ∨ claims.get? "iss" ≠ some (.string policy.issuer)) :
      Finds .issuer (.issuerMismatch policy.issuer ((claims.get? "iss").bind Value.string?))
  /-- An audience is asked for, and the claim cannot hold any. -/
  | unusable {required : String} {value : Value}
      (asked : policy.requiredAudience = some required) (nonempty : required ≠ "")
      (found : claims.get? "aud" = some value)
      (odd : ¬ value.kind.NamesAudience) :
      Finds .audience (.claim ⟨["aud"], .kind .sequence value.kind⟩)
  | audience {required : String}
      (asked : policy.requiredAudience = some required) (nonempty : required ≠ "")
      (usable : ∀ value, claims.get? "aud" = some value → value.kind.NamesAudience)
      (absent : required ∉ ((claims.get? "aud").map Value.texts).getD []) :
      Finds .audience (.audienceMismatch required)
  | requiredClaims {required : Members} {fault : ClaimFault}
      (asked : policy.requiredClaims = some required)
      (unmet : Claim.checkMembers required claims = .error fault) :
      Finds .requiredClaims (.claim fault)

/-- The same as the checks compute it, each by itself. -/
def finding? : ClaimCheck → Option Rejection
  | .readable => failure? ((Claim.expiryTime claims).mapError .claim)
  | .expiry => (Claim.expiryTime claims).toOption.bind fun t =>
      failure? (Claim.checkExpiry t policy.clockDrift now)
  | .issuer => failure? (policy.checkIssuer claims)
  | .audience => failure? (policy.checkAudience claims)
  | .requiredClaims => failure? (policy.checkRequiredClaims claims)

end

variable {policy : Policy} {claims claims' : Members} {now : Instant} {rejection : Rejection}

/-! ## The checks one by one -/

theorem audience?_eq_some_iff {required : String} :
    policy.audience? = some required ↔ policy.requiredAudience = some required ∧ required ≠ "" := by
  simp [audience?, Option.filter_eq_some_iff]

theorem audienceList_eq_ok_iff {list : List String} :
    audienceList claims = .ok list ↔ list = ((claims.get? "aud").map Value.texts).getD [] ∧
      ∀ value, claims.get? "aud" = some value → value.kind.NamesAudience := by
  unfold audienceList
  cases claims.get? "aud" with
  | none => simp [eq_comm]
  | some value => cases value <;> simp [Value.texts, Value.kind, Kind.NamesAudience, eq_comm]

theorem audienceList_eq_error_iff {fault : ClaimFault} :
    audienceList claims = .error fault ↔ ∃ value, claims.get? "aud" = some value ∧
      ¬ value.kind.NamesAudience ∧ fault = ⟨["aud"], .kind .sequence value.kind⟩ := by
  unfold audienceList
  cases claims.get? "aud" with
  | none => simp
  | some value => cases value <;> simp [Value.kind, Kind.NamesAudience, eq_comm]

theorem checkIssuer_eq_error_iff :
    policy.checkIssuer claims = .error rejection ↔
      policy.Finds claims now .issuer rejection := by
  unfold checkIssuer
  by_cases h : policy.issuer ≠ "" ∧ (claims.get? "iss").bind Value.string? = some policy.issuer
  · simp only [if_pos h]
    refine iff_of_false nofun fun hfinds => ?_
    rw [Value.bind_string?_eq_some_iff] at h
    cases hfinds with
    | issuer other => exact other.elim h.1 fun hother => hother h.2
  · simp only [if_neg h]
    rw [Value.bind_string?_eq_some_iff, not_and_or, not_not] at h
    constructor
    · intro heq
      cases heq
      exact .issuer h
    · intro hfinds
      cases hfinds
      rfl

theorem checkAudience_eq_error_iff :
    policy.checkAudience claims = .error rejection ↔
      policy.Finds claims now .audience rejection := by
  unfold checkAudience
  cases hrequired : policy.audience? with
  | none =>
    have hunasked {required : String} (asked : policy.requiredAudience = some required)
        (nonempty : required ≠ "") : False :=
      nomatch hrequired.symm.trans (audience?_eq_some_iff.mpr ⟨asked, nonempty⟩)
    refine iff_of_false ?_ fun hfinds => ?_
    · cases audienceList claims <;> exact nofun
    · cases hfinds with
      | unusable asked nonempty _ _ => exact hunasked asked nonempty
      | audience asked nonempty _ _ => exact hunasked asked nonempty
  | some required =>
    obtain ⟨hasked, hnonempty⟩ := audience?_eq_some_iff.mp hrequired
    cases hlist : audienceList claims with
    | error fault =>
      obtain ⟨value, hvalue, hodd, rfl⟩ := audienceList_eq_error_iff.mp hlist
      constructor
      · intro heq
        cases heq
        exact .unusable hasked hnonempty hvalue hodd
      · intro hfinds
        cases hfinds with
        | unusable _ _ found _ =>
          cases hvalue.symm.trans found
          rfl
        | audience _ _ usable _ => exact absurd (usable value hvalue) hodd
    | ok list =>
      obtain ⟨rfl, husable⟩ := audienceList_eq_ok_iff.mp hlist
      by_cases hmem : required ∈ ((claims.get? "aud").map Value.texts).getD []
      · simp only [if_pos hmem]
        refine iff_of_false nofun fun hfinds => ?_
        cases hfinds with
        | unusable _ _ found odd => exact odd (husable _ found)
        | audience asked _ _ absent =>
          cases hasked.symm.trans asked
          exact absent hmem
      · simp only [if_neg hmem]
        constructor
        · intro heq
          cases heq
          exact .audience hasked hnonempty husable hmem
        · intro hfinds
          cases hfinds with
          | unusable _ _ found odd => exact absurd (husable _ found) odd
          | audience asked _ _ _ =>
            cases hasked.symm.trans asked
            rfl

theorem checkRequiredClaims_eq_error_iff :
    policy.checkRequiredClaims claims = .error rejection ↔
      policy.Finds claims now .requiredClaims rejection := by
  unfold checkRequiredClaims
  cases hrequired : policy.requiredClaims with
  | none =>
    refine iff_of_false nofun fun hfinds => ?_
    cases hfinds with
    | requiredClaims asked _ => cases hrequired.symm.trans asked
  | some required =>
    simp only [mapError_eq_error_iff]
    constructor
    · rintro ⟨fault, hfault, rfl⟩
      exact .requiredClaims hrequired hfault
    · intro hfinds
      cases hfinds with
      | requiredClaims asked unmet =>
        cases hrequired.symm.trans asked
        exact ⟨_, unmet, rfl⟩

/-- A check finds what it is said to find. -/
theorem finding?_eq_some_iff {check : ClaimCheck} :
    policy.finding? claims now check = some rejection ↔
      policy.Finds claims now check rejection := by
  cases check with
  | readable =>
    rw [finding?, failure?_eq_some_iff, mapError_eq_error_iff]
    constructor
    · rintro ⟨fault, hfault, rfl⟩
      exact .unreadable hfault
    · intro hfinds
      cases hfinds with
      | unreadable unread => exact ⟨_, unread, rfl⟩
  | expiry =>
    rw [finding?]
    cases hread : Claim.expiryTime claims with
    | error fault =>
      refine iff_of_false nofun fun hfinds => ?_
      cases hfinds with
      | expired read _ => cases hread.symm.trans read
    | ok t =>
      rw [Except.toOption, Option.bind_some, failure?_eq_some_iff, Claim.checkExpiry_eq_error_iff]
      constructor
      · rintro ⟨hlate, rfl⟩
        exact .expired hread hlate
      · intro hfinds
        cases hfinds with
        | expired read late =>
          cases hread.symm.trans read
          exact ⟨late, rfl⟩
  | issuer => rw [finding?, failure?_eq_some_iff, checkIssuer_eq_error_iff]
  | audience => rw [finding?, failure?_eq_some_iff, checkAudience_eq_error_iff]
  | requiredClaims => rw [finding?, failure?_eq_some_iff, checkRequiredClaims_eq_error_iff]

/-- A check that finds nothing passes. -/
theorem finding?_eq_none_iff {check : ClaimCheck} :
    policy.finding? claims now check = none ↔ policy.Passes claims now check := by
  cases check with
  | readable => simp only [finding?, Passes, failure?_eq_none_iff, mapError_eq_ok_iff]
  | expiry =>
    rw [finding?, Passes]
    cases Claim.expiryTime claims with
    | error fault => simp [Except.toOption]
    | ok t =>
      rw [Except.toOption, Option.bind_some, failure?_unit_eq_none_iff,
        Claim.checkExpiry_eq_ok_iff]
      simp
  | issuer => simp [finding?, Passes, failure?_eq_none_iff, checkIssuer_eq_ok_iff]
  | audience =>
    simp only [finding?, Passes, failure?_eq_none_iff, checkAudience_eq_ok_iff,
      audience?_eq_some_iff, and_imp, exists_eq_left, mem_audienceOf_iff]
  | requiredClaims =>
    simp only [finding?, Passes, failure?_unit_eq_none_iff, checkRequiredClaims_eq_ok_iff,
      Claim.checkMembers_eq_ok_iff]

/-- The checks stop at the first that finds something. -/
theorem failure?_checkClaims_eq :
    failure? (policy.checkClaims claims now) =
      ClaimCheck.all.findSome? (policy.finding? claims now) := by
  have htimely : failure? ((Claim.expiryTime claims).mapError Rejection.claim >>= fun t =>
      Claim.checkExpiry t policy.clockDrift now) =
        (policy.finding? claims now .readable).or (policy.finding? claims now .expiry) := by
    simp only [finding?]
    cases Claim.expiryTime claims with
    | error fault => rfl
    | ok t => rfl
  rw [failure?_checkClaims, htimely, Option.or_assoc]
  have hcons (check : ClaimCheck) (rest : List ClaimCheck) :
      (check :: rest).findSome? (policy.finding? claims now) =
        (policy.finding? claims now check).or (rest.findSome? (policy.finding? claims now)) := by
    rw [List.findSome?_cons]
    cases policy.finding? claims now check <;> rfl
  simp only [ClaimCheck.all, hcons, List.findSome?_nil, Option.or_none]
  rfl

/-! ## What is read of the claims -/

/-- The names under which values are read, apart from the audience. -/
def namesBesideAudience (policy : Policy) : List String :=
  "exp" :: "iss" :: (policy.requiredClaims.getD []).map Prod.fst

theorem checkIssuer_of_agree (h : claims.get? "iss" = claims'.get? "iss") :
    policy.checkIssuer claims = policy.checkIssuer claims' := by
  rw [checkIssuer, checkIssuer, h]

theorem checkAudience_of_agree (h : claims.get? "aud" = claims'.get? "aud") :
    policy.checkAudience claims = policy.checkAudience claims' := by
  have hlist : audienceList claims = audienceList claims' := by rw [audienceList, audienceList, h]
  rw [checkAudience, checkAudience, hlist]

theorem checkRequiredClaims_of_agree (h : Members.Agree policy.namesBesideAudience claims claims') :
    policy.checkRequiredClaims claims = policy.checkRequiredClaims claims' := by
  unfold checkRequiredClaims
  cases hrequired : policy.requiredClaims with
  | none => rfl
  | some required =>
    have hagree : Members.Agree (required.map Prod.fst) claims claims' := by
      intro name hmem
      refine h name (List.mem_cons_of_mem _ (List.mem_cons_of_mem _ ?_))
      rw [hrequired]
      exact hmem
    simp only [Claim.checkMembers_of_agree hagree]

theorem checkClaims_of_agree (h : Members.Agree ("aud" :: policy.namesBesideAudience) claims claims') :
    policy.checkClaims claims now = policy.checkClaims claims' now := by
  obtain ⟨haud, hbeside⟩ := List.forall_mem_cons.mp h
  obtain ⟨hexp, hiss, -⟩ := List.forall_mem_cons.mp hbeside |>.imp_right List.forall_mem_cons.mp
  rw [checkClaims, checkClaims, Claim.expiryTime_of_agree hexp, checkIssuer_of_agree hiss,
    checkAudience_of_agree haud, checkRequiredClaims_of_agree hbeside]

/-- An audience that nobody asks for is never found wrong. -/
theorem failure?_checkAudience_of_none (h : policy.audience? = none) :
    failure? (policy.checkAudience claims) = none := by
  rw [checkAudience, h]
  cases audienceList claims <;> rfl

theorem failure?_checkClaims_of_agree (hnone : policy.audience? = none)
    (h : Members.Agree policy.namesBesideAudience claims claims') :
    failure? (policy.checkClaims claims now) = failure? (policy.checkClaims claims' now) := by
  obtain ⟨hexp, hiss, -⟩ := List.forall_mem_cons.mp h |>.imp_right List.forall_mem_cons.mp
  rw [failure?_checkClaims, failure?_checkClaims, failure?_checkAudience_of_none hnone,
    failure?_checkAudience_of_none hnone, Claim.expiryTime_of_agree hexp, checkIssuer_of_agree hiss,
    checkRequiredClaims_of_agree h]

/-! ## The decision -/

/-- What a policy makes of a token's claims at a time, and what that depends on. -/
structure ClaimsDecided (policy : Policy) (claims : Members) (now : Instant) : Prop where
  accepted : (∃ standard, policy.checkClaims claims now = .ok standard) ↔
    ∀ check, policy.Passes claims now check
  /-- A rejection is what the first check finds that does not pass. -/
  rejected : ∀ rejection, policy.checkClaims claims now = .error rejection ↔
    ∃ before check after, ClaimCheck.all = before ++ check :: after ∧
      policy.Finds claims now check rejection ∧
        ∀ earlier ∈ before, policy.Passes claims now earlier
  /-- A check passes, or there is something that it finds. -/
  found : ∀ check, (∃ rejection, policy.Finds claims now check rejection) ↔
    ¬ policy.Passes claims now check
  standard : ∀ standard, policy.checkClaims claims now = .ok standard →
    standard.issuer = policy.issuer ∧
      standard.audience = ((claims.get? "aud").map Value.texts).getD [] ∧
        Claim.expiryTime claims = .ok standard.expiresAt
  meant : ∀ standard required, policy.checkClaims claims now = .ok standard →
    policy.requiredAudience = some required → required ≠ "" → required ∈ standard.audience
  /-- Nothing else of the claims counts. -/
  independent : ∀ claims', Members.Agree ("aud" :: policy.namesBesideAudience) claims claims' →
    policy.checkClaims claims now = policy.checkClaims claims' now
  /-- Unless an audience is asked for, whatever is said of it leaves rejections as they are. -/
  unasked : (∀ required, policy.requiredAudience = some required → required = "") →
    ∀ claims', Members.Agree policy.namesBesideAudience claims claims' →
      ∀ rejection, policy.checkClaims claims now = .error rejection ↔
        policy.checkClaims claims' now = .error rejection

/-- The checks on claims decide together, in their order, and by few of the claims. -/
theorem claims_decided (policy : Policy) (claims : Members) (now : Instant) :
    policy.ClaimsDecided claims now where
  accepted := by
    simp only [← failure?_eq_none_iff, failure?_checkClaims_eq, List.findSome?_eq_none_iff,
      finding?_eq_none_iff, ClaimCheck.mem_all, true_imp_iff]
  rejected rejection := by
    simp only [← failure?_eq_some_iff, failure?_checkClaims_eq, List.findSome?_eq_some_iff,
      finding?_eq_some_iff, finding?_eq_none_iff]
  found check := by
    rw [← finding?_eq_none_iff, ← ne_eq, Option.ne_none_iff_exists']
    simp only [finding?_eq_some_iff]
  standard standard h := by
    obtain ⟨hread, -, hissuer, haudience, -⟩ := checkClaims_eq_ok_iff.mp h
    rw [← audienceOf_eq]
    exact ⟨(checkIssuer_eq_ok_iff.mp hissuer).2.2, (checkAudience_eq_ok_iff.mp haudience).1, hread⟩
  meant standard required h hasked hnonempty := by
    obtain ⟨-, -, -, haudience, -⟩ := checkClaims_eq_ok_iff.mp h
    exact (checkAudience_eq_ok_iff.mp haudience).2 required
      (audience?_eq_some_iff.mpr ⟨hasked, hnonempty⟩)
  independent claims' h := checkClaims_of_agree h
  unasked hempty claims' h rejection := by
    have hnone : policy.audience? = none := by
      refine Option.eq_none_iff_forall_ne_some.mpr fun required hrequired => ?_
      obtain ⟨hasked, hnonempty⟩ := audience?_eq_some_iff.mp hrequired
      exact hnonempty (hempty required hasked)
    rw [← failure?_eq_some_iff, ← failure?_eq_some_iff, failure?_checkClaims_of_agree hnone h]

end Policy
end BearerAuth
