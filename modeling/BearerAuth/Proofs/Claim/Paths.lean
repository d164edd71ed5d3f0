import BearerAuth.Proofs.Claim.FirstFault
import BearerAuth.Proofs.Results

/-!
# Paths that are carried along

A check can carry the path of the value that it looks at and add the name of each member on its
way down. What it finds out about the elements of a sequence is forgotten, path and all. Nothing
but the path of the fault depends on the path that the check starts with, and the claims of a
token, which are gone through by a loop of their own, fail as the members of any object do.
-/
namespace BearerAuth

open Json

namespace ClaimFault

/-- A fault with its path written out. -/
structure Report where
  claim : String
  mismatch : Mismatch
  deriving DecidableEq, Repr

def report (fault : ClaimFault) : Report := ⟨fault.claim, fault.mismatch⟩

/-- The same fault, seen from where a check has started. -/
def reportBelow (claim : String) (fault : ClaimFault) : Report :=
  ⟨dotted claim fault.path, fault.mismatch⟩

theorem dotted_cons (first name : String) (rest : List String) :
    dotted first (name :: rest) = dotted (first ++ "." ++ name) rest := rfl

/-- What comes after a prefix does not depend on it. -/
theorem dotted_append (early late : String) (rest : List String) :
    dotted (early ++ late) rest = early ++ dotted late rest := by
  induction rest generalizing late with
  | nil => rfl
  | cons name rest ih =>
    simp only [dotted_cons, ← ih, String.append_assoc]

theorem report_under (name : String) (fault : ClaimFault) :
    (fault.under name).report = fault.reportBelow name := by
  rw [report, reportBelow, under, claim_eq_dotted]

end ClaimFault

namespace Claim

open ClaimFault (Report)

/-- Scalars of one kind, at a path. -/
def checkScalarAt (claim : String) (equal : Bool) : Except Report Unit :=
  if equal then .ok () else .error ⟨claim, .value⟩

mutual
/-- Check a value at a path. -/
def checkAt (claim : String) : (required received : Value) → Except Report Unit
  | .string want, .string got => checkScalarAt claim (want = got)
  | .number want, .number got => checkScalarAt claim (want.same got)
  | .bool want, .bool got => checkScalarAt claim (want = got)
  | .array want, .array got => if coversAt claim want got then .ok () else .error ⟨claim, .value⟩
  | .object want, .object got => checkMembersAt claim want got
  | required, received => .error ⟨claim, .kind required.kind received.kind⟩

/-- The elements are checked at the path of their sequence. -/
def coversAt (claim : String) : (required received : List Value) → Bool
  | [], _ => true
  | want :: rest, received =>
    received.any (fun got => (checkAt claim want got).isOk) && coversAt claim rest received

def checkMembersAt (claim : String) : (required : List (String × Value)) → (received : Members) →
    Except Report Unit
  | [], _ => .ok ()
  | (name, want) :: rest, received =>
    match received.get? name with
    | none => .error ⟨claim ++ "." ++ name, .missing⟩
    | some got =>
      match checkAt (claim ++ "." ++ name) want got with
      | .error report => .error report
      | .ok () => checkMembersAt claim rest received
end

/-- Check all claims of a token, each at the path that is its name. -/
def checkEach : (required : List (String × Value)) → (claims : Members) → Except Report Unit
  | [], _ => .ok ()
  | (name, want) :: rest, claims =>
    match claims.get? name with
    | none => .error ⟨name, .missing⟩
    | some got =>
      match checkAt name want got with
      | .error report => .error report
      | .ok () => checkEach rest claims

theorem checkScalarAt_eq (claim : String) (equal : Bool) :
    checkScalarAt claim equal = (checkScalar equal).mapError (·.reportBelow claim) := by
  cases equal <;> rfl

theorem checkAt_of_unlike {required received : Value} (claim : String)
    (h : required.kind ≠ received.kind ∨ required.kind = .null) :
    checkAt claim required received = (check required received).mapError (·.reportBelow claim) := by
  rw [check_of_unlike h]
  cases required <;> cases received <;> simp [Value.kind] at h <;> simp [checkAt] <;> rfl

mutual
/-- A path that is carried along is the one that is put together afterwards. -/
theorem checkAt_eq (claim : String) : (required received : Value) →
    checkAt claim required received = (check required received).mapError (·.reportBelow claim)
  | .null, received => checkAt_of_unlike claim (.inr rfl)
  | .string want, received => by
    cases received with
    | string got => rw [checkAt, check, checkScalarAt_eq]
    | _ => exact checkAt_of_unlike claim (.inl nofun)
  | .number want, received => by
    cases received with
    | number got => rw [checkAt, check, checkScalarAt_eq]
    | _ => exact checkAt_of_unlike claim (.inl nofun)
  | .bool want, received => by
    cases received with
    | bool got => rw [checkAt, check, checkScalarAt_eq]
    | _ => exact checkAt_of_unlike claim (.inl nofun)
  | .array wants, received => by
    cases received with
    | array items =>
      rw [checkAt, check_array, coversAt_eq claim wants items]
      exact checkScalarAt_eq claim _
    | _ => exact checkAt_of_unlike claim (.inl nofun)
  | .object wants, received => by
    cases received with
    | object members =>
      rw [checkAt, check]
      exact checkMembersAt_eq claim wants members
    | _ => exact checkAt_of_unlike claim (.inl nofun)

theorem coversAt_eq (claim : String) : (wants items : List Value) →
    coversAt claim wants items = covers wants items
  | [], items => by rw [coversAt, covers]
  | want :: rest, items => by
    rw [coversAt, covers, coversAt_eq claim rest items]
    simp only [checkAt_eq claim want, isOk_mapError]

theorem checkMembersAt_eq (claim : String) : (wants : List (String × Value)) →
    (members : Members) → checkMembersAt claim wants members =
      (checkMembers wants members).mapError (·.reportBelow claim)
  | [], members => by
    rw [checkMembersAt, checkMembers]
    rfl
  | (name, want) :: rest, members => by
    rw [checkMembersAt, checkMembers]
    cases members.get? name with
    | none => rfl
    | some got =>
      simp only [checkAt_eq (claim ++ "." ++ name) want got]
      cases check want got with
      | error fault => rfl
      | ok _ => exact checkMembersAt_eq claim rest members
end

theorem checkNamed_eq (claim : String) (required received : Value) :
    checkNamed claim required received = (check required received).mapError (·.under claim) := by
  unfold checkNamed
  cases check required received <;> rfl

/-- A check at a path is a check under the name that the path is. -/
theorem checkAt_eq_checkNamed (claim : String) (required received : Value) :
    checkAt claim required received =
      (checkNamed claim required received).mapError ClaimFault.report := by
  rw [checkAt_eq, checkNamed_eq]
  cases check required received with
  | ok _ => rfl
  | error fault => exact congrArg Except.error (fault.report_under claim).symm

theorem checkEach_eq : (wants : List (String × Value)) → (claims : Members) →
    checkEach wants claims = (checkMembers wants claims).mapError ClaimFault.report
  | [], claims => by
    rw [checkEach, checkMembers]
    rfl
  | (name, want) :: rest, claims => by
    rw [checkEach, checkMembers]
    cases claims.get? name with
    | none => rfl
    | some got =>
      simp only [checkAt_eq name want got]
      cases check want got with
      | error fault => exact congrArg Except.error (fault.report_under name).symm
      | ok _ => exact checkEach_eq rest claims

/-- Both checks pass, or both fail in the same way, at paths that go on alike after two prefixes. -/
def AlikeAfter (early early' : String) (result result' : Except ClaimFault Unit) : Prop :=
  result = .ok () ∧ result' = .ok () ∨
    ∃ fault fault' rest, result = .error fault ∧ result' = .error fault' ∧
      fault.mismatch = fault'.mismatch ∧ fault.claim = early ++ rest ∧ fault'.claim = early' ++ rest

theorem claim_under (name : String) (fault : ClaimFault) :
    (fault.under name).claim = name ++ ClaimFault.dotted "" fault.path := by
  have hreport := congrArg Report.claim (fault.report_under name)
  rw [← ClaimFault.dotted_append, String.append_empty]
  exact hreport

theorem checkNamed_alike (name name' : String) (required received : Value) :
    AlikeAfter name name' (checkNamed name required received)
      (checkNamed name' required received) := by
  rw [checkNamed_eq, checkNamed_eq]
  cases check required received with
  | ok _ => exact .inl ⟨rfl, rfl⟩
  | error fault => exact .inr ⟨_, _, ClaimFault.dotted "" fault.path, rfl, rfl, rfl,
      claim_under name fault, claim_under name' fault⟩

/-- The members of a named object are checked as claims that stand by themselves. -/
theorem checkNamed_object_alike (name : String) (wants members : Members) :
    AlikeAfter (name ++ ".") "" (checkNamed name (.object wants) (.object members))
      (checkMembers wants members) := by
  rw [checkNamed_eq, check]
  cases hcheck : checkMembers wants members with
  | ok _ => exact .inl ⟨rfl, rfl⟩
  | error fault =>
    obtain ⟨path, mismatch⟩ := fault
    obtain ⟨key, keys, hpath⟩ := List.exists_cons_of_ne_nil (path_ne_nil_of_checkMembers hcheck)
    cases hpath
    refine .inr ⟨_, _, ClaimFault.dotted key keys, rfl, rfl, rfl, ?_, ?_⟩
    · rw [claim_under, ClaimFault.dotted_cons, String.empty_append, ClaimFault.dotted_append,
        String.append_assoc]
    · rw [ClaimFault.claim_eq_dotted, String.empty_append]

/-- The two ways into the check agree, and so do checks under different names. The path that each of
them reports is the one that it would have carried along. -/
theorem entries_agree (name name' : String) (required received : Value) (wants claims : Members) :
    AlikeAfter (name ++ ".") "" (checkNamed name (.object wants) (.object claims))
        (checkMembers wants claims) ∧
      AlikeAfter name name' (checkNamed name required received)
        (checkNamed name' required received) ∧
      checkAt name required received =
        (checkNamed name required received).mapError ClaimFault.report ∧
      checkEach wants claims = (checkMembers wants claims).mapError ClaimFault.report :=
  ⟨checkNamed_object_alike name wants claims, checkNamed_alike name name' required received,
    checkAt_eq_checkNamed name required received, checkEach_eq wants claims⟩

end Claim
end BearerAuth
