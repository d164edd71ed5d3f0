import BearerAuth.Proofs.Cache.Snapshots
import BearerAuth.Validation.Alone

/-!
# How many refreshes one validation asks for

A validation has two places that ask for a refresh: the search for its key, and the second try
at a signature where identifiers are disabled. The second place does not know of the first, so
that a key which has just been fetched for the token may be fetched again. The courses of the
dialogue show when: over all answers there are never more than two refreshes, and two only then.
-/
namespace BearerAuth

/-- A question of an inquiry with its answer. -/
inductive Turn
  | lookup (kid : Option String) (found : Option VerificationKey)
  | refresh (kid : Option String) (refreshed : Except CacheError VerificationKey)
  | now (time : Instant)

def Question.turn : (q : Question) → q.Answer → Turn
  | lookup kid, found => .lookup kid found
  | refresh kid, refreshed => .refresh kid refreshed
  | now, time => .now time

/-- The number of refreshes that are asked for. -/
def refreshesOf : List Turn → Nat
  | [] => 0
  | .refresh _ _ :: later => refreshesOf later + 1
  | _ :: later => refreshesOf later

@[simp] theorem refreshesOf_append (early late : List Turn) :
    refreshesOf (early ++ late) = refreshesOf early + refreshesOf late := by
  induction early with
  | nil => simp [refreshesOf]
  | cons turn early ih =>
    cases turn with
    | refresh kid refreshed =>
      simp only [List.cons_append, refreshesOf, ih]
      omega
    | _ => simpa only [List.cons_append, refreshesOf] using ih

namespace Inquiry

variable {α β : Type}

/-- A course of an inquiry: its questions with the answers they get, in order, and the result
that these lead to. -/
def Course : Inquiry α → List Turn → α → Prop
  | .done result, turns, final => turns = [] ∧ result = final
  | .ask q next, turns, final =>
    ∃ answer later, turns = q.turn answer :: later ∧ Course (next answer) later final

/-- A course of a composed inquiry is a course of each part. -/
theorem course_bind_iff {inquiry : Inquiry α} {f : α → Inquiry β} {turns : List Turn}
    {final : β} :
    Course (inquiry >>= f) turns final ↔ ∃ result early late, turns = early ++ late ∧
      Course inquiry early result ∧ Course (f result) late final := by
  induction inquiry generalizing turns with
  | done result =>
    constructor
    · intro h
      exact ⟨result, [], turns, rfl, ⟨rfl, rfl⟩, h⟩
    · rintro ⟨_, _, late, rfl, ⟨rfl, rfl⟩, h⟩
      exact h
  | ask q next ih =>
    constructor
    · rintro ⟨answer, later, rfl, h⟩
      obtain ⟨result, early, late, rfl, hearly, hlate⟩ := (ih answer).mp h
      exact ⟨result, q.turn answer :: early, late, rfl, ⟨answer, early, rfl, hearly⟩, hlate⟩
    · rintro ⟨result, _, late, rfl, ⟨answer, early, rfl, hearly⟩, hlate⟩
      exact ⟨answer, early ++ late, rfl, (ih answer).mpr ⟨result, early, late, rfl, hearly, hlate⟩⟩

end Inquiry

namespace Validation

variable {α β : Type}

/-- A course of a validation, which may end with a rejection. -/
def Course (validation : Validation α) (turns : List Turn)
    (final : Except Rejection α) : Prop :=
  Inquiry.Course validation.run turns final

/-- A validation goes on after a stage only with what the stage accepts. -/
theorem course_bind_cases {validation : Validation α} {f : α → Validation β}
    {turns : List Turn} {final : Except Rejection β}
    (h : Course (validation >>= f) turns final) :
    (∃ rejection, validation.Course turns (.error rejection)) ∨
      ∃ a early late, turns = early ++ late ∧ validation.Course early (.ok a) ∧
        (f a).Course late final := by
  unfold Course at h
  rw [ExceptT.run_bind] at h
  obtain ⟨result, early, late, rfl, hearly, hlate⟩ := Inquiry.course_bind_iff.mp h
  cases result with
  | ok a => exact .inr ⟨a, early, late, rfl, hearly, hlate⟩
  | error rejection =>
    obtain ⟨rfl, -⟩ := hlate
    rw [List.append_nil]
    exact .inl ⟨rejection, hearly⟩

theorem course_check {result final : Except Rejection α} {turns : List Turn}
    (h : (check result).Course turns final) : turns = [] ∧ result = final :=
  h

theorem course_checkEnvelope {result : Except EnvelopeError α} {a : α} {turns : List Turn}
    (h : (checkEnvelope result).Course turns (.ok a)) : turns = [] ∧ result = .ok a :=
  ⟨h.1, mapError_eq_ok_iff.mp h.2⟩

theorem course_ask {q : Question} {f : q.Answer → Validation α} {turns : List Turn}
    {final : Except Rejection α}
    (h : Course ((liftM (Dialogue.question q : Inquiry q.Answer) : Validation q.Answer) >>= f)
      turns final) :
    ∃ answer later, turns = q.turn answer :: later ∧ (f answer).Course later final :=
  h

/-- Looking for a key takes one question, or two if the key is not at hand. -/
theorem course_findKey {kid : Option String} {turns : List Turn}
    {final : Except Rejection VerificationKey} (h : (findKey kid).Course turns final) :
    (∃ key, turns = [.lookup kid (some key)] ∧ final = .ok key) ∨
      ∃ refreshed, turns = [.lookup kid none, .refresh kid refreshed] ∧
        final = refreshed.mapError Rejection.ofCacheError := by
  obtain ⟨found, _, rfl, hfound⟩ := course_ask h
  cases found with
  | some key =>
    obtain ⟨rfl, rfl⟩ := hfound
    exact .inl ⟨key, rfl, rfl⟩
  | none =>
    obtain ⟨refreshed, _, rfl, rfl, rfl⟩ := course_ask hfound
    exact .inr ⟨refreshed, rfl, rfl⟩

/-- The first key costs at most one refresh. -/
theorem course_resolveKey {keyIdDisabled : Bool} {header : Header} {turns : List Turn}
    {final : Except Rejection VerificationKey}
    (h : (resolveKey keyIdDisabled header).Course turns final) : refreshesOf turns ≤ 1 := by
  have hfind (kid : Option String) (h : (findKey kid).Course turns final) :
      refreshesOf turns ≤ 1 := by
    rcases course_findKey h with ⟨key, rfl, -⟩ | ⟨refreshed, rfl, -⟩
    · exact Nat.zero_le 1
    · exact Nat.le_refl 1
  unfold resolveKey at h
  split at h
  · exact hfind none h
  · split at h
    · next kid _ => exact hfind (some kid) h
    · obtain ⟨rfl, -⟩ := h
      exact Nat.zero_le 1

/-- The signature costs a refresh exactly if it fails where identifiers are disabled. -/
theorem course_verifySignature {keyIdDisabled : Bool} {token : CompactToken} {header : Header}
    {key : VerificationKey} {turns : List Turn} {final : Except Rejection Unit}
    (h : (verifySignature keyIdDisabled token header key).Course turns final) :
    refreshesOf turns =
      if keyIdDisabled = true ∧ verifiesUnder token header key = false then 1 else 0 := by
  unfold verifySignature at h
  cases hverifies : verifiesUnder token header key with
  | true =>
    rw [if_pos hverifies] at h
    obtain ⟨rfl, -⟩ := h
    simp [refreshesOf]
  | false =>
    rw [if_neg (by simp [hverifies])] at h
    cases keyIdDisabled with
    | true =>
      obtain ⟨refreshed, _, rfl, rfl, -⟩ := course_ask h
      rfl
    | false =>
      obtain ⟨rfl, -⟩ := h
      rfl

/-- What comes after the signature asks for the time at most. -/
theorem course_afterSignature {policy : Policy} {token : CompactToken} {header : Header}
    {turns : List Turn} {final : Except Rejection ValidatedToken}
    (h : Course (do
      let claims ← checkEnvelope token.claims
      let standard ← check (policy.checkClaims claims (← Inquiry.now))
      return ⟨header, claims, standard⟩) turns final) :
    refreshesOf turns = 0 := by
  rcases course_bind_cases h with ⟨_, hclaims⟩ | ⟨claims, _, late, rfl, hclaims, hlate⟩
  · rw [(course_check hclaims).1]
    rfl
  obtain ⟨rfl, -⟩ := course_check hclaims
  obtain ⟨now, later, rfl, hlater⟩ := course_ask (q := .now) hlate
  rcases course_bind_cases hlater with ⟨_, hchecked⟩ | ⟨_, _, _, rfl, hchecked, rfl, -⟩
  · rw [(course_check hchecked).1]
    rfl
  · rw [(course_check hchecked).1]
    rfl

/-- With a key at hand, only the second try at the signature costs a refresh. -/
theorem course_afterKey {policy : Policy} {keyIdDisabled : Bool} {token : CompactToken}
    {header : Header} {key : VerificationKey} {turns : List Turn}
    {final : Except Rejection ValidatedToken}
    (h : Course (do
      verifySignature keyIdDisabled token header key
      let claims ← checkEnvelope token.claims
      let standard ← check (policy.checkClaims claims (← Inquiry.now))
      return ⟨header, claims, standard⟩) turns final) :
    refreshesOf turns =
      if keyIdDisabled = true ∧ verifiesUnder token header key = false then 1 else 0 := by
  rcases course_bind_cases h with ⟨_, hverify⟩ | ⟨_, early, late, rfl, hverify, hlate⟩
  · exact course_verifySignature hverify
  · rw [refreshesOf_append, course_verifySignature hverify, course_afterSignature hlate,
      Nat.add_zero]

/-- No key was at hand where identifiers are disabled, and the one that the refresh brought
does not verify the token either. -/
def FetchedInVain (keyIdDisabled : Bool) (text : String) (turns : List Turn) : Prop :=
  keyIdDisabled = true ∧ ∃ token header key later, CompactToken.parse text = .ok token ∧
    token.unverifiedHeader = .ok header ∧ verifiesUnder token header key = false ∧
      turns = .lookup none none :: .refresh none (.ok key) :: later

theorem not_fetchedInVain_nil {keyIdDisabled : Bool} {text : String} :
    ¬ FetchedInVain keyIdDisabled text [] := by
  rintro ⟨-, _, _, _, _, -, -, -, h⟩
  cases h

/-- A search for the key that fails is not a fetch in vain. -/
theorem not_fetchedInVain_of_rejected {keyIdDisabled : Bool} {text : String} {header : Header}
    {turns : List Turn} {rejection : Rejection}
    (h : (resolveKey keyIdDisabled header).Course turns (.error rejection)) :
    ¬ FetchedInVain keyIdDisabled text turns := by
  rintro ⟨rfl, token, header, key, later, -, -, -, rfl⟩
  rcases course_findKey h with ⟨_, hlookup, -⟩ | ⟨refreshed, hrefresh, hfinal⟩
  · cases hlookup
  · cases hrefresh
    cases hfinal

/-- A validation asks for one refresh at most, whatever it is answered, except after a fetch in
vain, when it asks for exactly two. -/
theorem refreshesOf_validate {policy : Policy} {keyIdDisabled : Bool} {text : String}
    {turns : List Turn} {final : Except Rejection ValidatedToken}
    (h : Inquiry.Course (validate policy keyIdDisabled text) turns final) :
    (FetchedInVain keyIdDisabled text turns → refreshesOf turns = 2) ∧
      (¬ FetchedInVain keyIdDisabled text turns → refreshesOf turns ≤ 1) := by
  rcases course_bind_cases h with ⟨_, hparse⟩ | ⟨token, _, _, rfl, hparse, htoken⟩
  · rw [(course_check hparse).1]
    exact ⟨fun hvain => absurd hvain not_fetchedInVain_nil, fun _ => Nat.zero_le 1⟩
  obtain ⟨rfl, hparsed⟩ := course_checkEnvelope hparse
  rcases course_bind_cases htoken with ⟨_, hread⟩ | ⟨header, _, _, rfl, hread, hheader⟩
  · rw [(course_check hread).1]
    exact ⟨fun hvain => absurd hvain not_fetchedInVain_nil, fun _ => Nat.zero_le 1⟩
  obtain ⟨rfl, hheaded⟩ := course_checkEnvelope hread
  rcases course_bind_cases hheader with ⟨_, htype⟩ | ⟨_, _, _, rfl, htype, hkey⟩
  · rw [(course_check htype).1]
    exact ⟨fun hvain => absurd hvain not_fetchedInVain_nil, fun _ => Nat.zero_le 1⟩
  obtain ⟨rfl, -⟩ := course_check htype
  simp only [List.nil_append]
  rcases course_bind_cases hkey with ⟨_, hfailed⟩ | ⟨key, early, late, rfl, hfound, hlate⟩
  · exact ⟨fun hvain => absurd hvain (not_fetchedInVain_of_rejected hfailed),
      fun _ => course_resolveKey hfailed⟩
  rw [refreshesOf_append, course_afterKey hlate]
  cases keyIdDisabled with
  | false =>
    refine ⟨nofun, fun _ => ?_⟩
    have hfirst := course_resolveKey hfound
    simpa using hfirst
  | true =>
    rcases course_findKey hfound with ⟨_, rfl, -⟩ | ⟨refreshed, rfl, hfinal⟩
    · refine ⟨?_, fun _ => ?_⟩
      · rintro ⟨-, _, _, _, _, -, -, -, hturns⟩
        cases hturns
      · simp only [refreshesOf]
        split <;> omega
    · obtain rfl : refreshed = .ok key := mapError_eq_ok_iff.mp hfinal.symm
      simp only [refreshesOf, true_and]
      by_cases hverifies : verifiesUnder token header key = false
      · rw [if_pos hverifies]
        exact ⟨fun _ => rfl, fun hvain =>
          absurd ⟨rfl, token, header, key, late, hparsed, hheaded, hverifies, rfl⟩ hvain⟩
      · rw [if_neg hverifies]
        refine ⟨?_, fun _ => Nat.le_refl 1⟩
        rintro ⟨-, _, _, _, _, hparsed', hheaded', hvain, hturns⟩
        cases hparsed.symm.trans hparsed'
        cases hheaded.symm.trans hheaded'
        cases hturns
        exact absurd hvain hverifies

end Validation

namespace Fed

variable {σ : Type}

/-- Of all questions only a request for a refresh starts one. -/
theorem length_respond (source : Source σ) (cancelled : Bool) (now : Instant) (q : Question)
    (fed : Fed σ) :
    (respond source cancelled now q fed).2.cache.refreshes.length =
      fed.cache.refreshes.length +
        refreshesOf [q.turn (respond source cancelled now q fed).1] := by
  cases q with
  | lookup kid => exact (Nat.add_zero _).symm
  | refresh kid => exact List.length_append
  | now => exact (Nat.add_zero _).symm

/-- A caller who is alone goes through a course of its inquiry, and each refresh that this asks
for is made. -/
theorem course_of_run {α : Type} (source : Source σ) (cancelled : Bool) (now : Instant)
    (inquiry : Inquiry α) (fed : Fed σ) :
    ∃ turns, inquiry.Course turns (inquiry.run (respond source cancelled now) fed).1 ∧
      (inquiry.run (respond source cancelled now) fed).2.cache.refreshes.length =
        fed.cache.refreshes.length + refreshesOf turns := by
  induction inquiry generalizing fed with
  | done result => exact ⟨[], ⟨rfl, rfl⟩, rfl⟩
  | ask q next ih =>
    obtain ⟨later, hcourse, hlength⟩ := ih (respond source cancelled now q fed).1
      (respond source cancelled now q fed).2
    refine ⟨[q.turn (respond source cancelled now q fed).1] ++ later,
      ⟨_, later, rfl, hcourse⟩, ?_⟩
    rw [Dialogue.run_ask, hlength, length_respond, refreshesOf_append, Nat.add_assoc]

/-- No key verifies this token, since it names no algorithm. -/
def unsignedToken : String := "eyJhbGciOiJub25lIn0" ++ "." ++ "e30" ++ "." ++ "AA"

def barePolicy : Policy := ⟨"i", none, none, none, .ofSeconds 0⟩

/-- An initialized cache without a key, and a source that has one. -/
def keyToCome : Fed Script :=
  ⟨.initial ⟨.ofSeconds 5, .ofSeconds 0, true⟩ ⟨[]⟩, .constant ⟨[.blank "a"]⟩⟩

/-- One validation of a caller who is alone can make two fetches. -/
theorem validate_fetches_twice :
    Cache.start ⟨.ofSeconds 5, .ofSeconds 0, true⟩ (.ok ⟨[]⟩) = .ok keyToCome.cache ∧
      keyToCome.source.started = 0 ∧
        (keyToCome.validate Script.source barePolicy false .epoch unsignedToken).2.source.started =
          2 := by
  refine ⟨rfl, rfl, ?_⟩
  decide +kernel

/-- It has fetched in vain. -/
theorem refreshesOf_validate_keyToCome :
    ∃ turns final,
      Inquiry.Course (BearerAuth.validate barePolicy true unsignedToken) turns final ∧
        Validation.FetchedInVain true unsignedToken turns ∧ refreshesOf turns = 2 := by
  obtain ⟨turns, hcourse, hlength⟩ := course_of_run Script.source false .epoch
    (BearerAuth.validate barePolicy true unsignedToken) keyToCome
  have hrun : ((BearerAuth.validate barePolicy true unsignedToken).run
      (respond Script.source false .epoch) keyToCome).2.cache.refreshes.length = 2 := by
    decide +kernel
  have htwo : refreshesOf turns = 2 := by
    rw [hrun] at hlength
    exact (Nat.zero_add _).symm.trans hlength.symm
  obtain ⟨-, hone⟩ := Validation.refreshesOf_validate hcourse
  refine ⟨turns, _, hcourse, ?_, htwo⟩
  by_contra hvain
  have := hone hvain
  omega

end Fed
end BearerAuth
