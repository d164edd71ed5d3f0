import BearerAuth.Proofs.Validation.StageOrder
import BearerAuth.Verifier.Verifier

/-!
# Giving up

A validation that is told, in place of a key, that its wait was cancelled, ends at once and says
so. For a caller who is alone this decides what a call comes to whose token has fired before it:
the same as without if no refresh is asked for, and otherwise the first refresh is made as it
would have been and the call ends there.
-/
namespace BearerAuth

open Http

namespace Inquiry

variable {α β : Type}

/-- Whatever answers an inquiry gets, it ends when a refresh answers that the wait was cancelled,
and with nothing but this to tell. -/
inductive GivesUp : Inquiry (Except Rejection α) → Prop
  | done (result : Except Rejection α) : GivesUp (.done result)
  | lookup {kid : Option String} {next : Option VerificationKey → Inquiry (Except Rejection α)}
      (h : ∀ found, GivesUp (next found)) : GivesUp (.ask (.lookup kid) next)
  | clock {next : Instant → Inquiry (Except Rejection α)} (h : ∀ now, GivesUp (next now)) :
      GivesUp (.ask .now next)
  | refresh {kid : Option String}
      {next : Except CacheError VerificationKey → Inquiry (Except Rejection α)}
      (hcancelled : next (.error .cancelled) = .done (.error .cancelled))
      (h : ∀ refreshed, GivesUp (next refreshed)) : GivesUp (.ask (.refresh kid) next)

/-- What comes after an inquiry that is rejected is not reached. -/
theorem GivesUp.bind {inquiry : Inquiry (Except Rejection α)}
    {f : Except Rejection α → Inquiry (Except Rejection β)} (h : inquiry.GivesUp)
    (hok : ∀ a, (f (.ok a)).GivesUp)
    (herror : ∀ rejection, f (.error rejection) = .done (.error rejection)) :
    GivesUp (inquiry >>= f) := by
  induction h with
  | done result =>
    cases result with
    | ok a => exact hok a
    | error rejection =>
      rw [Dialogue.done_bind, herror]
      exact .done _
  | lookup _ ih => exact .lookup ih
  | clock _ ih => exact .clock ih
  | refresh hcancelled _ ih =>
    refine .refresh ?_ ih
    rw [hcancelled]
    exact herror .cancelled

end Inquiry

namespace Validation

variable {α β : Type}

def GivesUp (validation : Validation α) : Prop := Inquiry.GivesUp validation.run

theorem givesUp_check (result : Except Rejection α) : GivesUp (check result) := .done result

theorem GivesUp.bind {validation : Validation α} {f : α → Validation β}
    (h : validation.GivesUp) (hf : ∀ a, (f a).GivesUp) : GivesUp (validation >>= f) := by
  unfold GivesUp
  rw [ExceptT.run_bind]
  exact Inquiry.GivesUp.bind h hf fun _ => rfl

theorem givesUp_lookup {kid : Option String} {f : Option VerificationKey → Validation α}
    (h : ∀ found, (f found).GivesUp) :
    GivesUp ((liftM (Inquiry.lookup kid) : Validation _) >>= f) :=
  .lookup h

theorem givesUp_now {f : Instant → Validation α} (h : ∀ now, (f now).GivesUp) :
    GivesUp ((liftM Inquiry.now : Validation _) >>= f) :=
  .clock h

/-- A refresh whose answer is only judged. -/
theorem givesUp_refresh {kid : Option String}
    {judge : Except CacheError VerificationKey → Except Rejection α}
    (h : judge (.error .cancelled) = .error .cancelled) :
    GivesUp ((liftM (Inquiry.refresh kid) : Validation _) >>= fun refreshed =>
      check (judge refreshed)) :=
  .refresh (congrArg Dialogue.done h) fun refreshed => givesUp_check (judge refreshed)

theorem givesUp_findKey (kid : Option String) : GivesUp (findKey kid) := by
  refine givesUp_lookup fun found => ?_
  cases found with
  | some key => exact .done _
  | none => exact givesUp_refresh rfl

theorem givesUp_resolveKey (keyIdDisabled : Bool) (header : Header) :
    GivesUp (resolveKey keyIdDisabled header) := by
  unfold resolveKey
  split
  · exact givesUp_findKey none
  · split
    · exact givesUp_findKey _
    · exact .done _

/-- Of all that can go wrong with the refresh for the signature's sake, this alone is not held
against the signature. -/
theorem givesUp_verifySignature (keyIdDisabled : Bool) (token : CompactToken) (header : Header)
    (key : VerificationKey) : GivesUp (verifySignature keyIdDisabled token header key) := by
  unfold verifySignature
  split
  · exact .done _
  · split
    · exact givesUp_refresh rfl
    · exact .done _

end Validation

theorem givesUp_validate (policy : Policy) (keyIdDisabled : Bool) (text : String) :
    (validate policy keyIdDisabled text).GivesUp := by
  refine Validation.GivesUp.bind (Validation.givesUp_check _) fun token => ?_
  refine Validation.GivesUp.bind (Validation.givesUp_check _) fun header => ?_
  refine Validation.GivesUp.bind (Validation.givesUp_check _) fun _ => ?_
  refine Validation.GivesUp.bind (Validation.givesUp_resolveKey _ _) fun key => ?_
  refine Validation.GivesUp.bind (Validation.givesUp_verifySignature _ _ _ _) fun _ => ?_
  refine Validation.GivesUp.bind (Validation.givesUp_check _) fun claims => ?_
  refine Validation.givesUp_now fun now => ?_
  exact Validation.GivesUp.bind (Validation.givesUp_check _) fun standard => .done _

namespace Fed

variable {σ α : Type} (source : Source σ) (now : Instant)

/-- A refresh leaves the same, whoever it is made for and whether or not anybody waits. -/
theorem refresh_leaves (fed : Fed σ) (cancelled : Bool) (kid : Option String) :
    (fed.refresh source cancelled kid).2 = fed.refreshed source := by
  unfold refreshed refresh
  rfl

theorem run_refresh (cancelled : Bool) (kid : Option String)
    (next : Except CacheError VerificationKey → Inquiry α) (fed : Fed σ) :
    (Dialogue.ask (.refresh kid) next : Inquiry α).run (respond source cancelled now) fed =
      (next (fed.refresh source cancelled kid).1).run (respond source cancelled now)
        (fed.refreshed source) := by
  refine (Dialogue.run_ask (respond source cancelled now) (.refresh kid) next fed).trans ?_
  show (next (fed.refresh source cancelled kid).1).run _ (fed.refresh source cancelled kid).2 = _
  rw [refresh_leaves]

/-- Up to the first refresh that it asks for, a caller who is alone does not notice that its token
has fired; then it has its result. -/
theorem run_cancelled_cases {inquiry : Inquiry (Except Rejection α)} (h : inquiry.GivesUp)
    (fed : Fed σ) :
    (inquiry.run (respond source true now) fed = inquiry.run (respond source false now) fed ∧
        (inquiry.run (respond source false now) fed).2 = fed) ∨
      inquiry.run (respond source true now) fed = (.error .cancelled, fed.refreshed source) ∧
        ∃ rest : Inquiry (Except Rejection α), inquiry.run (respond source false now) fed =
          rest.run (respond source false now) (fed.refreshed source) := by
  induction h with
  | done result =>
    rw [Dialogue.run_done, Dialogue.run_done]
    exact .inl ⟨rfl, rfl⟩
  | lookup _ ih => exact ih (fed.cache.lookup _)
  | clock _ ih => exact ih now
  | @refresh kid next hcancelled _ _ =>
    have hgone := run_refresh source now true kid next fed
    rw [refresh_cancelled, hcancelled, Dialogue.run_done] at hgone
    exact .inr ⟨hgone, _, run_refresh source now false kid next fed⟩

/-- The first refresh of a validation is the last if its token has fired. -/
theorem validate_cancelled_cases (policy : Policy) (text : String) (fed : Fed σ) :
    (fed.validate source policy true now text = fed.validate source policy false now text ∧
        (fed.validate source policy false now text).2 = fed) ∨
      fed.validate source policy true now text = (.error .cancelled, fed.refreshed source) ∧
        ∃ n, (fed.validate source policy false now text).2 =
          (fed.refreshed source).after source n := by
  have hgivesUp := givesUp_validate policy fed.cache.settings.keyIdDisabled text
  obtain hsame | ⟨hcancelled, rest, hrest⟩ :=
    run_cancelled_cases source now hgivesUp fed
  · exact .inl hsame
  · refine .inr ⟨hcancelled, ?_⟩
    obtain ⟨turns, -, hlength⟩ := course_of_run source false now rest (fed.refreshed source)
    rw [← hrest] at hlength
    replace hlength : (fed.validate source policy false now text).2.cache.refreshes.length = _ :=
      hlength
    have hfirst : (fed.refreshed source).cache.refreshes.length =
        fed.cache.refreshes.length + 1 := length_after fed 1
    rw [validate_eq, length_after, hfirst] at hlength
    rw [validate_eq]
    obtain ⟨n, hn⟩ : ∃ n, (fed.trial source now policy text).course.2 = n + 1 :=
      Nat.exists_eq_add_one.mpr (by omega)
    rw [hn]
    exact ⟨n, rfl⟩

theorem refreshed_refreshes (fed : Fed σ) : (fed.refreshed source).cache.refreshes =
    fed.cache.refreshes ++ [.finished (fed.outcome source)] :=
  refresh_refreshes source false none fed

theorem refreshed_snapshot (fed : Fed σ) : (fed.refreshed source).cache.snapshot =
    snapshotAfter (fed.outcome source) fed.cache.snapshot :=
  (refresh_snapshot source false none fed).trans (fed.cache.install_snapshot _)

/-- Further refreshes are added to those that have been made. -/
theorem exists_refreshes_after (fed : Fed σ) (n : Nat) :
    ∃ rest, (fed.after source n).cache.refreshes = fed.cache.refreshes ++ rest ∧
      rest.length = n := by
  induction n generalizing fed with
  | zero => exact ⟨[], (List.append_nil _).symm, rfl⟩
  | succ n ih =>
    obtain ⟨rest, hrest, hlength⟩ := ih (fed.refreshed source)
    refine ⟨.finished (fed.outcome source) :: rest, ?_, by rw [List.length_cons, hlength]⟩
    rw [after, hrest, refreshed_refreshes, List.append_assoc, List.singleton_append]

end Fed

/-! ## Verifiers -/

namespace Verifier

/-- The refreshes that the cache of a verifier has been through. -/
def refreshes (verifier : Verifier) : List RefreshStage :=
  match verifier.started with
  | some started => started.cache.refreshes
  | none => []

def snapshot? (verifier : Verifier) : Option Snapshot :=
  verifier.started.map fun started => started.cache.snapshot

/-- What a call comes to, and what it leaves, when its token has fired before it and nothing else
goes on, compared to the same call without. -/
structure ForestalledAlone (verifier : Verifier) (network : Network) (now : Instant)
    (text : String) : Prop where
  unneeded : (verifier.parse network false now text).2.1.refreshes = verifier.refreshes →
    verifier.parse network true now text = verifier.parse network false now text
  /-- The first refresh is the same, and it is the last. -/
  needed : (verifier.parse network false now text).2.1.refreshes ≠ verifier.refreshes →
    ∃ outcome rest, (verifier.parse network true now text).1 = .error .cancelled ∧
      (verifier.parse network true now text).2.1.refreshes =
        verifier.refreshes ++ [.finished outcome] ∧
      (verifier.parse network true now text).2.1.snapshot? =
        verifier.snapshot?.map (snapshotAfter outcome) ∧
      (verifier.parse network false now text).2.1.refreshes =
        verifier.refreshes ++ .finished outcome :: rest ∧
      (rest = [] → (verifier.parse network true now text).2 =
        (verifier.parse network false now text).2) ∧
      -- It installs what the provider answers, if that may be used.
      ∀ started, verifier.started = some started → ∃ snapshot,
        started.cache.Leaves
          (Fed.reply (keySetSource started.jwksUrl) ⟨started.cache, network⟩) outcome snapshot ∧
        (verifier.parse network true now text).2.1.snapshot? = some snapshot

theorem parse_started (config : Config) (jwksUrl : String) (cache : Cache) (network : Network)
    (cancelled : Bool) (now : Instant) (text : String) :
    (⟨config, some ⟨jwksUrl, cache⟩⟩ : Verifier).parse network cancelled now text =
      let validated := Fed.validate (keySetSource jwksUrl) config.policy cancelled now text
        ⟨cache, network⟩
      (validated.1, ⟨config, some ⟨jwksUrl, validated.2.cache⟩⟩, validated.2.source) := rfl

theorem forestalledAlone (config : Config) (jwksUrl : String) (cache : Cache) (network : Network)
    (now : Instant) (text : String) :
    (⟨config, some ⟨jwksUrl, cache⟩⟩ : Verifier).ForestalledAlone network now text := by
  let fed : Fed Network := ⟨cache, network⟩
  let source := keySetSource jwksUrl
  obtain ⟨hcancelled, hquiet⟩ | ⟨hcancelled, n, hafter⟩ :=
    Fed.validate_cancelled_cases source now config.policy text fed
  · refine ⟨fun _ => ?_, fun hdiffers => ?_⟩
    · rw [parse_started, parse_started, hcancelled]
    · rw [parse_started] at hdiffers
      exact absurd (congrArg (fun fed : Fed Network => fed.cache.refreshes) hquiet) hdiffers
  · obtain ⟨rest, hrest, hlength⟩ := Fed.exists_refreshes_after source (fed.refreshed source) n
    have hfirst : (fed.refreshed source).cache.refreshes = _ :=
      Fed.refreshed_refreshes source fed
    have hsnapshot : (fed.refreshed source).cache.snapshot = _ :=
      Fed.refreshed_snapshot source fed
    rw [← hafter, hfirst, List.append_assoc] at hrest
    refine ⟨fun hsame => ?_, fun _ => ⟨fed.outcome source, rest, ?_, ?_, ?_, ?_, fun hnil => ?_,
      fun started hstarted => ?_⟩⟩
    · rw [parse_started] at hsame
      have hlengths := congrArg List.length (hrest.symm.trans hsame)
      simp [fed, refreshes] at hlengths
    · rw [parse_started, hcancelled]
    · rw [parse_started, hcancelled]
      exact hfirst
    · rw [parse_started, hcancelled]
      exact congrArg some hsnapshot
    · rw [parse_started]
      exact hrest
    · obtain rfl : n = 0 := by rw [← hlength, hnil]; rfl
      rw [Fed.after_zero] at hafter
      rw [parse_started, parse_started, hcancelled]
      exact congrArg (fun later : Fed Network =>
        ((⟨config, some ⟨jwksUrl, later.cache⟩⟩, later.source) : Verifier × Network)) hafter.symm
    · cases hstarted
      refine ⟨_, cache.leaves_outcomeOf (fed.reply source), ?_⟩
      rw [parse_started, hcancelled]
      exact congrArg some hsnapshot

end Verifier
end BearerAuth
