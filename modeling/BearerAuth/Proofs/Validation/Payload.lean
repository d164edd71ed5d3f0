import BearerAuth.Proofs.Key.Binding
import BearerAuth.Proofs.Token.Contents
import BearerAuth.Proofs.Validation.Agreement

/-!
# Payloads that nobody has signed

The payload of a token is looked at only after its signature has been verified. Until then a
validation depends on the header alone: with the same header, any other payload and any other
signature lead to the same questions, the same refreshes and the same rejection, which says
nothing about the payload.
-/
namespace BearerAuth

/-- The key verifies the token with an algorithm that it may be used with. -/
def CompactToken.SignedBy (token : CompactToken) (key : VerificationKey) : Prop :=
  ∃ header, token.unverifiedHeader = .ok header ∧
    Validation.verifiesUnder token header key = true

/-- Whether a rejection says something about the payload: about its text or about a claim. -/
def Rejection.isAboutPayload : Rejection → Bool
  | .malformed (.malformed (.segment .payload _)) => true
  | .expired _ | .issuerMismatch _ _ | .audienceMismatch _ | .claim _ => true
  | _ => false

namespace CompactToken

/-- A header that cannot be read says nothing about the payload. -/
theorem isAboutPayload_of_unverifiedHeader {token : CompactToken} {error : EnvelopeError}
    (h : token.unverifiedHeader = .error error) :
    (Rejection.malformed error).isAboutPayload = false := by
  obtain ⟨fault, rfl, -⟩ | ⟨rfl, -⟩ := unverifiedHeader_eq_error_iff.mp h
  · rfl
  · rfl

/-- The header of a token is read from its first segment alone. -/
theorem unverifiedHeader_congr {token token' : CompactToken} (h : token.header = token'.header) :
    token.unverifiedHeader = token'.unverifiedHeader := by
  rw [unverifiedHeader, unverifiedHeader, h]

theorem not_signedBy {token : CompactToken} {header : Header} {key : VerificationKey}
    (hheader : token.unverifiedHeader = .ok header)
    (h : Validation.verifiesUnder token header key = false) : ¬ token.SignedBy key := by
  rintro ⟨header', hheader', hverifies⟩
  obtain rfl : header = header' := Except.ok.inj (hheader.symm.trans hheader')
  rw [h] at hverifies
  cases hverifies

end CompactToken

namespace Validation

variable {α β : Type} {W : Snapshot → Prop} {T : Instant → Prop} {keyIdDisabled : Bool}

/-- A result that says nothing about the payload: what is accepted is `good`, and a rejection has
other reasons. -/
def Unread (good : α → Prop) : Except Rejection α → Prop
  | .ok a => good a
  | .error rejection => rejection.isAboutPayload = false

/-- The validations agree for all answers out of the snapshots `W`, without a word about the
payload. -/
def Alike (W : Snapshot → Prop) (keyIdDisabled : Bool) (good : α → Prop)
    (validation validation' : Validation α) : Prop :=
  Inquiry.Alike W keyIdDisabled (Unread good) validation.run validation'.run

theorem alike_check (result : Except Rejection α) {good : α → Prop} (h : Unread good result) :
    Alike W keyIdDisabled good (check result) (check result) :=
  .done result h

theorem alike_checkEnvelope {result : Except EnvelopeError α} {good : α → Prop}
    (herror : ∀ error, result = .error error → (Rejection.malformed error).isAboutPayload = false)
    (hgood : ∀ a, result = .ok a → good a) :
    Alike W keyIdDisabled good (checkEnvelope result) (checkEnvelope result) := by
  refine alike_check _ ?_
  cases result with
  | ok a => exact hgood a rfl
  | error error => exact herror error rfl

theorem alike_throw {good : α → Prop} {rejection : Rejection}
    (h : rejection.isAboutPayload = false) :
    Alike W keyIdDisabled good (throw rejection) (throw rejection) :=
  alike_check (.error rejection) h

theorem alike_ask {good : α → Prop} {q : Question} {f f' : q.Answer → Validation α}
    (h : ∀ answer, Question.Fair W (fun _ => True) keyIdDisabled q answer →
      (f answer).Alike W keyIdDisabled good (f' answer)) :
    Alike W keyIdDisabled good
      ((liftM (Dialogue.question q : Inquiry q.Answer) : Validation q.Answer) >>= f)
      ((liftM (Dialogue.question q : Inquiry q.Answer) : Validation q.Answer) >>= f') :=
  .ask q _ _ h

/-- What agrees can be followed by what agrees. -/
theorem Alike.bind {good : β → Prop} {between : α → Prop} {validation validation' : Validation α}
    {f f' : α → Validation β} (h : validation.Alike W keyIdDisabled between validation')
    (hf : ∀ a, between a → (f a).Alike W keyIdDisabled good (f' a)) :
    Alike W keyIdDisabled good (validation >>= f) (validation' >>= f') := by
  unfold Alike Inquiry.Alike
  rw [ExceptT.run_bind, ExceptT.run_bind]
  refine Dialogue.Agrees.bind h fun result hresult => ?_
  cases result with
  | ok a => exact hf a hresult
  | error rejection => exact .done _ hresult

theorem unread_ofCacheError {good : α → Prop} {refreshed : Except CacheError α}
    (h : ∀ a, refreshed = .ok a → good a) :
    Unread good (refreshed.mapError Rejection.ofCacheError) := by
  cases refreshed with
  | ok a => exact h a rfl
  | error error => cases error <;> rfl

theorem unread_checkType (policy : Policy) (header : Header) :
    Unread (fun _ => True) (policy.checkType header) := by
  unfold Policy.checkType
  split
  · trivial
  · split
    · trivial
    · rfl

/-- One of the snapshots holds the key. -/
def Held (W : Snapshot → Prop) (key : VerificationKey) : Prop :=
  ∃ snapshot, W snapshot ∧ key ∈ snapshot.keys.keys

theorem held_of_resolve {snapshot : Snapshot} {kid : Option String} {key : VerificationKey}
    (hW : W snapshot) (h : snapshot.resolve keyIdDisabled kid = some key) : Held W key :=
  ⟨snapshot, hW, (Snapshot.offers_of_resolve h).1⟩

/-- The search for the key does not look at the token. -/
theorem findKey_alike (kid : Option String) :
    (findKey kid).Alike W keyIdDisabled (Held W) (findKey kid) := by
  refine alike_ask fun found ⟨snapshot, hsnapshot, hresolve⟩ => ?_
  cases found with
  | some key => exact alike_check (.ok key) (held_of_resolve hsnapshot hresolve)
  | none =>
    refine alike_ask fun refreshed hrefreshed => alike_check _ (unread_ofCacheError ?_)
    intro key hkey
    obtain ⟨later, hlater, hresolve⟩ := hrefreshed key hkey
    exact held_of_resolve hlater hresolve

theorem resolveKey_alike (header : Header) :
    (resolveKey keyIdDisabled header).Alike W keyIdDisabled (Held W)
      (resolveKey keyIdDisabled header) := by
  unfold resolveKey
  split
  · exact findKey_alike none
  · split
    · next kid _ => exact findKey_alike (some kid)
    · exact alike_throw rfl

/-- What remains of the signature stage when the signature is bad. -/
theorem verifySignature_of_bad {token : CompactToken} {header : Header} {key : VerificationKey}
    (h : verifiesUnder token header key = false) :
    verifySignature keyIdDisabled token header key =
      if keyIdDisabled then do check (judgeRefreshed token header (← Inquiry.refresh none))
      else throw .signatureInvalid :=
  if_neg (by simp [h])

/-- Two bad signatures are not told apart. -/
theorem verifySignature_alike {token token' : CompactToken} {header : Header}
    {key : VerificationKey} (hkey : Held W key)
    (hbad : ∀ key, Held W key →
      verifiesUnder token header key = false ∧ verifiesUnder token' header key = false) :
    (verifySignature keyIdDisabled token header key).Alike W keyIdDisabled (fun _ => False)
      (verifySignature keyIdDisabled token' header key) := by
  rw [verifySignature_of_bad (hbad key hkey).1, verifySignature_of_bad (hbad key hkey).2]
  split
  · next hdisabled =>
    refine alike_ask fun refreshed hrefreshed => ?_
    have hsame : judgeRefreshed token' header refreshed = judgeRefreshed token header refreshed ∧
        Unread (fun _ => False) (judgeRefreshed token header refreshed) := by
      cases refreshed with
      | error error => cases error <;> exact ⟨rfl, rfl⟩
      | ok later =>
        obtain ⟨snapshot, hsnapshot, hresolve⟩ := hrefreshed later rfl
        obtain ⟨hlater, hlater'⟩ := hbad later (held_of_resolve hsnapshot hresolve)
        simp only [judgeRefreshed, hlater, hlater']
        exact ⟨trivial, rfl⟩
    rw [hsame.1]
    exact alike_check _ hsame.2
  · exact alike_throw rfl

/-- Of two tokens with the same header, neither of them signed by any key in sight, one is
validated as the other. -/
theorem stages_alike (policy : Policy) {text text' : String} {token token' : CompactToken}
    (hparse : CompactToken.parse text = .ok token)
    (hparse' : CompactToken.parse text' = .ok token') (hheader : token.header = token'.header)
    (hunsigned : ∀ key, Held W key → ¬ token.SignedBy key ∧ ¬ token'.SignedBy key) :
    (stages policy keyIdDisabled text).Alike W keyIdDisabled (fun _ => False)
      (stages policy keyIdDisabled text') := by
  have hread := CompactToken.unverifiedHeader_congr hheader
  have hbad {header : Header} (hh : token.unverifiedHeader = .ok header) (key : VerificationKey)
      (hkey : Held W key) :
      verifiesUnder token header key = false ∧ verifiesUnder token' header key = false := by
    obtain ⟨hnot, hnot'⟩ := hunsigned key hkey
    exact ⟨Bool.eq_false_iff.mpr fun h => hnot ⟨header, hh, h⟩,
      Bool.eq_false_iff.mpr fun h => hnot' ⟨header, hread.symm.trans hh, h⟩⟩
  unfold stages
  rw [hparse, hparse']
  show Alike W keyIdDisabled _ (checkEnvelope token.unverifiedHeader >>= _)
    (checkEnvelope token'.unverifiedHeader >>= _)
  rw [← hread]
  refine (alike_checkEnvelope (fun error => CompactToken.isAboutPayload_of_unverifiedHeader)
    fun header hh => hh).bind fun header hh => ?_
  refine (alike_check _ (unread_checkType policy header)).bind fun _ _ => ?_
  refine (resolveKey_alike header).bind fun key hkey => ?_
  exact (verifySignature_alike hkey (hbad hh)).bind nofun

end Validation

/-- Neither of two tokens is signed by a key of the snapshot. -/
def Snapshot.SignsNeither (snapshot : Snapshot) (token token' : CompactToken) : Prop :=
  ∀ key ∈ snapshot.keys.keys, ¬ token.SignedBy key ∧ ¬ token'.SignedBy key

/-- A payload has no influence before a signature over it has been verified. Take two tokens with
the same header, whatever else they hold, and neither signed by a key of the snapshots that the
validation is answered from. For a caller who is alone, both end with the same rejection and leave
the cache and the source of its keys in the same state. Among other callers, whatever happens and
in whichever order, the same happens with either of them. -/
theorem payload_without_influence {policy : Policy} {text text' : String}
    {token token' : CompactToken} (hparse : CompactToken.parse text = .ok token)
    (hparse' : CompactToken.parse text' = .ok token') (hheader : token.header = token'.header) :
    (∀ {σ : Type} (source : Source σ) (cancelled : Bool) (now : Instant) (fed : Fed σ),
      (∀ snapshot ∈ Fed.consulted source cancelled now
          (validate policy fed.cache.settings.keyIdDisabled text) fed,
        snapshot.SignsNeither token token') →
      ∃ rejection after, rejection.isAboutPayload = false ∧
        fed.validate source policy cancelled now text = (.error rejection, after) ∧
          fed.validate source policy cancelled now text' = (.error rejection, after)) ∧
    ∀ (s t : System (Except Rejection ValidatedToken))
      (events : List (Event (Except Rejection ValidatedToken))),
      let i := s.callers.length
      let call := Event.call (validate policy s.cache.settings.keyIdDisabled text)
      let call' := Event.call (validate policy s.cache.settings.keyIdDisabled text')
      s.run (call :: events) = some t →
      (∀ snapshot, s.ConsultedBy (call :: events) i snapshot →
        snapshot.SignsNeither token token') →
      ∃ t' caller caller', s.run (call' :: events) = some t' ∧ t'.cache = t.cache ∧
        s.refreshCalls (call' :: events) = s.refreshCalls (call :: events) ∧
        (∀ j, j ≠ i → t'.callers[j]? = t.callers[j]?) ∧
        t.callers[i]? = some caller ∧ t'.callers[i]? = some caller' ∧
        caller'.result? = caller.result? ∧
        ∀ result, caller.result? = some result →
          ∃ rejection, result = .error rejection ∧ rejection.isAboutPayload = false := by
  have halike {W : Snapshot → Prop} {keyIdDisabled : Bool}
      (hW : ∀ snapshot, W snapshot → snapshot.SignsNeither token token') :
      (validate policy keyIdDisabled text).Alike W keyIdDisabled (Validation.Unread fun _ => False)
        (validate policy keyIdDisabled text') :=
    Validation.stages_alike policy hparse hparse' hheader fun key ⟨snapshot, hsnapshot, hmem⟩ =>
      hW snapshot hsnapshot key hmem
  have hrejected {result : Except Rejection ValidatedToken}
      (h : Validation.Unread (fun _ => False) result) :
      ∃ rejection, result = .error rejection ∧ rejection.isAboutPayload = false := by
    cases result with
    | ok _ => cases h
    | error rejection => exact ⟨rejection, rfl, h⟩
  constructor
  · intro σ source cancelled now fed hunsigned
    obtain ⟨hrun, hresult⟩ := Fed.run_eq_of_alike rfl
      (halike (W := (· ∈ Fed.consulted source cancelled now _ fed)) hunsigned) fun _ h => h
    obtain ⟨rejection, herror, hblind⟩ := hrejected hresult
    exact ⟨rejection, _, hblind, Prod.ext herror rfl, hrun.trans (Prod.ext herror rfl)⟩
  · intro s t events i call call' hrun hunsigned
    obtain ⟨t', hrun', hlast, hcalls⟩ := System.exists_run_called (halike hunsigned) hrun
    obtain ⟨caller, caller', hcaller, hcaller', hsame⟩ := hlast.caller
    exact ⟨t', caller, caller', hrun', hlast.others.cache.symm, hcalls,
      fun j hj => (hlast.others.caller j (by simpa using hj)).symm, hcaller, hcaller',
      hsame.result?_eq, fun result hresult => hrejected (hsame.good_of_result? hresult)⟩

/-- A token for the key `a` that nobody has signed. -/
def forged : CompactToken :=
  ⟨"eyJhbGciOiJIUzI1NiIsImtpZCI6ImEiLCJ0eXAiOiJKV1QifQ", "e30", "AA"⟩

/-- The same header over something that is no payload at all. -/
def garbled : CompactToken := { forged with payload := "!", signature := "AB" }

def genuineKey : VerificationKey := ⟨some "a", none, .secret [1, 2, 3]⟩

/-- Among the keys there is only the genuine one. -/
theorem signsNeither_of_genuine {snapshot : Snapshot}
    (h : ∀ key ∈ snapshot.keys.keys, key = genuineKey) : snapshot.SignsNeither forged garbled := by
  intro key hkey
  obtain rfl := h key hkey
  have hheader : forged.unverifiedHeader = .ok ⟨"HS256", some "a", some "JWT"⟩ := by
    decide +kernel
  exact ⟨CompactToken.not_signedBy hheader (by decide +kernel),
    CompactToken.not_signedBy (CompactToken.unverifiedHeader_congr rfl ▸ hheader)
      (by decide +kernel)⟩

theorem payload_without_influence_garbled :
    let policy : Policy := ⟨"i", none, none, none, .ofSeconds 0⟩
    let fed : Fed Script :=
      ⟨.initial ⟨.ofSeconds 5, .ofSeconds 0, true⟩ ⟨[]⟩, .constant ⟨[genuineKey]⟩⟩
    let s := System.opening (.initial ⟨.ofSeconds 5, .ofSeconds 0, false⟩ ⟨[genuineKey]⟩)
    let call (token : CompactToken) := Event.call (validate policy false token.text)
    CompactToken.parse forged.text = .ok forged ∧ CompactToken.parse garbled.text = .ok garbled ∧
      (∃ rejection after, rejection.isAboutPayload = false ∧
        fed.validate Script.source policy false .epoch forged.text = (.error rejection, after) ∧
          fed.validate Script.source policy false .epoch garbled.text = (.error rejection, after)) ∧
      ∃ t t' caller caller' rejection, s.run [call forged, .proceed 0 .epoch] = some t ∧
        s.run [call garbled, .proceed 0 .epoch] = some t' ∧ t'.cache = t.cache ∧
          t.callers[0]? = some caller ∧ t'.callers[0]? = some caller' ∧
            caller.result? = some (.error rejection) ∧ caller'.result? = some (.error rejection) ∧
              rejection.isAboutPayload = false := by
  intro policy fed s call
  have hparse : CompactToken.parse forged.text = .ok forged := by decide +kernel
  have hparse' : CompactToken.parse garbled.text = .ok garbled := by decide +kernel
  refine ⟨hparse, hparse', ?_, ?_⟩
  · refine (payload_without_influence hparse hparse' rfl).1 Script.source false .epoch fed ?_
    have hkeys : ((Fed.consulted Script.source false .epoch (validate policy true forged.text)
        fed).all fun snapshot => snapshot.keys.keys.all (· = genuineKey)) = true := by
      decide +kernel
    intro snapshot hsnapshot
    have hgenuine := List.all_eq_true.mp hkeys snapshot hsnapshot
    exact signsNeither_of_genuine fun key hkey =>
      of_decide_eq_true (List.all_eq_true.mp hgenuine key hkey)
  · have hend : (s.run [call forged, .proceed 0 .epoch]).map
        (fun t => (t.callers[0]?.bind Caller.result?).isSome) = some true := by
      decide +kernel
    obtain ⟨t, hrun, hresult⟩ := Option.map_eq_some_iff.mp hend
    obtain ⟨result, hresult⟩ := Option.isSome_iff_exists.mp hresult
    obtain ⟨caller, hcaller, hresult⟩ := Option.bind_eq_some_iff.mp hresult
    have hkeys : ∀ key ∈ s.cache.snapshot.keys.keys, key = genuineKey :=
      fun key hkey => List.mem_singleton.mp hkey
    have hconsulted : ∀ snapshot, s.ConsultedBy [call forged, .proceed 0 .epoch] 0 snapshot →
        snapshot.SignsNeither forged garbled := by
      rintro snapshot ⟨before, now, after, m, caller, heq, hbefore, -, hconsults⟩
      obtain rfl : [call forged] = before := by
        rcases before with _ | ⟨first, _ | ⟨second, rest⟩⟩
        · cases (List.cons.inj heq).1
        · rw [(List.cons.inj heq).1]
        · simp at heq
      cases hbefore
      cases hconsults with
      | lookup => exact signsNeither_of_genuine hkeys
      | learn _ _ _ _ finished => cases finished
    obtain ⟨t', _, caller', hrun', hcache, -, -, hcaller₀, hcaller', hsame, hrejected⟩ :=
      (payload_without_influence hparse hparse' rfl).2 s t [.proceed 0 .epoch] hrun hconsulted
    cases hcaller₀.symm.trans hcaller
    obtain ⟨rejection, rfl, hblind⟩ := hrejected result hresult
    exact ⟨t, t', caller, caller', rejection, hrun, hrun', hcache, hcaller, hcaller', hresult,
      hsame.trans hresult, hblind⟩

end BearerAuth
