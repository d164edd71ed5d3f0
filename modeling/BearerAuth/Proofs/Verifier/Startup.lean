import BearerAuth.Proofs.Cache.Moves
import BearerAuth.Proofs.Verifier.Exchanges

/-!
# What a start comes to

A start asks for the metadata document, unless the key set has a URL already, and then for the
key set. After the replies to a part of these requests it has found the URL and asks there, has
obtained a key set that may be used, or has failed. Which of these it is depends on the statuses of
the replies and on the documents in their bodies.
-/
namespace BearerAuth

open Http

namespace Dialogue

variable {Q A α : Type}

/-- What is left of a computation after some answers. -/
def resume (dialogue : Dialogue Q (fun _ => A) α) : List A → Dialogue Q (fun _ => A) α
  | [] => dialogue
  | answer :: answers =>
    match dialogue with
    | done result => done result
    | ask _ next => (next answer).resume answers

@[simp] theorem resume_nil (dialogue : Dialogue Q (fun _ => A) α) :
    dialogue.resume [] = dialogue := by
  cases dialogue <;> rfl

@[simp] theorem resume_ask (q : Q) (next : A → Dialogue Q (fun _ => A) α) (answer : A)
    (answers : List A) :
    (ask q next).resume (answer :: answers) = (next answer).resume answers := rfl

theorem resume_append_singleton {dialogue : Dialogue Q (fun _ => A) α} {answers : List A} {q : Q}
    {next : A → Dialogue Q (fun _ => A) α} (h : dialogue.resume answers = ask q next)
    (answer : A) : dialogue.resume (answers ++ [answer]) = next answer := by
  induction answers generalizing dialogue with
  | nil =>
    rw [resume_nil] at h
    rw [h, List.nil_append, resume_ask, resume_nil]
  | cons first rest ih =>
    cases dialogue with
    | done result => cases h
    | ask q' next' => exact ih h

end Dialogue

namespace Config

/-- The replies that lead a start to the URL of the key set. -/
inductive Locates (config : Config) : List Exchange → String → Prop
  | named (url : String) (known : config.jwksUrl = some url) : Locates config [] url
  | discovered (exchange : Exchange) (metadata : ProviderMetadata)
      (unknown : config.jwksUrl = none) (reads : Discovers exchange metadata) :
    Locates config [exchange] metadata.jwksUri

/-- The replies that lead a start to the URL of the key set and to a key set that may be used
with the configuration. -/
inductive Obtains (config : Config) : List Exchange → String → KeySet → Prop
  | fetched {replies : List Exchange} {url : String} (exchange : Exchange) (keys : KeySet)
      (located : config.Locates replies url) (reads : Serves exchange keys)
      (sole : config.keyIdDisabled = true → keys.keys.length ≤ 1) :
    Obtains config (replies ++ [exchange]) url keys

/-- The replies that make a start fail: there is no metadata document to read, no key set, or
one with several keys where identifiers are not used. -/
inductive Fails (config : Config) : List Exchange → Misconfiguration → Prop
  | undiscovered (exchange : Exchange) (error : DiscoveryError) (unknown : config.jwksUrl = none)
      (unread : DiscoveryFails exchange error) :
    Fails config [exchange] (.discovery error)
  | unfetched {replies : List Exchange} {url : String} (exchange : Exchange) (error : CacheError)
      (located : config.Locates replies url)
      (unread : FetchFailsWithin config.fetchTimeout exchange error) :
    Fails config (replies ++ [exchange]) (.initialFetch error)
  | ambiguous {replies : List Exchange} {url : String} (exchange : Exchange) (keys : KeySet)
      (located : config.Locates replies url) (reads : Serves exchange keys)
      (disabled : config.keyIdDisabled = true) (several : 1 < keys.keys.length) :
    Fails config (replies ++ [exchange]) (.initialFetch (.ambiguousKeySet keys.keys.length))

/-- The end of a start, once the URL of the key set is known. -/
def fetchFrom (config : Config) (url : String) : Requests (Except Misconfiguration Started) :=
  .ask url fun exchange =>
    .done (((Cache.start config.cacheSettings
      (keySetWithin config.fetchTimeout exchange)).map (Started.mk url)).mapError .initialFetch)

/-- The first request of every start. -/
def firstUrl (config : Config) : String := config.jwksUrl.getD config.resolvedDiscoveryUrl

variable {config : Config} {replies : List Exchange} {url : String}

theorem startup_of_named (h : config.jwksUrl = some url) :
    config.startup = config.fetchFrom url := by
  rw [startup, findJwksUrl, h]
  rfl

theorem startup_of_discovered (h : config.jwksUrl = none) :
    config.startup = .ask config.resolvedDiscoveryUrl fun exchange =>
      match metadataOf exchange with
      | .ok metadata => config.fetchFrom metadata.jwksUri
      | .error error => .done (.error (.discovery error)) := by
  rw [startup, findJwksUrl, h]
  simp only [Dialogue.ask_bind, Dialogue.done_bind]
  refine congrArg (Dialogue.ask _) (funext fun exchange => ?_)
  cases metadataOf exchange with
  | ok metadata => rfl
  | error error => rfl

theorem exists_startup (config : Config) : ∃ next, config.startup = .ask config.firstUrl next := by
  cases h : config.jwksUrl with
  | some url =>
    rw [startup_of_named h, firstUrl, h]
    exact ⟨_, rfl⟩
  | none =>
    rw [startup_of_discovered h, firstUrl, h]
    exact ⟨_, rfl⟩

theorem Locates.resume (h : config.Locates replies url) :
    config.startup.resume replies = config.fetchFrom url := by
  cases h with
  | named url known => rw [startup_of_named known, Dialogue.resume_nil]
  | discovered exchange metadata unknown reads =>
    rw [startup_of_discovered unknown, Dialogue.resume_ask, reads.metadataOf]
    rfl

theorem Obtains.resume {keys : KeySet} (h : config.Obtains replies url keys) :
    config.startup.resume replies =
      .done (.ok ⟨url, Cache.initial config.cacheSettings keys⟩) := by
  obtain ⟨exchange, keys, located, reads, sole⟩ := h
  have hstart : Cache.start config.cacheSettings (.ok keys) =
      .ok (Cache.initial config.cacheSettings keys) :=
    Cache.start_eq_ok_iff.mpr ⟨keys, rfl, sole, rfl⟩
  rw [Dialogue.resume_append_singleton located.resume, reads.keySetWithin, hstart]
  rfl

theorem Fails.resume {fault : Misconfiguration} (h : config.Fails replies fault) :
    config.startup.resume replies = .done (.error fault) := by
  cases h with
  | undiscovered exchange error unknown unread =>
    rw [startup_of_discovered unknown, Dialogue.resume_ask, unread.metadataOf]
    rfl
  | unfetched exchange error located unread =>
    rw [Dialogue.resume_append_singleton located.resume, unread.keySetWithin]
    rfl
  | ambiguous exchange keys located reads disabled several =>
    have hstart : Cache.start config.cacheSettings (.ok keys) =
        .error (.ambiguousKeySet keys.keys.length) := by
      have hrefused := checkUnambiguous_of_ambiguous disabled several
      simp only [Cache.start, cacheSettings, bind, Except.bind, hrefused]
    rw [Dialogue.resume_append_singleton located.resume, reads.keySetWithin, hstart]
    rfl

/-- Before its end a start waits for the metadata document, or asks for the key set at the URL
that it has found. -/
theorem awaits_of_resume {next : Exchange → Requests (Except Misconfiguration Started)}
    (h : config.startup.resume replies = .ask url next) :
    (config.jwksUrl = none ∧ replies = []) ∨ config.Locates replies url := by
  cases hurl : config.jwksUrl with
  | some known =>
    rw [startup_of_named hurl] at h
    cases replies with
    | nil =>
      cases h
      exact .inr (.named url hurl)
    | cons exchange rest => cases rest <;> cases h
  | none =>
    rw [startup_of_discovered hurl] at h
    cases replies with
    | nil => exact .inl ⟨rfl, rfl⟩
    | cons exchange rest =>
      rw [Dialogue.resume_ask] at h
      obtain ⟨metadata, hreads⟩ | ⟨error, hunread⟩ := discovers_or_fails exchange
      · rw [hreads.metadataOf] at h
        cases rest with
        | nil =>
          cases h
          exact .inr (.discovered exchange metadata hurl hreads)
        | cons exchange' rest => cases rest <;> cases h
      · rw [hunread.metadataOf] at h
        cases rest <;> cases h

/-- What the next reply leads a start to. -/
theorem cases_of_reply {next : Exchange → Requests (Except Misconfiguration Started)}
    (h : config.startup.resume replies = .ask url next) (exchange : Exchange) :
    (∃ found, config.Locates (replies ++ [exchange]) found) ∨
      (∃ found keys, config.Obtains (replies ++ [exchange]) found keys) ∨
      ∃ fault, config.Fails (replies ++ [exchange]) fault := by
  obtain ⟨hunknown, rfl⟩ | hlocated := awaits_of_resume h
  · obtain ⟨metadata, hreads⟩ | ⟨error, hunread⟩ := discovers_or_fails exchange
    · exact .inl ⟨_, .discovered exchange metadata hunknown hreads⟩
    · exact .inr (.inr ⟨_, .undiscovered exchange error hunknown hunread⟩)
  · obtain ⟨keys, hreads⟩ | ⟨error, hunread⟩ := serves_or_fails config.fetchTimeout exchange
    · by_cases hambiguous : config.keyIdDisabled = true ∧ 1 < keys.keys.length
      · obtain ⟨hdisabled, hseveral⟩ := hambiguous
        exact .inr (.inr ⟨_, .ambiguous exchange keys hlocated hreads hdisabled hseveral⟩)
      · refine .inr (.inl ⟨url, keys, .fetched exchange keys hlocated hreads fun hdisabled => ?_⟩)
        exact Nat.le_of_not_lt (not_and.mp hambiguous hdisabled)
    · exact .inr (.inr ⟨_, .unfetched exchange error hlocated hunread⟩)

section Run

variable {σ : Type} {respond : String → σ → Exchange × σ} {source : σ} {started : Started}

theorem initial_of_fetchFrom
    (h : ((config.fetchFrom url).run respond source).1 = .ok started) :
    ∃ keys, started.cache = .initial config.cacheSettings keys := by
  rw [fetchFrom, Dialogue.run_ask, Dialogue.run_done, mapError_eq_ok_iff] at h
  obtain ⟨cache, hcache, rfl⟩ := map_eq_ok_iff.mp h
  obtain ⟨keys, -, -, rfl⟩ := Cache.start_eq_ok_iff.mp hcache
  exact ⟨keys, rfl⟩

/-- Whoever answers its requests, a start makes a cache with the settings of the configuration
that has seen no refresh. -/
theorem initial_of_run (h : (config.startup.run respond source).1 = .ok started) :
    ∃ keys, started.cache = .initial config.cacheSettings keys := by
  cases hurl : config.jwksUrl with
  | some known =>
    rw [startup_of_named hurl] at h
    exact initial_of_fetchFrom h
  | none =>
    rw [startup_of_discovered hurl, Dialogue.run_ask] at h
    split at h
    · exact initial_of_fetchFrom h
    · cases h

end Run

end Config
end BearerAuth
