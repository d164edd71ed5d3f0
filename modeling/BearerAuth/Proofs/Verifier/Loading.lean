import BearerAuth.Proofs.Cache.Snapshots
import BearerAuth.Proofs.Verifier.Startup
import BearerAuth.Verifier.Verifier

/-!
# Eager and lazy loading

A verifier may start when it is made, start with its first token, or be made around a cache
that somebody else has started. From then on a verifier is its policy and what it has started
with, so the three ways differ in nothing but the moment of the first requests: the replies
that an eager start uses up are used up by the first token of a lazy one.
-/
namespace BearerAuth

open Http

/-- The same configuration with the given moment of loading. -/
def Config.loading (config : Config) (lazyLoad : Bool) : Config := { config with lazyLoad }

namespace Verifier

/-- One more token, and the current time when it comes. -/
structure Arrival where
  now : Instant
  text : String

/-- Parse tokens one after the other, none of them cancelled. -/
def parseAll (verifier : Verifier) (network : Network) :
    List Arrival → List (Except Rejection ValidatedToken) × Verifier × Network
  | [] => ([], verifier, network)
  | ⟨now, text⟩ :: arrivals =>
    let (result, verifier, network) := verifier.parse network false now text
    let (results, verifier, network) := verifier.parseAll network arrivals
    (result :: results, verifier, network)

/-- The same verifier, had it been made with the given moment of loading. -/
def loading (verifier : Verifier) (lazyLoad : Bool) : Verifier :=
  { verifier with config := verifier.config.loading lazyLoad }

theorem start_loading (verifier : Verifier) (lazyLoad : Bool) (network : Network) :
    (verifier.loading lazyLoad).start network = verifier.start network := rfl

/-- Once a verifier has been made, it never looks at the moment of loading again. -/
theorem parse_loading (verifier : Verifier) (lazyLoad : Bool) (network : Network)
    (cancelled : Bool) (now : Instant) (text : String) :
    (verifier.loading lazyLoad).parse network cancelled now text =
      ((verifier.parse network cancelled now text).1,
        (verifier.parse network cancelled now text).2.1.loading lazyLoad,
        (verifier.parse network cancelled now text).2.2) := by
  obtain ⟨config, started⟩ := verifier
  cases started with
  | some started => rfl
  | none =>
    cases cancelled with
    | true => rfl
    | false =>
      simp only [parse, start_loading]
      cases (Verifier.mk config none).start network with
      | mk result network =>
        cases result with
        | error rejection => rfl
        | ok started => rfl

theorem parseAll_loading (verifier : Verifier) (lazyLoad : Bool) (network : Network)
    (arrivals : List Arrival) :
    (verifier.loading lazyLoad).parseAll network arrivals =
      ((verifier.parseAll network arrivals).1,
        (verifier.parseAll network arrivals).2.1.loading lazyLoad,
        (verifier.parseAll network arrivals).2.2) := by
  induction arrivals generalizing verifier network with
  | nil => rfl
  | cons arrival arrivals ih => simp only [parseAll, parse_loading, ih]

section Start

variable {config : Config} {network network' : Network} {started : Started}

/-- A token that finds the verifier not started meets what a start on its own would have made
of the same replies. -/
theorem parse_of_start (h : (Verifier.mk config none).start network = (.ok started, network'))
    (now : Instant) (text : String) :
    (Verifier.mk config none).parse network false now text =
      (Verifier.mk config (some started)).parse network' false now text := by
  simp only [parse, h]
  rfl

theorem parseAll_of_start (h : (Verifier.mk config none).start network = (.ok started, network'))
    {arrivals : List Arrival} (hne : arrivals ≠ []) :
    (Verifier.mk config none).parseAll network arrivals =
      (Verifier.mk config (some started)).parseAll network' arrivals := by
  cases arrivals with
  | nil => exact absurd rfl hne
  | cons arrival arrivals => simp only [parseAll, parse_of_start h]

theorem parse_of_failed_start {rejection : Rejection}
    (h : (Verifier.mk config none).start network = (.error rejection, network'))
    (now : Instant) (text : String) :
    (Verifier.mk config none).parse network false now text =
      (.error rejection, ⟨config, none⟩, network') := by
  simp only [parse, h]
  rfl

/-- Whatever replies a start meets, its cache gets the settings of the configuration. -/
theorem settings_of_start
    (h : (Verifier.mk config none).start network = (.ok started, network')) :
    started.cache.settings = config.cacheSettings := by
  have hresult : (runRequests config.startup network).1 = .ok started :=
    mapError_eq_ok_iff.mp (congrArg Prod.fst h)
  obtain ⟨keys, hkeys⟩ := Config.initial_of_run hresult
  rw [hkeys]
  rfl

end Start

section Create

variable {config : Config} {network : Network}

theorem checkConfig_of_error {error : ConfigError} (h : config.validate = .error error) :
    checkConfig config = .error (.configuration (.invalid error)) := by
  rw [checkConfig, h]
  rfl

theorem checkConfig_of_ok (h : config.validate = .ok ()) : checkConfig config = .ok () := by
  rw [checkConfig, h]
  rfl

theorem create_of_lazyLoad (h : config.validate = .ok ()) (hlazy : config.lazyLoad = true) :
    create config network = (.ok ⟨config, none⟩, network) := by
  simp only [create, checkConfig_of_ok h, hlazy, if_true]

theorem create_of_start {result : Except Rejection Started} {after : Network}
    (h : config.validate = .ok ()) (heager : config.lazyLoad = false)
    (hstart : (Verifier.mk config none).start network = (result, after)) :
    create config network = (result.map fun started => ⟨config, some started⟩, after) := by
  simp only [create, checkConfig_of_ok h, heager, hstart]
  rfl

/-- An eager verifier has been made by a start that has succeeded. -/
theorem exists_start_of_create {verifier : Verifier} {after : Network}
    (heager : config.lazyLoad = false) (h : create config network = (.ok verifier, after)) :
    config.validate = .ok () ∧ ∃ started, verifier = ⟨config, some started⟩ ∧
      (Verifier.mk config none).start network = (.ok started, after) := by
  cases hvalid : config.validate with
  | error error =>
    rw [create, checkConfig_of_error hvalid] at h
    cases h
  | ok =>
    cases hstart : (Verifier.mk config none).start network with
    | mk result after' =>
      rw [create_of_start hvalid heager hstart] at h
      obtain ⟨hresult, rfl⟩ := Prod.mk.inj h
      obtain ⟨started, rfl, rfl⟩ := map_eq_ok_iff.mp hresult
      exact ⟨rfl, started, rfl, rfl⟩

theorem start_of_failed_create {rejection : Rejection} {after : Network}
    (hvalid : config.validate = .ok ()) (heager : config.lazyLoad = false)
    (h : create config network = (.error rejection, after)) :
    (Verifier.mk config none).start network = (.error rejection, after) := by
  cases hstart : (Verifier.mk config none).start network with
  | mk result after' =>
    rw [create_of_start hvalid heager hstart] at h
    cases result with
    | error rejection' =>
      cases h
      rfl
    | ok started => cases h

end Create

/-- Eager and lazy loading of one configuration, over one network. -/
structure LoadsAlike (config : Config) (network : Network) : Prop where
  /-- Whichever way a verifier of an invalid configuration is made, the same error refuses it,
  and nothing is requested. -/
  refused : ∀ error, config.validate = .error error → ∀ lazyLoad started,
    create (config.loading lazyLoad) network =
        (.error (.configuration (.invalid error)), network) ∧
      ofCache (config.loading lazyLoad) started = .error (.configuration (.invalid error))
  /-- A lazy verifier of a valid configuration is made without any request. -/
  deferred : config.validate = .ok () →
    create (config.loading true) network = (.ok ⟨config.loading true, none⟩, network)
  /-- An eager start that fails is a first token that fails, whatever the token. -/
  failed : ∀ rejection after, config.validate = .ok () →
    create (config.loading false) network = (.error rejection, after) →
      (∃ fault, rejection = .configuration fault) ∧ ∀ now text,
        (Verifier.mk (config.loading true) none).parse network false now text =
          (.error rejection, ⟨config.loading true, none⟩, after)
  /-- An eager start that succeeds uses up the replies that the start of a lazy verifier uses
  up, and makes the same cache of them. -/
  succeeded : ∀ verifier after, create (config.loading false) network = (.ok verifier, after) →
    config.validate = .ok () ∧
    ∃ started, verifier = ⟨config.loading false, some started⟩ ∧
      (Verifier.mk (config.loading true) none).start network = (.ok started, after)
  /-- From the first token on the two go the same way. -/
  alike : ∀ verifier after, create (config.loading false) network = (.ok verifier, after) →
    ∀ arrivals,
      let eager := verifier.parseAll after arrivals
      let lazy := (Verifier.mk (config.loading true) none).parseAll network arrivals
      lazy.1 = eager.1 ∧
        (arrivals ≠ [] → lazy.2.1.started = eager.2.1.started ∧ lazy.2.2 = eager.2.2)
  /-- A verifier around the cache that the start has made goes the same way too. -/
  wrapped : ∀ verifier after started,
    create (config.loading false) network = (.ok verifier, after) →
      verifier.started = some started → ∀ lazyLoad, ∃ wrapper,
        ofCache (config.loading lazyLoad) started = .ok wrapper ∧ ∀ arrivals,
          let eager := verifier.parseAll after arrivals
          let wrapped := wrapper.parseAll after arrivals
          wrapped.1 = eager.1 ∧ wrapped.2.1.started = eager.2.1.started ∧
            wrapped.2.2 = eager.2.2

theorem loads_alike (config : Config) (network : Network) : LoadsAlike config network where
  refused := by
    intro error herror lazyLoad started
    have hcheck : checkConfig (config.loading lazyLoad) = _ := checkConfig_of_error herror
    simp only [create, ofCache, hcheck, and_self]
  deferred := fun hvalid => create_of_lazyLoad hvalid rfl
  failed := by
    intro rejection after hvalid hcreate
    have heager : (config.loading false).validate = .ok () := hvalid
    have hstart := start_of_failed_create heager rfl hcreate
    obtain ⟨fault, -, hfault⟩ := mapError_eq_error_iff.mp (congrArg Prod.fst hstart)
    exact ⟨⟨fault, hfault.symm⟩, parse_of_failed_start hstart⟩
  succeeded := fun verifier after hcreate => exists_start_of_create rfl hcreate
  alike := by
    intro verifier after hcreate arrivals
    obtain ⟨-, started, rfl, hstart⟩ := exists_start_of_create rfl hcreate
    by_cases hne : arrivals = []
    · subst hne
      exact ⟨rfl, fun h => absurd rfl h⟩
    · -- The lazy verifier becomes the started one of its configuration with the first token.
      have hlazy : (Verifier.mk (config.loading true) none).start network = (.ok started, after) :=
        hstart
      have hloading : (Verifier.mk (config.loading true) (some started)).parseAll after arrivals =
          _ := parseAll_loading ⟨config.loading false, some started⟩ true after arrivals
      rw [parseAll_of_start hlazy hne, hloading]
      exact ⟨rfl, fun _ => ⟨rfl, rfl⟩⟩
  wrapped := by
    intro verifier after started hcreate hstarted lazyLoad
    obtain ⟨hvalid, started, rfl, hstart⟩ := exists_start_of_create rfl hcreate
    cases hstarted
    have hmode :
        started.cache.settings.keyIdDisabled = (config.loading lazyLoad).keyIdDisabled := by
      rw [settings_of_start hstart]
      rfl
    have hcheck : checkConfig (config.loading lazyLoad) = .ok () := checkConfig_of_ok hvalid
    refine ⟨⟨config.loading lazyLoad, some started⟩, ?_, fun arrivals => ?_⟩
    · simp only [ofCache, hcheck]
      exact if_neg (not_not_intro hmode)
    · have hloading : (Verifier.mk (config.loading lazyLoad) (some started)).parseAll after
          arrivals = _ :=
        parseAll_loading ⟨config.loading false, some started⟩ lazyLoad after arrivals
      rw [hloading]
      exact ⟨rfl, rfl, rfl⟩

/-- A provider that publishes metadata and an empty key set. -/
def keylessProvider : Network where
  reachable := true
  routes := [
    ("http://[::1]/.well-known/openid-configuration",
      [.response 200 "\x7b\"jwks_uri\":\"http://[::1]/keys\"\x7d"]),
    ("http://[::1]/keys", [.response 200 "\x7b\"keys\":[]\x7d"])]
  requests := []

/-- A token that is none, and one whose key is not known. -/
def twoArrivals : List Arrival :=
  [⟨.epoch, "token"⟩, ⟨.epoch, "eyJhbGciOiJIUzI1NiIsImtpZCI6ImsifQ.e30.AA"⟩]

/-- An eager verifier has made two requests when the first token comes and makes another for the
second one; a lazy verifier makes the same three and rejects the tokens with the same errors. -/
theorem loads_alike_keyless :
    let config := Config.forIssuer "http://[::1]"
    let rejections :=
      [some (.malformed (.malformed .notThreeSegments)), some (.keyNotFound (some "k"))]
    ∃ verifier after, create (config.loading false) keylessProvider = (.ok verifier, after) ∧
      after.requests = [("http://[::1]/.well-known/openid-configuration", 1),
        ("http://[::1]/keys", 1)] ∧
      (verifier.parseAll after twoArrivals).1.map failure? = rejections ∧
      let lazy := (Verifier.mk (config.loading true) none).parseAll keylessProvider twoArrivals
      lazy.1.map failure? = rejections ∧
        lazy.2.2.requests = [("http://[::1]/.well-known/openid-configuration", 1),
          ("http://[::1]/keys", 2)] := by
  intro config rejections
  obtain ⟨verifier, hmade⟩ : ∃ verifier,
      (create (config.loading false) keylessProvider).1 = .ok verifier :=
    failure?_eq_none_iff.mp (by decide +kernel)
  have hcreate : create (config.loading false) keylessProvider =
      (.ok verifier, (create (config.loading false) keylessProvider).2) := Prod.ext hmade rfl
  obtain ⟨hresults, -⟩ :=
    (loads_alike config keylessProvider).alike verifier _ hcreate twoArrivals
  have hlazy : ((Verifier.mk (config.loading true) none).parseAll keylessProvider
      twoArrivals).1.map failure? = rejections := by
    decide +kernel
  refine ⟨verifier, _, hcreate, by decide +kernel, ?_, hlazy, by decide +kernel⟩
  rw [← hresults]
  exact hlazy

end Verifier
end BearerAuth
