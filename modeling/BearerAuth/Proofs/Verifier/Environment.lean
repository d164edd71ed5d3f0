import BearerAuth.Proofs.Results
import BearerAuth.Proofs.Verifier.Settings

/-!
# Loading a configuration

A configuration is loaded from variables exactly when each of them that is set is written by its
own grammar. It is then what the settings of these variables make of the defaults, in any order;
otherwise the first fault in a fixed order is the answer.
-/
namespace BearerAuth

open Json

namespace Variables

open Text (Numeral)

section

variable {vars : Variables} {name expected : String} {fault : String → ConfigError}
variable {value : Bool}

/-! ## Reading them one after the other -/

theorem number_eq_ok_iff {n? : Option Nat} : vars.number name expected fault = .ok n? ↔
    Option.Rel (fun text n => Numeral text.toList n) (vars.get? name) n? := by
  unfold number
  cases vars.get? name with
  | none => cases n? <;> simp
  | some text =>
    dsimp only
    cases n? with
    | none => cases Text.readNumeral text.toList <;> simp
    | some n =>
      rw [Option.rel_some_some, ← Text.readNumeral_eq_ok_iff]
      cases Text.readNumeral text.toList <;> simp

theorem claims_eq_ok_iff {members? : Option Members} : vars.claims name = .ok members? ↔
    Option.Rel ObjectText (vars.get? name) members? := by
  unfold claims
  cases vars.get? name with
  | none => cases members? <;> simp
  | some text =>
    dsimp only
    cases members? with
    | none => split <;> simp
    | some members =>
      rw [Option.rel_some_some, ← read?_eq_object_iff]
      split <;> simp_all

theorem flag_eq_ok_iff : vars.flag name = .ok value ↔
    ∃ value?, Option.Rel Flag (vars.get? name) value? ∧ value?.getD false = value := by
  unfold flag
  cases vars.get? name with
  | none =>
    constructor
    · intro h
      exact ⟨none, .none, Except.ok.inj h⟩
    · rintro ⟨_, ⟨⟩, rfl⟩
      rfl
  | some text =>
    dsimp only
    constructor
    · intro h
      split at h <;> cases h
      case h_1 hread => exact ⟨some value, .some (flag_iff.1 hread), rfl⟩
    · rintro ⟨_, ⟨hread⟩, rfl⟩
      rw [flag_iff.2 hread]
      rfl

/-- The values of those variables that are not taken as they are. -/
structure Readings where
  fetchTimeout : Option Nat
  refreshInterval : Option Nat
  clockDrift : Option Nat
  lazyLoad : Option Bool
  keyIdDisabled : Option Bool
  requiredClaims : Option Members

structure Reads (vars : Variables) (readings : Readings) : Prop where
  fetchTimeout : Option.Rel (fun text n => Numeral text.toList n)
    (vars.get? Optional.fetchTimeout.name) readings.fetchTimeout
  refreshInterval : Option.Rel (fun text n => Numeral text.toList n)
    (vars.get? Optional.refreshInterval.name) readings.refreshInterval
  clockDrift : Option.Rel (fun text n => Numeral text.toList n)
    (vars.get? Optional.clockDrift.name) readings.clockDrift
  lazyLoad : Option.Rel Flag (vars.get? Optional.lazyLoad.name) readings.lazyLoad
  keyIdDisabled : Option.Rel Flag (vars.get? Optional.keyIdDisabled.name) readings.keyIdDisabled
  requiredClaims : Option.Rel ObjectText
    (vars.get? Optional.requiredClaims.name) readings.requiredClaims

namespace Readings

variable (readings : Readings) (vars : Variables) (issuer : String)

/-- The configuration that these values and the other variables make. -/
def config : Config where
  issuer
  discoveryUrl := vars.get? Optional.discoveryUrl.name
  jwksUrl := vars.get? Optional.jwksUrl.name
  fetchTimeout := (readings.fetchTimeout.map Span.ofSeconds).getD Config.defaultFetchTimeout
  refreshInterval := (readings.refreshInterval.map Span.ofMillis).getD Config.defaultRefreshInterval
  clockDrift := (readings.clockDrift.map Span.ofSeconds).getD Config.defaultClockDrift
  lazyLoad := readings.lazyLoad.getD false
  requiredTokenType := vars.get? Optional.requiredTokenType.name
  requiredAudience := vars.get? Optional.requiredAudience.name
  requiredClaims := readings.requiredClaims
  keyIdDisabled := readings.keyIdDisabled.getD false

/-- The settings that these values and the other variables mean. -/
def choice : Optional → Option Setting
  | .discoveryUrl => (vars.get? Optional.discoveryUrl.name).map .discoveryUrl
  | .jwksUrl => (vars.get? Optional.jwksUrl.name).map .jwksUrl
  | .fetchTimeout => readings.fetchTimeout.map (.fetchTimeout ∘ Span.ofSeconds)
  | .refreshInterval => readings.refreshInterval.map (.refreshInterval ∘ Span.ofMillis)
  | .clockDrift => readings.clockDrift.map (.clockDrift ∘ Span.ofSeconds)
  | .lazyLoad => readings.lazyLoad.map .lazyLoad
  | .keyIdDisabled => readings.keyIdDisabled.map .keyIdDisabled
  | .requiredTokenType => (vars.get? Optional.requiredTokenType.name).map .requiredTokenType
  | .requiredAudience => (vars.get? Optional.requiredAudience.name).map .requiredAudience
  | .requiredClaims => readings.requiredClaims.map .requiredClaims

end Readings

theorem ofVariables_eq_ok_iff {config : Config} : Config.ofVariables vars = .ok config ↔
    ∃ issuer readings, vars.get? "OIDC_ISSUER" = some issuer ∧ vars.Reads readings ∧
      readings.config vars issuer = config ∧ config.Valid := by
  unfold Config.ofVariables
  split
  case h_1 hissuer => simp [hissuer]
  case h_2 issuer hissuer =>
    simp only [bind_eq_ok_iff, number_eq_ok_iff, flag_eq_ok_iff, claims_eq_ok_iff]
    constructor
    · rintro ⟨timeout, htimeout, interval, hinterval, drift, hdrift, _, ⟨lazy, hlazy, rfl⟩, _,
        ⟨keyId, hkeyId, rfl⟩, claims, hclaims, ⟨⟩, hvalid, ⟨⟩⟩
      exact ⟨issuer, ⟨timeout, interval, drift, lazy, keyId, claims⟩, hissuer,
        ⟨htimeout, hinterval, hdrift, hlazy, hkeyId, hclaims⟩, rfl,
        Config.validate_eq_ok_iff.1 hvalid⟩
    · rintro ⟨issuer', readings, hissuer', hreads, rfl, hvalid⟩
      cases hissuer.symm.trans hissuer'
      exact ⟨_, hreads.fetchTimeout, _, hreads.refreshInterval, _, hreads.clockDrift, _,
        ⟨_, hreads.lazyLoad, rfl⟩, _, ⟨_, hreads.keyIdDisabled, rfl⟩, _, hreads.requiredClaims,
        (), Config.validate_eq_ok_iff.2 hvalid, rfl⟩

/-! ## The settings that variables mean -/

theorem rel_map_iff {α β : Type} {means : String → β → Prop} {reads : String → α → Prop} {f : α → β}
    (h : ∀ text b, means text b ↔ ∃ a, reads text a ∧ b = f a) {text? : Option String}
    {b? : Option β} :
    Option.Rel means text? b? ↔ ∃ a?, Option.Rel reads text? a? ∧ a?.map f = b? := by
  constructor
  · rintro (⟨hmeans⟩ | -)
    · obtain ⟨a, hreads, rfl⟩ := (h _ _).1 hmeans
      exact ⟨some a, .some hreads, rfl⟩
    · exact ⟨none, .none, rfl⟩
  · rintro ⟨_, hreads | -, rfl⟩
    · exact .some ((h _ _).2 ⟨_, hreads, rfl⟩)
    · exact .none

theorem rel_eq_iff {β : Type} {f : String → β} {text? : Option String} {b? : Option β} :
    Option.Rel (fun text b => b = f text) text? b? ↔ text?.map f = b? := by
  cases text? <;> cases b? <;> simp [eq_comm]

/-- A span is known by its length. -/
theorem means_span_iff {unit : Nat} {f : Span → Setting} {make : Nat → Span}
    (hmake : ∀ n, (make n).toNanos = n * unit) (text : String) (setting : Setting) :
    (∃ n span, Numeral text.toList n ∧ span.toNanos = n * unit ∧ setting = f span) ↔
      ∃ n, Numeral text.toList n ∧ setting = (f ∘ make) n := by
  constructor
  · rintro ⟨n, span, hread, hspan, rfl⟩
    exact ⟨n, hread, congrArg f (Span.ext_toNanos (hspan.trans (hmake n).symm))⟩
  · rintro ⟨n, hread, rfl⟩
    exact ⟨n, make n, hread, hmake n, rfl⟩

theorem chosen_iff {choice : Optional → Option Setting} :
    vars.Chosen choice ↔ ∃ readings, vars.Reads readings ∧ readings.choice vars = choice := by
  have timeoutMeans := means_span_iff (f := .fetchTimeout) Span.toNanos_ofSeconds
  have intervalMeans := means_span_iff (f := .refreshInterval) fun n =>
    Span.toNanos_ofNanos (n * 1000000)
  have driftMeans := means_span_iff (f := .clockDrift) Span.toNanos_ofSeconds
  constructor
  · intro h
    obtain ⟨timeout, htimeout, h₁⟩ := (rel_map_iff timeoutMeans).1 (h .fetchTimeout)
    obtain ⟨interval, hinterval, h₂⟩ := (rel_map_iff intervalMeans).1 (h .refreshInterval)
    obtain ⟨drift, hdrift, h₃⟩ := (rel_map_iff driftMeans).1 (h .clockDrift)
    obtain ⟨lazy, hlazy, h₄⟩ := (rel_map_iff fun _ _ => Iff.rfl).1 (h .lazyLoad)
    obtain ⟨keyId, hkeyId, h₅⟩ := (rel_map_iff fun _ _ => Iff.rfl).1 (h .keyIdDisabled)
    obtain ⟨claims, hclaims, h₆⟩ := (rel_map_iff fun _ _ => Iff.rfl).1 (h .requiredClaims)
    refine ⟨⟨timeout, interval, drift, lazy, keyId, claims⟩,
      ⟨htimeout, hinterval, hdrift, hlazy, hkeyId, hclaims⟩, funext fun item => ?_⟩
    cases item
    case fetchTimeout => exact h₁
    case refreshInterval => exact h₂
    case clockDrift => exact h₃
    case lazyLoad => exact h₄
    case keyIdDisabled => exact h₅
    case requiredClaims => exact h₆
    case discoveryUrl => exact rel_eq_iff.1 (h .discoveryUrl)
    case jwksUrl => exact rel_eq_iff.1 (h .jwksUrl)
    case requiredTokenType => exact rel_eq_iff.1 (h .requiredTokenType)
    case requiredAudience => exact rel_eq_iff.1 (h .requiredAudience)
  · rintro ⟨readings, hreads, rfl⟩ item
    cases item
    case fetchTimeout => exact (rel_map_iff timeoutMeans).2 ⟨_, hreads.fetchTimeout, rfl⟩
    case refreshInterval => exact (rel_map_iff intervalMeans).2 ⟨_, hreads.refreshInterval, rfl⟩
    case clockDrift => exact (rel_map_iff driftMeans).2 ⟨_, hreads.clockDrift, rfl⟩
    case lazyLoad => exact (rel_map_iff fun _ _ => Iff.rfl).2 ⟨_, hreads.lazyLoad, rfl⟩
    case keyIdDisabled => exact (rel_map_iff fun _ _ => Iff.rfl).2 ⟨_, hreads.keyIdDisabled, rfl⟩
    case requiredClaims => exact (rel_map_iff fun _ _ => Iff.rfl).2 ⟨_, hreads.requiredClaims, rfl⟩
    all_goals exact rel_eq_iff.2 rfl

/-- Each setting that is chosen takes the place of a default. -/
theorem Readings.changes_choice (readings : Readings) (issuer : String) :
    (Config.forIssuer issuer).changes (Optional.all.filterMap (readings.choice vars)) =
      readings.config vars issuer := by
  have discoveryUrl (config : Config) (url : Option String) :
      (url.map .discoveryUrl).elim config config.change =
        { config with discoveryUrl := url.or config.discoveryUrl } := by cases url <;> rfl
  have jwksUrl (config : Config) (url : Option String) :
      (url.map .jwksUrl).elim config config.change =
        { config with jwksUrl := url.or config.jwksUrl } := by cases url <;> rfl
  have fetchTimeout (config : Config) (n : Option Nat) :
      (n.map (.fetchTimeout ∘ Span.ofSeconds)).elim config config.change =
        { config with fetchTimeout := (n.map Span.ofSeconds).getD config.fetchTimeout } := by
    cases n <;> rfl
  have refreshInterval (config : Config) (n : Option Nat) :
      (n.map (.refreshInterval ∘ Span.ofMillis)).elim config config.change =
        { config with refreshInterval := (n.map Span.ofMillis).getD config.refreshInterval } := by
    cases n <;> rfl
  have clockDrift (config : Config) (n : Option Nat) :
      (n.map (.clockDrift ∘ Span.ofSeconds)).elim config config.change =
        { config with clockDrift := (n.map Span.ofSeconds).getD config.clockDrift } := by
    cases n <;> rfl
  have lazyLoad (config : Config) (value : Option Bool) :
      (value.map .lazyLoad).elim config config.change =
        { config with lazyLoad := value.getD config.lazyLoad } := by cases value <;> rfl
  have keyIdDisabled (config : Config) (value : Option Bool) :
      (value.map .keyIdDisabled).elim config config.change =
        { config with keyIdDisabled := value.getD config.keyIdDisabled } := by cases value <;> rfl
  have requiredTokenType (config : Config) (typ : Option String) :
      (typ.map .requiredTokenType).elim config config.change =
        { config with requiredTokenType := typ.or config.requiredTokenType } := by cases typ <;> rfl
  have requiredAudience (config : Config) (audience : Option String) :
      (audience.map .requiredAudience).elim config config.change =
        { config with requiredAudience := audience.or config.requiredAudience } := by
    cases audience <;> rfl
  have requiredClaims (config : Config) (members : Option Members) :
      (members.map .requiredClaims).elim config config.change =
        { config with requiredClaims := members.or config.requiredClaims } := by
    cases members <;> rfl
  simp only [Optional.all, changes_filterMap_cons, choice, discoveryUrl, jwksUrl, fetchTimeout,
    refreshInterval, clockDrift, lazyLoad, keyIdDisabled, requiredTokenType, requiredAudience,
    requiredClaims, Config.forIssuer, Option.or_none]
  rfl

end

/-! ## The first fault -/

/-- What is looked at, one thing after the other. -/
inductive Check
  | present
  | fetchTimeout
  | refreshInterval
  | clockDrift
  | lazyLoad
  | keyIdDisabled
  | requiredClaims
  | issuerNotBlank
  | timeoutPositive
  | driftLimited

def Check.all : List Check :=
  [present, fetchTimeout, refreshInterval, clockDrift, lazyLoad, keyIdDisabled, requiredClaims,
    issuerNotBlank, timeoutPositive, driftLimited]

/-- A variable that is set to something else than a numeral. -/
def NoNumber (vars : Variables) (name expected : String) (fault : String → ConfigError)
    (error : ConfigError) : Prop :=
  ∃ text reason, vars.get? name = some text ∧ (∀ n, ¬ Numeral text.toList n) ∧
    Text.readNumeral text.toList = .error reason ∧
      error = fault (name ++ " must be a valid " ++ expected ++ " integer, got '" ++ text ++
        "': " ++ reason.message)

/-- A variable that is set to something else than a flag. -/
def NoFlag (vars : Variables) (name : String) (error : ConfigError) : Prop :=
  ∃ text, vars.get? name = some text ∧ (∀ value, ¬ Flag text value) ∧
    error = .flag (name ++ " must be true or false, got '" ++ normalizeFlag text ++ "'")

/-- What a check finds wrong with the variables it looks at, and how it says so. -/
def Finds (vars : Variables) : Check → ConfigError → Prop
  | .present, error => vars.get? "OIDC_ISSUER" = none ∧ error = .missingVariable "OIDC_ISSUER"
  | .fetchTimeout, error =>
    vars.NoNumber "OIDC_FETCH_TIMEOUT_SECONDS" "positive" .fetchTimeout error
  | .refreshInterval, error =>
    vars.NoNumber "OIDC_REFRESH_INTERVAL_MS" "non-negative" .refreshInterval error
  | .clockDrift, error =>
    vars.NoNumber "OIDC_CLOCK_DRIFT_SECONDS" "non-negative" .clockDrift error
  | .lazyLoad, error => vars.NoFlag "OIDC_LAZY_LOAD" error
  | .keyIdDisabled, error => vars.NoFlag "OIDC_DISABLE_KEY_ID" error
  | .requiredClaims, error => ∃ text, vars.get? "OIDC_REQUIRED_CLAIMS" = some text ∧
      (∀ members, ¬ ObjectText text members) ∧
        error = .requiredClaims (if Value.read? text = none
          then "OIDC_REQUIRED_CLAIMS must be valid JSON: "
          else "OIDC_REQUIRED_CLAIMS must be a JSON object")
  | .issuerNotBlank, error => ∃ issuer, vars.get? "OIDC_ISSUER" = some issuer ∧
      (∀ c ∈ issuer.toList, Text.isBlank c = true) ∧ error = .issuer "issuer must not be empty"
  | .timeoutPositive, error => ∃ text, vars.get? "OIDC_FETCH_TIMEOUT_SECONDS" = some text ∧
      Numeral text.toList 0 ∧ error = .fetchTimeout "fetch timeout must be greater than 0"
  | .driftLimited, error => ∃ text n, vars.get? "OIDC_CLOCK_DRIFT_SECONDS" = some text ∧
      Numeral text.toList n ∧ 600 < n ∧
        error = .clockDrift ("clock drift must not exceed 600 seconds, got " ++ toString n)

/-- The first of some checks that finds anything. -/
def FirstFound (vars : Variables) (checks : List Check) (error : ConfigError) : Prop :=
  ∃ before check after, checks = before ++ check :: after ∧ vars.Finds check error ∧
    ∀ earlier ∈ before, ∀ other, ¬ vars.Finds earlier other

section

variable {vars : Variables} {name expected : String} {fault : String → ConfigError}
variable {error : ConfigError} {check : Check} {checks : List Check}

theorem firstFound_cons_iff : vars.FirstFound (check :: checks) error ↔
    vars.Finds check error ∨
      (∀ other, ¬ vars.Finds check other) ∧ vars.FirstFound checks error := by
  constructor
  · rintro ⟨before, found, after, hchecks, hfinds, hearlier⟩
    cases before with
    | nil =>
      cases hchecks
      exact .inl hfinds
    | cons first before =>
      cases hchecks
      obtain ⟨hfirst, hbefore⟩ := List.forall_mem_cons.1 hearlier
      exact .inr ⟨hfirst, before, found, after, rfl, hfinds, hbefore⟩
  · rintro (hfinds | ⟨hfirst, before, found, after, rfl, hfinds, hearlier⟩)
    · exact ⟨[], check, checks, rfl, hfinds, nofun⟩
    · exact ⟨check :: before, found, after, rfl, hfinds, List.forall_mem_cons.2 ⟨hfirst, hearlier⟩⟩

/-- A step that fails with what a check finds, followed by the steps for the other checks. -/
theorem bind_eq_error_iff_firstFound {α β : Type} {x : Except ConfigError α}
    {f : α → Except ConfigError β} (hx : ∀ other, x = .error other ↔ vars.Finds check other)
    (hf : ∀ a, x = .ok a → (f a = .error error ↔ vars.FirstFound checks error)) :
    x >>= f = .error error ↔ vars.FirstFound (check :: checks) error := by
  rw [firstFound_cons_iff, ← hx]
  simp only [← hx]
  cases x with
  | error other =>
    constructor
    · intro h
      exact .inl (congrArg Except.error (Except.error.inj h))
    · rintro (h | ⟨hnone, -⟩)
      · exact congrArg Except.error (Except.error.inj h)
      · exact absurd rfl (hnone other)
  | ok a =>
    have hrest := hf a rfl
    constructor
    · intro h
      exact .inr ⟨nofun, hrest.1 h⟩
    · rintro (h | ⟨-, h⟩)
      · contradiction
      · exact hrest.2 h

theorem number_eq_error_iff :
    vars.number name expected fault = .error error ↔ vars.NoNumber name expected fault error := by
  unfold number NoNumber
  cases vars.get? name with
  | none => simp
  | some text =>
    dsimp only
    simp only [← Text.readNumeral_eq_ok_iff]
    cases hread : Text.readNumeral text.toList
    case ok => simp [hread]
    case error => simpa [hread] using eq_comm

theorem flag_eq_error_iff : vars.flag name = .error error ↔ vars.NoFlag name error := by
  unfold flag NoFlag
  cases vars.get? name with
  | none => simp
  | some text =>
    dsimp only
    simp only [← flag_iff]
    cases hread : flagValue? (normalizeFlag text)
    case some => simp [hread]
    case none => simpa [hread] using eq_comm

theorem claims_eq_error_iff :
    vars.claims "OIDC_REQUIRED_CLAIMS" = .error error ↔ vars.Finds .requiredClaims error := by
  unfold claims Finds
  cases vars.get? "OIDC_REQUIRED_CLAIMS" with
  | none => simp
  | some text =>
    dsimp only
    simp only [← read?_eq_object_iff]
    split
    case h_1 hread => simpa [hread] using eq_comm
    case h_2 hread => simp [hread]
    case h_3 value hobject hread =>
      have hvalue : ∀ members, value ≠ .object members := hobject
      simpa [hread, hvalue] using eq_comm

theorem bind_pure_eq_error_iff {α β : Type} {x : Except ConfigError α} {b : β} :
    (x >>= fun _ => pure b) = .error error ↔ x = .error error := by
  cases x with
  | error other =>
    constructor <;>
    · intro h
      exact congrArg Except.error (Except.error.inj h)
  | ok a => exact iff_of_false nofun nofun

/-- A step that fails on a condition, which a check looks for. -/
theorem ite_eq_error_iff_firstFound {α : Type} {p : Prop} [Decidable p] {finding : ConfigError}
    {rest : Except ConfigError α} (hp : ∀ other, p ∧ other = finding ↔ vars.Finds check other)
    (hrest : rest = .error error ↔ vars.FirstFound checks error) :
    (if p then .error finding else rest) = .error error ↔
      vars.FirstFound (check :: checks) error := by
  rw [firstFound_cons_iff, ← hp, ← hrest]
  simp only [← hp]
  by_cases h : p
  · simp [h, eq_comm]
  · simp [h]

theorem not_firstFound_nil : ¬ vars.FirstFound [] error := by
  rintro ⟨before, check, after, h, -⟩
  cases before <;> cases h

/-- What is known of a number is known of the numeral that it was read from. -/
theorem exists_numeral_iff {text? : Option String} {n? : Option Nat} {p : Nat → Prop}
    (hread : Option.Rel (fun text n => Numeral text.toList n) text? n?) :
    (∃ text n, text? = some text ∧ Numeral text.toList n ∧ p n) ↔ ∃ n, n? = some n ∧ p n := by
  cases hread with
  | none => simp
  | @some text n hn =>
    constructor
    · rintro ⟨_, m, ⟨⟩, hm, hp⟩
      exact ⟨m, congrArg some (hn.eq hm), hp⟩
    · rintro ⟨_, ⟨⟩, hp⟩
      exact ⟨text, n, rfl, hn, hp⟩

/-- The default is no timeout of zero. -/
theorem Readings.isZero_fetchTimeout_iff (readings : Readings) (issuer : String) :
    (readings.config vars issuer).fetchTimeout.isZero = true ↔
      ∃ n, readings.fetchTimeout = some n ∧ n = 0 := by
  cases hn : readings.fetchTimeout with
  | none => simp [config, hn, Span.isZero, Config.defaultFetchTimeout, nanosPerSecond]
  | some n =>
    simp only [config, hn, Span.isZero, Option.map_some, Option.getD_some, Span.toNanos_ofSeconds,
      nanosPerSecond, decide_eq_true_eq, Option.some.injEq, exists_eq_left']
    omega

/-- The default is no drift beyond the limit. -/
theorem Readings.maxClockDrift_lt_iff (readings : Readings) (issuer : String) :
    Config.maxClockDrift.toNanos < (readings.config vars issuer).clockDrift.toNanos ↔
      ∃ n, readings.clockDrift = some n ∧ 600 < n := by
  rw [Config.toNanos_maxClockDrift]
  cases hn : readings.clockDrift with
  | none => simp [config, hn, Config.defaultClockDrift, nanosPerSecond]
  | some n =>
    simp only [config, hn, Option.map_some, Option.getD_some, Span.toNanos_ofSeconds,
      nanosPerSecond, Option.some.injEq, exists_eq_left']
    omega

theorem Readings.driftMessage (readings : Readings) (issuer : String) {n : Nat}
    (hn : readings.clockDrift = some n) :
    "clock drift must not exceed " ++ toString Config.maxClockDrift.seconds ++ " seconds, got " ++
        toString (readings.config vars issuer).clockDrift.seconds =
      "clock drift must not exceed 600 seconds, got " ++ toString n := by
  have hlimit : "clock drift must not exceed " ++ toString Config.maxClockDrift.seconds ++
      " seconds, got " = "clock drift must not exceed 600 seconds, got " := by decide
  rw [hlimit]
  simp only [config, hn]
  rfl

/-- What is checked of a configuration is checked of the variables that it was made from. -/
theorem validate_eq_error_iff {readings : Readings} {issuer : String}
    (hissuer : vars.get? "OIDC_ISSUER" = some issuer) (hreads : vars.Reads readings) :
    (readings.config vars issuer).validate = .error error ↔
      vars.FirstFound [.issuerNotBlank, .timeoutPositive, .driftLimited] error := by
  unfold Config.validate
  refine ite_eq_error_iff_firstFound (fun other => ?_) <|
    ite_eq_error_iff_firstFound (fun other => ?_) <|
      ite_eq_error_iff_firstFound (fun other => ?_) <| iff_of_false nofun not_firstFound_nil
  · simp [Finds, hissuer, Text.trim_eq_nil_iff, Readings.config]
  · rw [readings.isZero_fetchTimeout_iff, ← exists_numeral_iff hreads.fetchTimeout]
    constructor
    · rintro ⟨⟨text, n, hget, hread, rfl⟩, hother⟩
      exact ⟨text, hget, hread, hother⟩
    · rintro ⟨text, hget, hread, hother⟩
      exact ⟨⟨text, 0, hget, hread, rfl⟩, hother⟩
  · have hfinds : vars.Finds .driftLimited other ↔ _ := exists_numeral_iff hreads.clockDrift
    rw [readings.maxClockDrift_lt_iff, hfinds]
    constructor
    · rintro ⟨⟨n, hn, hlong⟩, hother⟩
      exact ⟨n, hn, hlong, hother.trans (congrArg _ (readings.driftMessage issuer hn))⟩
    · rintro ⟨n, hn, hlong, hother⟩
      exact ⟨⟨n, hn, hlong⟩, hother.trans (congrArg _ (readings.driftMessage issuer hn).symm)⟩

theorem ofVariables_eq_error_iff :
    Config.ofVariables vars = .error error ↔ vars.FirstFound Check.all error := by
  unfold Config.ofVariables
  split
  case h_1 hissuer =>
    rw [Check.all, firstFound_cons_iff]
    have : ∀ other, vars.Finds .present other ↔ other = .missingVariable "OIDC_ISSUER" := by
      simp [Finds, hissuer]
    simp [this, eq_comm]
  case h_2 issuer hissuer =>
    rw [Check.all, firstFound_cons_iff]
    have : ∀ other, ¬ vars.Finds .present other := by simp [Finds, hissuer]
    simp only [this, not_false_eq_true, implies_true, true_and, false_or]
    refine bind_eq_error_iff_firstFound (fun _ => number_eq_error_iff) fun timeout htimeout => ?_
    refine bind_eq_error_iff_firstFound (fun _ => number_eq_error_iff) fun interval hinterval => ?_
    refine bind_eq_error_iff_firstFound (fun _ => number_eq_error_iff) fun drift hdrift => ?_
    refine bind_eq_error_iff_firstFound (fun _ => flag_eq_error_iff) fun lazy hlazy => ?_
    refine bind_eq_error_iff_firstFound (fun _ => flag_eq_error_iff) fun keyId hkeyId => ?_
    refine bind_eq_error_iff_firstFound (fun _ => claims_eq_error_iff) fun claims hclaims => ?_
    obtain ⟨lazy, hlazyRead, rfl⟩ := flag_eq_ok_iff.1 hlazy
    obtain ⟨keyId, hkeyIdRead, rfl⟩ := flag_eq_ok_iff.1 hkeyId
    have hreads : vars.Reads ⟨timeout, interval, drift, lazy, keyId, claims⟩ :=
      ⟨number_eq_ok_iff.1 htimeout, number_eq_ok_iff.1 hinterval, number_eq_ok_iff.1 hdrift,
        hlazyRead, hkeyIdRead, claims_eq_ok_iff.1 hclaims⟩
    rw [← validate_eq_error_iff hissuer hreads]
    exact bind_pure_eq_error_iff

end

/-! ## Loading -/

/-- The variables that are looked at. -/
def names : List String := "OIDC_ISSUER" :: Optional.all.map Optional.name

/-- How a configuration is loaded from variables. -/
structure LoadsStrictly (vars : Variables) : Prop where
  /-- The result is what the settings of the variables make of the defaults, in any order. -/
  loaded : ∀ config, Config.ofVariables vars = .ok config ↔
    ∃ issuer, vars.get? "OIDC_ISSUER" = some issuer ∧ config.Valid ∧
      (∃ settings, vars.SettingsOf settings) ∧
        ∀ settings, vars.SettingsOf settings →
          (Config.forIssuer issuer).changes settings = config
  /-- There are such settings when each variable that is set is written as it should be. -/
  readable : (∃ settings, vars.SettingsOf settings) ↔
    ∀ item text, vars.get? item.name = some text → ∃ setting, Means item text setting
  checked : ∀ config, Config.ofVariables vars = .ok config → config.validate = .ok ()
  rejected : ∀ error, Config.ofVariables vars = .error error ↔ vars.FirstFound Check.all error
  /-- No other variable makes a difference. -/
  independent : ∀ others : Variables, (∀ name ∈ names, others.get? name = vars.get? name) →
    Config.ofVariables others = Config.ofVariables vars

/-- No setting is guessed: a variable is read by its grammar, or the first fault is the answer. -/
theorem loads_strictly (vars : Variables) : vars.LoadsStrictly where
  loaded config := by
    rw [ofVariables_eq_ok_iff]
    constructor
    · rintro ⟨issuer, readings, hissuer, hreads, rfl, hvalid⟩
      have hchosen := chosen_iff.2 ⟨readings, hreads, rfl⟩
      refine ⟨issuer, hissuer, hvalid, ⟨_, _, hchosen, .refl _⟩, fun settings hsettings => ?_⟩
      rw [hsettings.changes_eq hchosen, readings.changes_choice]
    · rintro ⟨issuer, hissuer, hvalid, ⟨settings, choice, hchosen, hperm⟩, hresult⟩
      obtain ⟨readings, hreads, rfl⟩ := chosen_iff.1 hchosen
      refine ⟨issuer, readings, hissuer, hreads, ?_, hvalid⟩
      rw [← hresult _ ⟨_, hchosen, .refl _⟩, readings.changes_choice]
  readable := exists_settingsOf_iff
  checked config h := by
    obtain ⟨_, _, _, _, _, hvalid⟩ := ofVariables_eq_ok_iff.1 h
    exact Config.validate_eq_ok_iff.2 hvalid
  rejected _ := ofVariables_eq_error_iff
  independent others h := by
    simp only [names, Optional.all, Optional.name, List.map_cons, List.map_nil,
      List.forall_mem_cons] at h
    obtain ⟨hissuer, hdiscovery, hjwks, htimeout, hinterval, hdrift, hlazy, hkeyId, htyp, haudience,
      hclaims, -⟩ := h
    simp only [Config.ofVariables, number, flag, claims, hissuer, hdiscovery, hjwks, htimeout,
      hinterval, hdrift, hlazy, hkeyId, htyp, haudience, hclaims]

end Variables
end BearerAuth
