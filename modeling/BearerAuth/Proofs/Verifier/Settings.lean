import BearerAuth.Proofs.Text.Edges
import BearerAuth.Proofs.Token.Grammar
import BearerAuth.Verifier.Environment
import Mathlib.Data.Option.Basic

/-!
# Settings

Each variable beside the issuer is written by a grammar of its own and means one change to a
configuration. Changes that different variables mean can be made in any order.
-/
namespace BearerAuth

open Json

namespace Variables

/-- The variables beside the issuer. -/
inductive Optional
  | discoveryUrl
  | jwksUrl
  | fetchTimeout
  | refreshInterval
  | clockDrift
  | lazyLoad
  | keyIdDisabled
  | requiredTokenType
  | requiredAudience
  | requiredClaims

namespace Optional

def all : List Optional :=
  [discoveryUrl, jwksUrl, fetchTimeout, refreshInterval, clockDrift, lazyLoad, keyIdDisabled,
    requiredTokenType, requiredAudience, requiredClaims]

def name : Optional → String
  | discoveryUrl => "OIDC_DISCOVERY_URL"
  | jwksUrl => "OIDC_JWKS_URL"
  | fetchTimeout => "OIDC_FETCH_TIMEOUT_SECONDS"
  | refreshInterval => "OIDC_REFRESH_INTERVAL_MS"
  | clockDrift => "OIDC_CLOCK_DRIFT_SECONDS"
  | lazyLoad => "OIDC_LAZY_LOAD"
  | keyIdDisabled => "OIDC_DISABLE_KEY_ID"
  | requiredTokenType => "OIDC_REQUIRED_TOKEN_TYPE"
  | requiredAudience => "OIDC_REQUIRED_AUDIENCE"
  | requiredClaims => "OIDC_REQUIRED_CLAIMS"

end Optional

end Variables

/-- One change to a configuration. -/
inductive Setting
  | discoveryUrl (url : String)
  | jwksUrl (url : String)
  | fetchTimeout (timeout : Span)
  | refreshInterval (interval : Span)
  | clockDrift (drift : Span)
  | lazyLoad (value : Bool)
  | requiredTokenType (typ : String)
  | requiredAudience (audience : String)
  | requiredClaims (members : Members)
  | keyIdDisabled (value : Bool)

/-- The variable that makes this change. -/
def Setting.item : Setting → Variables.Optional
  | discoveryUrl _ => .discoveryUrl
  | jwksUrl _ => .jwksUrl
  | fetchTimeout _ => .fetchTimeout
  | refreshInterval _ => .refreshInterval
  | clockDrift _ => .clockDrift
  | lazyLoad _ => .lazyLoad
  | requiredTokenType _ => .requiredTokenType
  | requiredAudience _ => .requiredAudience
  | requiredClaims _ => .requiredClaims
  | keyIdDisabled _ => .keyIdDisabled

namespace Config

variable {config : Config}

def change (config : Config) : Setting → Config
  | .discoveryUrl url => config.withDiscoveryUrl url
  | .jwksUrl url => config.withJwksUrl url
  | .fetchTimeout timeout => config.withFetchTimeout timeout
  | .refreshInterval interval => config.withRefreshInterval interval
  | .clockDrift drift => config.withClockDrift drift
  | .lazyLoad value => config.withLazyLoad value
  | .requiredTokenType typ => config.withRequiredTokenType typ
  | .requiredAudience audience => config.withRequiredAudience audience
  | .requiredClaims members => config.withRequiredClaims members
  | .keyIdDisabled value => config.withKeyIdDisabled value

/-- A configuration after a sequence of changes. -/
def changes (config : Config) (settings : List Setting) : Config := settings.foldl change config

/-- Changes of different settings do not overwrite each other. -/
theorem change_comm {setting other : Setting} (h : setting.item ≠ other.item) (config : Config) :
    (config.change setting).change other = (config.change other).change setting := by
  cases setting <;> cases other <;> first | rfl | exact absurd rfl h

/-- What the types of a configuration do not say. -/
structure Valid (config : Config) : Prop where
  issuer : ∃ c ∈ config.issuer.toList, Text.isBlank c = false
  fetchTimeout : 0 < config.fetchTimeout.toNanos
  clockDrift : config.clockDrift.toNanos ≤ 600 * nanosPerSecond

theorem toNanos_maxClockDrift : maxClockDrift.toNanos = 600 * nanosPerSecond :=
  Span.toNanos_ofSeconds 600

theorem validate_eq_ok_iff : config.validate = .ok () ↔ config.Valid := by
  have hissuer : Text.trim config.issuer.toList = [] ↔
      ¬ ∃ c ∈ config.issuer.toList, Text.isBlank c = false := by
    simp [Text.trim_eq_nil_iff]
  unfold validate
  rw [toNanos_maxClockDrift]
  simp only [Span.isZero, decide_eq_true_eq]
  constructor
  · intro h
    split at h <;> try contradiction
    split at h <;> try contradiction
    split at h <;> try contradiction
    case isFalse hblank hzero hlong =>
      exact ⟨not_not.1 (mt hissuer.2 hblank), Nat.pos_of_ne_zero hzero, Nat.le_of_not_lt hlong⟩
  · rintro ⟨hword, hpositive, hdrift⟩
    rw [if_neg (mt hissuer.1 (not_not.2 hword)), if_neg hpositive.ne', if_neg (Nat.not_lt.2 hdrift)]

end Config

namespace Variables

open Text (Numeral)

/-! ## What the variables say -/

/-- The words for a value, in small letters. -/
def flagWords : Bool → List String
  | true => ["1", "true", "yes", "on"]
  | false => ["0", "false", "no", "off", ""]

/-- A word for a value in letters of any size, between any blanks. -/
def Flag (text : String) (value : Bool) : Prop :=
  ∃ before word after, text.toList = before ++ word ++ after ∧
    (∀ c ∈ before ++ after, Text.isBlank c = true) ∧
      String.ofList (word.map Char.toLower) ∈ flagWords value

/-- The text of a JSON object with these members. -/
def ObjectText (text : String) (members : Members) : Prop :=
  ∃ pairs, Value.ReadsMembers text pairs ∧ Members.ofPairs pairs = members

/-- What is changed by the text of a variable. -/
def Means : Optional → String → Setting → Prop
  | .discoveryUrl, text, setting => setting = .discoveryUrl text
  | .jwksUrl, text, setting => setting = .jwksUrl text
  | .fetchTimeout, text, setting => ∃ n timeout, Numeral text.toList n ∧
      timeout.toNanos = n * nanosPerSecond ∧ setting = .fetchTimeout timeout
  | .refreshInterval, text, setting => ∃ n interval, Numeral text.toList n ∧
      interval.toNanos = n * 1000000 ∧ setting = .refreshInterval interval
  | .clockDrift, text, setting => ∃ n drift, Numeral text.toList n ∧
      drift.toNanos = n * nanosPerSecond ∧ setting = .clockDrift drift
  | .lazyLoad, text, setting => ∃ value, Flag text value ∧ setting = .lazyLoad value
  | .keyIdDisabled, text, setting => ∃ value, Flag text value ∧ setting = .keyIdDisabled value
  | .requiredTokenType, text, setting => setting = .requiredTokenType text
  | .requiredAudience, text, setting => setting = .requiredAudience text
  | .requiredClaims, text, setting =>
    ∃ members, ObjectText text members ∧ setting = .requiredClaims members

/-- What each of these variables means, if it is set. -/
def Chosen (vars : Variables) (choice : Optional → Option Setting) : Prop :=
  ∀ item, Option.Rel (Means item) (vars.get? item.name) (choice item)

/-- One setting for each of these variables that is set, in any order. -/
def SettingsOf (vars : Variables) (settings : List Setting) : Prop :=
  ∃ choice, vars.Chosen choice ∧ settings.Perm (Optional.all.filterMap choice)

/-! ## One variable at a time -/

section

variable {vars : Variables} {text : String} {value : Bool} {members : Members} {item : Optional}
variable {setting other : Setting}

theorem flagValue?_eq_some_iff {word : String} :
    flagValue? word = some value ↔ word ∈ flagWords value := by
  have hdisjoint : ∀ word ∈ flagWords true, word ∉ flagWords false := by decide
  unfold flagValue?
  simp only [List.contains_iff_mem]
  change (if word ∈ flagWords true then _ else if word ∈ flagWords false then _ else _) = _ ↔ _
  constructor
  · intro h
    split at h <;> try split at h
    case isTrue hword =>
      cases h
      exact hword
    case isFalse.isTrue hword =>
      cases h
      exact hword
    case isFalse.isFalse => contradiction
  · intro h
    cases value with
    | true => exact if_pos h
    | false =>
      rw [if_neg fun htrue => hdisjoint word htrue h]
      exact if_pos h

/-- No letter of a word is a blank, whatever its size. -/
theorem not_isBlank_of_flagWords {word : List Char}
    (h : String.ofList (word.map Char.toLower) ∈ flagWords value) :
    ∀ c ∈ word, Text.isBlank c = false := by
  have hwords : ∀ word ∈ flagWords value, word.toList.all (fun c => !Text.isBlank c) = true := by
    cases value <;> decide
  intro c hc
  by_contra hblank
  have hblank : Text.isBlank c = true := by simpa using hblank
  have hmem : c ∈ (String.ofList (word.map Char.toLower)).toList := by
    rw [String.toList_ofList]
    exact List.mem_map.2 ⟨c, hc, Text.toLower_of_isBlank hblank⟩
  have hplain := List.all_eq_true.mp (hwords _ h) c hmem
  rw [hblank] at hplain
  cases hplain

theorem flag_iff : flagValue? (normalizeFlag text) = some value ↔ Flag text value := by
  rw [flagValue?_eq_some_iff]
  constructor
  · intro h
    obtain ⟨before, after, htext, hblank⟩ := Text.exists_edges text.toList
    exact ⟨before, _, after, htext, hblank, h⟩
  · rintro ⟨before, word, after, htext, hblank, hword⟩
    rwa [normalizeFlag, htext, Text.trim_append hblank (not_isBlank_of_flagWords hword)]

theorem Flag.eq {value' : Bool} (h : Flag text value) (h' : Flag text value') : value = value' :=
  Option.some.inj ((flag_iff.2 h).symm.trans (flag_iff.2 h'))

theorem read?_eq_object_iff : Value.read? text = some (.object members) ↔ ObjectText text members :=
  Value.read?_eq_object_iff

theorem ObjectText.eq {members' : Members} (h : ObjectText text members)
    (h' : ObjectText text members') : members = members' := by
  have hsame := (read?_eq_object_iff.2 h).symm.trans (read?_eq_object_iff.2 h')
  cases hsame
  rfl

theorem span_eq {n m : Nat} {span span' : Span} {unit : Nat} (hread : Numeral text.toList n)
    (hread' : Numeral text.toList m) (hspan : span.toNanos = n * unit)
    (hspan' : span'.toNanos = m * unit) : span = span' := by
  cases hread.eq hread'
  exact Span.ext_toNanos (hspan.trans hspan'.symm)

/-- The text of a variable does not mean two things. -/
theorem Means.eq (h : Means item text setting) (h' : Means item text other) : setting = other := by
  cases item
  case discoveryUrl | jwksUrl | requiredTokenType | requiredAudience => exact h.trans h'.symm
  case fetchTimeout | refreshInterval | clockDrift =>
    obtain ⟨n, span, hread, hspan, rfl⟩ := h
    obtain ⟨m, span', hread', hspan', rfl⟩ := h'
    rw [span_eq hread hread' hspan hspan']
  case lazyLoad | keyIdDisabled | requiredClaims =>
    obtain ⟨value, hread, rfl⟩ := h
    obtain ⟨value', hread', rfl⟩ := h'
    rw [hread.eq hread']

theorem Means.item_eq (h : Means item text setting) : setting.item = item := by
  cases item
  case discoveryUrl | jwksUrl | requiredTokenType | requiredAudience =>
    cases h
    rfl
  case fetchTimeout | refreshInterval | clockDrift =>
    obtain ⟨n, span, -, -, rfl⟩ := h
    rfl
  case lazyLoad | keyIdDisabled | requiredClaims =>
    obtain ⟨value, -, rfl⟩ := h
    rfl

/-! ## All of them together -/

theorem Chosen.eq {choice choice' : Optional → Option Setting} (h : vars.Chosen choice)
    (h' : vars.Chosen choice') : choice = choice' := by
  funext item
  have hchoice := h item
  have hchoice' := h' item
  revert hchoice hchoice'
  cases vars.get? item.name <;> cases choice item <;> cases choice' item <;> simp
  intro h h'
  exact h.eq h'

/-- The order in which settings are made does not matter. -/
theorem SettingsOf.changes_eq {settings : List Setting} {choice : Optional → Option Setting}
    (h : vars.SettingsOf settings) (hchosen : vars.Chosen choice) (config : Config) :
    config.changes settings = config.changes (Optional.all.filterMap choice) := by
  obtain ⟨choice', hchosen', hperm⟩ := h
  cases hchosen.eq hchosen'
  refine hperm.foldl_eq' (fun setting hsetting other hother config => ?_) config
  obtain ⟨item, -, hitem⟩ := List.mem_filterMap.1 (hperm.mem_iff.1 hsetting)
  obtain ⟨item', -, hitem'⟩ := List.mem_filterMap.1 (hperm.mem_iff.1 hother)
  have hrel := hchosen item
  have hrel' := hchosen item'
  rw [hitem] at hrel
  rw [hitem'] at hrel'
  generalize hget : vars.get? item.name = text? at hrel
  generalize hget' : vars.get? item'.name = text?' at hrel'
  cases hrel with | some hmeans =>
  cases hrel' with | some hmeans' =>
  by_cases hsame : item = item'
  · subst hsame
    cases hget.symm.trans hget'
    rw [hmeans.eq hmeans']
  · exact Config.change_comm (by rwa [hmeans.item_eq, hmeans'.item_eq]) config

theorem changes_filterMap_cons {choice : Optional → Option Setting} {items : List Optional}
    (config : Config) : config.changes ((item :: items).filterMap choice) =
      ((choice item).elim config config.change).changes (items.filterMap choice) := by
  cases hchoice : choice item <;> simp [hchoice, Config.changes]

theorem exists_settingsOf_iff : (∃ settings, vars.SettingsOf settings) ↔
    ∀ item text, vars.get? item.name = some text → ∃ setting, Means item text setting := by
  constructor
  · rintro ⟨_, choice, hchosen, -⟩ item text hget
    have hrel := hchosen item
    rw [hget] at hrel
    generalize choice item = chosen at hrel
    cases hrel with | some hmeans => exact ⟨_, hmeans⟩
  · intro h
    have hrel : ∀ item, ∃ chosen, Option.Rel (Means item) (vars.get? item.name) chosen := by
      intro item
      cases hget : vars.get? item.name with
      | none => exact ⟨none, .none⟩
      | some text =>
        obtain ⟨setting, hmeans⟩ := h item text hget
        exact ⟨some setting, .some hmeans⟩
    choose choice hchosen using hrel
    exact ⟨_, choice, hchosen, .refl _⟩

end

end Variables
end BearerAuth
