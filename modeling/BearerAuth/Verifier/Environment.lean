import BearerAuth.Json.Reading
import BearerAuth.Text.Numeral
import BearerAuth.Verifier.Config

/-!
# Configuration from named variables

Eleven variables, of which only the issuer is required. Each is read by a strict rule of its
own; the first fault in a fixed order is the answer, and no setting falls back to its default
because its variable could not be read.
-/
namespace BearerAuth

open Json

/-- Variables by name; the first entry for a name counts. -/
abbrev Variables := List (String × String)

namespace Variables

def get? (vars : Variables) (name : String) : Option String := vars.lookup name

/-- A numeral of sixty-four bits, if its variable is set. The message quotes the text and
says what was `expected`. -/
def number (vars : Variables) (name expected : String) (fault : String → ConfigError) :
    Except ConfigError (Option Nat) :=
  match vars.get? name with
  | none => .ok none
  | some text =>
    match Text.readNumeral text.toList with
    | .ok value => .ok (some value)
    | .error reason =>
      .error (fault (name ++ " must be a valid " ++ expected ++ " integer, got '" ++ text ++
        "': " ++ reason.message))

/-- Blanks around a flag and the case of ASCII letters make no difference. -/
def normalizeFlag (text : String) : String :=
  String.ofList ((Text.trim text.toList).map Char.toLower)

def flagValue? (word : String) : Option Bool :=
  if ["1", "true", "yes", "on"].contains word then some true
  else if ["0", "false", "no", "off", ""].contains word then some false
  else none

/-- A flag; false if its variable is not set. -/
def flag (vars : Variables) (name : String) : Except ConfigError Bool :=
  match vars.get? name with
  | none => .ok false
  | some text =>
    let word := normalizeFlag text
    match flagValue? word with
    | some value => .ok value
    | none => .error (.flag (name ++ " must be true or false, got '" ++ word ++ "'"))

/-- A JSON object, if its variable is set. Of a text that is no JSON the message says no more than
this; what the reader adds behind the colon is left out. -/
def claims (vars : Variables) (name : String) : Except ConfigError (Option Members) :=
  match vars.get? name with
  | none => .ok none
  | some text =>
    match Value.read? text with
    | none => .error (.requiredClaims (name ++ " must be valid JSON: "))
    | some (.object members) => .ok (some members)
    | some _ => .error (.requiredClaims (name ++ " must be a JSON object"))

end Variables

namespace Config

def ofVariables (vars : Variables) : Except ConfigError Config :=
  match vars.get? "OIDC_ISSUER" with
  | none => .error (.missingVariable "OIDC_ISSUER")
  | some issuer => do
    let timeout ← vars.number "OIDC_FETCH_TIMEOUT_SECONDS" "positive" .fetchTimeout
    let interval ← vars.number "OIDC_REFRESH_INTERVAL_MS" "non-negative" .refreshInterval
    let drift ← vars.number "OIDC_CLOCK_DRIFT_SECONDS" "non-negative" .clockDrift
    let lazyLoad ← vars.flag "OIDC_LAZY_LOAD"
    let keyIdDisabled ← vars.flag "OIDC_DISABLE_KEY_ID"
    let requiredClaims ← vars.claims "OIDC_REQUIRED_CLAIMS"
    let config : Config :=
      { issuer
        discoveryUrl := vars.get? "OIDC_DISCOVERY_URL"
        jwksUrl := vars.get? "OIDC_JWKS_URL"
        fetchTimeout := (timeout.map Span.ofSeconds).getD defaultFetchTimeout
        refreshInterval := (interval.map Span.ofMillis).getD defaultRefreshInterval
        clockDrift := (drift.map Span.ofSeconds).getD defaultClockDrift
        lazyLoad
        requiredTokenType := vars.get? "OIDC_REQUIRED_TOKEN_TYPE"
        requiredAudience := vars.get? "OIDC_REQUIRED_AUDIENCE"
        requiredClaims
        keyIdDisabled }
    config.validate
    return config

end Config
end BearerAuth
