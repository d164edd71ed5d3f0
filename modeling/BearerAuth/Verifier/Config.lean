import BearerAuth.Json.Value
import BearerAuth.Text.Blank
import BearerAuth.Time.Instant

/-!
# Verifier configuration

One record of settings with defaults for all but the issuer, the checks that its types do
not make, and the two smaller records that the key cache and the validator take from it.
-/
namespace BearerAuth

open Json

inductive ConfigError
  | missingVariable (name : String)
  | issuer (detail : String)
  | fetchTimeout (detail : String)
  | refreshInterval (detail : String)
  | clockDrift (detail : String)
  | requiredClaims (detail : String)
  | flag (detail : String)
  deriving DecidableEq, Repr

namespace ConfigError

def message : ConfigError → String
  | missingVariable name => "Missing required environment variable: " ++ name
  | issuer detail => "Invalid issuer configuration: " ++ detail
  | fetchTimeout detail => "Invalid fetch timeout configuration: " ++ detail
  | refreshInterval detail => "Invalid refresh interval configuration: " ++ detail
  | clockDrift detail => "Invalid clock drift configuration: " ++ detail
  | requiredClaims detail => "Invalid required claims configuration: " ++ detail
  | flag detail => "Invalid flag value: " ++ detail

end ConfigError

/-- What a key cache needs to know. -/
structure CacheSettings where
  fetchTimeout : Span
  /-- The least time between two refreshes; zero for no limit. -/
  refreshInterval : Span
  /-- Ignore key identifiers and use the only key of the set. -/
  keyIdDisabled : Bool
  deriving DecidableEq, Repr

/-- What is asked of every token. An empty issuer fails every token, an empty audience
accepts any. -/
structure Policy where
  issuer : String
  requiredAudience : Option String
  requiredTokenType : Option String
  requiredClaims : Option Members
  clockDrift : Span
  deriving Repr

structure Config where
  issuer : String
  discoveryUrl : Option String
  jwksUrl : Option String
  fetchTimeout : Span
  refreshInterval : Span
  clockDrift : Span
  lazyLoad : Bool
  requiredTokenType : Option String
  requiredAudience : Option String
  requiredClaims : Option Members
  keyIdDisabled : Bool
  deriving Repr

namespace Config

def defaultFetchTimeout : Span := .ofSeconds 5

def defaultRefreshInterval : Span := .ofSeconds 1

def defaultClockDrift : Span := .ofSeconds 10

def maxClockDrift : Span := .ofSeconds 600

/-- The settings for an issuer when nothing else is said. -/
def forIssuer (issuer : String) : Config where
  issuer
  discoveryUrl := none
  jwksUrl := none
  fetchTimeout := defaultFetchTimeout
  refreshInterval := defaultRefreshInterval
  clockDrift := defaultClockDrift
  lazyLoad := false
  requiredTokenType := none
  requiredAudience := none
  requiredClaims := none
  keyIdDisabled := false

section

variable (config : Config)

def withDiscoveryUrl (url : String) : Config := { config with discoveryUrl := some url }

def withJwksUrl (url : String) : Config := { config with jwksUrl := some url }

def withFetchTimeout (timeout : Span) : Config := { config with fetchTimeout := timeout }

def withRefreshInterval (interval : Span) : Config := { config with refreshInterval := interval }

def withClockDrift (drift : Span) : Config := { config with clockDrift := drift }

def withLazyLoad (value : Bool) : Config := { config with lazyLoad := value }

def withRequiredTokenType (typ : String) : Config := { config with requiredTokenType := some typ }

def withRequiredAudience (audience : String) : Config :=
  { config with requiredAudience := some audience }

def withRequiredClaims (members : Members) : Config :=
  { config with requiredClaims := some members }

def withKeyIdDisabled (value : Bool) : Config := { config with keyIdDisabled := value }

end

/-- The checks in order: issuer, fetch timeout, clock drift. -/
def validate (config : Config) : Except ConfigError Unit :=
  if Text.trim config.issuer.toList = [] then .error (.issuer "issuer must not be empty")
  else if config.fetchTimeout.isZero then
    .error (.fetchTimeout "fetch timeout must be greater than 0")
  else if maxClockDrift.toNanos < config.clockDrift.toNanos then
    .error (.clockDrift ("clock drift must not exceed " ++ toString maxClockDrift.seconds ++
      " seconds, got " ++ toString config.clockDrift.seconds))
  else .ok ()

def cacheSettings (config : Config) : CacheSettings :=
  ⟨config.fetchTimeout, config.refreshInterval, config.keyIdDisabled⟩

def policy (config : Config) : Policy where
  issuer := config.issuer
  requiredAudience := config.requiredAudience
  requiredTokenType := config.requiredTokenType
  requiredClaims := config.requiredClaims
  clockDrift := config.clockDrift

end Config
end BearerAuth
