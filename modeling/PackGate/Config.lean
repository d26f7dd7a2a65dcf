import PackGate.Report
import PackGate.SocketAddress
import PackGate.Text.Duration

/-! The settings of the server. -/

namespace PackGate

/-- How many repositories are kept open and how long opening one may take. -/
structure CacheSettings where
  /-- The greatest number of open repositories. -/
  maxSize : UInt64 := 64
  /-- The budget of one build in seconds. -/
  buildTimeout : UInt64 := 30
deriving DecidableEq, Repr

/-- The budget of one build. -/
def CacheSettings.budget (settings : CacheSettings) : Duration :=
  .ofSeconds settings.buildTimeout

/-- The settings of the server. -/
structure Config where
  /-- The address that the server listens on. -/
  httpListen : String := "0.0.0.0:8080"
  /-- The directory that holds the repositories. -/
  reposPath : String
  /-- The settings of the cache, fixed from the start of the server to its end. -/
  cache : CacheSettings := {}
  /-- Whether repositories can be read. -/
  uploadPack : Bool := true
deriving DecidableEq, Repr

namespace Config

/-- What is wrong with settings that are well formed. -/
inductive Flaw where
  /-- The cache would hold nothing. -/
  | emptyCache
  /-- No build could ever finish. -/
  | noTime
  /-- The address to listen on is none. -/
  | badAddress (text : String)
deriving DecidableEq, Repr

/-- The flaw in words. -/
def Flaw.message : Flaw → String
  | .emptyCache => "cache.max_size must be greater than 0"
  | .noTime => "cache.build_timeout must be at least 1 second"
  | .badAddress text => s!"proxy.http_listen is not a socket address: {text}"

/-- The first flaw of some settings. -/
def flaw? (config : Config) : Option Flaw :=
  if config.cache.maxSize = 0 then some .emptyCache
  else if config.cache.buildTimeout = 0 then some .noTime
  else if (SocketAddress.ofText? config.httpListen).isNone then
    some (.badAddress config.httpListen)
  else none

end Config

/-- Why a text yields no settings. -/
inductive ConfigError where
  /-- The text is not one whole document; the message says what was met first. -/
  | unreadable (shown : String)
  /-- A value does not fit; `shown` adds the position to the problem. -/
  | misfit (problem shown : String)
  /-- The settings are well formed and make no sense. -/
  | flawed (flaw : Config.Flaw)
deriving DecidableEq, Repr

/-- The error in words. -/
def ConfigError.message : ConfigError → String
  | .unreadable shown => shown
  | .misfit _ shown => shown
  | .flawed flaw => flaw.message

end PackGate
