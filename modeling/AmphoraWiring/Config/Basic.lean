import AmphoraWiring.Duration
import AmphoraWiring.Number.Floating

/-!
Settings of the reconciler. Every section and every setting has a default.
-/
namespace AmphoraWiring

/-- Budget of attempts and polls for steps that change the network. The backoff multiplier is
counted in seconds; the interval is the least wait between attempts and the one between polls. -/
structure NetworkingConfig where
  maxRetries : Nat := 15
  retryBackoff : Floating := .ofNat .double 1
  retryIntervalSecs : Nat := 1
  retryMaxSecs : Nat := 10
deriving DecidableEq, Repr

namespace NetworkingConfig

def retryInterval (c : NetworkingConfig) : Duration := .ofSeconds c.retryIntervalSecs

def retryMax (c : NetworkingConfig) : Duration := .ofSeconds c.retryMaxSecs

end NetworkingConfig

/-- The boot networks count as management networks where the availability zone names none. -/
structure ControllerConfig where
  bootNetworks : List String := []
deriving DecidableEq, Repr

structure DatabaseConfig where
  url : String := "sqlite::memory:"
  maxConnections : Nat := 5
deriving DecidableEq, Repr

structure Config where
  networking : NetworkingConfig := {}
  controller : ControllerConfig := {}
  database : DatabaseConfig := {}
deriving DecidableEq, Repr

end AmphoraWiring
