import Polku.Emit.Resilience.Retry
import Polku.Emit.Resilience.CircuitBreaker
import Polku.Emit.Resilience.FailureBuffer

/-!
# Composing the resilience wrappers

`ResilientEmitter.build` wraps an emitter, from the inside out, with retries, a
circuit breaker and failure capture, each only if it was configured.
-/

namespace Polku

/-- The builder: an emitter and the wrappers chosen for it. -/
structure ResilientEmitter where
  inner : Emitter
  retryConfig : Option BackoffConfig
  circuitBreakerConfig : Option CircuitBreakerConfig
  failureCapture : Option (FailureBuffer × FailureCaptureConfig)

namespace ResilientEmitter

/-- Start with an emitter and no wrappers. -/
def wrap (emitter : Emitter) : ResilientEmitter := ⟨emitter, none, none, none⟩

/-- Add retries. -/
def withRetry (self : ResilientEmitter) (config : BackoffConfig) : ResilientEmitter :=
  { self with retryConfig := some config }

/-- Add a circuit breaker. -/
def withCircuitBreaker (self : ResilientEmitter) (config : CircuitBreakerConfig) :
    ResilientEmitter :=
  { self with circuitBreakerConfig := some config }

/-- Add failure capture. -/
def withFailureCapture (self : ResilientEmitter) (buffer : FailureBuffer)
    (config : FailureCaptureConfig) : ResilientEmitter :=
  { self with failureCapture := some (buffer, config) }

/-- Compose the chosen wrappers around the emitter. -/
def build (self : ResilientEmitter) : Emitter :=
  let current := self.inner
  let current := match self.retryConfig with
    | some config => RetryEmitter.new current config
    | none => current
  let current := match self.circuitBreakerConfig with
    | some config => CircuitBreakerEmitter.new current config
    | none => current
  match self.failureCapture with
  | some (buffer, config) => FailureCaptureEmitter.new current buffer config
  | none => current

end ResilientEmitter

end Polku
