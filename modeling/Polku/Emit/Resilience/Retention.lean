import Polku.Emit.Resilience.Config
import Polku.Emit.Resilience.FailureHistory

/-!
# How many failed events are retained

`FailureCaptureConfig` has a capacity, and so has the buffer which a capturing emitter is
given. Only that of the buffer bounds what it holds.
-/

namespace Polku

open Buffer

/-- A call on a capturing emitter, or one which takes failed events out of its buffer. -/
inductive CaptureCall where
  | emit (events : List Event) (world : World)
  | drain (n : Nat)

namespace FailureCaptureEmitter

/-- Make one call: what the wrapped emitter and the buffer come to. -/
def call (inner : Emitter) (config : FailureCaptureConfig) (self : inner.State × FailureBuffer) :
    CaptureCall → inner.State × FailureBuffer
  | .emit events world => (emit inner.name inner.emit config self events world).2.1
  | .drain n => (self.1, (self.2.drain n).2)

/-- Make calls in order. -/
def callEach (inner : Emitter) (config : FailureCaptureConfig)
    (self : inner.State × FailureBuffer) (calls : List CaptureCall) :
    inner.State × FailureBuffer :=
  calls.foldl (call inner config) self

/-- Along every sequence of calls, a buffer which only the emitter feeds holds no more than
the capacity of the configuration. -/
def Retains (inner : Emitter) (buffer : FailureBuffer) (config : FailureCaptureConfig) : Prop :=
  ∀ calls, (callEach inner config (inner.state, buffer) calls).2.len ≤ config.capacity

variable {inner : Emitter} {config : FailureCaptureConfig}

/-- A call does to the buffer what a call on the buffer does, or nothing. -/
theorem call_buffer (self : inner.State × FailureBuffer) (call : CaptureCall) :
    (FailureCaptureEmitter.call inner config self call).2 = self.2 ∨
      ∃ made, (FailureCaptureEmitter.call inner config self call).2 = (self.2.call made).2 := by
  cases call with
  | emit events world =>
      rw [FailureCaptureEmitter.call, emit]
      rcases inner.emit self.1 events world with ⟨_ | _, next, later⟩
      · exact Or.inr ⟨.push _, rfl⟩
      · exact Or.inl rfl
  | drain n => exact Or.inr ⟨.drain n, rfl⟩

/-- The buffer of a capturing emitter keeps to its own capacity. -/
theorem len_callEach_le (calls : List CaptureCall) (self : inner.State × FailureBuffer)
    (within : self.2.len ≤ max self.2.capacity 1) :
    (callEach inner config self calls).2.len ≤ max self.2.capacity 1 := by
  induction calls generalizing self with
  | nil => exact within
  | cons call calls inductionHypothesis =>
      have later := inductionHypothesis (FailureCaptureEmitter.call inner config self call)
      rw [callEach, List.foldl_cons]
      rcases @call_buffer inner config self call with same | ⟨made, same⟩
      · rw [same] at later
        exact later within
      · rw [same, FailureBuffer.call_capacity] at later
        exact later ((self.2.call_change made).length_le within)

/-- An emitter which always fails. -/
def failing : Emitter := ⟨"failing", Unit, (), fun _ _ world => (.error .notReady, (), world),
  fun _ => false⟩

/-- Readings which are all zero. -/
def still : World := ⟨fun _ => 0, 0, fun _ => 0, 0⟩

/-- Emitting one event through an emitter which fails captures one. -/
theorem call_failing (config : FailureCaptureConfig) (self : failing.State × FailureBuffer)
    (event : Event) : ∃ failed : List FailedEvent, failed.length = 1 ∧
      (call failing config self (.emit [event] still)).2 = self.2.push failed := by
  refine ⟨(capture config "failing" .notReady [event] still).1, ?_, rfl⟩
  unfold capture
  split <;> rfl

/-- Events which fail one by one fill the buffer. -/
theorem len_callEach_failing (config : FailureCaptureConfig) (event : Event) (count : Nat)
    (self : failing.State × FailureBuffer) (within : self.2.len ≤ max self.2.capacity 1) :
    (callEach failing config self (List.replicate count (.emit [event] still))).2.len =
      min (self.2.len + count) (max self.2.capacity 1) := by
  induction count generalizing self with
  | zero => exact (Nat.min_eq_left within).symm
  | succ count inductionHypothesis =>
      obtain ⟨failed, one, captured⟩ := call_failing config self event
      have once := FailureBuffer.len_push within failed
      have later := inductionHypothesis (call failing config self (.emit [event] still))
      have capacity : (self.2.push failed).capacity = self.2.capacity := rfl
      rw [captured, capacity] at later
      rw [List.replicate_succ, callEach, List.foldl_cons]
      refine (later (by omega)).trans ?_
      omega

/-- A new buffer is retained as configured, whatever the emitter, if and only if its own
capacity, or one, is not larger than that of the configuration. -/
theorem retains_iff (config : FailureCaptureConfig) (capacity : Nat) :
    (∀ inner, Retains inner (.new capacity) config) ↔ max capacity 1 ≤ config.capacity := by
  constructor
  · intro retains
    have filled := len_callEach_failing config ⟨"1", 0, "source", "type", ∅, [], []⟩
      (max capacity 1) (failing.state, .new capacity) (Nat.zero_le _)
    have kept := retains failing (List.replicate (max capacity 1)
      (.emit [⟨"1", 0, "source", "type", ∅, [], []⟩] still))
    simp only [FailureBuffer.len, FailureBuffer.new, List.length_nil] at filled kept
    omega
  · intro fits inner calls
    exact (len_callEach_le calls (inner.state, .new capacity) (Nat.zero_le _)).trans fits

end FailureCaptureEmitter

namespace ResilientEmitter

/-- The builder puts failure capture around what it builds without it. -/
theorem build_withFailureCapture (self : ResilientEmitter) (buffer : FailureBuffer)
    (config : FailureCaptureConfig) :
    (self.withFailureCapture buffer config).build =
      FailureCaptureEmitter.new { self with failureCapture := none }.build buffer config := rfl

end ResilientEmitter

/-- Whatever the emitter, and whether it is wrapped directly or by the builder, a new buffer
never holds more failed events than the capacity of the configuration if and only if its own
capacity, or one, is not larger. -/
theorem capture_retains_iff (config : FailureCaptureConfig) (capacity : Nat) :
    ((∀ inner, FailureCaptureEmitter.Retains inner (.new capacity) config) ∧
      ∀ builder : ResilientEmitter, ∃ inner,
        (builder.withFailureCapture (.new capacity) config).build =
          FailureCaptureEmitter.new inner (.new capacity) config ∧
        FailureCaptureEmitter.Retains inner (.new capacity) config) ↔
      max capacity 1 ≤ config.capacity := by
  rw [← FailureCaptureEmitter.retains_iff]
  refine ⟨And.left, fun retains => ⟨retains, fun builder => ?_⟩⟩
  exact ⟨_, builder.build_withFailureCapture _ config, retains _⟩

/-- With a capacity of one in the configuration and of two in the buffer, two failed events
are retained. -/
theorem two_retained :
    (FailureCaptureEmitter.callEach FailureCaptureEmitter.failing ⟨1, true⟩ ((), .new 2)
      [.emit [plainFailure.event] FailureCaptureEmitter.still,
        .emit [plainFailure.event] FailureCaptureEmitter.still]).2.len = 2 ∧
    ¬ FailureCaptureEmitter.Retains FailureCaptureEmitter.failing (.new 2) ⟨1, true⟩ := by
  refine ⟨rfl, fun retains => ?_⟩
  have kept := retains [.emit [plainFailure.event] FailureCaptureEmitter.still,
    .emit [plainFailure.event] FailureCaptureEmitter.still]
  exact absurd kept (by decide)

end Polku
