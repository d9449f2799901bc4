import CatalogClient.Options
import CatalogClient.Response

/-!
# Retry policy

A failed attempt is retried if the failure may pass by itself and the attempt's number does not
exceed the budget. The delay before a retry grows tenfold with every attempt, up to the
sixteenth, and is spread by a random draw over a quarter to either side.

The policy only decides. Who drives the attempts waits out the delay.

Correspondence:
  `RetryPolicy::from` client options        ↔ `ClientOptions.retryPolicy`
  `RetryPolicy::should_retry`               ↔ `RetryPolicy.shouldRetry`
  `RetryPolicy::next_step`, `backoff_delay` ↔ `RetryPolicy.nextStep`, the draw given
  `RetryPolicy::backoff_delay_with`         ↔ `RetryPolicy.backoffMs`
  `Step::Completed`, `Step::ScheduleRetry`  ↔ `Step.completed`, `Step.retryAfter`
-/

namespace CatalogClient

/-- The outcome of an attempt, and of a whole request. -/
abbrev Outcome := Except FetchError Success

structure RetryPolicy where
  /-- The highest attempt number that may still be retried. -/
  maxRetries : UInt32
  /-- What delays are scaled by, in milliseconds. -/
  backoffScaleMs : Binary64
deriving DecidableEq

def ClientOptions.retryPolicy (options : ClientOptions) : RetryPolicy :=
  ⟨options.maxRetries, options.backoffScaleMs⟩

/-- What to do after an attempt. -/
inductive Step
  /-- The outcome is final. -/
  | completed (outcome : Outcome)
  /-- Wait so many milliseconds, then make the next attempt. -/
  | retryAfter (delayMs : Nat)

namespace RetryPolicy

def standard : RetryPolicy := ClientOptions.standard.retryPolicy

def shouldRetry (policy : RetryPolicy) (attempt : Attempt) (error : FetchError) : Bool :=
  error.isTransient && attempt ≤ policy.maxRetries

/-- The attempt from which on delays do not grow any more. -/
def growthEnd : Nat := 16

/-- What the power of ten is multiplied by: from three to five quarters, as the draw goes from
zero to one. -/
def spread (draw : Binary64) : Binary64 :=
  let threeQuarters := Binary64.round false (3 * Binary64.unitsPerOne) 4
  let half := Binary64.round false Binary64.unitsPerOne 2
  threeQuarters + draw.clamp .zero .one * half

/-- The delay in milliseconds before the attempt given is retried, at least one. -/
def backoffMs (policy : RetryPolicy) (attempt : Attempt) (draw : Binary64) : Nat :=
  let growth := Binary64.powerOfTen (min attempt.toNat growthEnd)
  let delay := (spread draw * growth * policy.backoffScaleMs.max .zero).ceil
  (delay.max .one).toCount

/-- Decides after an attempt, with a random draw for the delay. -/
def nextStep (policy : RetryPolicy) (attempt : Attempt) (draw : Binary64) : Outcome → Step
  | .ok success => .completed (.ok success)
  | .error error =>
    if policy.shouldRetry attempt error then .retryAfter (policy.backoffMs attempt draw)
    else .completed (.error error)

end RetryPolicy

end CatalogClient
