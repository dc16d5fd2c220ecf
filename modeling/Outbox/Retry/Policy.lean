import Outbox.Json.Decode
import Outbox.Time.Instant

/-!
# When to try again

After each failure the event waits twice as long as before, up to a longest delay, and
after a number of failures it is given up. The delay may be spread at random so that
events that failed together do not all come back together; the spread is a share of the
delay in either direction and never goes past the longest delay.

A retry time beyond the end of the calendar cannot be formed. `RetryPolicy.decision` says
so in place of a decision, and what asked for it breaks down.
-/

namespace Outbox

/-- A point in the range of a random spread: from zero, the shortest delay, over the
middle, the delay itself, to the greatest number, the longest. -/
abbrev Chance := Nat

/-- The chance that gives the longest delay. -/
def Chance.greatest : Chance := 9007199254740992

/-- The chance that leaves a delay as it is. -/
def Chance.middle : Chance := 4503599627370496

/-- When to try again and when to give up. -/
structure RetryPolicy where
  /-- The number of failures after which an event is given up. -/
  maxAttempts : Nat := 5
  /-- The delay after the first failure. -/
  baseDelay : Span := .ofMillis 5000
  /-- The longest delay. -/
  maxDelay : Span := .ofMillis 60000
  /-- The share of the delay by which it is spread. -/
  jitter : Binary64 := .zero
  deriving DecidableEq

/-- What happens after a failure. -/
inductive RetryDecision where
  /-- The event is tried again from this time on. -/
  | retry (time : Instant)
  /-- The event is given up: it has failed often enough. -/
  | exhausted (maxAttempts : Nat)
  /-- The event is given up: the delay is longer than an instant can be moved. -/
  | delayTooLong
  /-- The time of the next attempt is beyond the end of the calendar. -/
  | pastCalendar
  deriving DecidableEq

namespace RetryPolicy

/-- From this many doublings on the delay grows no more. -/
def maxDoublings : Nat := 20

/-- The delay after failure number `attempts`, without any spread. -/
def plainDelay (p : RetryPolicy) (attempts : Nat) : Span :=
  let factor := Nat.pow 2 (min (attempts - 1) maxDoublings)
  ((p.baseDelay.times? factor).getD p.maxDelay).shorter p.maxDelay

/-- How far a delay may be spread in either direction. -/
def spread (p : RetryPolicy) (delay : Span) : Nat :=
  if p.jitter.negative || p.jitter.magnitude = 0 then 0
  else
    let (num, den) := Binary64.toRatio (min p.jitter.magnitude Binary64.one.magnitude)
    delay.nanos * num / den

/-- The delay after failure number `attempts`. -/
def backoffDelay (p : RetryPolicy) (attempts : Nat) (chance : Chance := .middle) : Span :=
  let delay := p.plainDelay attempts
  let width := p.spread delay
  (Span.ofNanos (delay.nanos - width + 2 * width * chance / Chance.greatest)).shorter p.maxDelay

/-- What happens after failure number `attempts`, seen at `failedAt`. -/
def decision (p : RetryPolicy) (attempts : Nat) (failedAt : Instant)
    (chance : Chance := .middle) : RetryDecision :=
  if p.maxAttempts ≤ attempts then .exhausted p.maxAttempts
  else
    let delay := p.backoffDelay attempts chance
    if delay ≤ Instant.maxShift then
      match failedAt.after? delay with
      | some t => .retry t
      | none => .pastCalendar
    else .delayTooLong

/-- The members of a policy, in the order of its array form. -/
def fields : List (Json.Field RetryPolicy) :=
  [ .required "max_attempts" (.natural 4294967295) fun n p => { p with maxAttempts := n },
    .required "base_delay" .span fun a p => { p with baseDelay := a },
    .required "max_delay" .span fun a p => { p with maxDelay := a },
    .required "jitter_factor" .float fun x p => { p with jitter := x } ]

/-- Reads a policy. -/
def decoder : Json.Decoder RetryPolicy := .record fields {}

end RetryPolicy

namespace RetryDecision

/-- Why an event was given up. -/
def reason? : RetryDecision → Option String
  | exhausted n => some ("maximum attempts (" ++ toString n ++ ") reached")
  | delayTooLong => some "retry delay duration out of range"
  | retry _ | pastCalendar => none

end RetryDecision

end Outbox
