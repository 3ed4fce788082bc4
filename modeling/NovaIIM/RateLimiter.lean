import Mathlib.Data.List.AList
import NovaIIM.Types

/-!
The login rate limiter (`core/rate_limiter.h`): failures are counted for each
key in a window that starts with the first of them. Times are readings of the
steady clock.
-/
namespace NovaIIM

structure RateEntry where
  windowStart : Nat := 0
  count : Int := 0
deriving DecidableEq, Repr

structure RateLimiter where
  maxAttempts : Int
  window : Nat
  maxEntries : Nat := 100000
  writeCount : Nat := 0
  entries : AList (fun _ : Bytes => RateEntry) := ∅

namespace RateLimiter

def kPurgeInterval : Nat := 1024

/-- `RateLimiter::Allow`; an entry whose window has passed is dropped. -/
def allow (l : RateLimiter) (key : Bytes) (now : Nat) : Bool × RateLimiter :=
  match l.entries.lookup key with
  | none => (true, l)
  | some e =>
    if l.window ≤ now - e.windowStart then (true, { l with entries := l.entries.erase key })
    else (e.count < l.maxAttempts, l)

/-- `RateLimiter::MaybePurge`. -/
def maybePurge (l : RateLimiter) (now : Nat) : RateLimiter :=
  let writeCount := l.writeCount + 1
  if writeCount < kPurgeInterval ∧ l.entries.keys.length < l.maxEntries then
    { l with writeCount := writeCount }
  else
    let expired := l.entries.keys.filter fun key =>
      match l.entries.lookup key with
      | some e => l.window ≤ now - e.windowStart
      | none => false
    { l with writeCount := 0, entries := expired.foldl (fun entries key => entries.erase key) l.entries }

/-- `RateLimiter::RecordFailure`. -/
def recordFailure (l : RateLimiter) (key : Bytes) (now : Nat) : RateLimiter :=
  let l := l.maybePurge now
  let e := (l.entries.lookup key).getD {}
  let counted : RateEntry :=
    if e.count = 0 ∨ l.window ≤ now - e.windowStart then ⟨now, 1⟩ else { e with count := e.count + 1 }
  { l with entries := l.entries.insert key counted }

/-- `RateLimiter::Reset`. -/
def reset (l : RateLimiter) (key : Bytes) : RateLimiter := { l with entries := l.entries.erase key }

end RateLimiter
end NovaIIM
