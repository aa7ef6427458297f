import RoomRelay.Notice

/-!
First connections. A connection that fails is tried again after a delay that doubles up to a bound,
until it succeeds or the attempts are used up. Times are counted from the first attempt, in a unit that
the policy leaves open.
-/
namespace RoomRelay

/-- How often and how fast to try. There is always one attempt. Delays are counted in a `unit`, which is
given in nanoseconds. -/
structure RetryPolicy (unit : Nat := 1000000) where
  maxAttempts : Nat := 30
  initialDelay : Nat := 100000000 / unit
  maxDelay : Nat := 5000000000 / unit
  deriving DecidableEq, Repr

structure Attempts (α : Type) where
  result : Except String α
  starts : List Nat
  finish : Nat
  notices : List Notice

namespace RetryPolicy

variable {unit : Nat}

def nextDelay (p : RetryPolicy unit) (delay : Nat) : Nat :=
  min (2 * delay) p.maxDelay

/-- The attempts from one on that begins at `now` and would be followed by a wait of `delay`. -/
def attemptsFrom {α : Type} (p : RetryPolicy unit) (service : String) (outcome : Nat → Except String α)
    (attempt delay now : Nat) : Attempts α :=
  match outcome attempt with
  | .ok a => ⟨.ok a, [now], now, []⟩
  | .error e =>
    if attempt < p.maxAttempts then
      let rest := attemptsFrom p service outcome (attempt + 1) (p.nextDelay delay) (now + delay)
      { rest with
        starts := now :: rest.starts
        notices := .retrying service attempt p.maxAttempts e (delay * unit) :: rest.notices }
    else ⟨.error e, [now], now, [.gaveUp service p.maxAttempts e]⟩
termination_by p.maxAttempts - attempt

/-- Tries to connect; attempts are counted from one and each has its outcome at once. -/
def connect {α : Type} (p : RetryPolicy unit) (service : String) (outcome : Nat → Except String α) :
    Attempts α :=
  p.attemptsFrom service outcome 1 p.initialDelay 0

end RetryPolicy
end RoomRelay
