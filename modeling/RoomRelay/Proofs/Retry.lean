import Mathlib.Algebra.GroupWithZero.Nat
import Mathlib.Data.List.Basic
import Mathlib.Data.Nat.Find
import RoomRelay.Retry

/-!
`RetryPolicy.connect` in closed form. Doubling and bounding the delay after each attempt gives
`initialDelay * 2 ^ (n - 1)`, bounded once.
-/
namespace RoomRelay.RetryPolicy

variable {α : Type} {unit : Nat}

def budget (p : RetryPolicy unit) : Nat := max 1 p.maxAttempts

/-- The delay after an attempt, counted from one. -/
def wait (p : RetryPolicy unit) (attempt : Nat) : Nat :=
  if attempt = 1 then p.initialDelay
  else min (p.initialDelay * 2 ^ (attempt - 1)) p.maxDelay

/-- The start of an attempt if all before it failed: the sum of their delays. -/
def start (p : RetryPolicy unit) (attempt : Nat) : Nat :=
  ((List.range' 1 (attempt - 1)).map p.wait).sum

def failure? : Except String α → Option String
  | .ok _ => none
  | .error e => some e

/-- The first attempt that succeeds, or the last one within the `budget`. -/
structure IsLast (p : RetryPolicy unit) (outcome : Nat → Except String α) (n : Nat) : Prop where
  counted : 1 ≤ n
  allowed : n ≤ p.budget
  failed : ∀ attempt, 1 ≤ attempt → attempt < n → ∃ e, outcome attempt = .error e
  final : n < p.budget → ∃ a, outcome n = .ok a

def warning? (p : RetryPolicy unit) (service : String) (outcome : Nat → Except String α) (attempt : Nat) :
    Option Notice :=
  (failure? (outcome attempt)).map fun e =>
    .retrying service attempt p.maxAttempts e (p.wait attempt * unit)

def surrender? (p : RetryPolicy unit) (service : String) (outcome : Nat → Except String α) (n : Nat) :
    Option Notice :=
  (failure? (outcome n)).map fun e => .gaveUp service p.maxAttempts e

theorem warning?_of_error {p : RetryPolicy unit} (service : String) {outcome : Nat → Except String α}
    {attempt : Nat} {e : String} (fails : outcome attempt = .error e) :
    p.warning? service outcome attempt =
      some (.retrying service attempt p.maxAttempts e (p.wait attempt * unit)) := by
  rw [warning?, fails]
  rfl

theorem nextDelay_wait (p : RetryPolicy unit) {attempt : Nat} (counted : 1 ≤ attempt) :
    p.nextDelay (p.wait attempt) = p.wait (attempt + 1) := by
  obtain ⟨k, rfl⟩ := Nat.exists_eq_add_of_le' counted
  have later : k + 1 + 1 ≠ 1 := by omega
  rw [nextDelay, wait, wait, if_neg later, Nat.add_sub_cancel, Nat.add_sub_cancel, Nat.pow_succ,
    ← Nat.mul_assoc, Nat.mul_comm _ 2]
  split
  · rename_i first
    obtain rfl : k = 0 := by omega
    rw [Nat.pow_zero, Nat.mul_one]
  -- Bounding before the delay is doubled does not show, since it is bounded again.
  · omega

/-- The usual waits. -/
example : (List.range' 1 7).map ({} : RetryPolicy).wait = [100, 200, 400, 800, 1600, 3200, 5000] := by
  decide

theorem start_succ (p : RetryPolicy unit) {attempt : Nat} (counted : 1 ≤ attempt) :
    p.start (attempt + 1) = p.start attempt + p.wait attempt := by
  obtain ⟨k, rfl⟩ := Nat.exists_eq_add_of_le' counted
  rw [start, start, Nat.add_sub_cancel, Nat.add_sub_cancel, List.range'_1_concat, List.map_append,
    List.sum_append, List.map_singleton, List.sum_singleton, Nat.add_comm 1 k]

theorem exists_isLast (p : RetryPolicy unit) (outcome : Nat → Except String α) :
    ∃ n, p.IsLast outcome n := by
  classical
  have some_ends : ∃ n, 1 ≤ n ∧ (n < p.budget → ∃ a, outcome n = .ok a) :=
    ⟨p.budget, Nat.le_max_left .., fun beyond => absurd beyond (Nat.lt_irrefl _)⟩
  obtain ⟨counted, final⟩ := Nat.find_spec some_ends
  refine ⟨Nat.find some_ends, counted, ?_, fun attempt from_one before => ?_, final⟩
  · exact Nat.find_min' some_ends
      ⟨Nat.le_max_left .., fun beyond => absurd beyond (Nat.lt_irrefl _)⟩
  · have goes_on := Nat.find_min some_ends before
    push Not at goes_on
    cases ends : outcome attempt with
    | ok a => exact absurd ends ((goes_on from_one).2 a)
    | error e => exact ⟨e, rfl⟩

theorem IsLast.unique {p : RetryPolicy unit} {outcome : Nat → Except String α} {m n : Nat}
    (first : p.IsLast outcome m) (second : p.IsLast outcome n) : m = n := by
  have ordered : ∀ {m n : Nat}, p.IsLast outcome m → p.IsLast outcome n → ¬m < n := by
    intro m n first second before
    obtain ⟨e, fails⟩ := second.failed m first.counted before
    obtain ⟨a, ok⟩ := first.final (Nat.lt_of_lt_of_le before second.allowed)
    rw [fails] at ok
    contradiction
  exact Nat.le_antisymm (Nat.not_lt.mp (ordered second first)) (Nat.not_lt.mp (ordered first second))

/-- `attemptsFrom` with all attempts before it failed. -/
theorem attemptsFrom_eq {p : RetryPolicy unit} {outcome : Nat → Except String α} {n : Nat}
    (last : p.IsLast outcome n) (service : String) {attempt left : Nat} (counted : 1 ≤ attempt)
    (here : attempt + left = n) :
    p.attemptsFrom service outcome attempt (p.wait attempt) (p.start attempt) =
      { result := outcome n
        starts := (List.range' attempt (left + 1)).map p.start
        finish := p.start n
        notices := (List.range' attempt left).filterMap (p.warning? service outcome) ++
          (p.surrender? service outcome n).toList } := by
  induction left generalizing attempt with
  | zero =>
    obtain rfl : attempt = n := here
    rw [attemptsFrom]
    cases ends : outcome attempt with
    | ok a => simp [surrender?, ends, failure?]
    | error e =>
      have spent : ¬attempt < p.maxAttempts := by
        intro more
        obtain ⟨a, ok⟩ := last.final (Nat.lt_of_lt_of_le more (Nat.le_max_right ..))
        rw [ends] at ok
        contradiction
      simp [surrender?, ends, failure?, spent]
  | succ left ih =>
    obtain ⟨e, ends⟩ := last.failed attempt counted (by omega)
    have more : attempt < p.maxAttempts := by
      have allowed := last.allowed
      unfold budget at allowed
      omega
    have later : attempt + 1 + left = n := by omega
    have rest := ih (Nat.le_add_left 1 attempt) later
    rw [attemptsFrom, ends]
    simp only [more, if_true, p.nextDelay_wait counted, ← p.start_succ counted, rest]
    have starts : List.range' attempt (left + 1 + 1) = attempt :: List.range' (attempt + 1) (left + 1) :=
      List.range'_succ
    have warnings : List.range' attempt (left + 1) = attempt :: List.range' (attempt + 1) left :=
      List.range'_succ
    rw [starts, warnings, List.map_cons, List.filterMap_cons_some (warning?_of_error service ends),
      List.cons_append]

theorem level_warnings {p : RetryPolicy unit} {outcome : Nat → Except String α} (service : String)
    {attempts : List Nat} (failed : ∀ attempt ∈ attempts, ∃ e, outcome attempt = .error e) :
    (attempts.filterMap (p.warning? service outcome)).map Notice.level =
      List.replicate attempts.length .warn := by
  induction attempts with
  | nil => rfl
  | cons attempt attempts ih =>
    obtain ⟨⟨e, ends⟩, failed⟩ := List.forall_mem_cons.mp failed
    rw [List.filterMap_cons_some (warning?_of_error service ends), List.map_cons, ih failed,
      List.length_cons, List.replicate_succ]
    rfl

/-- `connect` makes the attempts up to the one that `IsLast`, which exists for every outcome, and
answers with its result. Each attempt begins at its `start`; each failed one is noted as a `warning?`,
and the last one as `surrender?`. -/
theorem keeps_to_schedule (p : RetryPolicy unit) (service : String) (outcome : Nat → Except String α) :
    ∃ n, p.IsLast outcome n ∧ (∀ other, p.IsLast outcome other → other = n) ∧
      let a := p.connect service outcome
      a.result = outcome n ∧
      a.starts = (List.range' 1 n).map p.start ∧
      a.finish = p.start n ∧
      a.notices = (List.range' 1 (n - 1)).filterMap (p.warning? service outcome) ++
        (p.surrender? service outcome n).toList ∧
      a.notices.map Notice.level =
        List.replicate (n - 1) .warn ++ if (failure? (outcome n)).isSome then [.error] else [] := by
  obtain ⟨n, last⟩ := p.exists_isLast outcome
  obtain ⟨left, rfl⟩ := Nat.exists_eq_add_of_le last.counted
  have attempts := attemptsFrom_eq last service (Nat.le_refl 1) rfl
  have begins : p.connect service outcome =
      p.attemptsFrom service outcome 1 (p.wait 1) (p.start 1) := rfl
  rw [← begins] at attempts
  refine ⟨1 + left, last, fun other same => same.unique last, ?_⟩
  dsimp only
  rw [attempts, Nat.add_comm 1 left, Nat.add_sub_cancel]
  refine ⟨rfl, rfl, rfl, rfl, ?_⟩
  rw [List.map_append, level_warnings service fun attempt member => ?failed, List.length_range']
  case failed =>
    obtain ⟨from_one, before⟩ := List.mem_range'_1.mp member
    exact last.failed attempt from_one (by omega)
  unfold surrender?
  cases failure? (outcome (left + 1)) <;> rfl

end RoomRelay.RetryPolicy
