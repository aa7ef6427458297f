import Mathlib.Data.List.Basic
import Mathlib.Data.List.Induction
import RoomRelay.Confirm

/-!
`ConfirmTracker.settle` along a list of confirmations. While they are `InStep` the tags run from one
without a gap, whether the broker acknowledges or refuses; after the first fatal one `settle` refuses
without a wait.
-/
namespace RoomRelay.ConfirmTracker

/-- The confirmations that poison a tracker at `tag`: none, one after `wait`, a failure, and that of
another tag. -/
def isFatal (wait tag : Nat) : Confirmation → Bool
  | none => true
  | some (_, .failed _) => true
  | some (after, .confirmed got _) => decide (wait < after) || got != tag

/-- The results of `settle` at `tag`, by confirmation. -/
inductive Answers (wait tag : Nat) : Confirmation → Except BrokerError Nat → Prop
  | acked {after : Nat} (timely : after ≤ wait) :
    Answers wait tag (some (after, .confirmed tag true)) (.ok tag)
  | nacked {after : Nat} (timely : after ≤ wait) :
    Answers wait tag (some (after, .confirmed tag false)) (.error (.rejected tag))
  | failed {after : Nat} (timely : after ≤ wait) (e : BrokerError) :
    Answers wait tag (some (after, .failed e)) (.error e)
  | foreign {after got : Nat} (timely : after ≤ wait) (other : got ≠ tag) (ack : Bool) :
    Answers wait tag (some (after, .confirmed got ack)) (.error (.outOfSequence tag got))
  | late {after : Nat} (late : wait < after) (v : Verdict) :
    Answers wait tag (some (after, v)) (.error (.unconfirmed tag))
  | never : Answers wait tag none (.error (.unconfirmed tag))

/-- No confirmation is fatal, with tags counted from one. -/
def InStep (wait : Nat) (cs : List Confirmation) : Prop :=
  ∀ i (h : i < cs.length), isFatal wait (i + 1) cs[i] = false

theorem inStep_nil (wait : Nat) : InStep wait [] := fun _ h => absurd h (Nat.not_lt_zero _)

theorem inStep_snoc {wait : Nat} {cs : List Confirmation} {c : Confirmation} :
    InStep wait (cs ++ [c]) ↔ InStep wait cs ∧ isFatal wait (cs.length + 1) c = false := by
  constructor
  · intro inStep
    refine ⟨fun i h => ?_, ?_⟩
    · have before := inStep i (by rw [List.length_append]; omega)
      rwa [List.getElem_append_left h] at before
    · have last := inStep cs.length (by rw [List.length_append, List.length_singleton]; omega)
      rwa [List.getElem_concat_length rfl] at last
  · rintro ⟨before, last⟩ i h
    rw [List.length_append, List.length_singleton] at h
    rcases Nat.lt_succ_iff_lt_or_eq.mp h with earlier | rfl
    · rw [List.getElem_append_left earlier]
      exact before i earlier
    · rw [List.getElem_concat_length rfl]
      exact last

theorem inStep_or_first_fatal (wait : Nat) (cs : List Confirmation) :
    InStep wait cs ∨ ∃ before lost later, cs = before ++ lost :: later ∧ InStep wait before ∧
      isFatal wait (before.length + 1) lost = true := by
  -- From the end, where a fatal one that is there already stays the first.
  induction cs using List.reverseRecOn with
  | nil => exact .inl (inStep_nil wait)
  | append_singleton cs c ih =>
    rcases ih with inStep | ⟨before, lost, later, rfl, inStep, fatal⟩
    · cases fatal : isFatal wait (cs.length + 1) c with
      | true => exact .inr ⟨cs, c, [], rfl, inStep, fatal⟩
      | false => exact .inl (inStep_snoc.mpr ⟨inStep, fatal⟩)
    · exact .inr ⟨before, lost, later ++ [c], by rw [List.append_assoc, List.cons_append], inStep,
        fatal⟩

/-! ### One confirmation -/

theorem settle_poisoned {t : ConfirmTracker} (poisoned : t.poisoned = true) (c : Confirmation) :
    t.settle c = ⟨.error outOfSync, t, 0, []⟩ := by
  rw [settle, if_pos poisoned]

theorem settle_inStep {t : ConfirmTracker} (inStep : t.poisoned = false) (c : Confirmation) :
    Answers t.wait t.nextTag c (t.settle c).result ∧
      (t.settle c).tracker = ⟨t.wait, t.nextTag + 1, isFatal t.wait t.nextTag c⟩ := by
  rw [settle, if_neg (by rw [inStep]; exact Bool.false_ne_true)]
  match c with
  | none => exact ⟨.never, by simp [inTime, isFatal]⟩
  | some (after, v) =>
    by_cases timely : after ≤ t.wait
    · have arrived : t.inTime (some (after, v)) = some (after, v) := by simp [inTime, timely]
      rw [arrived]
      cases v with
      | failed e => exact ⟨.failed timely e, by simp [isFatal]⟩
      | confirmed got ack =>
        by_cases same : got = t.nextTag
        · subst same
          cases ack <;> simp [isFatal, inStep, timely, Answers.acked, Answers.nacked]
        · simp [isFatal, same, Answers.foreign timely same]
    · have lost : t.inTime (some (after, v)) = none := by simpa [inTime] using timely
      rw [lost]
      refine ⟨.late (Nat.lt_of_not_le timely) v, ?_⟩
      cases v <;> simp [isFatal, Nat.lt_of_not_le timely]

/-! ### One after another -/

def after (t : ConfirmTracker) (cs : List Confirmation) : ConfirmTracker :=
  cs.foldl (fun t c => (t.settle c).tracker) t

theorem after_append (t : ConfirmTracker) (cs more : List Confirmation) :
    t.after (cs ++ more) = (t.after cs).after more :=
  List.foldl_append

theorem after_snoc (t : ConfirmTracker) (cs : List Confirmation) (c : Confirmation) :
    t.after (cs ++ [c]) = ((t.after cs).settle c).tracker :=
  t.after_append cs [c]

theorem after_poisoned {t : ConfirmTracker} (poisoned : t.poisoned = true)
    (cs : List Confirmation) : t.after cs = t := by
  induction cs with
  | nil => rfl
  | cons c cs ih =>
    rw [after, List.foldl_cons, settle_poisoned poisoned]
    exact ih

theorem after_inStep {wait : Nat} {cs : List Confirmation} (inStep : InStep wait cs) :
    after { wait } cs = { wait, nextTag := cs.length + 1 } := by
  induction cs using List.reverseRecOn with
  | nil => rfl
  | append_singleton cs c ih =>
    obtain ⟨before, last⟩ := inStep_snoc.mp inStep
    rw [after_snoc, ih before, (settle_inStep rfl c).2, last, List.length_append,
      List.length_singleton]

theorem after_fatal {wait : Nat} {before : List Confirmation} {lost : Confirmation}
    (inStep : InStep wait before) (fatal : isFatal wait (before.length + 1) lost = true)
    (later : List Confirmation) :
    after { wait } (before ++ lost :: later) =
      { wait, nextTag := before.length + 2, poisoned := true } := by
  rw [List.append_cons, after_append, after_snoc, after_inStep inStep, (settle_inStep rfl lost).2,
    fatal, after_poisoned rfl]

/-- `settle` after any confirmations on a new tracker. If those were `InStep`, the publish has the
next tag from one, `Answers` gives its result, and the tracker is poisoned iff the confirmation is
fatal. After the first fatal one, `settle` waits for nothing and changes nothing. -/
theorem settles_until_first_fatal (wait : Nat) (cs : List Confirmation) (c : Confirmation) :
    let t := after { wait } cs
    (t.poisoned = true ↔ ¬InStep wait cs) ∧
    (InStep wait cs → t.nextTag = cs.length + 1 ∧
      Answers wait (cs.length + 1) c (t.settle c).result ∧
      (t.settle c).tracker = ⟨wait, cs.length + 2, isFatal wait (cs.length + 1) c⟩) ∧
    (¬InStep wait cs → ∃ before lost later, cs = before ++ lost :: later ∧ InStep wait before ∧
      isFatal wait (before.length + 1) lost = true ∧ t.nextTag = (before ++ [lost]).length + 1 ∧
      t.settle c = ⟨.error outOfSync, t, 0, []⟩) := by
  intro t
  rcases inStep_or_first_fatal wait cs with inStep | ⟨before, lost, later, rfl, inStep, fatal⟩
  · have state : t = { wait, nextTag := cs.length + 1 } := after_inStep inStep
    refine ⟨?_, fun _ => ?_, fun out => absurd inStep out⟩
    · rw [state]
      simp [inStep]
    · rw [state]
      exact ⟨rfl, settle_inStep (t := { wait, nextTag := cs.length + 1 }) rfl c⟩
  · have state : t = { wait, nextTag := before.length + 2, poisoned := true } :=
      after_fatal inStep fatal later
    have out : ¬InStep wait (before ++ lost :: later) := fun all => by
      have here := all before.length (by simp)
      rw [List.getElem_append_right (Nat.le_refl _)] at here
      simp only [Nat.sub_self, List.getElem_cons_zero] at here
      rw [fatal] at here
      exact Bool.noConfusion here
    refine ⟨?_, fun all => absurd all out, fun _ => ⟨before, lost, later, rfl, inStep, fatal, ?_, ?_⟩⟩
    · rw [state]
      simp [out]
    · rw [state, List.length_append, List.length_singleton]
    · exact settle_poisoned (by rw [state]) c

/-- A confirmation at the end of the wait and a refusal keep the third publish in step. The
confirmation of another tag poisons the tracker for all that follow. -/
theorem settles_until_first_fatal_astray :
    let sound : List Confirmation := [some (20, .confirmed 1 true), some (0, .confirmed 2 false)]
    let astray : Confirmation := some (5, .confirmed 7 false)
    ((after { wait := 20 } sound).settle astray).result = .error (.outOfSequence 3 7) ∧
      (after { wait := 20 } (sound ++ [astray])).settle (some (0, .confirmed 3 true)) =
        ⟨.error outOfSync, after { wait := 20 } (sound ++ [astray]), 0, []⟩ := by
  intro sound astray
  have inStep : InStep 20 sound := by
    unfold InStep
    decide
  have out : ¬InStep 20 (sound ++ [astray]) := by
    unfold InStep
    decide
  obtain ⟨-, answered, -⟩ := (settles_until_first_fatal 20 sound astray).2.1 inStep
  obtain ⟨_, _, _, _, _, _, _, refused⟩ :=
    (settles_until_first_fatal 20 (sound ++ [astray]) (some (0, .confirmed 3 true))).2.2 out
  refine ⟨?_, refused⟩
  have other : ∀ r, Answers 20 3 (some (5, .confirmed 7 false)) r → r = .error (.outOfSequence 3 7) := by
    rintro _ (_ | _ | _ | _ | late)
    · rfl
    · exact absurd late (by decide)
  exact other _ answered

end RoomRelay.ConfirmTracker
