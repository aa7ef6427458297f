import RoomRelay.Broker.Mock
import RoomRelay.Proofs.Sending.Prefix
import RoomRelay.Proofs.World.Advance

/-!
A sending that is driven to its end, over any broker and beside any other calls. Only its own steps
change its task (`Stays`, `Lasts`); the others may step while it waits for a publish.
-/

namespace RoomRelay

namespace World

variable {β : Type}

/-- Task `i` is in a publish that is not yet due. -/
def Waits (i : Nat) (w : World β) : Prop :=
  ∃ work u, w.tasks[i]? = some ⟨work, some u⟩ ∧ w.now < u.due

def Stays (i : Nat) (w w' : World β) : Prop :=
  w'.tasks[i]? = w.tasks[i]? ∧ w'.now = w.now

theorem Stays.refl (i : Nat) (w : World β) : Stays i w w := ⟨rfl, rfl⟩

theorem Stays.trans {i : Nat} {w w' w'' : World β} (first : Stays i w w') (second : Stays i w' w'') :
    Stays i w w'' :=
  ⟨second.1.trans first.1, second.2.trans first.2⟩

theorem Waits.stays {i : Nat} {w w' : World β} (waits : Waits i w) (stays : Stays i w w') :
    Waits i w' := by
  obtain ⟨work, u, found, early⟩ := waits
  exact ⟨work, u, stays.1.trans found, by rw [stays.2]; exact early⟩

theorem reply_sending {w w' : World β} {i : Nat} {t : Task} (found : w.tasks[i]? = some t)
    (same : w'.tasks = w.tasks ∧ w'.clock = w.clock) (s : Sending) (r : Reply) :
    (w'.reply i (.sending s) r).tasks[i]? = some ⟨.sending (s.resume w.clock r), none⟩ := by
  obtain ⟨tasks, clock⟩ := same
  rw [← clock]
  rw [← tasks] at found
  exact List.getElem?_set_self (List.getElem?_eq_some_iff.mp found).1

theorem abandonedAt_early {scope : Scope} {now due time : Nat}
    (given : scope.abandonedAt now due = some time) : time < due := by
  unfold Scope.abandonedAt at given
  split at given
  · contradiction
  · split at given
    · contradiction
    · rename_i late
      obtain rfl := Option.some.inj given
      exact Nat.not_le.mp late

variable [Broker β]

/-! ### Waiting -/

theorem Waits.step {w : World β} {i : Nat} (waits : Waits i w) : w.step i = none := by
  obtain ⟨work, u, found, early⟩ := waits
  simp only [World.step, found, if_neg (Nat.not_le.mpr early)]

theorem step_stays {w w' : World β} {i j : Nat} (waits : Waits i w) (step : w.step j = some w') :
    Stays i w w' := by
  by_cases own : i = j
  · subst own
    rw [waits.step] at step
    contradiction
  · obtain ⟨now, t, tasks⟩ := step_frame step
    refine ⟨?_, now⟩
    rw [tasks, List.getElem?_set_ne (Ne.symm own)]

section Keeps

variable {P : World β → Prop}
  (keeps : ∀ {w w' : World β} {j : Nat}, P w → w.step j = some w' → P w')
include keeps

theorem runTask_keeps {w : World β} (holds : P w) (j fuel : Nat) : P (w.runTask j fuel).2 := by
  induction fuel generalizing w with
  | zero => exact holds
  | succ fuel ih =>
    rw [runTask]
    cases step : w.step j with
    | none => exact holds
    | some w' => exact ih (keeps holds step)

theorem runAll_keeps {w : World β} (holds : P w) (bound : Nat) : P (w.runAll bound).2 := by
  rw [runAll]
  generalize w.order = js, false = ran
  induction js generalizing w ran with
  | nil => exact holds
  | cons j js ih => exact ih (runTask_keeps keeps holds j bound) _

/-- `turns` keeps what every step keeps. -/
theorem turns_keeps {w : World β} (holds : P w) (bound fuel : Nat) : P (w.turns bound fuel) := by
  induction fuel generalizing w with
  | zero => exact holds
  | succ fuel ih =>
    have after := runAll_keeps keeps holds bound
    rw [World.turns]
    split
    · rename_i w' ran
      rw [ran] at after
      exact ih after
    · rename_i w' ran
      rw [ran] at after
      exact after

end Keeps

theorem settle_stays {w : World β} {i : Nat} (waits : Waits i w) : Stays i w w.settle :=
  turns_keeps (P := Stays i w) (fun stays step => stays.trans (step_stays (waits.stays stays) step))
    (.refl i w) _ _

section Lasts

/-- Kept by the steps of all other tasks and by the passing of time. -/
structure Lasts (i : Nat) (P : World β → Prop) : Prop where
  steps : ∀ {w w' : World β} {j : Nat}, j ≠ i → w.step j = some w' → P w → P w'
  ages : ∀ {w : World β} (time : Nat), P w → P { w with now := time }
  settles : ∀ {w : World β}, P w → P (w.onBroker Broker.settle)

variable {i time : Nat} {P : World β → Prop} {w : World β} {work : Work} {u : Underway}

theorem Lasts.settle (lasts : Lasts i P) (waits : Waits i w) (holds : P w) : P w.settle := by
  have all : Stays i w (w.turns (w.stepBound + 1) (w.stepBound + 1)) ∧
      P (w.turns (w.stepBound + 1) (w.stepBound + 1)) := by
    refine turns_keeps (P := fun w' => Stays i w w' ∧ P w') ?_ ⟨.refl i w, holds⟩ _ _
    rintro v v' j ⟨stays, holds⟩ step
    have waiting := waits.stays stays
    refine ⟨stays.trans (step_stays waiting step), lasts.steps ?_ step holds⟩
    rintro rfl
    rw [waiting.step] at step
    cases step
  exact lasts.settles all.2

theorem Lasts.runBefore (lasts : Lasts i P) (found : w.tasks[i]? = some ⟨work, some u⟩)
    (early : w.now < time) (due : time ≤ u.due) (holds : P w) (fuel : Nat) :
    P (w.runBefore time fuel) := by
  induction fuel generalizing w with
  | zero => exact holds
  | succ fuel ih =>
    have waits : Waits i w := ⟨work, u, found, Nat.lt_of_lt_of_le early due⟩
    have task := (settle_stays waits).1.trans found
    have settled := lasts.settle waits holds
    rw [World.runBefore]
    split
    · rename_i next _
      split
      · rename_i sooner
        exact ih task (Nat.max_lt.mpr ⟨early, sooner⟩) (lasts.ages _ settled)
      · exact settled
    · exact settled

theorem Lasts.waitUntil (lasts : Lasts i P) (found : w.tasks[i]? = some ⟨work, some u⟩)
    (due : time ≤ u.due) (holds : P w) : P (w.waitUntil time) := by
  unfold World.waitUntil
  split
  · exact holds
  · rename_i later
    exact lasts.ages time (lasts.runBefore found (Nat.not_le.mp later) due holds _)

theorem task_lasts (i : Nat) (t : Task) : Lasts i fun w : World β => w.tasks[i]? = some t where
  steps := by
    intro w w' j other step found
    obtain ⟨-, t', tasks⟩ := step_frame step
    rw [tasks, List.getElem?_set_ne other, found]
  ages := fun _ found => found
  settles := fun found => found

theorem waitUntil_task (found : w.tasks[i]? = some ⟨work, some u⟩) (due : time ≤ u.due) :
    (w.waitUntil time).tasks[i]? = some ⟨work, some u⟩ :=
  (task_lasts i _).waitUntil found due found

end Lasts

theorem now_waitUntil (w : World β) (time : Nat) : (w.waitUntil time).now = max w.now time := by
  unfold World.waitUntil
  split
  · rename_i past
    exact (Nat.max_eq_left past).symm
  · rename_i later
    exact (Nat.max_eq_right (Nat.le_of_not_le later)).symm

theorem le_now_waitUntil (w : World β) (time : Nat) : time ≤ (w.waitUntil time).now := by
  rw [now_waitUntil]
  exact Nat.le_max_right _ _

/-! ### What one task exchanges -/

/-- What task `i` exchanges with the broker from `w` on: its own steps, with the replies of the world,
and the times for which it waits. -/
inductive Trail (i : Nat) (w : World β) : List Exchange → World β → Prop where
  | start : Trail i w [] w
  | waits {log : List Exchange} {before : World β} (trail : Trail i w log before) (time : Nat)
      (same : (before.waitUntil time).tasks[i]? = before.tasks[i]?) :
      Trail i w log (before.waitUntil time)
  | begins {log : List Exchange} {before after : World β} {work : Work} {u : Underway}
      (trail : Trail i w log before) (found : before.tasks[i]? = some ⟨work, none⟩)
      (step : before.step i = some after) (begun : after.tasks[i]? = some ⟨work, some u⟩) :
      Trail i w log after
  | goes {log : List Exchange} {before after : World β} {work : Work} {u : Option Underway}
      {reply : Reply} (trail : Trail i w log before) (found : before.tasks[i]? = some ⟨work, u⟩)
      (step : before.step i = some after) (admitted : work.act.admits reply = true)
      (gone : after.tasks[i]? = some ⟨(work.resume before.clock reply).1, none⟩) :
      Trail i w (log ++ [⟨work.act, reply⟩]) after

theorem Trail.lives {i : Nat} {w last : World β} {log : List Exchange} {first : Sending}
    {u : Option Underway} (found : w.tasks[i]? = some ⟨.sending first, u⟩)
    (trail : Trail i w log last) :
    ∃ s u, last.tasks[i]? = some ⟨.sending s, u⟩ ∧ first.Lives log s := by
  induction trail with
  | start => exact ⟨first, u, found, .born⟩
  | waits _ time same ih =>
    obtain ⟨s, u, present, life⟩ := ih
    exact ⟨s, u, same.trans present, life⟩
  | begins _ here _ begun ih =>
    obtain ⟨s, u, present, life⟩ := ih
    obtain ⟨rfl, -⟩ := Task.mk.inj (Option.some.inj (here.symm.trans present))
    exact ⟨s, _, begun, life⟩
  | goes _ here _ admitted gone ih =>
    obtain ⟨s, u, present, life⟩ := ih
    obtain ⟨rfl, -⟩ := Task.mk.inj (Option.some.inj (here.symm.trans present))
    exact ⟨_, none, gone, life.goes _ _ admitted⟩

/-! ### Sendings -/

/-- A sending that is not at rest can take its next step at once. For a publish that takes time this
is only the beginning. -/
theorem step_sending {w : World β} {i : Nat} {s : Sending}
    (found : w.tasks[i]? = some ⟨.sending s, none⟩) (busy : s.act ≠ .rest) :
    ∃ after, w.step i = some after ∧
      ((∃ reply, s.act.admits reply = true ∧
          after.tasks[i]? = some ⟨.sending (s.resume w.clock reply), none⟩) ∨
        ∃ session e u, s.act = .publish session e ∧
          after.tasks[i]? = some ⟨.sending s, some u⟩) := by
  have act : Work.act (.sending s) = s.act := rfl
  cases phase : s.phase with
  | opening =>
    have asks : s.act = .openSession := by simp only [Sending.act, phase]
    simp only [World.step, found, act, asks]
    exact ⟨_, rfl, .inl ⟨.session _, rfl, reply_sending found ⟨rfl, rfl⟩ s _⟩⟩
  | publishing session at_ room rooms =>
    have asks : s.act = .publish session (s.event at_ room) := by simp only [Sending.act, phase]
    simp only [World.step, found, act, asks]
    split
    · exact ⟨_, rfl, .inl ⟨.published _, rfl, reply_sending found ⟨rfl, rfl⟩ s _⟩⟩
    · split
      · exact ⟨_, rfl, .inl ⟨.published _, rfl, reply_sending found ⟨rfl, rfl⟩ s _⟩⟩
      · rename_i u _ _
        refine ⟨_, rfl, .inr ⟨session, _, u, rfl, ?_⟩⟩
        exact List.getElem?_set_self (List.getElem?_eq_some_iff.mp found).1
  | closing session result =>
    have asks : s.act = .closeSession session := by simp only [Sending.act, phase]
    simp only [World.step, found, act, asks]
    exact ⟨_, rfl, .inl ⟨.done, rfl, reply_sending found ⟨rfl, rfl⟩ s _⟩⟩
  | «over» result =>
    refine absurd ?_ busy
    simp only [Sending.act, phase]

theorem step_due {w : World β} {i : Nat} {s : Sending} {u : Underway}
    (found : w.tasks[i]? = some ⟨.sending s, some u⟩) (due : u.due ≤ w.now) :
    ∃ after r, w.step i = some after ∧
      after.tasks[i]? = some ⟨.sending (s.resume w.clock (.published r)), none⟩ := by
  simp only [World.step, found, if_pos due]
  exact ⟨_, (w.finish u).1, rfl, reply_sending found ⟨rfl, rfl⟩ s _⟩

theorem step_rest {w : World β} {i : Nat} {s : Sending} {first : Signal}
    (found : w.tasks[i]? = some ⟨.sending s, none⟩) (rests : s.act = .rest) :
    w.step i first = none := by
  have act : Work.act (.sending s) = .rest := rests
  simp only [World.step, found, act]

/-- A bound on the steps that a sending still takes. -/
def toGo (s : Sending) (underway : Option Underway) : Nat :=
  match s.phase with
  | .opening => 2 * s.rooms.length + 2
  | .publishing _ _ _ rooms => 2 * rooms.length + if underway.isSome then 2 else 3
  | .closing .. => 1
  | .over _ => 0

theorem toGo_proceed (s : Sending) (session : Nat) (at_ : Int64) (rooms : List String) :
    toGo (s.proceed session at_ rooms) none ≤ 2 * rooms.length + 1 := by
  cases rooms with
  | nil => exact Nat.le_refl 1
  | cons room rooms =>
    simp only [Sending.proceed, toGo, Sending.enter, List.length_cons, Option.isSome_none,
      Bool.false_eq_true, if_false]
    omega

theorem toGo_resume {s : Sending} {reply : Reply} (admitted : s.act.admits reply = true)
    (now : Int64) (u : Option Underway) : toGo (s.resume now reply) none < toGo s u := by
  cases phase : s.phase with
  | opening =>
    cases reply <;> simp only [Sending.act, phase, Act.admits, reduceCtorEq] at admitted
    case session r =>
      cases r with
      | ok session =>
        have bound := toGo_proceed s session now s.rooms
        simp only [Sending.resume, phase]
        simp only [toGo, phase] at bound ⊢
        omega
      | error b =>
        simp only [Sending.resume, toGo, phase, Sending.enter]
        omega
  | publishing session at_ room rooms =>
    cases reply <;> simp only [Sending.act, phase, Act.admits, reduceCtorEq] at admitted
    case published r =>
      have left : 2 * rooms.length + 2 ≤ toGo s u := by
        simp only [toGo, phase]
        split <;> omega
      cases r with
      | ok _ =>
        have bound := toGo_proceed s session at_ rooms
        simp only [Sending.resume, phase]
        omega
      | error b =>
        simp only [Sending.resume, phase]
        have one : toGo (s.enter (.closing session (.error (.broker b)))) none = 1 := rfl
        omega
  | closing session result =>
    cases reply <;> simp only [Sending.act, phase, Act.admits, reduceCtorEq] at admitted
    case done =>
      simp only [Sending.resume, toGo, phase, Sending.enter]
      omega
  | «over» result =>
    simp only [Sending.act, phase] at admitted
    cases reply <;> cases admitted

theorem rest_of_toGo {s : Sending} (done : toGo s none = 0) : s.act = .rest := by
  cases phase : s.phase with
  | «over» result => simp only [Sending.act, phase]
  | opening | publishing | closing => simp [toGo, phase] at done

theorem drive_rest {w : World β} {i : Nat} {work : Work} (scope : Scope) (fuel : Nat)
    (found : w.tasks[i]? = some ⟨work, none⟩) (still : w.step i = none) :
    w.drive i scope (fuel + 1) = (true, w) := by
  rw [drive, found]
  simp only [Option.bind_some, still]

theorem drive_step {w after : World β} {i : Nat} {work : Work} (scope : Scope) (fuel : Nat)
    (found : w.tasks[i]? = some ⟨work, none⟩) (step : w.step i = some after) :
    w.drive i scope (fuel + 1) = after.drive i scope fuel := by
  rw [drive, found]
  simp only [Option.bind_some, step]

theorem drive_due {w after : World β} {i : Nat} {work : Work} {u : Underway} {scope : Scope}
    (fuel : Nat) (found : w.tasks[i]? = some ⟨work, some u⟩)
    (inTime : scope.abandonedAt w.now u.due = none) (step : (w.waitUntil u.due).step i = some after) :
    w.drive i scope (fuel + 1) = after.drive i scope fuel := by
  rw [drive, found]
  simp only [Option.bind_some, inTime, step]

theorem drive_late {w : World β} {i time : Nat} {work : Work} {u : Underway} {scope : Scope}
    (fuel : Nat) (found : w.tasks[i]? = some ⟨work, some u⟩)
    (late : scope.abandonedAt w.now u.due = some time) :
    w.drive i scope (fuel + 1) = (false, w.waitUntil time) := by
  rw [drive, found]
  simp only [Option.bind_some, late]

theorem driven {first last : World β} {i : Nat} {log : List Exchange} (scope : Scope) {s : Sending}
    {u : Option Underway} (trail : Trail i first log last)
    (found : last.tasks[i]? = some ⟨.sending s, u⟩)
    (publishes : u.isSome = true → ∃ session e, s.act = .publish session e) {fuel : Nat}
    (enough : toGo s u ≤ fuel) :
    ∃ log s u, Trail i first log (last.drive i scope fuel).2 ∧
      (last.drive i scope fuel).2.tasks[i]? = some ⟨.sending s, u⟩ ∧
        if (last.drive i scope fuel).1 then s.act = .rest else s.act ≠ .rest := by
  have idle : ∀ {s : Sending}, (none : Option Underway).isSome = true →
      ∃ session e, s.act = .publish session e := fun some_ => absurd some_ Bool.false_ne_true
  induction fuel generalizing last log s u with
  | zero =>
    have none : u = none := by
      cases u with
      | none => rfl
      | some u =>
        obtain ⟨session, e, act⟩ := publishes rfl
        cases phase : s.phase <;> simp [toGo, phase, Sending.act] at enough act
    subst none
    exact ⟨log, s, .none, trail, found, rest_of_toGo (Nat.le_zero.mp enough)⟩
  | succ fuel ih =>
    cases u with
    | none =>
      by_cases rests : s.act = .rest
      · rw [drive_rest scope fuel found (step_rest found rests)]
        exact ⟨log, s, none, trail, found, rests⟩
      · obtain ⟨after, step, next⟩ := step_sending found rests
        rw [drive_step scope fuel found step]
        rcases next with ⟨reply, admitted, gone⟩ | ⟨session, e, u, asks, begun⟩
        · have fewer := toGo_resume admitted last.clock none
          exact ih (trail.goes found step admitted gone) gone idle (by omega)
        · have fewer : toGo s (some u) < toGo s none := by
            cases phase : s.phase <;> simp [toGo, phase, Sending.act] at asks ⊢
          exact ih (trail.begins found step begun) begun (fun _ => ⟨session, e, asks⟩) (by omega)
    | some u =>
      obtain ⟨session, e, asks⟩ := publishes rfl
      cases given : scope.abandonedAt last.now u.due with
      | some time =>
        have same := waitUntil_task found (Nat.le_of_lt (abandonedAt_early given))
        rw [drive_late fuel found given]
        refine ⟨log, s, some u, trail.waits time (same.trans found.symm), same, ?_⟩
        rw [asks]
        intro rests
        cases rests
      | none =>
        have same := waitUntil_task found (Nat.le_refl u.due)
        have waited := trail.waits u.due (same.trans found.symm)
        obtain ⟨after, r, step, gone⟩ := step_due same (le_now_waitUntil last u.due)
        have admitted : s.act.admits (.published r) = true := by
          rw [asks]
          rfl
        have fewer := toGo_resume admitted (last.waitUntil u.due).clock (some u)
        rw [drive_due fuel found given step]
        exact ih (waited.goes same step admitted gone) gone idle (by omega)

end World

namespace Service

variable {β : Type} [Broker β]

/-- An accepted call from `w` to `w'`: the log of its task is a `Trail` and has one of the `Ends` of
its sending. -/
structure Sends (first : Sending) (w w' : World β) (log : List Exchange) (pending : Option Act)
    (answer : Except Failure Unit) : Prop where
  ends : first.Ends log pending answer
  trail : ∃ last, World.Trail w.tasks.length (w.spawn (.sending first)).2 log last ∧
    w' = if pending.isSome then last.abandon w.tasks.length else last

theorem start_forbidden {headers : Headers} {why : Forbidden} (unknown : headers.identity = .error why)
    (req : SendRequest) (policy : StatusPolicy) (now limit : Nat) :
    Sending.start headers req policy now limit = .error (.forbidden why) := by
  simp [Sending.start, Scope.prepare, unknown, Except.map]

theorem start_rejected {headers : Headers} {req : SendRequest} {policy : StatusPolicy} {user : String}
    {why : BadRequest} (known : headers.identity = .ok user)
    (broken : req.validate user policy = .error why) (now limit : Nat) :
    Sending.start headers req policy now limit = .error (.badRequest why) := by
  simp [Sending.start, Scope.prepare, Scope.requireUser, known, broken, Except.map]

theorem start_accepted {headers : Headers} {req : SendRequest} {policy : StatusPolicy} {user : String}
    {payload : Payload} (known : headers.identity = .ok user)
    (valid : req.validate user policy = .ok payload) (now limit : Nat) :
    ∃ scope, Sending.start headers req policy now limit =
      .ok (scope, { user, rooms := req.rooms, payload }) := by
  simp [Sending.start, Scope.prepare, Scope.requireUser, known, valid, Except.map]

theorem over_of_rest {s : Sending} (rests : s.act = .rest) : ∃ answer, s.phase = .over answer := by
  cases phase : s.phase with
  | «over» answer => exact ⟨answer, rfl⟩
  | opening | publishing | closing =>
    simp only [Sending.act, phase] at rests
    cases rests

theorem sendEvent_drives {svc : Service} {w : World β} {headers : Headers} {req : SendRequest} {scope : Scope}
    {s : Sending} (start : Sending.start headers req svc.policy w.now svc.callLimit = .ok (scope, s)) :
    let spawned := (w.spawn (.sending s)).2
    svc.sendEvent w headers req =
      match spawned.drive w.tasks.length scope (spawned.driveBound w.tasks.length) with
      | (false, w') => (.error .deadlineExceeded, w'.abandon w.tasks.length)
      | (true, w') => ((w'.result? w.tasks.length).getD (.ok ()), w') := by
  rw [sendEvent, start]
  rfl

theorem sendEvent_sends (svc : Service) (w : World β) {headers : Headers} {req : SendRequest}
    {user : String} {payload : Payload} (known : headers.identity = .ok user)
    (valid : req.validate user svc.policy = .ok payload) :
    ∃ log pending, Sends { user, rooms := req.rooms, payload } w (svc.sendEvent w headers req).2
      log pending (svc.sendEvent w headers req).1 := by
  obtain ⟨scope, start⟩ := start_accepted known valid w.now svc.callLimit
  let first : Sending := { user, rooms := req.rooms, payload }
  let spawned := (w.spawn (.sending first)).2
  have found : spawned.tasks[w.tasks.length]? = some ⟨.sending first, none⟩ :=
    List.getElem?_concat_length
  have enough : World.toGo first none ≤ spawned.driveBound w.tasks.length := by
    simp only [World.driveBound, found, Option.map_some, Option.getD_some, Work.stepBound,
      Sending.stepBound, Sending.publishesLeft, World.toGo, first]
    omega
  obtain ⟨log, s, u, trail, present, outcome⟩ := World.driven scope .start found
    (fun some_ => absurd some_ Bool.false_ne_true) enough
  obtain ⟨s', u', same, life⟩ := trail.lives found
  obtain ⟨⟨rfl⟩, -⟩ := Task.mk.inj (Option.some.inj (same.symm.trans present))
  rw [sendEvent_drives start]
  generalize spawned.drive w.tasks.length scope (spawned.driveBound w.tasks.length) = driven at *
  obtain ⟨finished, last⟩ := driven
  cases finished with
  | false => exact ⟨log, some s.act, .abandoned life outcome, last, trail, rfl⟩
  | true =>
    obtain ⟨answer, done⟩ := over_of_rest outcome
    refine ⟨log, none, ?_, last, trail, rfl⟩
    simp only [World.result?, present, Sending.result?, done, Option.getD_some]
    exact .answered life done

/-- A call whose caller or request is refused leaves the world as it was. Any other exchanges with its
broker what an `Ends` of its sending describes; whatever the broker replies, and wherever the call is
given up, it asks for one session, publishes the same event on it to a prefix of its rooms, and closes
it. -/
theorem sendEvent_publishes_prefix (svc : Service) (w : World β) (headers : Headers)
    (req : SendRequest) :
    match headers.identity with
    | .error why => svc.sendEvent w headers req = (.error (.forbidden why), w)
    | .ok user =>
      match req.validate user svc.policy with
      | .error why => svc.sendEvent w headers req = (.error (.badRequest why), w)
      | .ok payload =>
        let first : Sending := { user, rooms := req.rooms, payload }
        (∃ log pending, Sends first w (svc.sendEvent w headers req).2 log pending
          (svc.sendEvent w headers req).1) ∧
        (∀ log pending answer, first.Ends log pending answer →
          (Sending.asked log pending = [.openSession] ∧ answer ≠ .ok ()) ∨
            ∃ session at_ tried closes,
              first.Attempts log pending answer session at_ tried closes ∧ tried.Nodup) ∧
        ∃ kind, payload.kind? = some kind ∧ ∀ at_ room, ∃ bytes,
          (first.event at_ room).message = .ok (.event room user kind, bytes) ∧
            (bytes.length < Word.size64 → ∃ record, Wire.Event.decode? bytes = some record ∧
              record.toDomain = .ok ⟨at_, user, room, payload⟩) := by
  cases known : headers.identity with
  | error why => simp only [sendEvent, start_forbidden known]
  | ok user =>
    cases valid : req.validate user svc.policy with
    | error why => simp only [valid, sendEvent, start_rejected known valid]
    | ok payload =>
      have accepted := SendRequest.accepted_of_validate valid
      obtain ⟨kind, publishable⟩ := accepted.publishable
      simp only [valid]
      refine ⟨sendEvent_sends svc w known valid, ?attempts, kind, publishable, ?messages⟩
      case attempts =>
        intro log pending answer ends
        rcases ends.attempts rfl with unopened | ⟨session, at_, tried, closes, attempts⟩
        · exact .inl unopened
        · have once := attempts.in_order.sublist.nodup accepted.once
          exact .inr ⟨session, at_, tried, closes, attempts, once⟩
      case messages =>
        intro at_ room
        refine ⟨_, by simp only [Event.message, Event.key?, Sending.event, publishable]; rfl, ?_⟩
        intro short
        have fits := Wire.Event.fits_of_length short
        refine ⟨_, ?_, Wire.toDomain_ofDomain _⟩
        rw [Event.encode, Wire.Event.decode?_encode, if_pos fits]

theorem sendEvent_publishes_prefix_three_rooms :
    let headers : Headers := [("x-user", [97, 110, 110])]
    let req : SendRequest := { event := some { joined := true }, rooms := ["a", "b", "c"] }
    let w : World Mock := { broker := { publishDelay := some 100 }, clock := 7 }
    (sendEvent { policy := .allow } w headers req).1 = .ok () ∧
      ∃ log session at_, Sending.asked log none = [.openSession,
        .publish session ⟨at_, "ann", "a", .userJoined⟩,
        .publish session ⟨at_, "ann", "b", .userJoined⟩,
        .publish session ⟨at_, "ann", "c", .userJoined⟩, .closeSession session] := by
  intro headers req w
  have known : headers.identity = .ok "ann" := by decide
  have valid : req.validate "ann" .allow = .ok .userJoined := by decide
  have answer : (sendEvent { policy := .allow } w headers req).1 = .ok () := by decide +kernel
  have all := sendEvent_publishes_prefix { policy := .allow } w headers req
  simp only [known, valid] at all
  obtain ⟨⟨log, pending, sends⟩, attempts, -⟩ := all
  refine ⟨answer, ?_⟩
  have ends := sends.ends
  rw [answer] at ends
  rcases attempts log pending _ ends with ⟨-, failed⟩ | ⟨session, at_, tried, closes, made, -⟩
  · exact absurd rfl failed
  · obtain ⟨rfl, -⟩ := made.complete rfl
    obtain rfl : pending = none := by
      cases ends
      rfl
    rcases made.closes_once with rfl | ⟨-, given_up⟩
    · exact ⟨log, session, at_, made.asks⟩
    · exact absurd rfl given_up

end Service
end RoomRelay
