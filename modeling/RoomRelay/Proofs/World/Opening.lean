import RoomRelay.Proofs.Broker.Table
import RoomRelay.Proofs.Relay.Life
import RoomRelay.Proofs.World.Drive

/-!
The opening of a relay as one operation. While nobody else acts it is `Broker.opened`: a session, a
subscription and a publish, each of which is given back if a later one fails.
-/

namespace RoomRelay

/-- Whoever waits for a delivery still does, and publishes are planned as before. -/
structure Broker.Undisturbed {β : Type} [Broker β] (b b' : β) : Prop where
  plan : ∀ key, Broker.planPublish b' key = Broker.planPublish b key
  pending : ∀ sub, (Broker.receive b sub).1 = .pending → (Broker.receive b' sub).1 = .pending

/-- Nothing goes on in the background, and `openSession` and `subscribe` leave all others
`Undisturbed`. -/
structure Broker.IsCalm (β : Type) [Broker β] : Prop where
  settled : ∀ b : β, Broker.settle b = b
  opens : ∀ b : β, Undisturbed b (Broker.openSession b).2
  subscribes : ∀ (b : β) (session : Nat) (pattern : Key) (subscriber : String),
    Undisturbed b (Broker.subscribe b session pattern subscriber).2

namespace Broker

variable {β : Type} [Broker β]

/-! ### What a relay that opens asks for

Each of the three says what is asked for from there on if nobody else asks for anything meanwhile. -/

/-- The join of an opening; if it fails the subscription and the session are given back. -/
def joined (b : β) (session sub : Nat) (user room : String) (at_ : Int64) :
    Except BrokerError Unit × β :=
  match publish b (planPublish b (.event room user .userJoined)) session
    (.event room user .userJoined) (Event.encode ⟨at_, user, room, .userJoined⟩) with
  | (.error e, b, _) => (.error e, closeSession (cancel b sub) session)
  | (.ok (), b, _) => (.ok (), b)

def subscribed (b : β) (session : Nat) (user room : String) (at_ : Int64) :
    Except BrokerError Unit × β :=
  match subscribe b session (Key.roomPattern room) user with
  | (.error e, b) => (.error e, closeSession b session)
  | (.ok sub, b) => joined b session sub user room at_

def opened (b : β) (user room : String) (at_ : Int64) : Except BrokerError Unit × β :=
  match openSession b with
  | (.error e, b) => (.error e, b)
  | (.ok session, b) => subscribed b session user room at_

variable {b b₁ b₂ b₃ : β} {session sub : Nat} {user room : String} {at_ : Int64} {e : BrokerError}
  {ns : List Notice}

theorem opened_no_session (opens : openSession b = (.error e, b₁)) :
    opened b user room at_ = (.error e, b₁) := by
  simp only [opened, opens]

variable (opens : openSession b = (.ok session, b₁))
include opens

theorem opened_no_subscription
    (subscribes : subscribe b₁ session (Key.roomPattern room) user = (.error e, b₂)) :
    opened b user room at_ = (.error e, closeSession b₂ session) := by
  simp only [opened, opens, subscribed, subscribes]

variable (subscribes : subscribe b₁ session (Key.roomPattern room) user = (.ok sub, b₂))
include subscribes

theorem opened_no_join
    (joins : publish b₂ (planPublish b₂ (.event room user .userJoined)) session
      (.event room user .userJoined) (Event.encode ⟨at_, user, room, .userJoined⟩) =
        (.error e, b₃, ns)) :
    opened b user room at_ = (.error e, closeSession (cancel b₃ sub) session) := by
  simp only [opened, opens, subscribed, subscribes, joined, joins]

theorem opened_joined
    (joins : publish b₂ (planPublish b₂ (.event room user .userJoined)) session
      (.event room user .userJoined) (Event.encode ⟨at_, user, room, .userJoined⟩) =
        (.ok (), b₃, ns)) :
    opened b user room at_ = (.ok (), b₃) := by
  simp only [opened, opens, subscribed, subscribes, joined, joins]

end Broker

namespace World

variable {β : Type}

/-- Task `i` is the relay `r`, on which no stream and no publish is under way. -/
structure Stage (w : World β) (i : Nat) (r : Relay) (b : β) (clock : Int64) : Prop where
  task : w.tasks[i]? = some ⟨.relay r ⟨0, [], false⟩, none⟩
  broker : w.broker = b
  clock : w.clock = clock

theorem stage_reply {w : World β} {i : Nat} (known : i < w.tasks.length) (r : Relay)
    (reply : Reply) :
    Stage (w.reply i (.relay r ⟨0, [], false⟩) reply) i (r.resume w.clock reply).1 w.broker
      (w.clock + 1) :=
  ⟨List.getElem?_set_self known, rfl, rfl⟩

variable [Broker β]

/-! ### Waiting while nothing happens -/

/-- No task can step before `time`. -/
def IsStill (w : World β) (time : Nat) : Prop :=
  w.now < time → (∀ j, w.step j = none) ∧
    ∀ (j : Nat) (work : Work) (u : Underway), w.tasks[j]? = some ⟨work, some u⟩ → time ≤ u.due

def IsStillBeside (w : World β) (i time : Nat) : Prop :=
  w.now < time → ∀ j, j ≠ i → w.step j = none ∧
    ∀ (work : Work) (u : Underway), w.tasks[j]? = some ⟨work, some u⟩ → time ≤ u.due

/-- Only task `i` and the broker went on, and the others are `Undisturbed`. -/
structure Beside (i : Nat) (w w' : World β) : Prop where
  broker : Broker.Undisturbed w.broker w'.broker
  tasks : ∀ j, j ≠ i → w'.tasks[j]? = w.tasks[j]?
  now : w'.now = w.now
  stopping : w'.stopping = w.stopping

theorem Beside.step {i j : Nat} {w w' : World β} (beside : Beside i w w') (other : j ≠ i)
    (waits : w.step j = none) : w'.step j = none := by
  obtain ⟨⟨-, pending⟩, tasks, now, stopping⟩ := beside
  unfold World.step at waits ⊢
  rw [tasks j other, now]
  cases found : w.tasks[j]? with
  | none => rfl
  | some t =>
    obtain ⟨work, underway⟩ := t
    rw [found] at waits
    cases underway with
    | some u =>
      simp only at waits ⊢
      split at waits
      · cases waits
      · rename_i early
        rw [if_neg early]
    | none =>
      cases act : work.act with
      | rest => simp only [act]
      | offer item =>
        simp only [act, Option.map_eq_none_iff] at waits ⊢
        exact waits
      | listen sub =>
        simp only [act, Option.map_eq_none_iff, Signal.hear_eq_none, stopping] at waits ⊢
        exact ⟨waits.1, waits.2.1, pending sub waits.2.2⟩
      | publish session e =>
        simp only [act] at waits
        repeat' split at waits
        all_goals cases waits
      | openSession | subscribe | count | cancel | closeSession =>
        simp only [act] at waits
        cases waits

theorem IsStillBeside.trans {i time : Nat} {w w' : World β} (still : w.IsStillBeside i time)
    (beside : Beside i w w') : w'.IsStillBeside i time := by
  intro later j other
  obtain ⟨waits, due⟩ := still (beside.now ▸ later) j other
  refine ⟨beside.step other waits, fun work u found => due work u ?_⟩
  rw [← beside.tasks j other, found]

theorem runTask_idle {w : World β} {j : Nat} (waits : w.step j = none) (bound : Nat) :
    w.runTask j bound = (false, w) := by
  cases bound with
  | zero => rfl
  | succ bound => rw [runTask, waits]

theorem runAll_idle {w : World β} (waits : ∀ j, w.step j = none) (bound : Nat) :
    w.runAll bound = (false, w) := by
  unfold runAll
  generalize w.order = js
  induction js with
  | nil => rfl
  | cons j js ih =>
    rw [List.foldl_cons]
    simp only [runTask_idle (waits j) bound, Bool.or_self]
    exact ih

theorem settle_idle {w : World β} (settled : ∀ b : β, Broker.settle b = b)
    (waits : ∀ j, w.step j = none) : w.settle = w := by
  have turns : w.turns (w.stepBound + 1) (w.stepBound + 1) = w := by
    rw [World.turns, runAll_idle waits]
  rw [settle, turns, onBroker, settled]

/-- If all other tasks are still, `waitUntil` changes nothing but the time. -/
theorem waitUntil_still {w : World β} {i : Nat} {work : Work} {u : Underway}
    (settled : ∀ b : β, Broker.settle b = b) (found : w.tasks[i]? = some ⟨work, some u⟩)
    (later : w.now < u.due) (still : w.IsStillBeside i u.due) :
    w.waitUntil u.due = { w with now := u.due } := by
  have waits : ∀ j, w.step j = none := by
    intro j
    by_cases own : j = i
    · rw [own, World.step, found]
      simp only [if_neg (Nat.not_le.mpr later)]
    · exact (still later j own).1
  have last : ∀ due, w.nextDue = some due → u.due ≤ due := by
    intro due next
    obtain ⟨t, member, due_of⟩ := List.mem_filterMap.mp (List.min?_mem next)
    obtain ⟨j, present⟩ := List.getElem?_of_mem member
    obtain ⟨u', underway, rfl⟩ := Option.map_eq_some_iff.mp due_of
    by_cases own : j = i
    · rw [own, found] at present
      obtain rfl := Option.some.inj present
      obtain rfl := Option.some.inj underway
      exact Nat.le_refl _
    · exact (still later j own).2 t.work u' (by rw [present, ← underway])
  unfold waitUntil
  rw [if_neg (Nat.not_le.mpr later), runBefore, settle_idle settled waits]
  split
  · rename_i due next
    rw [if_neg (Nat.not_lt.mpr (last due next))]
  · rfl

/-! ### The steps of a relay that opens -/

/-- The reply to an act that needs nothing but the broker. -/
def answer? (b : β) : Act → Option (Reply × β)
  | .openSession => some (.session (Broker.openSession b).1, (Broker.openSession b).2)
  | .subscribe session pattern subscriber =>
    some (.subscription (Broker.subscribe b session pattern subscriber).1,
      (Broker.subscribe b session pattern subscriber).2)
  | .cancel sub => some (.done, Broker.cancel b sub)
  | .closeSession session => some (.done, Broker.closeSession b session)
  | _ => none

variable {w : World β} {i n : Nat} {r : Relay} {b b' b'' : β} {clock : Int64} {phase : Relay.Phase}

theorem Stage.answered {reply : Reply} (stage : Stage w i r b clock)
    (answered : answer? b r.act = some (reply, b')) :
    ∃ w', w.step i = some w' ∧ Stage w' i (r.resume clock reply).1 b' (clock + 1) ∧
      (Broker.Undisturbed b b' → Beside i w w') := by
  obtain ⟨found, rfl, rfl⟩ := stage
  have act : Work.act (.relay r ⟨0, [], false⟩) = r.act := rfl
  have known := (List.getElem?_eq_some_iff.mp found).1
  unfold World.step
  simp only [found, act]
  unfold answer? at answered
  split at answered
  case h_5 => cases answered
  all_goals
    rename_i asks
    cases answered
    simp only [asks]
    refine ⟨_, rfl, stage_reply ?known r _, fun undisturbed => ⟨undisturbed, ?others, rfl, rfl⟩⟩
    case known => exact known
    case others =>
      intro j other
      exact List.getElem?_set_ne (Ne.symm other)

theorem stage_finish (known : i < w.tasks.length) (r : Relay) (u : Underway) :
    Stage ((w.finish u).2.reply i (.relay r ⟨0, [], false⟩) (.published (w.finish u).1)) i
      (r.resume w.clock
        (.published (Broker.publish w.broker u.plan u.session u.key u.payload).1)).1
      (Broker.publish w.broker u.plan u.session u.key u.payload).2.1 (w.clock + 1) :=
  ⟨List.getElem?_set_self known, rfl, rfl⟩

/-- Driven for at least `steps`, task `i` comes to `phase` and leaves the broker `b`. -/
def Reaches (w : World β) (i steps : Nat) (phase : Relay.Phase) (b : β) : Prop :=
  ∀ fuel, steps ≤ fuel →
    ∃ r, (w.drive i Scope.anonymous fuel).2.relay? i = some r ∧ r.phase = phase ∧
      (w.drive i Scope.anonymous fuel).2.broker = b

theorem Reaches.mono {m : Nat} (reaches : Reaches w i n phase b) (fewer : n ≤ m) :
    Reaches w i m phase b :=
  fun fuel enough => reaches fuel (Nat.le_trans fewer enough)

theorem Stage.rests (stage : Stage w i r b clock) (rests : r.act = .rest) :
    Reaches w i 1 r.phase b := by
  intro fuel enough
  obtain ⟨fuel, rfl⟩ := Nat.exists_eq_add_of_le' enough
  have act : Work.act (.relay r ⟨0, [], false⟩) = .rest := rests
  have still : w.step i = none := by simp only [World.step, stage.task, act]
  rw [drive_rest _ fuel stage.task still]
  exact ⟨r, by simp only [relay?, stage.task], rfl, stage.broker⟩

theorem Stage.goes {reply : Reply} (stage : Stage w i r b clock)
    (answered : answer? b r.act = some (reply, b'))
    (next : ∀ w', Stage w' i (r.resume clock reply).1 b' (clock + 1) →
      (Broker.Undisturbed b b' → Beside i w w') → Reaches w' i n phase b'') :
    Reaches w i (n + 1) phase b'' := by
  obtain ⟨w', step, stage', beside⟩ := stage.answered answered
  intro fuel enough
  obtain ⟨fuel, rfl⟩ := Nat.exists_eq_add_of_le' enough
  rw [← Nat.add_assoc, drive_step _ _ stage.task step]
  exact next w' stage' beside _ (Nat.le_add_left n fuel)

theorem Stage.publishes {session : Nat} {e : Event} {key : Key} {payload : List UInt8}
    (stage : Stage w i r b clock) (asks : r.act = .publish session e)
    (message : e.message = .ok (key, payload)) (settled : ∀ b : β, Broker.settle b = b)
    (still : w.IsStillBeside i (w.now + (Broker.planPublish b key).delay))
    (next : ∀ w', Stage w' i (r.resume clock
          (.published (Broker.publish b (Broker.planPublish b key) session key payload).1)).1
        (Broker.publish b (Broker.planPublish b key) session key payload).2.1 (clock + 1) →
      Reaches w' i n phase b'') :
    Reaches w i (n + 2) phase b'' := by
  obtain ⟨found, rfl, rfl⟩ := stage
  have known := (List.getElem?_eq_some_iff.mp found).1
  have act : Work.act (.relay r ⟨0, [], false⟩) = .publish session e := asks
  let plan := Broker.planPublish w.broker key
  let u : Underway := ⟨w.now + plan.delay, plan, session, key, payload, w.begun⟩
  have begun : w.begin session e = .ok u := by
    rw [World.begin, message]
    rfl
  intro fuel enough
  obtain ⟨fuel, rfl⟩ := Nat.exists_eq_add_of_le' enough
  -- it ends in the step in which it begins, or in the next one, when its time has come
  by_cases prompt : plan.delay = 0
  · have step : w.step i =
        some ((w.finish u).2.reply i (.relay r ⟨0, [], false⟩) (.published (w.finish u).1)) := by
      simp only [World.step, found, act, begun, u, if_pos prompt]
    rw [← Nat.add_assoc, drive_step _ _ found step]
    exact next _ (stage_finish known r u) _ (by omega)
  · let w₁ := { w with begun := w.begun + 1 }.setTask i ⟨.relay r ⟨0, [], false⟩, some u⟩
    have step : w.step i = some w₁ := by
      simp only [World.step, found, act, begun, u, if_neg prompt, w₁]
    have waiting : w₁.tasks[i]? = some ⟨.relay r ⟨0, [], false⟩, some u⟩ :=
      List.getElem?_set_self known
    have beside : Beside i w w₁ := by
      refine ⟨⟨fun _ => rfl, fun _ => id⟩, fun j other => ?_, rfl, rfl⟩
      exact List.getElem?_set_ne (Ne.symm other)
    have later : w₁.now < u.due := Nat.lt_add_of_pos_right (Nat.pos_of_ne_zero prompt)
    have waited : w₁.waitUntil u.due = { w₁ with now := u.due } :=
      waitUntil_still settled waiting later (still.trans beside)
    let w₂ := { w₁ with now := u.due }
    have ends : (w₁.waitUntil u.due).step i =
        some ((w₂.finish u).2.reply i (.relay r ⟨0, [], false⟩) (.published (w₂.finish u).1)) := by
      rw [waited]
      simp only [World.step, waiting, Nat.le_refl, if_true, w₂]
    rw [← Nat.add_assoc, drive_step _ _ found step, drive_due _ waiting rfl ends]
    have known₂ : i < w₂.tasks.length := (List.getElem?_eq_some_iff.mp waiting).1
    exact next _ (stage_finish known₂ r u) _ (Nat.le_add_left n fuel)

/-! ### The whole opening -/

theorem Stage.abandons {e : Failure} (stage : Stage w i r b clock) (gives : r.phase = .abandoning e) :
    Reaches w i 2 (.refused e) (Broker.closeSession b r.session) := by
  refine stage.goes (by rw [Relay.act, gives]; rfl) fun w' stage' _ => ?_
  simp only [Relay.resume, gives] at stage'
  exact stage'.rests rfl

theorem Stage.withdraws {e : Failure} (stage : Stage w i r b clock) (gives : r.phase = .withdrawing e) :
    Reaches w i 3 (.refused e)
      (Broker.closeSession (Broker.cancel b r.subscription) r.session) := by
  refine stage.goes (by rw [Relay.act, gives]; rfl) fun w' stage' _ => ?_
  simp only [Relay.resume, gives] at stage'
  exact stage'.abandons rfl

def openedPhase : Except BrokerError Unit → Relay.Phase
  | .ok () => .joined
  | .error e => .refused (.broker e)

variable {user room : String}

theorem Stage.joins {session sub : Nat} {at_ : Int64} (settled : ∀ b : β, Broker.settle b = b)
    (stage : Stage w i
      { user, room, session, subscription := sub, phase := .joining ⟨at_, user, room, .userJoined⟩ }
      b clock)
    (still : w.IsStillBeside i
      (w.now + (Broker.planPublish b (.event room user .userJoined)).delay)) :
    Reaches w i 5 (openedPhase (Broker.joined b session sub user room at_).1)
      (Broker.joined b session sub user room at_).2 := by
  refine stage.publishes rfl rfl settled still fun w' stage' => ?_
  rw [Broker.joined]
  generalize Broker.publish b _ _ _ _ = joins at stage' ⊢
  obtain ⟨e | ⟨⟩, b', ns⟩ := joins
  · exact Stage.withdraws stage' rfl
  · exact (stage'.rests rfl).mono (by decide)

theorem Stage.subscribes {session : Nat} (calm : Broker.IsCalm β)
    (stage : Stage w i { user, room, session, phase := .subscribing } b clock)
    (still : w.IsStillBeside i
      (w.now + (Broker.planPublish b (.event room user .userJoined)).delay)) :
    Reaches w i 6 (openedPhase (Broker.subscribed b session user room clock).1)
      (Broker.subscribed b session user room clock).2 := by
  have undisturbed := calm.subscribes b session (Key.roomPattern room) user
  have answers : answer? b (Relay.act { user, room, session, phase := .subscribing }) =
      some (.subscription (Broker.subscribe b session (Key.roomPattern room) user).1,
        (Broker.subscribe b session (Key.roomPattern room) user).2) := rfl
  refine stage.goes answers fun w' stage' beside => ?_
  replace still := still.trans (beside undisturbed)
  rw [← undisturbed.plan, ← (beside undisturbed).now] at still
  rw [Broker.subscribed]
  generalize Broker.subscribe b session (Key.roomPattern room) user = subscribes at stage' still ⊢
  obtain ⟨e | sub, b'⟩ := subscribes
  · exact (Stage.abandons stage' rfl).mono (by decide)
  · exact Stage.joins calm.settled stage' still

theorem Stage.opens (calm : Broker.IsCalm β) (stage : Stage w i { user, room } b clock)
    (still : w.IsStillBeside i
      (w.now + (Broker.planPublish b (.event room user .userJoined)).delay)) :
    Reaches w i 7 (openedPhase (Broker.opened b user room (clock + 1)).1)
      (Broker.opened b user room (clock + 1)).2 := by
  have undisturbed := calm.opens b
  refine stage.goes rfl fun w' stage' beside => ?_
  replace still := still.trans (beside undisturbed)
  rw [← undisturbed.plan, ← (beside undisturbed).now] at still
  rw [Broker.opened]
  generalize Broker.openSession b = opens at stage' still ⊢
  obtain ⟨e | session, b'⟩ := opens
  · exact (stage'.rests rfl).mono (by decide)
  · exact Stage.subscribes calm stage' still

/-- `openRelay` is `Broker.opened` while nobody else acts. -/
theorem openRelay_alone (calm : Broker.IsCalm β) (w : World β) {scope : Scope} {user room : String}
    (known : scope.user = some user) (segment : Topic.isSegment room = true)
    (still : w.IsStill
      (w.now + (Broker.planPublish w.broker (.event room user .userJoined)).delay)) :
    (w.openRelay scope room).1 =
        (match (Broker.opened w.broker user room (w.clock + 1)).1 with
          | .ok () => .ok w.tasks.length
          | .error e => .error (.broker e)) ∧
      (w.openRelay scope room).2.broker = (Broker.opened w.broker user room (w.clock + 1)).2 := by
  let w₀ := (w.spawn (.relay { user, room } ⟨0, [], false⟩)).2
  have others : ∀ j, j ≠ w.tasks.length → w₀.tasks[j]? = w.tasks[j]? := by
    intro j other
    have grown : w₀.tasks.length = w.tasks.length + 1 := List.length_append
    rcases Nat.lt_or_gt_of_ne other with before | beyond
    · exact List.getElem?_append_left before
    · rw [List.getElem?_eq_none (by omega), List.getElem?_eq_none (by omega)]
  have beside : Beside w.tasks.length w w₀ := ⟨⟨fun _ => rfl, fun _ => id⟩, others, rfl, rfl⟩
  have stage : Stage w₀ w.tasks.length { user, room } w.broker w.clock :=
    ⟨List.getElem?_concat_length, rfl, rfl⟩
  have still₀ : w₀.IsStillBeside w.tasks.length _ :=
    IsStillBeside.trans (fun later j _ => ⟨(still later).1 j, (still later).2 j⟩) beside
  obtain ⟨r, found, phase, broker⟩ := stage.opens calm still₀ 16 (by decide)
  have bound : w₀.driveBound w.tasks.length = 16 := by
    rw [driveBound, stage.task]
    rfl
  have spawned : w.spawn (.relay { user, room } ⟨0, [], false⟩) = (w.tasks.length, w₀) := rfl
  rw [← bound] at found broker
  simp only [openRelay, Relay.start_of_user known segment, spawned, found, Option.map_some, phase]
  cases (Broker.opened w.broker user room (w.clock + 1)).1 <;> exact ⟨rfl, broker⟩

end World
end RoomRelay
