import RoomRelay.Proofs.World.Neighbours

/-!
A sending over a mock whose publishes take a fixed delay. The time of each copy is known when the call
begins, and a call that runs out of time has published what fits and never publishes again.
-/

namespace RoomRelay

def timetable (start delay : Nat) (ds : List Delivery) : List (Nat × Delivery) :=
  ds.mapIdx fun j d => (start + (j + 1) * delay, d)

theorem timetable_cons (start delay : Nat) (d : Delivery) (ds : List Delivery) :
    timetable start delay (d :: ds) = (start + delay, d) :: timetable (start + delay) delay ds := by
  have later : ∀ j, start + (j + 1 + 1) * delay = start + delay + (j + 1) * delay := by
    intro j
    rw [Nat.add_mul (j + 1), Nat.one_mul, Nat.add_comm ((j + 1) * delay), Nat.add_assoc]
  simp only [timetable, List.mapIdx_cons, later, Nat.zero_add, Nat.one_mul]

theorem timetable_deliveries (start delay : Nat) (ds : List Delivery) :
    (timetable start delay ds).map Prod.snd = ds := by
  induction ds generalizing start with
  | nil => rfl
  | cons d ds ih => rw [timetable_cons, List.map_cons, ih]

theorem Sending.proceed_proceed (s : Sending) (session session' : Nat) (at_ at_' : Int64)
    (rooms rooms' : List String) :
    (s.proceed session at_ rooms).proceed session' at_' rooms' = s.proceed session' at_' rooms' := by
  cases rooms <;> cases rooms' <;> rfl

def Sending.delivery (s : Sending) (kind : Kind) (at_ : Int64) (room : String) : Delivery :=
  ⟨(Key.event room s.user kind).encode, (s.event at_ room).encode⟩

namespace Mock

variable {m : Mock} {delay : Nat}

theorem Works.openSession_eq (works : m.Works delay) :
    m.openSession =
      (.ok m.channel.sessions.length, { m with channel := m.channel.openSession.2 }) := by
  rw [openSession, if_neg (Bool.eq_false_iff.mp works.opens), Channel.openSession,
    if_neg (Bool.eq_false_iff.mp works.running)]

theorem Works.plan_eq (works : m.Works delay) (key : Key) : m.planPublish key = ⟨delay, false⟩ := by
  have passes : m.failsKind key.kind = false := by
    unfold failsKind
    rw [works.kinds]
    split <;> rfl
  rw [planPublish, works.slow, works.publishes, passes]
  rfl

theorem Works.publish_eq (works : m.Works delay) {plan : PublishPlan} (passes : plan.refused = false)
    {session : Nat} (opened : m.channel.isOpen session = true) (key : Key) (payload : List UInt8) :
    (m.publish plan session key payload).1 = .ok () ∧
      (m.publish plan session key payload).2.1.published =
        m.published ++ [⟨key.encode, payload⟩] := by
  rw [publish, if_neg (Bool.eq_false_iff.mp passes), Channel.publish_eq_deliver opened,
    (Channel.deliver_open works.running _).1]
  exact ⟨rfl, rfl⟩

end Mock

namespace World

/-! ### A drive with its record -/

def entered (w w' : World Mock) : List (Nat × Delivery) :=
  (w'.broker.published.drop w.broker.published.length).map fun d => (w.now, d)

/-- `drive` with what the steps of the task itself enter in the record, and when. -/
def driveRecorded (w : World Mock) (i : Nat) (scope : Scope) :
    Nat → List (Nat × Delivery) × Bool × World Mock
  | 0 => ([], true, w)
  | fuel + 1 =>
    let go (w : World Mock) :=
      match w.step i with
      | some w' =>
        (entered w w' ++ (w'.driveRecorded i scope fuel).1, (w'.driveRecorded i scope fuel).2)
      | none => ([], true, w)
    match (w.tasks[i]?).bind Task.underway with
    | some u =>
      match scope.abandonedAt w.now u.due with
      | some time => ([], false, w.waitUntil time)
      | none => go (w.waitUntil u.due)
    | none => go w

theorem driveRecorded_drive (w : World Mock) (i : Nat) (scope : Scope) (fuel : Nat) :
    (w.driveRecorded i scope fuel).2 = w.drive i scope fuel := by
  induction fuel generalizing w with
  | zero => rfl
  | succ fuel ih =>
    rw [driveRecorded, drive]
    cases (w.tasks[i]?).bind Task.underway with
    | none =>
      cases step : w.step i with
      | none => simp only [step]
      | some w' => simp only [step, ih]
    | some u =>
      cases late : scope.abandonedAt w.now u.due with
      | some time => simp only [late]
      | none =>
        cases step : (w.waitUntil u.due).step i with
        | none => simp only [late, step]
        | some w' => simp only [late, step, ih]

/-! ### Steps of a sending that nothing fails -/

/-- Task `i` takes a step to `t`, by which `more` is entered in the record. -/
structure Takes (w w' : World Mock) (i : Nat) (t : Task) (more : List Delivery) : Prop where
  step : w.step i = some w'
  task : w'.tasks[i]? = some t
  now : w'.now = w.now
  record : w'.broker.published = w.broker.published ++ more

variable {w w' : World Mock} {i session delay : Nat} {s : Sending} {at_ : Int64} {room : String}
  {rooms : List String} {kind : Kind} {t : Task} {more : List Delivery}

theorem Takes.entered (takes : Takes w w' i t more) : entered w w' = more.map fun d => (w.now, d) := by
  rw [World.entered, takes.record, List.drop_left]

theorem alone_set {w' : World Mock} (tasks : w'.tasks = w.tasks.set i t)
    (alone : ∀ j t, j ≠ i → w.tasks[j]? = some t → t.work.call.session? ≠ some session) :
    ∀ j t, j ≠ i → w'.tasks[j]? = some t → t.work.call.session? ≠ some session := by
  intro j t' other found
  rw [tasks] at found
  rcases getElem?_set_cases found with ⟨here, -⟩ | ⟨-, before⟩
  · exact absurd here other
  · exact alone j t' other before

theorem takes_open (found : w.tasks[i]? = some ⟨.sending s, none⟩) (opening : s.phase = .opening)
    (works : w.broker.Works delay) (given : w.Given) :
    ∃ w', Takes w w' i
        ⟨.sending (s.proceed w.broker.channel.sessions.length w.clock s.rooms), none⟩ [] ∧
      w'.Reserves i w.broker.channel.sessions.length delay := by
  have act : Work.act (.sending s) = .openSession := by
    show s.act = _
    rw [Sending.act, opening]
  let w' := { w with broker := w.broker.openSession.2 }.reply i (.sending s)
    (.session w.broker.openSession.1)
  have step : w.step i = some w' := by
    simp only [World.step, found, act]
    rfl
  have opens := works.openSession_eq
  have next : s.resume w.clock (.session w.broker.openSession.1) =
      s.proceed w.broker.channel.sessions.length w.clock s.rooms := by
    unfold Sending.resume
    rw [opens, opening]
  refine ⟨w', ⟨step, ?_, rfl, ?_⟩, ?_, ?_, ?_⟩
  · rw [← next]
    exact reply_sending (w := w) found ⟨rfl, rfl⟩ s _
  · show w.broker.openSession.2.published = _
    rw [opens, List.append_nil]
  · exact works.frame (Mock.frame .openSession)
  · show w.broker.openSession.2.channel.isOpen _ = true
    rw [opens]
    show w.broker.channel.openSession.2.isOpen _ = true
    rw [Channel.isOpen_openSession works.running, decide_eq_true rfl, Bool.true_or]
  · refine alone_set (w := w) rfl fun j t _ present holds => ?_
    exact Nat.lt_irrefl _ (given t (List.mem_of_getElem? present) _ holds)

theorem takes_begin (found : w.tasks[i]? = some ⟨.sending s, none⟩)
    (publishing : s.phase = .publishing session at_ room rooms)
    (publishable : s.payload.kind? = some kind) (slow : 0 < delay)
    (reserves : w.Reserves i session delay) :
    ∃ w', Takes w w' i ⟨.sending s, some ⟨w.now + delay, ⟨delay, false⟩, session,
        .event room s.user kind, (s.event at_ room).encode, w.begun⟩⟩ [] ∧
      w'.Reserves i session delay := by
  have act : Work.act (.sending s) = .publish session (s.event at_ room) := by
    show s.act = _
    rw [Sending.act, publishing]
  have begun : w.begin session (s.event at_ room) = .ok ⟨w.now + delay, ⟨delay, false⟩, session,
      .event room s.user kind, (s.event at_ room).encode, w.begun⟩ := by
    have key : (s.event at_ room).key? = some (.event room s.user kind) := by
      rw [Event.key?, Sending.event, publishable]
      rfl
    have plan : Broker.planPublish w.broker (.event room s.user kind) = ⟨delay, false⟩ :=
      reserves.works.plan_eq _
    simp only [World.begin, Event.message, key, Except.map, plan]
  let u : Underway := ⟨w.now + delay, ⟨delay, false⟩, session, .event room s.user kind,
    (s.event at_ room).encode, w.begun⟩
  let w' := { w with begun := w.begun + 1 }.setTask i ⟨.sending s, some u⟩
  have step : w.step i = some w' := by
    have late : u.plan.delay ≠ 0 := Nat.ne_of_gt slow
    simp only [World.step, found, act, begun, if_neg late, u, w']
  refine ⟨w', ⟨step, ?_, rfl, (List.append_nil _).symm⟩, reserves.works, reserves.opened, ?_⟩
  · exact List.getElem?_set_self (List.getElem?_eq_some_iff.mp found).1
  · exact alone_set (w := w) rfl reserves.alone

theorem takes_publish {u : Underway} (found : w.tasks[i]? = some ⟨.sending s, some u⟩)
    (publishing : s.phase = .publishing session at_ room rooms) (due : u.due ≤ w.now)
    (passes : u.plan.refused = false) (own : u.session = session)
    (reserves : w.Reserves i session delay) :
    ∃ w', Takes w w' i ⟨.sending (s.proceed session at_ rooms), none⟩ [⟨u.key.encode, u.payload⟩] ∧
      w'.Reserves i session delay := by
  have opened : w.broker.channel.isOpen u.session = true := own ▸ reserves.opened
  obtain ⟨done, record⟩ := reserves.works.publish_eq passes opened u.key u.payload
  let w' := (w.finish u).2.reply i (.sending s) (.published (w.finish u).1)
  have step : w.step i = some w' := by simp only [World.step, found, if_pos due, w']
  have next : s.resume w.clock (.published (w.finish u).1) = s.proceed session at_ rooms := by
    have ok : (w.finish u).1 = .ok () := done
    unfold Sending.resume
    rw [ok, publishing]
  have served : Broker.Serves w.broker s.act (.published (w.finish u).1) w'.broker := .publish ..
  refine ⟨w', ⟨step, ?_, rfl, record⟩, ?_, ?_, ?_⟩
  · rw [← next]
    exact reply_sending found ⟨rfl, rfl⟩ s _
  · exact reserves.works.frame (Mock.frame served)
  · refine (Mock.frame served).isOpen ?_ reserves.opened
    simp [Sending.act, publishing]
  · exact alone_set (w := w) rfl reserves.alone

theorem takes_close {result : Except Failure Unit} (found : w.tasks[i]? = some ⟨.sending s, none⟩)
    (closing : s.phase = .closing session result) :
    ∃ w', Takes w w' i ⟨.sending (s.enter (.over result)), none⟩ [] := by
  have act : Work.act (.sending s) = .closeSession session := by
    show s.act = _
    rw [Sending.act, closing]
  let w' := (w.onBroker fun b => Broker.closeSession b session).reply i (.sending s) .done
  have step : w.step i = some w' := by simp only [World.step, found, act, w']
  have next : s.resume w.clock .done = s.enter (.over result) := by
    unfold Sending.resume
    rw [closing]
  refine ⟨w', step, ?_, rfl, (List.append_nil _).symm⟩
  rw [← next]
  exact reply_sending found ⟨rfl, rfl⟩ s _

/-! ### Driving it -/

variable {scope : Scope} {work : Work} {u : Underway}

theorem driveRecorded_step (fuel : Nat) (found : w.tasks[i]? = some ⟨work, none⟩)
    (takes : Takes w w' i t more) :
    w.driveRecorded i scope (fuel + 1) =
      ((more.map fun d => (w.now, d)) ++ (w'.driveRecorded i scope fuel).1,
        (w'.driveRecorded i scope fuel).2) := by
  rw [driveRecorded, found]
  simp only [Option.bind_some, takes.step, takes.entered]

theorem driveRecorded_due (fuel : Nat) (found : w.tasks[i]? = some ⟨work, some u⟩)
    (inTime : scope.abandonedAt w.now u.due = none) (takes : Takes (w.waitUntil u.due) w' i t more) :
    w.driveRecorded i scope (fuel + 1) =
      ((more.map fun d => ((w.waitUntil u.due).now, d)) ++ (w'.driveRecorded i scope fuel).1,
        (w'.driveRecorded i scope fuel).2) := by
  rw [driveRecorded, found]
  simp only [Option.bind_some, inTime, takes.step, takes.entered]

theorem driveRecorded_late {time : Nat} (fuel : Nat) (found : w.tasks[i]? = some ⟨work, some u⟩)
    (late : scope.abandonedAt w.now u.due = some time) :
    w.driveRecorded i scope (fuel + 1) = ([], false, w.waitUntil time) := by
  rw [driveRecorded, found]
  simp only [Option.bind_some, late]

theorem driveRecorded_rest (fuel : Nat) (found : w.tasks[i]? = some ⟨work, none⟩)
    (still : w.step i = none) : w.driveRecorded i scope fuel = ([], true, w) := by
  cases fuel with
  | zero => rfl
  | succ fuel =>
    rw [driveRecorded, found]
    simp only [Option.bind_some, still]

section Drive

variable {limit : Nat} (deadline : scope.deadline = some limit)
  (publishable : s.payload.kind? = some kind) (slow : 0 < delay)
  (found : w.tasks[i]? = some ⟨.sending (s.proceed session at_ (room :: rooms)), none⟩)
  (reserves : w.Reserves i session delay)
include deadline publishable slow found reserves

/-- A copy that is ready by the deadline is published. -/
theorem driveRecorded_copy (fits : w.now + delay ≤ limit) (fuel : Nat) :
    ∃ w' : World Mock, w'.tasks[i]? = some ⟨.sending (s.proceed session at_ rooms), none⟩ ∧
      w'.now = w.now + delay ∧ w'.Reserves i session delay ∧
      w.driveRecorded i scope (fuel + 2) =
        ((w.now + delay, s.delivery kind at_ room) :: (w'.driveRecorded i scope fuel).1,
          (w'.driveRecorded i scope fuel).2) := by
  obtain ⟨w₁, begins, reserves₁⟩ := takes_begin found rfl publishable slow reserves
  have ready : scope.abandonedAt w₁.now (w.now + delay) = none := by
    rw [Scope.abandonedAt, deadline]
    exact if_pos (Nat.le_trans fits (Nat.le_max_right _ _))
  have found₂ := waitUntil_task begins.task (Nat.le_refl _)
  have reserves₂ := (reserves_lasts i session delay).waitUntil begins.task (Nat.le_refl _) reserves₁
  have now₂ : (w₁.waitUntil (w.now + delay)).now = w.now + delay := by
    rw [now_waitUntil, begins.now]
    exact Nat.max_eq_right (Nat.le_add_right _ _)
  obtain ⟨w', publishes, reserves'⟩ :=
    takes_publish found₂ rfl (Nat.le_of_eq now₂.symm) rfl rfl reserves₂
  have task := publishes.task
  rw [Sending.proceed_proceed] at task
  refine ⟨w', task, publishes.now.trans now₂, reserves', ?_⟩
  rw [driveRecorded_step _ found begins, driveRecorded_due fuel begins.task ready publishes, now₂]
  rfl

/-- A copy that is not ready by the deadline is not published. -/
theorem driveRecorded_unready (inTime : w.now ≤ limit) (short : limit < w.now + delay) (fuel : Nat) :
    ∃ w', w.driveRecorded i scope (fuel + 2) = ([], false, w') ∧ w'.now = limit ∧
      ∃ s' u, w'.tasks[i]? = some ⟨.sending s', some u⟩ := by
  obtain ⟨w₁, begins, -⟩ := takes_begin found rfl publishable slow reserves
  have late : scope.abandonedAt w₁.now (w.now + delay) = some limit := by
    rw [Scope.abandonedAt, deadline, begins.now]
    show (if w.now + delay ≤ max w.now limit then none else some (max w.now limit)) = some limit
    rw [Nat.max_eq_right inTime, if_neg (Nat.not_le.mpr short)]
  refine ⟨w₁.waitUntil limit, ?_, ?_, _, _, waitUntil_task begins.task (Nat.le_of_lt short)⟩
  · rw [driveRecorded_step _ found begins, driveRecorded_late fuel begins.task late]
    rfl
  · rw [now_waitUntil, begins.now, Nat.max_eq_right inTime]

end Drive

/-- The drive of a sending with `rooms` left: it publishes as many copies as fit before `limit`, one
after each `delay`, and is over if these are all. -/
structure Paced (s : Sending) (kind : Kind) (at_ : Int64) (rooms : List String) (i now limit delay : Nat)
    (driven : List (Nat × Delivery) × Bool × World Mock) : Prop where
  record : driven.1 =
    timetable now delay ((rooms.map (s.delivery kind at_)).take ((limit - now) / delay))
  done : now + rooms.length * delay ≤ limit →
    driven.2.1 = true ∧ driven.2.2.now = now + rooms.length * delay ∧
      driven.2.2.tasks[i]? = some ⟨.sending (s.enter (.over (.ok ()))), none⟩
  late : limit < now + rooms.length * delay →
    driven.2.1 = false ∧ driven.2.2.now = limit ∧
      ∃ s' u, driven.2.2.tasks[i]? = some ⟨.sending s', some u⟩

/-- On a mock that `Works`, a sending keeps its pace from its next copy on. -/
theorem driveRecorded_paced {limit : Nat} (deadline : scope.deadline = some limit)
    (publishable : s.payload.kind? = some kind) (slow : 0 < delay) {fuel : Nat}
    (found : w.tasks[i]? = some ⟨.sending (s.proceed session at_ rooms), none⟩)
    (reserves : w.Reserves i session delay) (inTime : w.now ≤ limit)
    (enough : 2 * rooms.length + 1 ≤ fuel) :
    Paced s kind at_ rooms i w.now limit delay (w.driveRecorded i scope fuel) := by
  -- Over the rooms left: each takes two steps and leaves a session that nobody else has.
  induction rooms generalizing w fuel with
  | nil =>
    obtain ⟨fuel, rfl⟩ : ∃ m, fuel = m + 1 := Nat.exists_eq_add_of_le' enough
    obtain ⟨w', closes⟩ := takes_close found rfl
    have rests : w'.driveRecorded i scope fuel = ([], true, w') :=
      driveRecorded_rest fuel closes.task (step_rest closes.task rfl)
    have length : w.now + ([] : List String).length * delay = w.now := by
      rw [List.length_nil, Nat.zero_mul, Nat.add_zero]
    rw [driveRecorded_step fuel found closes, rests]
    refine ⟨?_, fun _ => ⟨rfl, closes.now.trans length.symm, closes.task⟩, fun late => ?_⟩
    · show [] = timetable w.now delay (List.take _ [])
      rw [List.take_nil]
      rfl
    · rw [length] at late
      exact absurd inTime (Nat.not_le.mpr late)
  | cons room rooms ih =>
    rw [List.length_cons] at enough
    obtain ⟨fuel, rfl⟩ : ∃ m, fuel = m + 2 := ⟨fuel - 2, by omega⟩
    have length : w.now + (room :: rooms).length * delay = w.now + delay + rooms.length * delay := by
      rw [List.length_cons, Nat.succ_mul]
      omega
    by_cases fits : w.now + delay ≤ limit
    · obtain ⟨w', found', now, reserves', driven⟩ :=
        driveRecorded_copy deadline publishable slow found reserves fits fuel
      have enough' : 2 * rooms.length + 1 ≤ fuel := by omega
      obtain ⟨record, done, late⟩ := ih found' reserves' (now ▸ fits) enough'
      rw [now] at record done late
      have one_more : (limit - w.now) / delay = (limit - (w.now + delay)) / delay + 1 := by
        rw [Nat.div_eq_sub_div slow (by omega), Nat.sub_sub]
      rw [driven]
      refine ⟨?_, length ▸ done, length ▸ late⟩
      rw [record, one_more, List.map_cons, List.take_succ_cons, timetable_cons]
    · have short := Nat.not_le.mp fits
      obtain ⟨w', driven, now, task⟩ :=
        driveRecorded_unready deadline publishable slow found reserves inTime short fuel
      rw [driven]
      refine ⟨?_, fun all => ?_, fun _ => ⟨rfl, now, task⟩⟩
      · rw [Nat.div_eq_of_lt (by omega), List.take_zero]
        rfl
      · rw [length] at all
        omega

theorem driveRecorded_opening {limit : Nat} (deadline : scope.deadline = some limit)
    (publishable : s.payload.kind? = some kind) (slow : 0 < delay)
    (found : w.tasks[i]? = some ⟨.sending s, none⟩) (opening : s.phase = .opening)
    (works : w.broker.Works delay) (given : w.Given) (inTime : w.now ≤ limit) {fuel : Nat}
    (enough : 2 * s.rooms.length + 2 ≤ fuel) :
    Paced s kind w.clock s.rooms i w.now limit delay (w.driveRecorded i scope fuel) := by
  obtain ⟨fuel, rfl⟩ : ∃ m, fuel = m + 1 := ⟨fuel - 1, by omega⟩
  obtain ⟨w', opens, reserves⟩ := takes_open found opening works given
  have paced : Paced s kind w.clock s.rooms i w'.now limit delay (w'.driveRecorded i scope fuel) :=
    driveRecorded_paced deadline publishable slow opens.task reserves (opens.now ▸ inTime)
      (Nat.le_of_succ_le_succ enough)
  rw [opens.now] at paced
  rw [driveRecorded_step fuel found opens]
  exact paced

/-! ### A call that nobody disturbs -/

theorem lone_lasts (published : List Delivery) :
    Lasts 0 fun w : World Mock => w.tasks.length = 1 ∧ w.broker.published = published where
  steps := by
    rintro w w' j other step ⟨length, -⟩
    have missing : w.tasks[j]? = none := List.getElem?_eq_none (by omega)
    simp only [World.step, missing] at step
    cases step
  ages := fun _ holds => holds
  settles := fun holds => holds

theorem entered_step (step : w.step i = some w') :
    w'.broker.published = w.broker.published ++ (entered w w').map Prod.snd := by
  have record : w.broker.published <+: w'.broker.published := by
    cases step_advances step with
    | begins _ _ broker => exact broker ▸ List.prefix_rfl
    | goes _ _ served => exact (Mock.frame served).record
  obtain ⟨more, record⟩ := record
  simp [entered, ← record, Function.comp_def]

/-- With a single task, the record is what its drive enters. -/
theorem driveRecorded_lone (only : w.tasks.length = 1) (first : i = 0) (scope : Scope) (fuel : Nat) :
    (w.driveRecorded i scope fuel).2.2.broker.published =
      w.broker.published ++ (w.driveRecorded i scope fuel).1.map Prod.snd := by
  subst first
  induction fuel generalizing w with
  | zero => exact (List.append_nil _).symm
  | succ fuel ih =>
    have goes : ∀ w' : World Mock, w'.tasks.length = 1 → ∀ w'', w'.step 0 = some w'' →
        (w''.driveRecorded 0 scope fuel).2.2.broker.published =
          w'.broker.published ++
            (entered w' w'' ++ (w''.driveRecorded 0 scope fuel).1).map Prod.snd := by
      intro w' only w'' step
      obtain ⟨-, t, tasks⟩ := step_frame step
      have only' : w''.tasks.length = 1 := by rw [tasks, List.length_set, only]
      rw [ih only', entered_step step, List.map_append, List.append_assoc]
    rw [driveRecorded]
    cases underway : (w.tasks[0]?).bind Task.underway with
    | none =>
      cases step : w.step 0 with
      | none => simp only [step, List.map_nil, List.append_nil]
      | some w' =>
        simp only [step]
        exact goes w only w' step
    | some u =>
      obtain ⟨⟨work, _⟩, found, rfl⟩ := Option.bind_eq_some_iff.mp underway
      have waits : ∀ time, time ≤ u.due → (w.waitUntil time).tasks.length = 1 ∧
          (w.waitUntil time).broker.published = w.broker.published := fun time due =>
        (lone_lasts w.broker.published).waitUntil found due ⟨only, rfl⟩
      cases late : scope.abandonedAt w.now u.due with
      | some time =>
        simp only [late, List.map_nil, List.append_nil]
        exact (waits time (Nat.le_of_lt (abandonedAt_early late))).2
      | none =>
        obtain ⟨only', same⟩ := waits u.due (Nat.le_refl _)
        cases step : (w.waitUntil u.due).step 0 with
        | none =>
          simp only [late, step, List.map_nil, List.append_nil]
          exact same
        | some w' =>
          simp only [late, step]
          rw [← same]
          exact goes _ only' w' step

/-! ### Afterwards -/

/-- The worlds that may follow `w`: by steps of any task, by what callers do to their calls, and by
anything that leaves the tasks of `w` as they are. -/
inductive Onward (w : World Mock) : World Mock → Prop where
  | refl : Onward w w
  | step {w' w'' : World Mock} {j : Nat} {first : Signal} (onward : Onward w w')
      (step : w'.step j first = some w'') : Onward w w''
  | takeUp {w' : World Mock} (onward : Onward w w') (j capacity : Nat) (hungUp : Bool) :
      Onward w (w'.runRelay j capacity hungUp)
  | read {w' w'' : World Mock} {j : Nat} {item : Item} (onward : Onward w w')
      (read : w'.read j = some (item, w'')) : Onward w w''
  | hangUp {w' : World Mock} (onward : Onward w w') (j : Nat) : Onward w (w'.hangUp j)
  | abandon {w' : World Mock} (onward : Onward w w') (j : Nat) : Onward w (w'.abandon j)
  | aside {w' w'' : World Mock} (onward : Onward w w') (tasks : w'.tasks <+: w''.tasks) : Onward w w''

def Rests (i : Nat) (w : World Mock) : Prop :=
  ∃ s : Sending, w.tasks[i]? = some ⟨.sending s, none⟩ ∧ s.act = .rest

theorem Rests.setTask {j : Nat} (rests : w.Rests i) (other : j ≠ i) (t : Task) :
    (w.setTask j t).Rests i := by
  obtain ⟨s, found, ended⟩ := rests
  exact ⟨s, (List.getElem?_set_ne other).trans found, ended⟩

theorem Rests.ne_relay {j : Nat} {r : Relay} {stream : Stream} {u : Option Underway}
    (rests : w.Rests i) (found : w.tasks[j]? = some ⟨.relay r stream, u⟩) : j ≠ i := by
  rintro rfl
  obtain ⟨s, same, -⟩ := rests
  cases found.symm.trans same

theorem Rests.runRelay (rests : w.Rests i) (j capacity : Nat) (hungUp : Bool) :
    (w.runRelay j capacity hungUp).Rests i := by
  unfold World.runRelay relay?
  cases found : w.tasks[j]? with
  | none => exact rests
  | some t =>
    obtain ⟨work, u⟩ := t
    cases work with
    | relay r stream => exact rests.setTask (rests.ne_relay found) _
    | sending s => exact rests

theorem Rests.read {j : Nat} {item : Item} (rests : w.Rests i) (read : w.read j = some (item, w')) :
    w'.Rests i := by
  unfold World.read at read
  split at read
  · rename_i found
    obtain ⟨_, -, same⟩ := Option.map_eq_some_iff.mp read
    cases same
    exact rests.setTask (rests.ne_relay found) _
  · cases read

theorem Rests.hangUp (rests : w.Rests i) (j : Nat) : (w.hangUp j).Rests i := by
  unfold World.hangUp
  split
  · rename_i found
    exact rests.setTask (rests.ne_relay found) _
  · exact rests

theorem Rests.abandon (rests : w.Rests i) (j : Nat) : (w.abandon j).Rests i := by
  unfold World.abandon
  split
  · rename_i s u found
    -- the sending itself may be given up again
    have given_up : (w.setTask j ⟨.sending s.abandon, none⟩).Rests i := by
      by_cases own : j = i
      · subst own
        exact ⟨s.abandon, List.getElem?_set_self (List.getElem?_eq_some_iff.mp found).1, rfl⟩
      · exact rests.setTask own _
    split <;> exact given_up
  · rename_i found
    split
    · exact rests.setTask (rests.ne_relay found) ⟨_, none⟩
    · exact rests
  · exact rests

theorem Onward.rests (onward : w.Onward w') (rests : w.Rests i) : w'.Rests i := by
  induction onward with
  | refl => exact rests
  | step _ step ih =>
    obtain ⟨s, found, ended⟩ := ih
    obtain ⟨-, t, tasks⟩ := step_frame step
    refine ⟨s, ?_, ended⟩
    rw [tasks, List.getElem?_set_ne ?other, found]
    case other =>
      rintro rfl
      rw [step_rest found ended] at step
      cases step
  | takeUp _ j capacity hungUp ih => exact ih.runRelay j capacity hungUp
  | read _ read ih => exact ih.read read
  | hangUp _ j ih => exact ih.hangUp j
  | abandon _ j ih => exact ih.abandon j
  | aside _ tasks ih =>
    obtain ⟨s, found, ended⟩ := ih
    obtain ⟨more, tasks⟩ := tasks
    refine ⟨s, ?_, ended⟩
    rw [← tasks, List.getElem?_append_left (List.getElem?_eq_some_iff.mp found).1, found]

theorem abandon_eq (found : w.tasks[i]? = some ⟨.sending s, some u⟩) :
    (w.abandon i).now = w.now ∧ (w.abandon i).broker = w.broker ∧
      (w.abandon i).tasks[i]? = some ⟨.sending s.abandon, none⟩ := by
  have task : (w.tasks.set i ⟨.sending s.abandon, none⟩)[i]? = some ⟨.sending s.abandon, none⟩ :=
    List.getElem?_set_self (List.getElem?_eq_some_iff.mp found).1
  simp only [abandon, found]
  split <;> exact ⟨rfl, rfl, task⟩

/-- The end of a call after its drive: its answer, or that it is given up. -/
def concluded (i : Nat) :
    List (Nat × Delivery) × Bool × World Mock → List (Nat × Delivery) × Except Failure Unit × World Mock
  | (record, false, w) => (record, .error .deadlineExceeded, w.abandon i)
  | (record, true, w) => (record, (w.result? i).getD (.ok ()), w)

/-- In either case the task is at rest, and the record is as the drive left it. -/
theorem Paced.concluded {now limit : Nat} {driven : List (Nat × Delivery) × Bool × World Mock}
    (paced : Paced s kind at_ rooms i now limit delay driven) :
    (concluded i driven).1 = driven.1 ∧ (concluded i driven).2.2.broker = driven.2.2.broker ∧
      (concluded i driven).2.2.Rests i ∧
      if now + rooms.length * delay ≤ limit then
        (concluded i driven).2.1 = .ok () ∧
          (concluded i driven).2.2.now = now + rooms.length * delay
      else
        (concluded i driven).2.1 = .error .deadlineExceeded ∧ (concluded i driven).2.2.now = limit := by
  obtain ⟨-, done, late⟩ := paced
  obtain ⟨record, finished, last⟩ := driven
  split
  · rename_i inTime
    obtain ⟨rfl, now, task⟩ := done inTime
    have answer : last.result? i = some (.ok ()) := by simp only [result?, task]; rfl
    refine ⟨rfl, rfl, ⟨_, task, rfl⟩, ?_, now⟩
    rw [World.concluded, answer]
    rfl
  · rename_i short
    obtain ⟨rfl, now, s', u, task⟩ := late (Nat.not_le.mp short)
    obtain ⟨same, broker, given_up⟩ := abandon_eq task
    exact ⟨rfl, broker, ⟨_, given_up, rfl⟩, rfl, same.trans now⟩

end World

namespace Service

/-- `sendEvent` with what the call enters in the record, and when. -/
def sendEventRecorded (svc : Service) (w : World Mock) (headers : Headers) (req : SendRequest) :
    List (Nat × Delivery) × Except Failure Unit × World Mock :=
  match Sending.start headers req svc.policy w.now svc.callLimit with
  | .error e => ([], .error e, w)
  | .ok (scope, sending) =>
    let (i, w) := w.spawn (.sending sending)
    World.concluded i (w.driveRecorded i scope (w.driveBound i))

variable {svc : Service} {w : World Mock} {headers : Headers} {req : SendRequest}

theorem sendEventRecorded_drives {scope : Scope} {s : Sending}
    (start : Sending.start headers req svc.policy w.now svc.callLimit = .ok (scope, s)) :
    let spawned := (w.spawn (.sending s)).2
    svc.sendEventRecorded w headers req = World.concluded w.tasks.length
      (spawned.driveRecorded w.tasks.length scope (spawned.driveBound w.tasks.length)) := by
  rw [sendEventRecorded, start]
  rfl

theorem sendEventRecorded_sendEvent (svc : Service) (w : World Mock) (headers : Headers)
    (req : SendRequest) : (svc.sendEventRecorded w headers req).2 = svc.sendEvent w headers req := by
  cases start : Sending.start headers req svc.policy w.now svc.callLimit with
  | error e => simp only [sendEventRecorded, sendEvent, start]
  | ok begun =>
    obtain ⟨scope, s⟩ := begun
    rw [sendEvent_drives start, sendEventRecorded_drives start]
    simp only [← World.driveRecorded_drive]
    generalize World.driveRecorded _ _ _ _ = driven
    obtain ⟨record, finished, last⟩ := driven
    cases finished <;> rfl

theorem start_limited {user : String} {payload : Payload} (known : headers.identity = .ok user)
    (valid : req.validate user svc.policy = .ok payload) (now limit : Nat) :
    Sending.start headers req svc.policy now limit =
      .ok (⟨some user, some (now + limit)⟩, { user, rooms := req.rooms, payload }) := by
  simp [Sending.start, Scope.prepare, Scope.requireUser, known, valid, Except.map]

section Paced

variable {user : String} {payload : Payload} {delay : Nat} (known : headers.identity = .ok user)
  (valid : req.validate user svc.policy = .ok payload) (slow : 0 < delay)
  (works : w.broker.Works delay) (given : w.Given)
include known valid slow works given

theorem sendEventRecorded_paced {kind : Kind} (publishable : payload.kind? = some kind) :
    ∃ driven, svc.sendEventRecorded w headers req = World.concluded w.tasks.length driven ∧
      World.Paced { user, rooms := req.rooms, payload } kind w.clock req.rooms w.tasks.length w.now
        (w.now + svc.callLimit) delay driven ∧
      (w.tasks = [] →
        driven.2.2.broker.published = w.broker.published ++ driven.1.map Prod.snd) := by
  let first : Sending := { user, rooms := req.rooms, payload }
  let spawned := (w.spawn (.sending first)).2
  have found : spawned.tasks[w.tasks.length]? = some ⟨.sending first, none⟩ :=
    List.getElem?_concat_length
  have enough : 2 * first.rooms.length + 2 ≤ spawned.driveBound w.tasks.length := by
    simp only [World.driveBound, found, Option.map_some, Option.getD_some, Work.stepBound,
      Sending.stepBound, Sending.publishesLeft, first]
    omega
  refine ⟨_, sendEventRecorded_drives (start_limited known valid w.now svc.callLimit), ?_, fun lone => ?_⟩
  · exact World.driveRecorded_opening rfl publishable slow found rfl works (given.spawn rfl)
      (Nat.le_add_right _ _) enough
  · have alone : w.tasks.length = 0 := by rw [lone, List.length_nil]
    have only : spawned.tasks.length = 1 := List.length_append.trans (by rw [alone]; rfl)
    exact World.driveRecorded_lone only alone _ _

end Paced

/-- On a mock that `Works` with a publish delay, a call publishes to as many of its rooms, in order,
as fit within its limit, one copy after each `delay`. It is done when the last copy is out, be that at
its very deadline, and otherwise it is given up there. Whatever else goes on makes no difference, and
in no later world does its task take a step. -/
theorem sendEvent_keeps_pace (svc : Service) (w : World Mock) {headers : Headers} {req : SendRequest}
    {user : String} {payload : Payload} {delay : Nat} (known : headers.identity = .ok user)
    (valid : req.validate user svc.policy = .ok payload) (slow : 1 ≤ delay)
    (works : w.broker.Works delay) (given : w.Given) :
    let recorded := svc.sendEventRecorded w headers req
    let sent := svc.sendEvent w headers req
    let published := min req.rooms.length (svc.callLimit / delay)
    recorded.2 = sent ∧
    (∃ kind, payload.kind? = some kind ∧
      let copies := req.rooms.map fun room =>
        ⟨(Key.event room user kind).encode, Event.encode ⟨w.clock, user, room, payload⟩⟩
      recorded.1 = timetable w.now delay (copies.take published) ∧
      (w.tasks = [] → sent.2.broker.published = w.broker.published ++ copies.take published)) ∧
    (if req.rooms.length * delay ≤ svc.callLimit then
      sent.1 = .ok () ∧ sent.2.now = w.now + req.rooms.length * delay
    else sent.1 = .error .deadlineExceeded ∧ sent.2.now = w.now + svc.callLimit) ∧
    ∀ later, sent.2.Onward later → ∀ first, later.step w.tasks.length first = none := by
  obtain ⟨kind, publishable⟩ := (SendRequest.accepted_of_validate valid).publishable
  obtain ⟨driven, drives, paced, lone⟩ :=
    sendEventRecorded_paced known valid slow works given publishable
  obtain ⟨entries, broker, rests, ends⟩ := paced.concluded
  have record := paced.record
  have fewer : ∀ copies : List Delivery, copies.length = req.rooms.length →
      copies.take (svc.callLimit / delay) =
        copies.take (min req.rooms.length (svc.callLimit / delay)) := by
    intro copies length
    rw [List.take_eq_take_iff, length]
    omega
  rw [Nat.add_sub_cancel_left, fewer _ (List.length_map _)] at record
  simp only [Nat.add_le_add_iff_left] at ends
  have same := sendEventRecorded_sendEvent svc w headers req
  rw [← drives] at entries broker rests ends
  rw [same] at broker rests ends
  refine ⟨same, ⟨kind, publishable, entries.trans record, fun nobody => ?_⟩, ends, fun later onward first => ?_⟩
  · rw [broker, lone nobody, record, timetable_deliveries]
    rfl
  · obtain ⟨s, task, ended⟩ := onward.rests rests
    exact World.step_rest task ended

theorem sendEvent_keeps_pace_three_rooms :
    let headers : Headers := [("x-user", [97, 110, 110])]
    let req : SendRequest := { event := some { joined := true }, rooms := ["a", "b", "c"] }
    let w : World Mock := { broker := { publishDelay := some 100 }, now := 5, clock := 7 }
    let enough : Service := { policy := .allow, callLimit := 300 }
    let short : Service := { policy := .allow, callLimit := 299 }
    (headers.identity = .ok "ann" ∧ req.validate "ann" .allow = .ok .userJoined ∧ 1 ≤ 100 ∧
      w.broker.Works 100 ∧ w.Given) ∧
    ((enough.sendEvent w headers req).1 = .ok () ∧ (enough.sendEvent w headers req).2.now = 305 ∧
      (enough.sendEventRecorded w headers req).1.map Prod.fst = [105, 205, 305]) ∧
    (short.sendEvent w headers req).1 = .error .deadlineExceeded ∧
      (short.sendEvent w headers req).2.now = 304 ∧
      (short.sendEventRecorded w headers req).1.map Prod.fst = [105, 205] := by
  intro headers req w enough short
  have known : headers.identity = .ok "ann" := by decide
  have valid : req.validate "ann" .allow = .ok .userJoined := by decide
  have works : w.broker.Works 100 := ⟨rfl, rfl, rfl, rfl, rfl⟩
  have given : w.Given := fun t member => absurd member List.not_mem_nil
  obtain ⟨-, ⟨_, ⟨⟩, all, -⟩, done, -⟩ :=
    sendEvent_keeps_pace enough w known valid (by decide) works given
  obtain ⟨-, ⟨_, ⟨⟩, two, -⟩, late, -⟩ :=
    sendEvent_keeps_pace short w known valid (by decide) works given
  have whole : w.now + req.rooms.length * 100 = 305 := by decide
  have part : w.now + short.callLimit = 304 := by decide
  rw [if_pos (by decide), whole] at done
  rw [if_neg (by decide), part] at late
  refine ⟨⟨known, valid, by decide, works, given⟩, ⟨done.1, done.2, ?_⟩, late.1, late.2, ?_⟩
  · rw [all]
    decide +kernel
  · rw [two]
    decide +kernel

end Service
end RoomRelay
