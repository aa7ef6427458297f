import RoomRelay.Proofs.Broker.Bus

/-!
What a subscription was `given` and what it `received` differ by its queue (`ledger_run`). What it was
given is `due` by the run: the `carried?` deliveries on its pattern between its `subscribe` and the
operation that `retires` it, less those that found its queue full.
-/

namespace RoomRelay.Channel

abbrev Moment := Channel × Op

def moments : Channel → List Op → List Moment
  | _, [] => []
  | c, op :: ops => (c, op) :: moments (c.apply op).2 ops

theorem moments_append (c : Channel) (ops more : List Op) :
    c.moments (ops ++ more) = c.moments ops ++ (c.run ops).moments more := by
  induction ops generalizing c with
  | nil => rfl
  | cons op ops ih =>
    simp only [List.cons_append, moments, ih]
    rfl

def Op.retires (sub : Nat) : Op → Bool
  | .cancel i => i == sub
  | .drop i => i == sub
  | _ => false

/-- The delivery that `op` puts on queues, if the broker answers it with `ok`. -/
def carried? (c : Channel) : Op → Option Delivery
  | .publish session key payload =>
    if (c.publish session key payload).1.isOk then some ⟨key.encode, payload⟩ else none
  | .deliver d => if (c.deliver d).1.isOk then some d else none
  | _ => none

def given? (sub : Nat) (m : Moment) : Option Delivery :=
  (m.1.carried? m.2).filter (m.1.takes sub)

def received? (sub : Nat) (m : Moment) : Option Delivery :=
  match m.2, (m.1.apply m.2).1 with
  | .receive i, .received (.delivery d) => if i = sub then some d else none
  | _, _ => none

def given (sub : Nat) (ms : List Moment) : List Delivery :=
  ms.filterMap (given? sub)

def received (sub : Nat) (ms : List Moment) : List Delivery :=
  ms.filterMap (received? sub)

/-- The `carried?` deliveries of the stretch `ms` that `pattern` selects, less those that found the
queue of `sub` full. -/
def due (pattern : String) (sub : Nat) (ms : List Moment) : List Delivery :=
  ms.filterMap fun m => (m.1.carried? m.2).filter fun d =>
    Topic.selects pattern d.topic && decide ((m.1.feed sub).queue.length < subscriptionCapacity)

/-! ### One operation -/

theorem carried_publish {c : Channel} {session : Nat} {key : Key} {payload : List UInt8}
    {d : Delivery} (carried : c.carried? (.publish session key payload) = some d) :
    c.closed = false ∧ d = ⟨key.encode, payload⟩ ∧
      (c.publish session key payload).2.1 = (c.deliver d).2.1 := by
  rw [carried?] at carried
  split at carried
  case isFalse => contradiction
  case isTrue done =>
    obtain rfl := Option.some.inj carried
    cases opened : c.isOpen session
    · rw [publish_refused opened] at done
      contradiction
    · rw [publish_eq_deliver opened] at done ⊢
      cases closed : c.closed
      · exact ⟨rfl, rfl, rfl⟩
      · rw [deliver_closed closed] at done
        contradiction

theorem carried_deliver {c : Channel} {d d' : Delivery} (carried : c.carried? (.deliver d) = some d') :
    c.closed = false ∧ d' = d := by
  rw [carried?] at carried
  split at carried
  case isFalse => contradiction
  case isTrue done =>
    cases closed : c.closed
    · exact ⟨rfl, (Option.some.inj carried).symm⟩
    · rw [deliver_closed closed] at done
      contradiction

theorem publish_lost {c : Channel} {session : Nat} {key : Key} {payload : List UInt8}
    (lost : c.carried? (.publish session key payload) = none) :
    (c.publish session key payload).2.1 = c := by
  rw [carried?] at lost
  split at lost
  case isTrue => contradiction
  case isFalse failed =>
    cases opened : c.isOpen session
    · rw [publish_refused opened]
    · cases closed : c.closed
      · rw [publish_eq_deliver opened, (deliver_open closed _).1] at failed
        exact absurd rfl failed
      · rw [publish_eq_deliver opened, deliver_closed closed]

theorem deliver_lost {c : Channel} {d : Delivery} (lost : c.carried? (.deliver d) = none) :
    (c.deliver d).2.1 = c := by
  rw [carried?] at lost
  split at lost
  case isTrue => contradiction
  case isFalse failed =>
    cases closed : c.closed
    · rw [(deliver_open closed d).1] at failed
      exact absurd rfl failed
    · rw [deliver_closed closed]

theorem subscribe_queue (c : Channel) (session : Nat) (pattern : Key) (subscriber : String)
    (sub : Nat) :
    ((c.subscribe session pattern subscriber).2.feed sub).queue = (c.feed sub).queue := by
  rcases result : c.subscribe session pattern subscriber with ⟨answer, after⟩
  cases answer with
  | error e => rw [subscribe_error result]
  | ok number =>
    obtain ⟨_, _, _, rfl⟩ := subscribe_ok result
    rw [feed_append]
    split
    case isTrue here =>
      subst here
      rw [feed_out_of_range (Nat.lt_irrefl _)]
    case isFalse => rfl

/-- A `carried?` delivery goes to the end of each queue that `takes` it. -/
theorem queue_of_carried {c : Channel} (sound : c.Sound) {op : Op} {d : Delivery}
    (carried : c.carried? op = some d) (sub : Nat) :
    ((c.apply op).2.feed sub).queue = (c.feed sub).queue ++ if c.takes sub d then [d] else [] := by
  cases op with
  | publish session key payload =>
    obtain ⟨running, rfl, same⟩ := carried_publish carried
    simp only [apply, same]
    exact deliver_queue sound running _ sub
  | deliver d' =>
    obtain ⟨running, rfl⟩ := carried_deliver carried
    exact deliver_queue sound running d sub
  | _ => contradiction

theorem queue_of_lost {c : Channel} {op : Op} (lost : c.carried? op = none) {sub : Nat}
    (other : op ≠ .receive sub) : ((c.apply op).2.feed sub).queue = (c.feed sub).queue := by
  cases op with
  | openSession => exact congrArg Feed.queue (openSession_feed c sub)
  | subscribe session pattern subscriber => exact subscribe_queue c session pattern subscriber sub
  | publish session key payload => exact congrArg (fun c => (feed c sub).queue) (publish_lost lost)
  | deliver d => exact congrArg (fun c => (feed c sub).queue) (deliver_lost lost)
  | receive i =>
    have apart : sub ≠ i := fun same => other (congrArg Op.receive same.symm)
    exact congrArg Feed.queue (receive_other apart)
  | cancel i => exact cancel_queue c i sub
  | drop i => exact cancel_queue c i sub
  | count pattern => rfl
  | subscribersOf pattern => rfl
  | routeCount => exact prune_feed_queue c sub
  | closeSession session => rfl
  | close => exact close_feed_queue c sub

theorem received_other {c : Channel} {op : Op} {sub : Nat} (other : op ≠ .receive sub) :
    received? sub (c, op) = none := by
  cases op with
  | receive i =>
    have apart : i ≠ sub := fun same => other (congrArg Op.receive same)
    simp only [received?, apply]
    cases (c.receive i).1 <;> simp [apart]
  | _ => rfl

/-- One operation adds what is `given?` at the end of the queue and removes what is `received?` at its
front. -/
theorem ledger_apply {c : Channel} (sound : c.Sound) (op : Op) (sub : Nat) :
    (c.feed sub).queue ++ (given? sub (c, op)).toList =
      (received? sub (c, op)).toList ++ ((c.apply op).2.feed sub).queue := by
  by_cases receives : op = .receive sub
  · subst receives
    simp only [given?, carried?, received?, apply, Option.filter_none, Option.toList_none,
      List.append_nil]
    rcases receive_queue c sub with ⟨d, answer, queue, _⟩ | ⟨none, same⟩
    · rw [answer, queue]
      simp
    · rw [same]
      cases answer : (c.receive sub).1 with
      | delivery d => exact absurd answer (none d)
      | _ => rfl
  · rw [received_other receives, given?]
    cases carried : c.carried? op with
    | none =>
      rw [queue_of_lost carried receives]
      simp
    | some d =>
      rw [queue_of_carried sound carried sub]
      by_cases takes : c.takes sub d <;> simp [takes, Option.filter]

theorem given_cons (sub : Nat) (m : Moment) (ms : List Moment) :
    given sub (m :: ms) = (given? sub m).toList ++ given sub ms := by
  unfold given
  rw [List.filterMap_cons]
  cases given? sub m <;> rfl

theorem received_cons (sub : Nat) (m : Moment) (ms : List Moment) :
    received sub (m :: ms) = (received? sub m).toList ++ received sub ms := by
  unfold received
  rw [List.filterMap_cons]
  cases received? sub m <;> rfl

theorem received_append (sub : Nat) (ms more : List Moment) :
    received sub (ms ++ more) = received sub ms ++ received sub more :=
  List.filterMap_append

/-- `ledger_apply` along a run, by induction on the operations. -/
theorem ledger_run {c : Channel} (sound : c.Sound) (ops : List Op) (sub : Nat) :
    (c.feed sub).queue ++ given sub (c.moments ops) =
      received sub (c.moments ops) ++ ((c.run ops).feed sub).queue := by
  induction ops generalizing c with
  | nil => exact List.append_nil _
  | cons op ops ih =>
    have later := ih (sound.apply op)
    rw [moments, given_cons, received_cons, ← List.append_assoc, ledger_apply sound, List.append_assoc,
      List.append_assoc, later]
    rfl

/-! ### The life of one subscription -/

def Holds (c : Channel) (sub : Nat) (pattern : String) (cancelled : Bool) : Prop :=
  ∃ s, c.subscriptions[sub]? = some s ∧ s.pattern = pattern ∧ s.feed.cancelled = cancelled

theorem Holds.map {c : Channel} {sub : Nat} {pattern : String} {cancelled closed : Bool}
    {f : Subscription → Subscription} (held : c.Holds sub pattern cancelled)
    (samePattern : ∀ s, (f s).pattern = s.pattern)
    (sameFlag : ∀ s, (f s).feed.cancelled = s.feed.cancelled) :
    Holds { c with closed := closed, subscriptions := c.subscriptions.map f } sub pattern cancelled := by
  obtain ⟨s, found, rfl, rfl⟩ := held
  refine ⟨f s, ?_, samePattern s, sameFlag s⟩
  rw [List.getElem?_map, found]
  rfl

theorem Holds.setFeed {c : Channel} {sub i : Nat} {pattern : String} {cancelled : Bool} {f : Feed}
    (held : c.Holds sub pattern cancelled) :
    (c.setFeed i f).Holds sub pattern (if i = sub then f.cancelled else cancelled) := by
  obtain ⟨s, found, rfl, rfl⟩ := held
  by_cases same : i = sub
  · subst same
    refine ⟨{ s with feed := f }, ?_, rfl, (if_pos rfl).symm⟩
    rw [Channel.setFeed, List.getElem?_modify_eq, found]
    rfl
  · refine ⟨s, ?_, rfl, (if_neg same).symm⟩
    simp only [Channel.setFeed, List.getElem?_modify, if_neg same, found]
    rfl

theorem Holds.feed {c : Channel} {sub : Nat} {pattern : String} {cancelled : Bool}
    (held : c.Holds sub pattern cancelled) : (c.feed sub).cancelled = cancelled := by
  obtain ⟨s, found, _, same⟩ := held
  rw [feed_of_get found, same]

theorem Holds.takes {c : Channel} {sub : Nat} {pattern : String} {cancelled : Bool}
    (held : c.Holds sub pattern cancelled) (d : Delivery) :
    c.takes sub d = (!cancelled && Topic.selects pattern d.topic &&
      decide ((c.feed sub).queue.length < subscriptionCapacity)) := by
  obtain ⟨s, found, rfl, rfl⟩ := held
  rw [Channel.takes, found, feed_of_get found]
  rfl

theorem Holds.receive {c : Channel} {sub : Nat} {pattern : String} {cancelled : Bool}
    (held : c.Holds sub pattern cancelled) (i : Nat) : (c.receive i).2.Holds sub pattern cancelled := by
  have after := held.setFeed (i := i) (f := (c.feed i).recv.2)
  split at after
  case isTrue same =>
    subst same
    rw [(c.feed i).recv_flags.1, held.feed] at after
    exact after
  case isFalse => exact after

theorem Holds.cancel {c : Channel} {sub : Nat} {pattern : String} {cancelled : Bool}
    (held : c.Holds sub pattern cancelled) (i : Nat) :
    (c.cancel i).Holds sub pattern (i == sub || cancelled) := by
  have after := held.setFeed (i := i) (f := (c.feed i).cancel)
  split at after
  case isTrue same =>
    rw [same, beq_self_eq_true, Bool.true_or]
    exact same ▸ after
  case isFalse apart =>
    rw [beq_false_of_ne apart, Bool.false_or]
    exact after

theorem Holds.deliver {c : Channel} {sub : Nat} {pattern : String} {cancelled : Bool}
    (held : c.Holds sub pattern cancelled) (d : Delivery) :
    (c.deliver d).2.1.Holds sub pattern cancelled := by
  cases closed : c.closed
  · rw [(deliver_open closed d).2]
    exact held.map (fun s => by simp) fun s => by simp
  · rw [deliver_closed closed]
    exact held

theorem Holds.apply {c : Channel} {sub : Nat} {pattern : String} {cancelled : Bool}
    (held : c.Holds sub pattern cancelled) (op : Op) :
    (c.apply op).2.Holds sub pattern (op.retires sub || cancelled) := by
  cases op with
  | openSession =>
    obtain ⟨s, found, rest⟩ := held
    exact ⟨s, openSession_subscriptions c ▸ found, rest⟩
  | subscribe session key subscriber =>
    rcases result : c.subscribe session key subscriber with ⟨answer, after⟩
    cases answer with
    | error e =>
      simp only [Channel.apply, result, subscribe_error result]
      exact held
    | ok number =>
      obtain ⟨_, _, _, rfl⟩ := subscribe_ok result
      obtain ⟨s, found, rest⟩ := held
      simp only [Channel.apply, result]
      exact ⟨s, (List.getElem?_append_left (List.getElem?_eq_some_iff.mp found).1).trans found, rest⟩
  | publish session key payload =>
    cases opened : c.isOpen session
    · simp only [Channel.apply, publish_refused opened]
      exact held
    · simp only [Channel.apply, publish_eq_deliver opened]
      exact held.deliver _
  | deliver d => exact held.deliver d
  | receive i => exact held.receive i
  | cancel i => exact held.cancel i
  | drop i => exact held.cancel i
  | count key => exact held
  | subscribersOf key => exact held
  | routeCount => exact held.map (fun s => s.prune_pattern) fun s => s.prune_cancelled
  | closeSession session => exact held
  | close => exact held.map (fun s => s.unroute_pattern) fun s => s.unroute_cancelled

theorem Holds.lt {c : Channel} {sub : Nat} {pattern : String} {cancelled : Bool}
    (held : c.Holds sub pattern cancelled) : sub < c.subscriptions.length := by
  obtain ⟨s, found, _⟩ := held
  exact (List.getElem?_eq_some_iff.mp found).1

theorem holds_of_lt {c : Channel} {sub : Nat} (known : sub < c.subscriptions.length) :
    ∃ pattern cancelled, c.Holds sub pattern cancelled :=
  ⟨_, _, c.subscriptions[sub], List.getElem?_eq_getElem known, rfl, rfl⟩

theorem subscriptions_length_mono (c : Channel) (ops : List Op) :
    c.subscriptions.length ≤ (c.run ops).subscriptions.length := by
  induction ops generalizing c with
  | nil => exact Nat.le_refl _
  | cons op ops ih =>
    refine Nat.le_trans ?_ (ih (c.apply op).2)
    apply Nat.le_of_not_lt
    intro shrinks
    obtain ⟨_, _, held⟩ := holds_of_lt shrinks
    exact Nat.lt_irrefl _ (held.apply op).lt

theorem received_of_cancelled {c : Channel} {sub : Nat} (cancelled : (c.feed sub).cancelled = true)
    (op : Op) : received? sub (c, op) = none := by
  by_cases receives : op = .receive sub
  · subst receives
    rcases receive_queue c sub with ⟨_, _, _, active⟩ | ⟨none, _⟩
    · rw [cancelled] at active
      contradiction
    · simp only [received?, apply]
      cases answer : (c.receive sub).1 with
      | delivery d => exact absurd answer (none d)
      | _ => rfl
  · exact received_other receives

theorem received_before {c : Channel} {ops : List Op} {sub : Nat}
    (unborn : (c.run ops).subscriptions.length ≤ sub) : received sub (c.moments ops) = [] := by
  induction ops generalizing c with
  | nil => rfl
  | cons op ops ih =>
    have early : ¬sub < c.subscriptions.length :=
      Nat.not_lt.mpr (Nat.le_trans (subscriptions_length_mono c (op :: ops)) unborn)
    have none := received_of_cancelled (congrArg Feed.cancelled (feed_out_of_range early)) op
    rw [moments, received_cons, none, ih unborn]
    rfl

theorem Holds.given_during {c : Channel} {sub : Nat} {pattern : String}
    (held : c.Holds sub pattern false) {ops : List Op}
    (kept : ∀ op ∈ ops, op.retires sub = false) :
    (c.run ops).Holds sub pattern false ∧
      given sub (c.moments ops) = due pattern sub (c.moments ops) := by
  induction ops generalizing c with
  | nil => exact ⟨held, rfl⟩
  | cons op ops ih =>
    have next := held.apply op
    rw [kept op List.mem_cons_self] at next
    obtain ⟨final, rest⟩ := ih next fun op member => kept op (List.mem_cons_of_mem _ member)
    refine ⟨final, ?_⟩
    have here : given? sub (c, op) = (c.carried? op).filter fun d =>
        Topic.selects pattern d.topic && decide ((c.feed sub).queue.length < subscriptionCapacity) :=
      congrArg (c.carried? op).filter (funext fun d => held.takes d)
    rw [moments, given_cons, rest, due, due, List.filterMap_cons, here]
    cases (c.carried? op).filter _ <;> rfl

theorem Holds.silent {c : Channel} {sub : Nat} {pattern : String} (held : c.Holds sub pattern true)
    (ops : List Op) : given sub (c.moments ops) = [] ∧ received sub (c.moments ops) = [] := by
  induction ops generalizing c with
  | nil => exact ⟨rfl, rfl⟩
  | cons op ops ih =>
    have next := held.apply op
    rw [Bool.or_true] at next
    obtain ⟨noneGiven, noneReceived⟩ := ih next
    have nothing : given? sub (c, op) = none := by
      apply Option.filter_eq_none_iff.mpr
      intro d _
      rw [held.takes]
      exact Bool.false_ne_true
    rw [moments, given_cons, received_cons, nothing, received_of_cancelled held.feed, noneGiven,
      noneReceived]
    exact ⟨rfl, rfl⟩

theorem Holds.silent_after {c : Channel} {sub : Nat} {pattern : String} {cancelled : Bool}
    (held : c.Holds sub pattern cancelled) {ops : List Op}
    (retired : ∀ op ∈ ops.head?, op.retires sub = true) :
    given sub (c.moments ops) = [] ∧ received sub (c.moments ops) = [] := by
  cases ops with
  | nil => exact ⟨rfl, rfl⟩
  | cons op ops =>
    have retires := retired op rfl
    have next := held.apply op
    rw [retires, Bool.true_or] at next
    obtain ⟨noneGiven, noneReceived⟩ := next.silent ops
    have nothing : given? sub (c, op) = none ∧ received? sub (c, op) = none := by
      cases op with
      | cancel i => exact ⟨rfl, rfl⟩
      | drop i => exact ⟨rfl, rfl⟩
      | _ => contradiction
    rw [moments, given_cons, received_cons, nothing.1, nothing.2, noneGiven, noneReceived]
    exact ⟨rfl, rfl⟩

theorem Holds.accounts {start : Channel} {sub : Nat} {pattern : String}
    (held : start.Holds sub pattern false) (sound : start.Sound) (empty : (start.feed sub).queue = [])
    {during after : List Op} (kept : ∀ op ∈ during, op.retires sub = false)
    (retired : ∀ op ∈ after.head?, op.retires sub = true) :
    received sub (start.moments (during ++ after)) ++ ((start.run (during ++ after)).feed sub).queue =
        due pattern sub (start.moments during) ∧
      received sub ((start.run during).moments after) = [] := by
  obtain ⟨heldLater, owed⟩ := held.given_during kept
  obtain ⟨noneGiven, noneReceived⟩ := heldLater.silent_after retired
  have through := ledger_run sound during sub
  have beyond := ledger_run (sound.run during) after sub
  rw [empty, List.nil_append, owed] at through
  rw [noneGiven, noneReceived, List.append_nil, List.nil_append] at beyond
  refine ⟨?_, noneReceived⟩
  rw [moments_append, received_append, noneReceived, List.append_nil, run_append, ← beyond,
    ← through]

theorem holds_of_subscribe {c : Channel} {session sub : Nat} {pattern : Key} {subscriber : String}
    (subscribed : (c.subscribe session pattern subscriber).1 = .ok sub) :
    sub = c.subscriptions.length ∧
      ((c.subscribe session pattern subscriber).2.feed sub) = {} ∧
      (c.subscribe session pattern subscriber).2.Holds sub pattern.encode false := by
  rcases result : c.subscribe session pattern subscriber with ⟨answer, after⟩
  rw [result] at subscribed
  subst subscribed
  obtain ⟨_, _, rfl, rfl⟩ := subscribe_ok result
  refine ⟨rfl, ?_, ⟨_, List.getElem?_concat_length, rfl, rfl⟩⟩
  rw [feed_append, if_pos rfl]

/-! ### The broker is a topic bus -/

/-- A `carried?` delivery is appended once to every queue that `takes` it; no other operation but
`receive` changes a queue. `deliver` answers how many subscriptions took the delivery. -/
def Delivers (c : Channel) : Prop :=
  (∀ op d, c.carried? op = some d → ∀ sub,
    ((c.apply op).2.feed sub).queue = (c.feed sub).queue ++ if c.takes sub d then [d] else []) ∧
  (∀ op, c.carried? op = none → ∀ sub, op ≠ .receive sub →
    ((c.apply op).2.feed sub).queue = (c.feed sub).queue) ∧
  ∀ d n, (c.deliver d).1 = .ok n → n = c.subscriptions.countP (Subscription.takes d)

/-- For every subscription of the run: what it received, followed by what is queued for it, is what is
`due` between its `subscribe` and the first operation that `retires` it. From then on it receives
nothing. -/
def Accounts (ops : List Op) : Prop :=
  ∀ before during after session pattern subscriber sub,
    ops = before ++ .subscribe session pattern subscriber :: (during ++ after) →
    ((run {} before).subscribe session pattern subscriber).1 = .ok sub →
    (∀ op ∈ during, op.retires sub = false) → (∀ op ∈ after.head?, op.retires sub = true) →
    let start := ((run {} before).subscribe session pattern subscriber).2
    received sub (moments {} ops) ++ ((run {} ops).feed sub).queue =
        due pattern.encode sub (start.moments during) ∧
      received sub ((start.run during).moments after) = []

/-- While the broker is open, every subscription that is not cancelled is `routed`, and these are the
ones that `count`, `subscribersOf` and `routeCount` tell of. -/
def KeepsLive (c : Channel) : Prop :=
  c.closed = false →
    (∀ s ∈ c.subscriptions, s.feed.cancelled = false → s.routed = true) ∧
    (∀ pattern : Key,
      let active := c.subscriptions.filter fun s => !s.feed.cancelled && s.pattern == pattern.encode
      c.count pattern = active.length ∧ c.subscribersOf pattern = active.map Subscription.subscriber) ∧
    c.routeCount.1 = c.subscriptions.countP fun s => !s.feed.cancelled

theorem Sound.delivers {c : Channel} (sound : c.Sound) : c.Delivers := by
  refine ⟨?_, ?_, ?_⟩
  · intro op d carried sub
    exact queue_of_carried sound carried sub
  · intro op lost sub other
    exact queue_of_lost lost other
  · intro d n answer
    rw [deliver_answer sound (deliver_ok answer)] at answer
    exact (Except.ok.inj answer).symm

theorem Sound.keepsLive {c : Channel} (sound : c.Sound) : c.KeepsLive := by
  intro running
  have open_ : ∀ s ∈ c.subscriptions, s.Sound false := fun s member => running ▸ sound s member
  have liveOn : ∀ pattern : Key, c.liveOn pattern =
      c.subscriptions.filter fun s => !s.feed.cancelled && s.pattern == pattern.encode := by
    intro pattern
    apply List.filter_congr
    intro s member
    rw [(open_ s member).isLive]
  refine ⟨?_, ?_, ?_⟩
  · intro s member active
    exact (open_ s member).routed active
  · intro pattern
    rw [count, subscribersOf, liveOn]
    exact ⟨rfl, rfl⟩
  · rw [routeCount_eq]
    apply List.countP_congr
    intro s member
    rw [(open_ s member).isLive]

theorem accounts (ops : List Op) : Accounts ops := by
  intro before during after session pattern subscriber sub same subscribed kept retired start
  obtain ⟨number, empty, held⟩ := holds_of_subscribe subscribed
  have sound : start.Sound := (sound_empty.run before).subscribe session pattern subscriber
  have early : received sub (moments {} before) = [] := received_before (Nat.le_of_eq number.symm)
  have stretch : received sub (moments {} ops) = received sub (start.moments (during ++ after)) := by
    rw [same, moments_append, received_append, early, List.nil_append, moments, received_cons]
    rfl
  have final : run {} ops = start.run (during ++ after) := by
    rw [same, run_append, run_cons]
    rfl
  rw [stretch, final]
  exact held.accounts sound (congrArg Feed.queue empty) kept retired

/-- The broker implements the topic bus: for every sequence of operations it gives the answers of
`Bus` and has its state. Along the run it `Delivers`, `Accounts` for its subscriptions and
`KeepsLive`. -/
theorem is_topic_bus (ops : List Op) :
    (answers {} ops = Bus.answers {} ops ∧ (run {} ops).bus = Bus.run {} ops) ∧
      (run {} ops).Delivers ∧ Accounts ops ∧ (run {} ops).KeepsLive := by
  have sound : (run {} ops).Sound := sound_empty.run ops
  refine ⟨bus_run sound_empty ops, sound.delivers, accounts ops, sound.keepsLive⟩

/-- A subscription that is cancelled between two deliveries is due the first only. -/
theorem is_topic_bus_cancelled :
    let topic := "hc.wb.1.evt.attic.bob.drawing"
    let ops : List Op := [.openSession, .subscribe 0 (Key.roomPattern "attic") "ann",
      .deliver ⟨topic, [1]⟩, .cancel 0, .deliver ⟨topic, [2]⟩, .receive 0]
    received 0 (moments {} ops) ++ ((run {} ops).feed 0).queue = [⟨topic, [1]⟩] := by
  intro topic ops
  have owed := (is_topic_bus ops).2.2.1 [.openSession] [.deliver ⟨topic, [1]⟩]
    [.cancel 0, .deliver ⟨topic, [2]⟩, .receive 0] 0 (Key.roomPattern "attic") "ann" 0 rfl rfl
    (by simp [Op.retires]) (by simp [Op.retires])
  exact owed.1.trans (by decide +kernel)

end RoomRelay.Channel
