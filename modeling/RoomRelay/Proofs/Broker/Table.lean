import RoomRelay.Broker.Channel

/-!
The effect of each operation of `Channel` on one subscription of its table, and the invariant `Sound`.
-/

namespace RoomRelay

theorem Feed.offer_queue (f : Feed) (d : Delivery) :
    (f.offer d).2.queue = f.queue ++ if !f.cancelled && !f.isFull then [d] else [] := by
  unfold offer
  cases cancelled : f.cancelled <;> cases full : f.isFull <;> simp

@[simp] theorem Feed.offer_cancelled (f : Feed) (d : Delivery) :
    (f.offer d).2.cancelled = f.cancelled := by
  unfold offer
  split
  · rfl
  · split <;> rfl

@[simp] theorem Feed.offer_ended (f : Feed) (d : Delivery) : (f.offer d).2.ended = f.ended := by
  unfold offer
  split
  · rfl
  · split <;> rfl

theorem Feed.recv_flags (f : Feed) :
    f.recv.2.cancelled = f.cancelled ∧ f.recv.2.ended = f.ended := by
  unfold recv
  split
  · exact ⟨rfl, rfl⟩
  · split <;> exact ⟨rfl, rfl⟩

namespace Subscription

/-- Whether `deliver` appends `d` to the queue of `s`; `routed` does not enter into it. -/
def takes (d : Delivery) (s : Subscription) : Bool :=
  !s.feed.cancelled && Topic.selects s.pattern d.topic &&
    decide (s.feed.queue.length < subscriptionCapacity)

/-- The feed has `ended` iff the subscription is no longer `routed`, which takes a cancel or the
closing of the broker. -/
def Sound (closed : Bool) (s : Subscription) : Prop :=
  (s.feed.ended = true ↔ s.routed = false) ∧ (closed = true → s.routed = false) ∧
    (s.routed = false → s.feed.cancelled = true ∨ closed = true)

@[simp] theorem prune_pattern (s : Subscription) : s.prune.pattern = s.pattern := by
  unfold prune; split <;> rfl

@[simp] theorem prune_subscriber (s : Subscription) : s.prune.subscriber = s.subscriber := by
  unfold prune; split <;> rfl

@[simp] theorem prune_queue (s : Subscription) : s.prune.feed.queue = s.feed.queue := by
  unfold prune; split <;> rfl

@[simp] theorem prune_cancelled (s : Subscription) : s.prune.feed.cancelled = s.feed.cancelled := by
  unfold prune; split <;> rfl

@[simp] theorem prune_isLive (s : Subscription) : s.prune.isLive = s.isLive := by
  unfold prune
  split
  case isTrue gone =>
    obtain ⟨_, cancelled⟩ := Bool.and_eq_true_iff.mp gone
    simp [isLive, cancelled]
  case isFalse => rfl

@[simp] theorem unroute_pattern (s : Subscription) : s.unroute.pattern = s.pattern := by
  unfold unroute; split <;> rfl

@[simp] theorem unroute_subscriber (s : Subscription) : s.unroute.subscriber = s.subscriber := by
  unfold unroute; split <;> rfl

@[simp] theorem unroute_queue (s : Subscription) : s.unroute.feed.queue = s.feed.queue := by
  unfold unroute; split <;> rfl

@[simp] theorem unroute_cancelled (s : Subscription) : s.unroute.feed.cancelled = s.feed.cancelled := by
  unfold unroute; split <;> rfl

@[simp] theorem deliver_pattern (d : Delivery) (s : Subscription) :
    (s.deliver d).pattern = s.pattern := by
  unfold deliver; split <;> rfl

@[simp] theorem deliver_subscriber (d : Delivery) (s : Subscription) :
    (s.deliver d).subscriber = s.subscriber := by
  unfold deliver; split <;> rfl

@[simp] theorem deliver_routed (d : Delivery) (s : Subscription) : (s.deliver d).routed = s.routed := by
  unfold deliver; split <;> rfl

@[simp] theorem deliver_cancelled (d : Delivery) (s : Subscription) :
    (s.deliver d).feed.cancelled = s.feed.cancelled := by
  unfold deliver; split <;> simp

@[simp] theorem deliver_ended (d : Delivery) (s : Subscription) :
    (s.deliver d).feed.ended = s.feed.ended := by
  unfold deliver; split <;> simp

/-- On an open broker `routed` is determined by the `cancelled` flag. -/
theorem Sound.isLive {s : Subscription} (sound : s.Sound false) : s.isLive = !s.feed.cancelled := by
  obtain ⟨_, _, kept⟩ := sound
  unfold Subscription.isLive
  cases routed : s.routed
  · rcases kept routed with cancelled | closed
    · simp [cancelled]
    · exact absurd closed Bool.false_ne_true
  · simp

theorem Sound.routed {s : Subscription} (sound : s.Sound false) (active : s.feed.cancelled = false) :
    s.routed = true := by
  have live := sound.isLive
  rw [active] at live
  exact (Bool.and_eq_true_iff.mp live).1

theorem Sound.deliver_queue {s : Subscription} (sound : s.Sound false) (d : Delivery) :
    (s.prune.deliver d).feed.queue = s.feed.queue ++ if s.takes d then [d] else [] := by
  have reached : s.prune.isReached d.topic = (!s.feed.cancelled && Topic.selects s.pattern d.topic) := by
    rw [isReached, prune_isLive, prune_pattern, sound.isLive]
  unfold deliver takes
  rw [reached]
  cases active : s.feed.cancelled <;> cases Topic.selects s.pattern d.topic <;>
    simp [Feed.offer_queue, active, Feed.isFull]

theorem Sound.prune {closed : Bool} {s : Subscription} (sound : s.Sound closed) :
    s.prune.Sound closed := by
  unfold Subscription.prune
  split
  case isTrue gone =>
    obtain ⟨_, cancelled⟩ := Bool.and_eq_true_iff.mp gone
    exact ⟨⟨fun _ => rfl, fun _ => rfl⟩, fun _ => rfl, fun _ => .inl cancelled⟩
  case isFalse => exact sound

theorem Sound.unroute {closed : Bool} {s : Subscription} (sound : s.Sound closed) :
    s.unroute.Sound true := by
  unfold Subscription.unroute
  split
  case isTrue => exact ⟨⟨fun _ => rfl, fun _ => rfl⟩, fun _ => rfl, fun _ => .inr rfl⟩
  case isFalse gone => exact ⟨sound.1, fun _ => Bool.eq_false_iff.mpr gone, fun _ => .inr rfl⟩

theorem Sound.deliver {closed : Bool} {s : Subscription} (sound : s.Sound closed) (d : Delivery) :
    (s.deliver d).Sound closed := by
  unfold Sound
  rw [deliver_ended, deliver_routed, deliver_cancelled]
  exact sound

end Subscription

namespace Channel

def Sound (c : Channel) : Prop := ∀ s ∈ c.subscriptions, s.Sound c.closed

def takes (c : Channel) (sub : Nat) (d : Delivery) : Bool :=
  (c.subscriptions[sub]?).any (Subscription.takes d)

theorem sound_empty : Sound {} := by
  intro s member
  exact absurd member List.not_mem_nil

theorem feed_of_get {c : Channel} {sub : Nat} {s : Subscription}
    (found : c.subscriptions[sub]? = some s) : c.feed sub = s.feed := by
  simp only [feed, found]

theorem feed_of_missing {c : Channel} {sub : Nat} (missing : c.subscriptions[sub]? = none) :
    c.feed sub = { cancelled := true } := by
  simp only [feed, missing]

theorem get_of_active {c : Channel} {sub : Nat} (active : (c.feed sub).cancelled = false) :
    ∃ s, c.subscriptions[sub]? = some s ∧ c.feed sub = s.feed := by
  cases found : c.subscriptions[sub]? with
  | some s => exact ⟨s, rfl, feed_of_get found⟩
  | none =>
    rw [feed_of_missing found] at active
    contradiction

/-! ### Sessions -/

theorem openSession_subscriptions (c : Channel) : c.openSession.2.subscriptions = c.subscriptions := by
  unfold openSession; split <;> rfl

theorem openSession_closed (c : Channel) : c.openSession.2.closed = c.closed := by
  unfold openSession; split <;> rfl

@[simp] theorem openSession_feed (c : Channel) (sub : Nat) : c.openSession.2.feed sub = c.feed sub := by
  simp only [feed, openSession_subscriptions]

/-! ### Subscribing -/

theorem subscribe_ok {c c' : Channel} {session sub : Nat} {pattern : Key} {subscriber : String}
    (same : c.subscribe session pattern subscriber = (.ok sub, c')) :
    c.isOpen session = true ∧ c.closed = false ∧ sub = c.subscriptions.length ∧
      c' = { c with subscriptions := c.subscriptions ++ [{ pattern := pattern.encode, subscriber }] } := by
  unfold subscribe at same
  split at same
  · exact absurd (congrArg Prod.fst same) (by simp)
  · rename_i opened
    split at same
    · exact absurd (congrArg Prod.fst same) (by simp)
    · rename_i running
      obtain ⟨number, table⟩ := Prod.mk.inj same
      injection number with number
      exact ⟨by simpa using opened, Bool.eq_false_iff.mpr running, number.symm, table.symm⟩

theorem subscribe_error {c c' : Channel} {session : Nat} {pattern : Key} {subscriber : String}
    {e : BrokerError} (same : c.subscribe session pattern subscriber = (.error e, c')) :
    c' = c := by
  unfold subscribe at same
  split at same
  · exact (congrArg Prod.snd same).symm
  · split at same
    · exact (congrArg Prod.snd same).symm
    · exact absurd (congrArg Prod.fst same) (by simp)

theorem subscribe_running {c : Channel} {session : Nat} (opened : c.isOpen session = true)
    (running : c.closed = false) (pattern : Key) (user : String) :
    c.subscribe session pattern user =
      (.ok c.subscriptions.length,
        { c with subscriptions := c.subscriptions ++ [{ pattern := pattern.encode, subscriber := user }] }) := by
  rw [subscribe, opened, Bool.not_true, if_neg Bool.false_ne_true, if_neg (Bool.eq_false_iff.mp running)]

theorem feed_append (c : Channel) (s : Subscription) (sub : Nat) :
    feed { c with subscriptions := c.subscriptions ++ [s] } sub =
      if sub = c.subscriptions.length then s.feed else c.feed sub := by
  unfold feed
  rcases Nat.lt_trichotomy sub c.subscriptions.length with before | here | beyond
  · simp [List.getElem?_append_left before, Nat.ne_of_lt before]
  · simp [here]
  · have past : (c.subscriptions ++ [s]).length ≤ sub := by
      rw [List.length_append]
      exact beyond
    simp [List.getElem?_eq_none past, Nat.ne_of_gt beyond, Nat.le_of_lt beyond]

/-! ### Delivering -/

theorem deliver_closed {c : Channel} (closed : c.closed = true) (d : Delivery) :
    c.deliver d = (.error closedError, c, []) := by
  rw [deliver, if_pos closed]

theorem deliver_open {c : Channel} (running : c.closed = false) (d : Delivery) :
    (c.deliver d).1 = .ok ((c.prune.reached d.topic).countP fun s => !s.feed.isFull) ∧
      (c.deliver d).2.1 =
        { c with subscriptions := c.subscriptions.map fun s => s.prune.deliver d } := by
  rw [deliver, if_neg (Bool.eq_false_iff.mp running)]
  refine ⟨rfl, ?_⟩
  simp only [prune, List.map_map]
  rfl

theorem deliver_ok {c : Channel} {d : Delivery} {n : Nat} (done : (c.deliver d).1 = .ok n) :
    c.closed = false := by
  cases closed : c.closed
  · rfl
  · rw [deliver_closed closed] at done
    contradiction

theorem deliver_queue {c : Channel} (sound : c.Sound) (running : c.closed = false) (d : Delivery)
    (sub : Nat) :
    ((c.deliver d).2.1.feed sub).queue = (c.feed sub).queue ++ if c.takes sub d then [d] else [] := by
  rw [(deliver_open running d).2]
  cases found : c.subscriptions[sub]? with
  | none => simp [feed, takes, found]
  | some s =>
    have kept : s.Sound false := running ▸ sound s (List.mem_of_getElem? found)
    simp [feed, takes, found, kept.deliver_queue]

theorem deliver_answer {c : Channel} (sound : c.Sound) (running : c.closed = false) (d : Delivery) :
    (c.deliver d).1 = .ok (c.subscriptions.countP (Subscription.takes d)) := by
  rw [(deliver_open running d).1]
  simp only [prune, reached, List.filter_map, List.countP_map, List.countP_filter, Function.comp_def]
  refine congrArg Except.ok (List.countP_congr ?_)
  intro s member
  have live := Subscription.Sound.isLive (running ▸ sound s member)
  simp [Subscription.isReached, Subscription.takes, Feed.isFull, live, and_comm]

theorem publish_eq_deliver {c : Channel} {session : Nat} (opened : c.isOpen session = true) (key : Key)
    (payload : List UInt8) :
    c.publish session key payload =
      ((c.deliver ⟨key.encode, payload⟩).1.map fun _ => (), (c.deliver ⟨key.encode, payload⟩).2) := by
  simp [publish, opened]

theorem publish_refused {c : Channel} {session : Nat} (shut : c.isOpen session = false) (key : Key)
    (payload : List UInt8) :
    c.publish session key payload = (.error (.publish "session is closed"), c, []) := by
  simp [publish, shut]

/-! ### Receiving and cancelling -/

theorem feed_setFeed (c : Channel) (sub other : Nat) (f : Feed) :
    (c.setFeed sub f).feed other =
      if other = sub ∧ sub < c.subscriptions.length then f else c.feed other := by
  unfold setFeed feed
  rw [List.getElem?_modify]
  by_cases same : sub = other
  · subst same
    cases found : c.subscriptions[sub]? with
    | some s => simp [(List.getElem?_eq_some_iff.mp found).1]
    | none => simp [Nat.not_lt.mpr (List.getElem?_eq_none_iff.mp found)]
  · have apart : ¬(other = sub ∧ sub < c.subscriptions.length) := fun both => same both.1.symm
    simp [same, apart]

theorem feed_out_of_range {c : Channel} {sub : Nat} (beyond : ¬sub < c.subscriptions.length) :
    c.feed sub = { cancelled := true } :=
  feed_of_missing (List.getElem?_eq_none_iff.mpr (Nat.le_of_not_lt beyond))

theorem receive_queue (c : Channel) (sub : Nat) :
    (∃ d, (c.receive sub).1 = .delivery d ∧
      (c.feed sub).queue = d :: ((c.receive sub).2.feed sub).queue ∧ (c.feed sub).cancelled = false) ∨
    ((∀ d, (c.receive sub).1 ≠ .delivery d) ∧ (c.receive sub).2.feed sub = c.feed sub) := by
  simp only [receive, feed_setFeed, true_and]
  by_cases known : sub < c.subscriptions.length
  · simp only [known, if_true]
    unfold Feed.recv
    cases cancelled : (c.feed sub).cancelled
    · cases queue : (c.feed sub).queue with
      | nil =>
        refine .inr ⟨?_, rfl⟩
        intro d
        cases (c.feed sub).ended <;> simp
      | cons d rest => exact .inl ⟨d, rfl, rfl, rfl⟩
    · exact .inr ⟨fun d => by simp, rfl⟩
  · refine .inr ⟨?_, if_neg known⟩
    intro d
    rw [feed_out_of_range known]
    simp [Feed.recv]

theorem queued_of_receive {c : Channel} {sub : Nat} {d : Delivery}
    (received : (c.receive sub).1 = .delivery d) : d ∈ (c.feed sub).queue := by
  rcases c.receive_queue sub with ⟨first, answer, queue, -⟩ | ⟨none, -⟩
  · obtain rfl := Received.delivery.inj (answer.symm.trans received)
    exact queue ▸ List.mem_cons_self
  · exact absurd received (none d)

theorem receive_other {c : Channel} {sub other : Nat} (apart : other ≠ sub) :
    (c.receive sub).2.feed other = c.feed other := by
  rw [receive, feed_setFeed, if_neg fun both => apart both.1]

theorem cancel_queue (c : Channel) (sub other : Nat) :
    ((c.cancel sub).feed other).queue = (c.feed other).queue := by
  rw [cancel, feed_setFeed]
  split
  case isTrue same => rw [same.1]; rfl
  case isFalse => rfl

/-! ### Pruning and closing -/

theorem prune_feed_queue (c : Channel) (sub : Nat) : (c.prune.feed sub).queue = (c.feed sub).queue := by
  cases found : c.subscriptions[sub]? <;> simp [feed, prune, found]

theorem routeCount_eq (c : Channel) : c.routeCount.1 = c.subscriptions.countP Subscription.isLive := by
  simp only [routeCount, prune, List.countP_map]
  apply List.countP_congr
  intro s _
  simp only [Function.comp_apply, Subscription.prune, Subscription.isLive]
  cases routed : s.routed <;> cases cancelled : s.feed.cancelled <;> simp [routed]

theorem close_feed_queue (c : Channel) (sub : Nat) : (c.close.feed sub).queue = (c.feed sub).queue := by
  cases found : c.subscriptions[sub]? <;> simp [feed, close, found]

/-! ### Soundness -/

theorem Sound.openSession {c : Channel} (sound : c.Sound) : c.openSession.2.Sound := by
  unfold Sound
  rw [openSession_subscriptions, openSession_closed]
  exact sound

theorem Sound.closeSession {c : Channel} (sound : c.Sound) (session : Nat) :
    (c.closeSession session).Sound :=
  sound

theorem Sound.subscribe {c : Channel} (sound : c.Sound) (session : Nat) (pattern : Key)
    (subscriber : String) : (c.subscribe session pattern subscriber).2.Sound := by
  rcases result : c.subscribe session pattern subscriber with ⟨answer, after⟩
  cases answer with
  | error e => exact subscribe_error result ▸ sound
  | ok sub =>
    obtain ⟨_, running, _, rfl⟩ := subscribe_ok result
    intro s member
    rcases List.mem_append.mp member with old | new
    · exact sound s old
    · rw [List.mem_singleton.mp new]
      exact ⟨⟨nofun, nofun⟩, fun closed => absurd (running.symm.trans closed) nofun, nofun⟩

theorem Sound.map {c : Channel} {closed : Bool} {f : Subscription → Subscription} (sound : c.Sound)
    (kept : ∀ s, s.Sound c.closed → (f s).Sound closed) :
    Sound { c with closed := closed, subscriptions := c.subscriptions.map f } := by
  intro s member
  obtain ⟨old, present, rfl⟩ := List.mem_map.mp member
  exact kept old (sound old present)

theorem Sound.prune {c : Channel} (sound : c.Sound) : c.prune.Sound :=
  sound.map fun _ kept => kept.prune

theorem Sound.close {c : Channel} (sound : c.Sound) : c.close.Sound :=
  sound.map fun _ kept => kept.unroute

theorem Sound.deliver {c : Channel} (sound : c.Sound) (d : Delivery) : (c.deliver d).2.1.Sound := by
  cases closed : c.closed
  · rw [(deliver_open closed d).2]
    exact sound.map fun _ kept => kept.prune.deliver d
  · rw [deliver_closed closed]
    exact sound

theorem Sound.publish {c : Channel} (sound : c.Sound) (session : Nat) (key : Key)
    (payload : List UInt8) :
    (c.publish session key payload).2.1.Sound := by
  cases opened : c.isOpen session
  · rw [publish_refused opened]
    exact sound
  · rw [publish_eq_deliver opened]
    exact sound.deliver _

theorem Sound.setFeed {c : Channel} (sound : c.Sound) {sub : Nat} {f : Feed}
    (ended : f.ended = (c.feed sub).ended) (kept : (c.feed sub).cancelled = true → f.cancelled = true) :
    (c.setFeed sub f).Sound := by
  intro s member
  obtain ⟨i, found⟩ := List.getElem?_of_mem member
  rw [Channel.setFeed, List.getElem?_modify] at found
  obtain ⟨old, present, rfl⟩ := Option.map_eq_some_iff.mp found
  have before := sound old (List.mem_of_getElem? present)
  by_cases same : sub = i
  · subst same
    rw [feed_of_get present] at ended kept
    simp only [if_true]
    obtain ⟨exact, gone, reason⟩ := before
    exact ⟨ended ▸ exact, gone, fun out => (reason out).imp_left kept⟩
  · simp only [if_neg same]
    exact before

theorem Sound.receive {c : Channel} (sound : c.Sound) (sub : Nat) : (c.receive sub).2.Sound :=
  sound.setFeed (c.feed sub).recv_flags.2 fun cancelled => (c.feed sub).recv_flags.1.trans cancelled

theorem Sound.cancel {c : Channel} (sound : c.Sound) (sub : Nat) : (c.cancel sub).Sound :=
  sound.setFeed rfl fun _ => rfl

end Channel
end RoomRelay
