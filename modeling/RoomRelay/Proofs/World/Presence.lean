import RoomRelay.Proofs.World.Order

/-!
Who knows of whom. A relay subscribes, then publishes its join, then counts the members; when it goes
it cancels, then publishes its leave. So of two relays in one room each counts the other or gets its
join, and gets its leave behind that, for every interleaving of the steps of all calls.
-/

namespace RoomRelay

def Event.delivery? (e : Event) : Option Delivery :=
  e.key?.map fun key => ⟨key.encode, e.encode⟩

theorem Event.message_of_delivery {e : Event} {d : Delivery} (carried : e.delivery? = some d) :
    ∃ key, e.message = .ok (key, e.encode) ∧ d = ⟨key.encode, e.encode⟩ := by
  obtain ⟨key, known, rfl⟩ := Option.map_eq_some_iff.mp carried
  refine ⟨key, ?_, rfl⟩
  rw [message, known]

theorem Event.delivery_of_message {e : Event} {key : Key} {payload : List UInt8}
    (message : e.message = .ok (key, payload)) : e.delivery? = some ⟨key.encode, payload⟩ := by
  unfold Event.message at message
  cases known : e.key? with
  | none =>
    rw [known] at message
    cases message
  | some key' =>
    rw [known] at message
    cases message
    rw [delivery?, known]
    rfl

namespace Channel

def counted (c : Channel) (pattern : Key) : List Nat :=
  (c.subscriptions.zipIdx.filter fun x => x.1.isLive && x.1.pattern == pattern.encode).map Prod.snd

theorem counted_length (c : Channel) (pattern : Key) : (c.counted pattern).length = c.count pattern := by
  have values : c.liveOn pattern =
      (c.subscriptions.zipIdx.map Prod.fst).filter fun s => s.isLive && s.pattern == pattern.encode := by
    rw [List.zipIdx_map_fst, liveOn]
  rw [count, values, List.filter_map, List.length_map, counted, List.length_map]
  rfl

theorem mem_counted {c : Channel} {pattern : Key} {sub : Nat} :
    sub ∈ c.counted pattern ↔
      ∃ s, c.subscriptions[sub]? = some s ∧ s.isLive = true ∧ s.pattern = pattern.encode := by
  simp only [counted, List.mem_map, List.mem_filter, Bool.and_eq_true, beq_iff_eq]
  constructor
  · rintro ⟨⟨s, i⟩, ⟨member, live, same⟩, rfl⟩
    exact ⟨s, List.mem_zipIdx_iff_getElem?.mp member, live, same⟩
  · rintro ⟨s, found, live, same⟩
    exact ⟨(s, sub), ⟨List.mem_zipIdx_iff_getElem?.mpr found, live, same⟩, rfl⟩

theorem mem_counted_iff_holds {c : Channel} (sound : c.Sound) (running : c.closed = false)
    {pattern : Key} {sub : Nat} :
    sub ∈ c.counted pattern ↔ c.Holds sub pattern.encode false := by
  rw [mem_counted]
  apply exists_congr
  intro s
  apply and_congr_right
  intro found
  have live := Subscription.Sound.isLive (running ▸ sound s (List.mem_of_getElem? found))
  rw [live, Bool.not_eq_true', and_comm]

def overflows (c : Channel) (sub : Nat) (d : Delivery) : Bool :=
  (c.subscriptions[sub]?).any fun s => s.isReached d.topic && s.feed.isFull

theorem Holds.unique {c : Channel} {sub : Nat} {pattern pattern' : String}
    {cancelled cancelled' : Bool} (held : c.Holds sub pattern cancelled)
    (held' : c.Holds sub pattern' cancelled') :
    pattern = pattern' ∧ cancelled = cancelled' := by
  obtain ⟨s, found, rfl, rfl⟩ := held
  obtain ⟨s', found', rfl, rfl⟩ := held'
  obtain rfl := Option.some.inj (found.symm.trans found')
  exact ⟨rfl, rfl⟩

theorem Holds.takes_of_roomy {c : Channel} {sub : Nat} {pattern : String} {d : Delivery}
    (held : c.Holds sub pattern false) (sound : c.Sound) (running : c.closed = false)
    (selected : Topic.selects pattern d.topic = true)
    (roomy : c.overflows sub d = false) : c.takes sub d = true := by
  obtain ⟨s, found, rfl, active⟩ := held
  have live := Subscription.Sound.isLive (running ▸ sound s (List.mem_of_getElem? found))
  rw [overflows, found] at roomy
  rw [Channel.takes, found]
  simp_all [Subscription.isReached, Subscription.takes, Feed.isFull]

end Channel

namespace Relay

theorem phase_of_count {r : Relay} {pattern : Key} (asks : r.act = .count pattern) :
    r.phase = .counting := by
  unfold act at asks
  split at asks <;> first | contradiction | assumption

theorem phase_of_publish {r : Relay} {session : Nat} {e : Event}
    (publishes : r.act = .publish session e) :
    r.phase = .joining e ∨ ∃ why, r.phase = .leaving why e := by
  unfold act at publishes
  split at publishes
  all_goals first | contradiction | cases publishes
  · exact .inl ‹_›
  · exact .inr ⟨_, ‹_›⟩

theorem session_of_publish {r : Relay} {session : Nat} {e : Event}
    (publishes : r.act = .publish session e) : r.session? = some r.session := by
  rcases phase_of_publish publishes with joins | ⟨why, leaves⟩
  · rw [session?, joins]
  · rw [session?, leaves]

end Relay

namespace World

def publishing? (w : World Channel) : Move → Option Delivery
  | .step i _ =>
    (w.calls[i]?).bind fun call =>
      match call.act with
      | .publish _ e => e.delivery?
      | _ => none
  | _ => none

theorem Orderly.publishes {svc : Service} {w : World Channel} (orderly : w.Orderly) {i sub : Nat}
    {first : Signal} {r : Relay} {e : Event} {d : Delivery} (found : w.calls[i]? = some (.relay r))
    (acts : r.act = .publish r.session e) (holds : r.session? = some r.session)
    (carried : e.delivery? = some d)
    (takes : w.broker.takes sub d = true) :
    ((w.move svc (.step i first)).broker.feed sub).queue = (w.broker.feed sub).queue ++ [d] := by
  obtain ⟨prompt, sound, running, -, apart⟩ := orderly
  obtain ⟨key, message, rfl⟩ := Event.message_of_delivery carried
  have isOpen : w.broker.isOpen r.session = true := (apart i _ r.session found holds).1
  have publishes : Call.act (.relay r) = .publish r.session e := acts
  rcases move_step svc prompt found first with ⟨reply, served, -⟩ | ⟨-, waits⟩
  · rw [publishes] at served
    generalize (w.move svc (.step i first)).broker = after at served ⊢
    cases served with
    | publish _ same =>
      rw [message] at same
      cases same
      rw [Channel.publish_eq_deliver isOpen]
      have queue := Channel.deliver_queue sound running ⟨key.encode, e.encode⟩ sub
      rwa [takes, if_pos rfl] at queue
    | unroutable _ same =>
      rw [message] at same
      contradiction
  · rw [publishes] at waits
    contradiction

end World

/-! ### Runs -/

/-- A service and all that happens to it from its start. -/
structure Run where
  service : Service
  clock : Int64
  moves : List Move

namespace Run

variable (run : Run)

def after (k : Nat) : World Channel := (World.fresh run.clock).play run.service (run.moves.take k)

theorem orderly (k : Nat) : (run.after k).Orderly :=
  ((World.orderly_fresh run.clock).play (run.moves.take k)).1

theorem after_succ {k : Nat} {m : Move} (next : run.moves[k]? = some m) :
    run.after (k + 1) = (run.after k).move run.service m := by
  unfold after World.play
  rw [List.take_add_one, next, List.foldl_append]
  rfl

theorem later {k l : Nat} (order : k ≤ l) : (run.after k).Later (run.after l) := by
  have split := List.take_append_drop k (run.moves.take l)
  rw [List.take_take, Nat.min_eq_left order] at split
  have play : run.after l = (run.after k).play run.service ((run.moves.take l).drop k) := by
    unfold after World.play
    rw [← List.foldl_append, split]
  rw [play]
  exact ((run.orderly k).play _).2

/-- Relay `i` has the subscription `sub` on `room`. -/
def Subscribes (i : Nat) (room : String) (sub : Nat) : Prop :=
  ∃ k r, (run.after k).relay? i = some r ∧
    r.isSubscribed = true ∧ r.room = room ∧ r.subscription = sub

def Steps (k i : Nat) : Prop :=
  ∃ first, run.moves[k]? = some (.step i first)

/-- Move `k` is the `count` of relay `i`, and `seen` are the subscriptions counted. -/
def Counts (k i : Nat) (seen : List Nat) : Prop :=
  run.Steps k i ∧
    ∃ r, (run.after k).relay? i = some r ∧ r.act = .count r.pattern ∧
      seen = (run.after k).broker.counted r.pattern

def Tells (k i n : Nat) : Prop :=
  ∃ r at_, (run.after (k + 1)).relay? i = some r ∧
    r.act = .offer (.ok (Wire.Event.ofDomain (r.event at_ (.occupancy n.toUInt32))))

def Publishes (k i : Nat) (payload : Payload) (d : Delivery) : Prop :=
  run.Steps k i ∧ ∃ r at_, (run.after k).relay? i = some r ∧
    r.act = .publish r.session (r.event at_ payload) ∧ (r.event at_ payload).delivery? = some d

def Places (k sub : Nat) (d : Delivery) : Prop :=
  ((run.after (k + 1)).broker.feed sub).queue = ((run.after k).broker.feed sub).queue ++ [d]

def Stays (sub : Nat) : Prop :=
  ((run.after run.moves.length).broker.feed sub).cancelled = false

def NeverOverflows (sub : Nat) : Prop :=
  ∀ k m d, run.moves[k]? = some m → (run.after k).publishing? m = some d →
    (run.after k).broker.overflows sub d = false

variable {run} {u v k : Nat} {room : String} {a b : Nat}

theorem relay_at {l : Nat} {r : Relay} (order : k ≤ l) (found : (run.after k).relay? u = some r) :
    ∃ r', (run.after l).relay? u = some r' ∧ r.Follows r' := by
  obtain ⟨r', found', follows⟩ := (run.later order).2 u r (World.relay?_eq_some.mp found)
  exact ⟨r', World.relay?_eq_some.mpr found', follows⟩

theorem same_relay {l : Nat} {r r' : Relay} (found : (run.after k).relay? u = some r)
    (found' : (run.after l).relay? u = some r') : r.Follows r' ∨ r'.Follows r := by
  rcases Nat.le_total k l with order | order
  · obtain ⟨later, present, follows⟩ := relay_at order found
    exact .inl (Option.some.inj (present.symm.trans found') ▸ follows)
  · obtain ⟨later, present, follows⟩ := relay_at order found'
    exact .inr (Option.some.inj (present.symm.trans found) ▸ follows)

theorem Subscribes.at_ (subscribes : run.Subscribes u room a) {r : Relay}
    (found : (run.after k).relay? u = some r) :
    r.room = room ∧ (r.isSubscribed = true → r.subscription = a) := by
  obtain ⟨l, r', found', subscribed', rfl, rfl⟩ := subscribes
  rcases same_relay found found' with follows | follows
  · obtain ⟨-, sameRoom, -, keeps⟩ := follows
    refine ⟨sameRoom.symm, ?_⟩
    intro subscribed
    exact (keeps (Relay.hasAsked_of_isSubscribed subscribed)).2.symm
  · obtain ⟨-, sameRoom, -, keeps⟩ := follows
    exact ⟨sameRoom, fun _ => (keeps (Relay.hasAsked_of_isSubscribed subscribed')).2⟩

theorem wellKept {r : Relay} (found : (run.after k).relay? u = some r) :
    r.WellKept (run.after k).broker :=
  (run.orderly k).2.2.2.1 u r (World.relay?_eq_some.mp found)

theorem Subscribes.known (subscribes : run.Subscribes u room a) {r : Relay}
    (found : (run.after k).relay? u = some r) (subscribed : r.isSubscribed = true) :
    ∃ cancelled, (run.after k).broker.Holds a (Key.roomPattern room).encode cancelled ∧
      (r.hasParted = true → cancelled = true) := by
  obtain ⟨rfl, same⟩ := subscribes.at_ found
  obtain ⟨-, -, -, known⟩ := wellKept found
  rw [← same subscribed]
  exact known subscribed

theorem Subscribes.holds (subscribes : run.Subscribes u room a)
    (active : ((run.after k).broker.feed a).cancelled = false) :
    (run.after k).broker.Holds a (Key.roomPattern room).encode false := by
  obtain ⟨s, found, same⟩ := Channel.get_of_active active
  have held : (run.after k).broker.Holds a s.pattern false := ⟨s, found, rfl, same ▸ active⟩
  have pattern : s.pattern = (Key.roomPattern room).encode := by
    have given := subscribes
    obtain ⟨l, r, present, subscribed, -, -⟩ := given
    obtain ⟨cancelled, known, -⟩ := subscribes.known present subscribed
    rcases Nat.le_total k l with order | order
    · obtain ⟨_, later, -⟩ := (run.later order).1 _ _ _ held
      exact (later.unique known).1
    · obtain ⟨_, later, -⟩ := (run.later order).1 _ _ _ known
      exact (held.unique later).1
  exact pattern ▸ held

theorem active_before {l : Nat} {pattern : String} {cancelled : Bool} (order : k ≤ l)
    (held : (run.after k).broker.Holds a pattern cancelled)
    (active : ((run.after l).broker.feed a).cancelled = false) : cancelled = false := by
  obtain ⟨cancelled', later, stays⟩ := (run.later order).1 _ _ _ held
  rw [later.feed] at active
  cases cancelled
  · rfl
  · rw [stays rfl] at active
    contradiction

theorem lt_of_next {m : Move} (next : run.moves[k]? = some m) : k < run.moves.length :=
  (List.getElem?_eq_some_iff.mp next).1

theorem Counts.tells {seen : List Nat} (counts : run.Counts k u seen) :
    run.Tells k u seen.length := by
  obtain ⟨⟨first, next⟩, r, found, asks, rfl⟩ := counts
  have present := World.relay?_eq_some.mp found
  have counting := Relay.phase_of_count asks
  have asked : Call.act (.relay r) = .count r.pattern := asks
  rcases World.move_step run.service (run.orderly k).1 present first with
    ⟨reply, served, calls⟩ | ⟨-, waits⟩
  · rw [asked] at served
    rw [← run.after_succ next] at calls
    generalize (World.move run.service (run.after k) (.step u first)).broker = after at served
    cases served
    rw [Channel.counted_length]
    generalize (run.after k).broker.count r.pattern = n at calls ⊢
    generalize (run.after k).clock = now at calls
    have goesOn : (r.resume now (.counted (.ok (some n)))).1 =
        r.enter (.announcing (r.event now (.occupancy n.toUInt32))) := by
      simp only [Relay.resume, counting]
    have told : (run.after (k + 1)).calls[u]? =
        some (.relay (r.enter (.announcing (r.event now (.occupancy n.toUInt32))))) := by
      rw [calls, List.getElem?_set_self (List.getElem?_eq_some_iff.mp present).1, Call.resume, goesOn]
    exact ⟨_, now, World.relay?_eq_some.mpr told, rfl⟩
  · rw [asked] at waits
    contradiction

theorem Publishes.places {payload : Payload} {d : Delivery} (publishes : run.Publishes k v payload d)
    (member : run.Subscribes v room b) (listens : run.Subscribes u room a)
    (roomy : run.NeverOverflows a) (active : ((run.after k).broker.feed a).cancelled = false) :
    run.Places k a d := by
  obtain ⟨⟨first, next⟩, r, at_, found, acts, carried⟩ := publishes
  have present := World.relay?_eq_some.mp found
  have orderly := run.orderly k
  obtain ⟨-, sound, running, -⟩ := id orderly
  obtain ⟨rfl, -⟩ := member.at_ found
  obtain ⟨safe, segment, -⟩ := wellKept found
  have published : (run.after k).publishing? (.step v first) = some d := by
    rw [World.publishing?, present, Option.bind_some, show Call.act (.relay r) = _ from acts]
    exact carried
  have selected : Topic.selects (Key.roomPattern r.room).encode d.topic = true := by
    obtain ⟨key, known, rfl⟩ := Option.map_eq_some_iff.mp carried
    obtain ⟨kind, -, rfl⟩ := Option.map_eq_some_iff.mp known
    exact Key.roomPattern_selects (Topic.isSafe_of_isSegment segment) safe kind
  have takes : (run.after k).broker.takes a d = true :=
    (listens.holds active).takes_of_roomy sound running selected (roomy k _ d next published)
  rw [Places, run.after_succ next]
  exact orderly.publishes present acts (Relay.session_of_publish acts) carried takes

theorem Publishes.subscribed {payload : Payload} {d : Delivery}
    (publishes : run.Publishes k v payload d) :
    ∃ r, (run.after k).relay? v = some r ∧ r.isSubscribed = true ∧
      (payload = .userLeft → r.hasParted = true) ∧ (payload = .userJoined → r.hasParted = false) := by
  obtain ⟨-, r, at_, found, acts, -⟩ := publishes
  obtain ⟨-, -, announces, -⟩ := wellKept found
  refine ⟨r, found, ?_⟩
  rcases Relay.phase_of_publish acts with joins | ⟨why, leaves⟩
  · rw [Relay.Announces, joins] at announces
    have payloads : payload = .userJoined := congrArg Event.payload announces
    have other : Payload.userJoined ≠ .userLeft := by decide
    rw [Relay.isSubscribed, Relay.hasParted, joins, payloads]
    exact ⟨rfl, fun same => absurd same other, fun _ => rfl⟩
  · rw [Relay.Announces, leaves] at announces
    have payloads : payload = .userLeft := congrArg Event.payload announces
    have other : Payload.userLeft ≠ .userJoined := by decide
    rw [Relay.isSubscribed, Relay.hasParted, leaves, payloads]
    exact ⟨rfl, fun _ => rfl, fun same => absurd same other⟩

/-- A join that is published before the `count` belongs to a subscription that is counted. -/
theorem Counts.sees {i j : Nat} {seen : List Nat} {d : Delivery} (counts : run.Counts i u seen)
    (joins : run.Publishes j v .userJoined d) (order : j ≤ i) (listens : run.Subscribes u room a)
    (member : run.Subscribes v room b) (stays : run.Stays b) : b ∈ seen := by
  obtain ⟨⟨first, next⟩, r, found, -, rfl⟩ := counts
  obtain ⟨r', present, subscribed, -⟩ := joins.subscribed
  obtain ⟨cancelled, known, -⟩ := member.known present subscribed
  obtain ⟨cancelled', held, -⟩ := (run.later order).1 _ _ _ known
  obtain rfl := active_before (Nat.le_of_lt (lt_of_next next)) held stays
  obtain ⟨-, sound, running, -⟩ := run.orderly i
  obtain ⟨rfl, -⟩ := listens.at_ found
  exact (Channel.mem_counted_iff_holds sound running).mpr held

/-- A join that is published after the `count` is queued for the relay that counted. -/
theorem Counts.hears {i j : Nat} {seen : List Nat} {d : Delivery} (counts : run.Counts i u seen)
    (joins : run.Publishes j v .userJoined d) (order : i ≤ j) (listens : run.Subscribes u room a)
    (member : run.Subscribes v room b) (roomy : run.NeverOverflows a) (stays : run.Stays a) :
    run.Places j a d := by
  obtain ⟨_, r, found, asks, -⟩ := counts
  have subscribed : r.isSubscribed = true := by rw [Relay.isSubscribed, Relay.phase_of_count asks]
  obtain ⟨_, known, -⟩ := listens.known found subscribed
  obtain ⟨cancelled, held, -⟩ := (run.later order).1 _ _ _ known
  obtain ⟨first, next⟩ := joins.1
  obtain rfl := active_before (Nat.le_of_lt (lt_of_next next)) held stays
  exact joins.places member listens roomy held.feed

/-- `cancel` precedes the leave, so that nobody counts a relay that has left. -/
theorem Counts.precedes_leave {i : Nat} {seen : List Nat} {d : Delivery}
    (counts : run.Counts i u seen) (counted : b ∈ seen) (member : run.Subscribes v room b)
    (leaves : run.Publishes k v .userLeft d) : i < k := by
  obtain ⟨r, found, subscribed, parts, -⟩ := leaves.subscribed
  obtain ⟨cancelled, known, gone⟩ := member.known found subscribed
  obtain rfl := gone (parts rfl)
  apply Nat.lt_of_not_le
  intro order
  obtain ⟨_, later, stays⟩ := (run.later order).1 _ _ _ known
  obtain ⟨-, _, -, -, rfl⟩ := counts
  obtain ⟨-, sound, running, -⟩ := run.orderly i
  have held := (Channel.mem_counted_iff_holds sound running).mp counted
  exact Bool.false_ne_true ((held.unique later).2.trans (stays rfl))

theorem Publishes.precedes_leave {j : Nat} {joined d : Delivery}
    (joins : run.Publishes j v .userJoined joined) (leaves : run.Publishes k v .userLeft d) :
    j < k := by
  obtain ⟨r, found, -, parts, -⟩ := leaves.subscribed
  apply Nat.lt_of_not_le
  intro order
  obtain ⟨r', present, -, -, before⟩ := joins.subscribed
  obtain ⟨r'', same, -, -, parted, -⟩ := relay_at order found
  obtain rfl := Option.some.inj (present.symm.trans same)
  exact Bool.false_ne_true ((before rfl).symm.trans (parted (parts rfl)))

/-- For every interleaving of the steps of any calls: of two relays that are subscribed to one room
and stay, each that counts the members counts the other or gets its join, and it gets the other's
leave behind that as long as it is there itself. No publish may find its queue full. -/
theorem nobody_is_missed (run : Run) {u v : Nat} {room : String} {a b : Nat}
    (listens : run.Subscribes u room a) (member : run.Subscribes v room b)
    (roomy : run.NeverOverflows a) :
    (∀ i seen, run.Counts i u seen → run.Tells i u seen.length) ∧
    (∀ i j seen d, run.Counts i u seen → run.Publishes j v .userJoined d → run.Stays a → run.Stays b →
      b ∈ seen ∨ run.Places j a d) ∧
    (∀ k d, run.Publishes k v .userLeft d → ((run.after k).broker.feed a).cancelled = false →
      run.Places k a d ∧ (∀ i seen, run.Counts i u seen → b ∈ seen → i < k) ∧
        ∀ j joined, run.Publishes j v .userJoined joined → j < k) := by
  refine ⟨?_, ?_, ?_⟩
  · intro i seen counts
    exact counts.tells
  · intro i j seen d counts joins here there
    rcases Nat.le_total j i with order | order
    · exact .inl (counts.sees joins order listens member there)
    · exact .inr (counts.hears joins order listens member roomy here)
  · intro k d leaves active
    refine ⟨leaves.places member listens roomy active, ?_, ?_⟩
    · intro i seen counts counted
      exact counts.precedes_leave counted member leaves
    · intro j joined joins
      exact joins.precedes_leave leaves

/-- Ann counts the members of the attic before bob joins there. -/
def lateJoin : Run where
  service := {}
  clock := 0
  moves :=
    [.recvEvents [("x-user", [97, 110, 110])] "attic", .step 0 .client,
      .step 0 .client, .step 0 .client, .takeUp 0 32 false, .step 0 .client,
      .recvEvents [("x-user", [98, 111, 98])] "attic", .step 1 .client,
      .step 1 .client, .step 1 .client]

theorem nobody_is_missed_late_join :
    ∃ d, lateJoin.Publishes 9 1 .userJoined d ∧ lateJoin.Places 9 0 d := by
  have subscribes : ∀ i < 2, ((lateJoin.after 10).relay? i).any fun r =>
      r.isSubscribed && (r.room == "attic" && r.subscription == i) := by decide +kernel
  have quiet : ∀ k < 10, ((lateJoin.moves[k]?.bind (lateJoin.after k).publishing?).any fun d =>
      (lateJoin.after k).broker.overflows 0 d) = false := by decide +kernel
  have given : ∀ i < 2, lateJoin.Subscribes i "attic" i := by
    intro i low
    obtain ⟨r, found, same⟩ := (Option.any_eq_true _ _).mp (subscribes i low)
    simp only [Bool.and_eq_true, beq_iff_eq] at same
    exact ⟨10, r, found, same⟩
  have roomy : lateJoin.NeverOverflows 0 := by
    intro k m d next published
    have seen := quiet k (lt_of_next next)
    rwa [next, Option.bind_some, published, Option.any_some] at seen
  have counts : lateJoin.Counts 5 0 [0] := by
    have phase : ((lateJoin.after 5).relay? 0).map Relay.phase = some .counting := by decide +kernel
    have seen : (lateJoin.after 5).broker.counted (Key.roomPattern "attic") = [0] := by decide +kernel
    obtain ⟨r, found, counting⟩ := Option.map_eq_some_iff.mp phase
    obtain ⟨room, -⟩ := (given 0 (by decide)).at_ found
    refine ⟨⟨.client, rfl⟩, r, found, by rw [Relay.act, counting], ?_⟩
    rw [Relay.pattern, room, seen]
  obtain ⟨d, joins⟩ : ∃ d, lateJoin.Publishes 9 1 .userJoined d := by
    have phase : ((lateJoin.after 9).relay? 1).any fun r =>
        r.phase == .joining (r.event 5 .userJoined) := by decide +kernel
    obtain ⟨r, found, joining⟩ := (Option.any_eq_true _ _).mp phase
    exact ⟨_, ⟨.client, rfl⟩, r, 5, found, by rw [Relay.act, beq_iff_eq.mp joining], rfl⟩
  obtain ⟨-, either, -⟩ := nobody_is_missed lateJoin (given 0 (by decide)) (given 1 (by decide)) roomy
  have missed : 1 ∉ [0] := by decide
  have here : lateJoin.Stays 0 := by
    unfold Stays
    decide +kernel
  have there : lateJoin.Stays 1 := by
    unfold Stays
    decide +kernel
  exact ⟨d, joins, (either 5 9 [0] d counts joins here there).resolve_left missed⟩

end Run
end RoomRelay
