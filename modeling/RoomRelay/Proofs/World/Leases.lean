import RoomRelay.Proofs.Key.Codec
import RoomRelay.Proofs.World.Effects

/-!
Which subscriptions belong to which relays. A relay takes a `Lease` when it subscribes and gives it
back when it cancels, and no call touches the lease of another; so the `count` on a room's pattern is
the number of relays with a lease there.
-/

namespace RoomRelay

/-! ### The register of the broker -/

namespace Channel

/-- The pattern and the `cancelled` flag of each subscription. -/
def register (c : Channel) : List (String × Bool) :=
  c.subscriptions.map fun s => (s.pattern, s.feed.cancelled)

theorem register_length (c : Channel) : c.register.length = c.subscriptions.length :=
  List.length_map _

theorem register_map (c : Channel) {closed : Bool} {f : Subscription → Subscription}
    (samePattern : ∀ s, (f s).pattern = s.pattern)
    (sameFlag : ∀ s, (f s).feed.cancelled = s.feed.cancelled) :
    register { c with closed := closed, subscriptions := c.subscriptions.map f } = c.register := by
  simp only [register, List.map_map, Function.comp_def, samePattern, sameFlag]

theorem register_setFeed (c : Channel) (sub : Nat) (f : Feed) :
    (c.setFeed sub f).register = c.register.modify sub fun x => (x.1, f.cancelled) := by
  apply List.ext_getElem?
  intro i
  simp only [register, setFeed, List.getElem?_map, List.getElem?_modify]
  cases c.subscriptions[i]? with
  | none => rfl
  | some s => by_cases same : sub = i <;> simp [same]

theorem register_receive (c : Channel) (sub : Nat) : (c.receive sub).2.register = c.register := by
  rw [receive, register_setFeed, (c.feed sub).recv_flags.1]
  apply List.ext_getElem?
  intro i
  rw [List.getElem?_modify]
  by_cases same : sub = i
  · subst same
    cases found : c.subscriptions[sub]? with
    | none => simp [register, found]
    | some s => simp [register, found, feed_of_get found]
  · simp [same]

theorem register_cancel (c : Channel) (sub : Nat) :
    (c.cancel sub).register = c.register.modify sub fun x => (x.1, true) :=
  c.register_setFeed sub _

theorem register_subscribe {c c' : Channel} {session sub : Nat} {pattern : Key} {subscriber : String}
    (given : c.subscribe session pattern subscriber = (.ok sub, c')) :
    sub = c.register.length ∧ c'.register = c.register ++ [(pattern.encode, false)] := by
  obtain ⟨-, -, number, rfl⟩ := subscribe_ok given
  refine ⟨number.trans c.register_length.symm, ?_⟩
  simp only [register, List.map_append, List.map_singleton]

theorem register_deliver (c : Channel) (d : Delivery) : (c.deliver d).2.1.register = c.register := by
  cases closed : c.closed
  · rw [(deliver_open closed d).2]
    exact c.register_map (fun s => by simp) fun s => by simp
  · rw [deliver_closed closed]

theorem register_close (c : Channel) : c.close.register = c.register :=
  c.register_map Subscription.unroute_pattern Subscription.unroute_cancelled

/-- `count` by the register of an open broker. -/
theorem Sound.count {c : Channel} (sound : c.Sound) (running : c.closed = false) (pattern : Key) :
    c.count pattern = c.register.count (pattern.encode, false) := by
  rw [Channel.count, liveOn, ← List.countP_eq_length_filter, register, List.count, List.countP_map]
  apply List.countP_congr
  intro s member
  have live := Subscription.Sound.isLive (running ▸ sound s member)
  simp [live, and_comm]

theorem feed_of_register {c : Channel} {sub : Nat} {x : String × Bool}
    (registered : c.register[sub]? = some x) : (c.feed sub).cancelled = x.2 := by
  rw [register, List.getElem?_map] at registered
  obtain ⟨s, found, rfl⟩ := Option.map_eq_some_iff.mp registered
  rw [feed_of_get found]

end Channel

theorem Served.register {c c' : Channel} {act : Act} {reply : Reply} (served : Served c act reply c')
    (subscribes : ∀ session pattern subscriber, act ≠ .subscribe session pattern subscriber)
    (cancels : ∀ sub, act ≠ .cancel sub) : c'.register = c.register := by
  cases served with
  | openSession =>
    rw [Channel.register, Channel.openSession_subscriptions]
    rfl
  | subscribe session pattern subscriber => exact absurd rfl (subscribes session pattern subscriber)
  | cancel sub => exact absurd rfl (cancels sub)
  | @publish session e key payload =>
    cases opened : c.isOpen session
    · rw [Channel.publish_refused opened]
    · rw [Channel.publish_eq_deliver opened]
      exact c.register_deliver _
  | receive sub => exact c.register_receive sub
  | _ => rfl

/-! ### Leases -/

structure Lease where
  room : String
  number : Nat
  /-- It was given back. -/
  isOver : Bool

def Lease.entry (room : String) (isOver : Bool) : String × Bool :=
  ((Key.roomPattern room).encode, isOver)

theorem Lease.entry_inj {room room' : String} {isOver isOver' : Bool} :
    entry room isOver = entry room' isOver' ↔ room = room' ∧ isOver = isOver' := by
  rw [entry, entry, Prod.mk.injEq]
  exact and_congr_left' ⟨Key.roomPattern_injective, fun same => same ▸ rfl⟩

namespace Relay

def lease? (r : Relay) : Option Lease :=
  if r.isSubscribed then some ⟨r.room, r.subscription, r.hasParted⟩ else none

theorem lease_hear (r : Relay) (d : Delivery) (listens : r.phase = .listening) :
    (r.hear d).1.lease? = r.lease? := by
  unfold hear
  split <;> simp [lease?, isSubscribed, hasParted, enter, listens]

theorem lease_conclude {r : Relay} {why : Ending} (closes : r.phase = .closing why) :
    (r.conclude why).1.lease? = r.lease? := by
  unfold conclude
  split <;> simp [lease?, isSubscribed, hasParted, enter, closes]

theorem lease_resume {r : Relay} (subscribes : r.phase ≠ .subscribing)
    (cancels : ∀ sub, r.act ≠ .cancel sub) (now : Int64) (reply : Reply) :
    (r.resume now reply).1.lease? = r.lease? := by
  unfold resume
  split
  case h_3 | h_4 => all_goals exact absurd ‹_› subscribes
  case h_7 phase => exact absurd (by rw [act, phase]) (cancels r.subscription)
  case h_20 phase => exact absurd (by rw [act, phase]) (cancels r.subscription)
  case h_16 listens => exact lease_hear r _ listens
  case h_23 closes => exact lease_conclude closes
  case h_26 => rfl
  all_goals
    rename_i phase
    simp [lease?, isSubscribed, hasParted, enter, phase]

end Relay

namespace Call

def lease? : Call → Option Lease
  | relay r => r.lease?
  | sending _ => none

def dwells (room : String) (call : Call) : Bool :=
  call.lease?.any fun l => l.room == room && !l.isOver

end Call

/-- The effects of one act on the register and on the lease of its call. -/
inductive Leased (register register' : List (String × Bool)) (before after : Option Lease) : Prop where
  | takes (room : String) (free : before = none) (got : after = some ⟨room, register.length, false⟩)
    (entered : register' = register ++ [Lease.entry room false])
  | gives (room : String) (number : Nat) (held : before = some ⟨room, number, false⟩)
    (rid : after = none ∨ after = some ⟨room, number, true⟩)
    (struck : register' = register.modify number fun x => (x.1, true))
  | keeps (same : after = before) (untouched : register' = register)

namespace Relay

theorem phase_of_subscribe {r : Relay} {session : Nat} {pattern : Key} {subscriber : String}
    (asks : r.act = .subscribe session pattern subscriber) : r.phase = .subscribing := by
  unfold act at asks
  split at asks <;> first | contradiction | assumption

theorem phase_of_cancel {r : Relay} {sub : Nat} (cancels : r.act = .cancel sub) :
    sub = r.subscription ∧ ((∃ e, r.phase = .withdrawing e) ∨ ∃ why, r.phase = .cancelling why) := by
  unfold act at cancels
  split at cancels
  all_goals first | contradiction | cases cancels
  · exact ⟨rfl, .inl ⟨_, ‹_›⟩⟩
  · exact ⟨rfl, .inr ⟨_, ‹_›⟩⟩

variable {c c' : Channel} {r : Relay} {reply : Reply}

theorem leased_subscribing (served : Served c r.act reply c') (subscribes : r.phase = .subscribing)
    (now : Int64) : Leased c.register c'.register r.lease? (r.resume now reply).1.lease? := by
  have free : r.lease? = none := by rw [lease?, isSubscribed, subscribes]; rfl
  rw [act, subscribes] at served
  cases served with
  | subscribe session pattern subscriber =>
    rcases given : c.subscribe r.session r.pattern r.user with ⟨answer, after⟩
    cases answer with
    | ok sub =>
      obtain ⟨rfl, entered⟩ := Channel.register_subscribe given
      refine .takes r.room free ?_ entered
      simp [resume, subscribes, lease?, isSubscribed, hasParted]
    | error e =>
      rw [Channel.subscribe_error given]
      refine .keeps ?_ rfl
      simp [resume, subscribes, lease?, isSubscribed, enter]

theorem leased_cancelling (served : Served c r.act reply c') {sub : Nat} (cancels : r.act = .cancel sub)
    (now : Int64) : Leased c.register c'.register r.lease? (r.resume now reply).1.lease? := by
  rw [cancels] at served
  cases served with
  | cancel =>
    obtain ⟨rfl, ⟨e, withdraws⟩ | ⟨why, leaves⟩⟩ := phase_of_cancel cancels
    · refine .gives r.room r.subscription ?_ (.inl ?_) (c.register_cancel _)
      · simp [lease?, isSubscribed, hasParted, withdraws]
      · simp [resume, lease?, isSubscribed, enter, withdraws]
    · refine .gives r.room r.subscription ?_ (.inr ?_) (c.register_cancel _)
      · simp [lease?, isSubscribed, hasParted, leaves]
      · simp [resume, lease?, isSubscribed, hasParted, enter, leaves]

theorem leased (served : Served c r.act reply c') (now : Int64) :
    Leased c.register c'.register r.lease? (r.resume now reply).1.lease? := by
  by_cases subscribes : r.phase = .subscribing
  · exact leased_subscribing served subscribes now
  by_cases cancels : ∃ sub, r.act = .cancel sub
  · obtain ⟨sub, cancels⟩ := cancels
    exact leased_cancelling served cancels now
  · have neither := fun sub act => cancels ⟨sub, act⟩
    refine .keeps (lease_resume subscribes neither now reply) (served.register ?_ neither)
    exact fun session pattern subscriber asks => subscribes (phase_of_subscribe asks)

theorem leased_abandon (opening : r.isOpening = true) (c : Channel) :
    Leased c.register (r.letGo c).register r.lease? r.abandon.lease? := by
  rcases letGo_cases opening c with ⟨subscribed, cancelled⟩ | ⟨free, same⟩
  · have stays : r.hasParted = false := Bool.eq_false_iff.mpr fun parted => by
      cases (abandon_follows opening).2.2.1 parted
    rw [cancelled]
    refine .gives r.room r.subscription ?_ (.inl rfl) (c.register_cancel _)
    rw [lease?, if_pos subscribed, stays]
  · have none : r.lease? = none := by rw [lease?, if_neg (Bool.eq_false_iff.mp free)]
    exact .keeps none.symm (congrArg Channel.register same)

end Relay

theorem Call.leased {c c' : Channel} {call : Call} {reply : Reply} (served : Served c call.act reply c')
    (now : Int64) : Leased c.register c'.register call.lease? (call.resume now reply).lease? := by
  cases call with
  | relay r => exact r.leased served now
  | sending s =>
    refine .keeps rfl (served.register ?_ ?_)
    · intro session pattern subscriber
      rw [act, Sending.act]
      split <;> simp
    · intro sub
      rw [act, Sending.act]
      split <;> simp

/-! ### The leases of all calls -/

theorem countP_set {α : Type} (p : α → Bool) {xs : List α} {i : Nat} {x : α} (found : xs[i]? = some x)
    (y : α) : (xs.set i y).countP p + (p x).toNat = xs.countP p + (p y).toNat := by
  obtain ⟨inside, rfl⟩ := List.getElem?_eq_some_iff.mp found
  have counted : p xs[i] = true → 0 < xs.countP p :=
    fun holds => List.countP_pos_iff.mpr ⟨_, List.getElem_mem inside, holds⟩
  rw [List.countP_set inside]
  cases before : p xs[i]
  · cases p y <;> simp
  · have some := counted before
    cases p y <;> simp only [Bool.false_eq_true, if_true, if_false, Bool.toNat_true, Bool.toNat_false] <;>
      omega

/-- Each lease is in the register, no two calls have the same, and each room has as many active
entries as calls that dwell there. -/
structure Leases (register : List (String × Bool)) (calls : List Call) : Prop where
  held : ∀ (i : Nat) (call : Call) (l : Lease), calls[i]? = some call → call.lease? = some l →
    register[l.number]? = some (Lease.entry l.room l.isOver)
  apart : ∀ (i j : Nat) (call other : Call) (l l' : Lease), calls[i]? = some call →
    calls[j]? = some other → call.lease? = some l → other.lease? = some l' →
      l.number = l'.number → i = j
  counted : ∀ room, register.countP (· == Lease.entry room false) = calls.countP (Call.dwells room)

namespace Leases

variable {register register' : List (String × Bool)} {calls : List Call} {i : Nat} {call call' : Call}

theorem lt (leases : Leases register calls) (found : calls[i]? = some call) {l : Lease}
    (lease : call.lease? = some l) : l.number < register.length :=
  (List.getElem?_eq_some_iff.mp (leases.held i call l found lease)).1

theorem snoc (leases : Leases register calls) (free : call.lease? = none) :
    Leases register (calls ++ [call]) := by
  have old : ∀ (j : Nat) (other : Call) (l : Lease), (calls ++ [call])[j]? = some other →
      other.lease? = some l → calls[j]? = some other := by
    intro j other l found lease
    rcases getElem?_snoc found with ⟨-, before⟩ | ⟨-, rfl⟩
    · exact before
    · rw [free] at lease
      contradiction
  refine ⟨?_, ?_, ?_⟩
  · exact fun j other l found lease => leases.held j other l (old j other l found lease) lease
  · intro j k one other l l' found found' lease lease' same
    exact leases.apart j k one other l l' (old j one l found lease) (old k other l' found' lease')
      lease lease' same
  · intro room
    have dwells : call.dwells room = false := by rw [Call.dwells, free]; rfl
    rw [leases.counted, List.countP_append, List.countP_singleton, dwells]
    rfl

theorem balance (found : calls[i]? = some call) (call' : Call) (room : String) :
    (calls.set i call').countP (Call.dwells room) + (call.dwells room).toNat =
      calls.countP (Call.dwells room) + (call'.dwells room).toNat :=
  countP_set (Call.dwells room) found call'

theorem keeps (leases : Leases register calls) (found : calls[i]? = some call)
    (same : call'.lease? = call.lease?) : Leases register (calls.set i call') := by
  -- the call stands for what it was
  have old : ∀ (j : Nat) (other : Call) (l : Lease), (calls.set i call')[j]? = some other →
      other.lease? = some l → ∃ before, calls[j]? = some before ∧ before.lease? = some l := by
    intro j other l present lease
    rcases getElem?_set_cases present with ⟨rfl, rfl⟩ | ⟨-, before⟩
    · exact ⟨call, found, same ▸ lease⟩
    · exact ⟨other, before, lease⟩
  refine ⟨?_, ?_, ?_⟩
  · intro j other l present lease
    obtain ⟨before, present, lease⟩ := old j other l present lease
    exact leases.held j before l present lease
  · intro j k one other l l' present present' lease lease' number
    obtain ⟨before, present, lease⟩ := old j one l present lease
    obtain ⟨before', present', lease'⟩ := old k other l' present' lease'
    exact leases.apart j k before before' l l' present present' lease lease' number
  · intro room
    have dwells : call'.dwells room = call.dwells room := by rw [Call.dwells, same, Call.dwells]
    have after := balance found call' room
    rw [dwells] at after
    rw [leases.counted]
    exact (Nat.add_right_cancel after).symm

theorem takes (leases : Leases register calls) (found : calls[i]? = some call) {room : String}
    (free : call.lease? = none) (got : call'.lease? = some ⟨room, register.length, false⟩) :
    Leases (register ++ [Lease.entry room false]) (calls.set i call') := by
  refine ⟨?_, ?_, ?_⟩
  · intro j other l present lease
    rcases getElem?_set_cases present with ⟨rfl, rfl⟩ | ⟨-, before⟩
    · obtain rfl := Option.some.inj (got.symm.trans lease)
      exact List.getElem?_concat_length
    · rw [List.getElem?_append_left (leases.lt before lease)]
      exact leases.held j other l before lease
  · intro j k one other l l' present present' lease lease' number
    rcases getElem?_set_cases present with ⟨rfl, rfl⟩ | ⟨-, before⟩ <;>
      rcases getElem?_set_cases present' with ⟨rfl, rfl⟩ | ⟨-, before'⟩
    · rfl
    · obtain rfl := Option.some.inj (got.symm.trans lease)
      exact absurd number (Nat.ne_of_gt (leases.lt before' lease'))
    · obtain rfl := Option.some.inj (got.symm.trans lease')
      exact absurd number (Nat.ne_of_lt (leases.lt before lease))
    · exact leases.apart j k one other l l' before before' lease lease' number
  · intro room'
    have before : call.dwells room' = false := by rw [Call.dwells, free]; rfl
    have now : call'.dwells room' = (Lease.entry room false == Lease.entry room' false) := by
      rw [Call.dwells, got, Option.any_some, Bool.eq_iff_iff, beq_iff_eq, Lease.entry_inj]
      simp
    have after := balance found call' room'
    rw [before, now, Bool.toNat_false, Nat.add_zero] at after
    rw [List.countP_append, List.countP_singleton, leases.counted, after]
    cases Lease.entry room false == Lease.entry room' false <;> rfl

theorem gives (leases : Leases register calls) (found : calls[i]? = some call) {room : String}
    {number : Nat} (held : call.lease? = some ⟨room, number, false⟩)
    (rid : ∀ l, call'.lease? = some l → l = ⟨room, number, true⟩) :
    Leases (register.set number (Lease.entry room true)) (calls.set i call') := by
  have registered : register[number]? = some (Lease.entry room false) := leases.held i call _ found held
  -- only the call itself held the number
  have others : ∀ (j : Nat) (other : Call) (l : Lease), j ≠ i → calls[j]? = some other →
      other.lease? = some l → l.number ≠ number :=
    fun j other l away present lease same =>
      away (leases.apart j i other call l _ present found lease held same)
  refine ⟨?_, ?_, ?_⟩
  · intro j other l present lease
    rcases getElem?_set_cases present with ⟨rfl, rfl⟩ | ⟨away, before⟩
    · obtain rfl := rid l lease
      exact List.getElem?_set_self (leases.lt found held)
    · rw [List.getElem?_set_ne (others j other l away before lease).symm]
      exact leases.held j other l before lease
  · intro j k one other l l' present present' lease lease' number
    rcases getElem?_set_cases present with ⟨rfl, rfl⟩ | ⟨away, before⟩ <;>
      rcases getElem?_set_cases present' with ⟨rfl, rfl⟩ | ⟨away', before'⟩
    · rfl
    · obtain rfl := rid l lease
      exact absurd number.symm (others k other l' away' before' lease')
    · obtain rfl := rid l' lease'
      exact absurd number (others j one l away before lease)
    · exact leases.apart j k one other l l' before before' lease lease' number
  · intro room'
    have before : call.dwells room' = (Lease.entry room false == Lease.entry room' false) := by
      rw [Call.dwells, held, Option.any_some, Bool.eq_iff_iff, beq_iff_eq, Lease.entry_inj]
      simp
    have gone : call'.dwells room' = false := by
      cases lease : call'.lease? with
      | none => rw [Call.dwells, lease]; rfl
      | some l =>
        obtain rfl := rid l lease
        rw [Call.dwells, lease, Option.any_some]
        exact Bool.and_false _
    have struck : (Lease.entry room true == Lease.entry room' false) = false := by
      rw [beq_eq_false_iff_ne, Ne, Lease.entry_inj]
      nofun
    have after := balance found call' room'
    have table := countP_set (· == Lease.entry room' false) registered (Lease.entry room true)
    rw [before, gone] at after
    rw [struck] at table
    have counted := leases.counted room'
    omega

theorem set (leases : Leases register calls) (found : calls[i]? = some call)
    (leased : Leased register register' call.lease? call'.lease?) :
    Leases register' (calls.set i call') := by
  cases leased with
  | keeps same untouched => exact untouched ▸ leases.keeps found same
  | takes room free got entered => exact entered ▸ leases.takes found free got
  | gives room number held rid struck =>
    have registered : register[number]? = some (Lease.entry room false) :=
      leases.held i call _ found held
    have same : register' = register.set number (Lease.entry room true) := by
      rw [struck, List.modify_eq_set_getElem?, registered]
      rfl
    subst same
    refine leases.gives found held ?_
    intro l lease
    rcases rid with none | some
    · rw [none] at lease
      contradiction
    · exact Option.some.inj (lease.symm.trans some)

/-- A relay that has not parted has an active subscription. -/
theorem active {c : Channel} {r : Relay} (leases : Leases c.register calls)
    (found : calls[i]? = some (.relay r)) (subscribed : r.isSubscribed = true)
    (stays : r.hasParted = false) : (c.feed r.subscription).cancelled = false := by
  have lease : (Call.relay r).lease? = some ⟨r.room, r.subscription, false⟩ := by
    rw [Call.lease?, Relay.lease?, if_pos subscribed, stays]
  exact Channel.feed_of_register (leases.held i _ _ found lease)

end Leases

namespace World

variable {svc : Service} {w : World Channel}

theorem Leases.happen (leases : Leases w.broker.register w.calls) (kept : w.Kept) {h : Happening}
    (stays : ∀ i, h ≠ .move (.forsake i)) :
    Leases (w.happen svc h).broker.register (w.happen svc h).calls := by
  cases happened svc kept h with
  | idle idles broker calls => rwa [broker, calls]
  | closes broker calls =>
    rw [broker, calls, Channel.register_close]
    exact leases
  | begins opens broker calls =>
    rw [broker, calls]
    refine leases.snoc ?_
    rcases Happening.opens_cases opens with ⟨_, _, _, -, -, -, rfl⟩ | ⟨_, _, _, _, -, -, -, rfl⟩
    · rfl
    · rfl
  | @serves i first work shown reply found served calls =>
    rw [calls]
    have asks := work.call_act ▸ Channel.serve_served served
    exact leases.set (calls_of_task found) (Call.leased asks w.clock)
  | @takenUp i _ _ r found waits broker calls =>
    rw [broker, calls]
    refine leases.set found (.keeps ?_ rfl)
    simp [Call.lease?, Relay.lease?, Relay.isSubscribed, Relay.hasParted, Relay.run, Relay.enter, waits]
  | forsaken => exact absurd rfl (stays _)
  | abandoned found broker calls =>
    rw [broker, calls]
    exact leases.set found (.keeps rfl rfl)
  | deserted found opening broker calls =>
    rw [broker, calls]
    exact leases.set found (Relay.leased_abandon opening w.broker)

/-- `Leases` holds in every run without `forsake`. -/
theorem leases (svc : Service) (clock : Int64) {hs : List Happening}
    (stays : ∀ i, .move (.forsake i) ∉ hs) :
    Leases ((fresh clock).live svc hs).broker.register ((fresh clock).live svc hs).calls := by
  induction hs using List.reverseRecOn with
  | nil =>
    refine ⟨?_, ?_, fun room => rfl⟩
    · intro i call l found
      cases found
    · intro i j call other l l' found
      cases found
  | append_singleton hs h ih =>
    rw [live_snoc]
    have before := ih fun i member => stays i (List.mem_append_left _ member)
    refine Leases.happen before ((kept_fresh clock).live hs) ?_
    rintro i rfl
    exact stays i (List.mem_append_right _ List.mem_cons_self)

end World
end RoomRelay
