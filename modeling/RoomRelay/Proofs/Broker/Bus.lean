import RoomRelay.Proofs.Broker.Table

/-!
`Bus` is the topic bus that `Channel` implements: members with a queue each, and no table. `bus_run`
shows that a run of `Channel` and the run of its bus have the same answers.
-/

namespace RoomRelay

namespace Channel

inductive Op where
  | openSession
  | subscribe (session : Nat) (pattern : Key) (subscriber : String)
  | publish (session : Nat) (key : Key) (payload : List UInt8)
  | deliver (d : Delivery)
  | receive (sub : Nat)
  /-- Through the subscription or through any handle that was saved of it. -/
  | cancel (sub : Nat)
  | drop (sub : Nat)
  | count (pattern : Key)
  | subscribersOf (pattern : Key)
  | routeCount
  | closeSession (session : Nat)
  | close
  deriving DecidableEq, Repr

inductive Answer where
  | number (r : Except BrokerError Nat)
  | published (r : Except BrokerError Unit)
  | received (r : Received)
  | counted (n : Nat)
  | named (subscribers : List String)
  | nothing

def apply (c : Channel) : Op → Answer × Channel
  | .openSession => (.number c.openSession.1, c.openSession.2)
  | .subscribe session pattern subscriber =>
    (.number (c.subscribe session pattern subscriber).1, (c.subscribe session pattern subscriber).2)
  | .publish session key payload =>
    (.published (c.publish session key payload).1, (c.publish session key payload).2.1)
  | .deliver d => (.number (c.deliver d).1, (c.deliver d).2.1)
  | .receive sub => (.received (c.receive sub).1, (c.receive sub).2)
  | .cancel sub => (.nothing, c.cancel sub)
  | .drop sub => (.nothing, c.cancel sub)
  | .count pattern => (.counted (c.count pattern), c)
  | .subscribersOf pattern => (.named (c.subscribersOf pattern), c)
  | .routeCount => (.counted c.routeCount.1, c.routeCount.2)
  | .closeSession session => (.nothing, c.closeSession session)
  | .close => (.nothing, c.close)

def run (c : Channel) (ops : List Op) : Channel :=
  ops.foldl (fun c op => (c.apply op).2) c

def answers : Channel → List Op → List Answer
  | _, [] => []
  | c, op :: ops => (c.apply op).1 :: answers (c.apply op).2 ops

theorem run_cons (c : Channel) (op : Op) (ops : List Op) :
    c.run (op :: ops) = (c.apply op).2.run ops := rfl

theorem run_append (c : Channel) (ops more : List Op) : c.run (ops ++ more) = (c.run ops).run more :=
  List.foldl_append

theorem Sound.apply {c : Channel} (sound : c.Sound) (op : Op) : (c.apply op).2.Sound := by
  cases op with
  | openSession => exact sound.openSession
  | subscribe session pattern subscriber => exact sound.subscribe session pattern subscriber
  | publish session key payload => exact sound.publish session key payload
  | deliver d => exact sound.deliver d
  | receive sub => exact sound.receive sub
  | cancel sub => exact sound.cancel sub
  | drop sub => exact sound.cancel sub
  | count pattern => exact sound
  | subscribersOf pattern => exact sound
  | routeCount => exact sound.prune
  | closeSession session => exact sound.closeSession session
  | close => exact sound.close

theorem Sound.run {c : Channel} (sound : c.Sound) (ops : List Op) : (c.run ops).Sound := by
  induction ops generalizing c with
  | nil => exact sound
  | cons op ops ih => exact ih (sound.apply op)

end Channel

/-! ### The bus -/

structure Member where
  pattern : String
  subscriber : String
  queue : List Delivery := []
  /-- Neither cancelled nor dropped. -/
  active : Bool := true

namespace Member

def takes (d : Delivery) (m : Member) : Bool :=
  m.active && Topic.selects m.pattern d.topic && decide (m.queue.length < subscriptionCapacity)

def offer (d : Delivery) (m : Member) : Member :=
  if m.takes d then { m with queue := m.queue ++ [d] } else m

def next (closed : Bool) (m : Member) : Received :=
  if m.active then
    match m.queue with
    | d :: _ => .delivery d
    | [] => if closed then .over else .pending
  else .over

def advance (m : Member) : Member :=
  if m.active then { m with queue := m.queue.tail } else m

def retire (m : Member) : Member := { m with active := false }

end Member

structure Bus where
  closed : Bool := false
  sessions : List Bool := []
  members : List Member := []

namespace Bus

def deliver (b : Bus) (d : Delivery) : Except BrokerError Nat × Bus :=
  if b.closed then (.error Channel.closedError, b)
  else (.ok (b.members.countP (Member.takes d)), { b with members := b.members.map (Member.offer d) })

/-- The members that a `count` ranges over: none on a closed bus. -/
def present (b : Bus) : List Member :=
  if b.closed then [] else b.members.filter Member.active

def presentOn (b : Bus) (pattern : Key) : List Member :=
  b.present.filter fun m => m.pattern == pattern.encode

def apply (b : Bus) : Channel.Op → Channel.Answer × Bus
  | .openSession =>
    if b.closed then (.number (.error Channel.closedError), b)
    else (.number (.ok b.sessions.length), { b with sessions := b.sessions ++ [true] })
  | .subscribe session pattern subscriber =>
    if !b.sessions.getD session false then (.number (.error (.subscribe "session is closed")), b)
    else if b.closed then (.number (.error (.subscribe "channel broker is closed")), b)
    else
      (.number (.ok b.members.length),
        { b with members := b.members ++ [{ pattern := pattern.encode, subscriber }] })
  | .publish session key payload =>
    if !b.sessions.getD session false then (.published (.error (.publish "session is closed")), b)
    else
      (.published ((b.deliver ⟨key.encode, payload⟩).1.map fun _ => ()),
        (b.deliver ⟨key.encode, payload⟩).2)
  | .deliver d => (.number (b.deliver d).1, (b.deliver d).2)
  | .receive sub =>
    (.received ((b.members[sub]?.map (Member.next b.closed)).getD .over),
      { b with members := b.members.modify sub Member.advance })
  | .cancel sub => (.nothing, { b with members := b.members.modify sub Member.retire })
  | .drop sub => (.nothing, { b with members := b.members.modify sub Member.retire })
  | .count pattern => (.counted (b.presentOn pattern).length, b)
  | .subscribersOf pattern => (.named ((b.presentOn pattern).map Member.subscriber), b)
  | .routeCount => (.counted b.present.length, b)
  | .closeSession session => (.nothing, { b with sessions := b.sessions.set session false })
  | .close => (.nothing, { b with closed := true })

def run (b : Bus) (ops : List Channel.Op) : Bus :=
  ops.foldl (fun b op => (b.apply op).2) b

def answers : Bus → List Channel.Op → List Channel.Answer
  | _, [] => []
  | b, op :: ops => (b.apply op).1 :: answers (b.apply op).2 ops

end Bus

/-! ### The broker seen as a bus -/

namespace Subscription

def member (s : Subscription) : Member :=
  ⟨s.pattern, s.subscriber, s.feed.queue, !s.feed.cancelled⟩

theorem member_prune (s : Subscription) : s.prune.member = s.member := by simp [member]

theorem member_unroute (s : Subscription) : s.unroute.member = s.member := by simp [member]

theorem member_takes (d : Delivery) (s : Subscription) : s.member.takes d = s.takes d := rfl

theorem Sound.member_deliver {s : Subscription} (sound : s.Sound false) (d : Delivery) :
    (s.prune.deliver d).member = s.member.offer d := by
  have queue := sound.deliver_queue d
  unfold Member.offer
  rw [member_takes]
  by_cases takes : s.takes d
  · simp [member, queue, takes]
  · simp [member, queue, takes]

/-- `Feed.recv` in terms of the member: it answers `next` and leaves `advance`. -/
theorem Sound.member_recv {closed : Bool} {s : Subscription} (sound : s.Sound closed) :
    s.feed.recv.1 = s.member.next closed ∧
      { s with feed := s.feed.recv.2 }.member = s.member.advance := by
  obtain ⟨exact, gone, reason⟩ := sound
  unfold Feed.recv Member.next Member.advance
  cases cancelled : s.feed.cancelled
  · cases queue : s.feed.queue with
    | cons d rest => simp [member, cancelled, queue]
    | nil =>
      have ended : s.feed.ended = closed := by
        cases closed
        · apply Bool.eq_false_iff.mpr
          intro ended
          rcases reason (exact.mp ended) with other | other
          · exact absurd (cancelled.symm.trans other) nofun
          · exact absurd other nofun
        · exact exact.mpr (gone rfl)
      simp [member, cancelled, queue, ended]
  · simp [member, cancelled]

end Subscription

namespace Channel

def bus (c : Channel) : Bus :=
  ⟨c.closed, c.sessions, c.subscriptions.map Subscription.member⟩

theorem bus_map (c : Channel) {f : Subscription → Subscription} {g : Member → Member}
    (same : ∀ s ∈ c.subscriptions, (f s).member = g s.member) :
    bus { c with subscriptions := c.subscriptions.map f } =
      { c.bus with members := c.bus.members.map g } := by
  simp only [bus, List.map_map, Bus.mk.injEq, true_and]
  exact List.map_congr_left same

theorem bus_modify (c : Channel) {sub : Nat} {f : Feed} {g : Member → Member}
    (same : ∀ s, c.subscriptions[sub]? = some s → { s with feed := f }.member = g s.member) :
    (c.setFeed sub f).bus = { c.bus with members := c.bus.members.modify sub g } := by
  simp only [bus, setFeed, Bus.mk.injEq, true_and]
  apply List.ext_getElem?
  intro i
  rw [List.getElem?_map, List.getElem?_modify, List.getElem?_modify, List.getElem?_map]
  cases found : c.subscriptions[i]? with
  | none => rfl
  | some s =>
    by_cases here : sub = i
    · subst here
      simp [same s found]
    · simp [here]

theorem bus_cancel (c : Channel) (sub : Nat) :
    (c.cancel sub).bus = { c.bus with members := c.bus.members.modify sub Member.retire } := by
  apply bus_modify c
  intro s found
  rw [feed_of_get found]
  rfl

theorem bus_prune (c : Channel) : c.prune.bus = c.bus := by
  simp [bus, prune, Function.comp_def, Subscription.member_prune]

theorem bus_close (c : Channel) : c.close.bus = { c.bus with closed := true } := by
  simp [bus, close, Function.comp_def, Subscription.member_unroute]

theorem bus_deliver {c : Channel} (sound : c.Sound) (d : Delivery) :
    ((c.deliver d).1, (c.deliver d).2.1.bus) = c.bus.deliver d := by
  cases closed : c.closed
  · have each : ∀ s ∈ c.subscriptions, (s.prune.deliver d).member = s.member.offer d :=
      fun s member => Subscription.Sound.member_deliver (closed ▸ sound s member) d
    rw [deliver_answer sound closed, (deliver_open closed d).2, bus_map c each]
    simp [Bus.deliver, bus, closed, Function.comp_def, Subscription.member_takes]
  · rw [deliver_closed closed]
    simp [Bus.deliver, bus, closed]

/-- The live subscriptions of the broker are the members `present` on its bus. -/
theorem Sound.present {c : Channel} (sound : c.Sound) :
    (c.subscriptions.filter Subscription.isLive).map Subscription.member = c.bus.present := by
  unfold Bus.present bus
  cases closed : c.closed
  · simp only [Bool.false_eq_true, if_false, List.filter_map]
    congr 1
    exact List.filter_congr fun s member => Subscription.Sound.isLive (closed ▸ sound s member)
  · have none : c.subscriptions.filter Subscription.isLive = [] := by
      apply List.filter_eq_nil_iff.mpr
      intro s member
      simp [Subscription.isLive, (sound s member).2.1 closed]
    simp [none]

theorem Sound.presentOn {c : Channel} (sound : c.Sound) (pattern : Key) :
    (c.liveOn pattern).map Subscription.member = c.bus.presentOn pattern := by
  rw [Bus.presentOn, ← sound.present, List.filter_map, List.filter_filter, liveOn]
  congr 1
  exact List.filter_congr fun s _ => Bool.and_comm _ _

theorem Sound.routeCount {c : Channel} (sound : c.Sound) : c.routeCount.1 = c.bus.present.length := by
  rw [routeCount_eq, ← sound.present, List.length_map, List.countP_eq_length_filter]

theorem bus_apply {c : Channel} (sound : c.Sound) (op : Op) :
    ((c.apply op).1, (c.apply op).2.bus) = c.bus.apply op := by
  have members : c.bus.members = c.subscriptions.map Subscription.member := rfl
  have shut : c.bus.closed = c.closed := rfl
  cases op with
  | openSession =>
    simp only [apply, openSession, Bus.apply, shut]
    split <;> rfl
  | subscribe session pattern subscriber =>
    simp only [apply, subscribe, Bus.apply, shut]
    rw [show c.bus.sessions.getD session false = c.isOpen session from rfl]
    cases opened : c.isOpen session
    · simp
    · cases closed : c.closed <;> simp [bus, Subscription.member, closed]
  | publish session key payload =>
    have reached := bus_deliver sound ⟨key.encode, payload⟩
    cases opened : c.isOpen session
    · simp only [apply, publish_refused opened, Bus.apply]
      rw [show c.bus.sessions.getD session false = false from opened]
      rfl
    · simp only [apply, publish_eq_deliver opened, Bus.apply]
      rw [show c.bus.sessions.getD session false = true from opened, ← reached]
      rfl
  | deliver d =>
    have reached := bus_deliver sound d
    simp only [apply, Bus.apply, ← reached]
  | receive sub =>
    simp only [apply, receive, Bus.apply, members, List.getElem?_map]
    rw [bus_modify c (g := Member.advance)]
    · cases found : c.subscriptions[sub]? with
      | none =>
        rw [feed_of_missing found]
        rfl
      | some s =>
        rw [feed_of_get found, (Subscription.Sound.member_recv (sound s (List.mem_of_getElem? found))).1]
        rfl
    · intro s found
      rw [feed_of_get found]
      exact (Subscription.Sound.member_recv (sound s (List.mem_of_getElem? found))).2
  | cancel sub => exact congrArg (Prod.mk _) (bus_cancel c sub)
  | drop sub => exact congrArg (Prod.mk _) (bus_cancel c sub)
  | count pattern =>
    simp only [apply, Bus.apply, count, ← sound.presentOn, List.length_map]
  | subscribersOf pattern =>
    simp only [apply, Bus.apply, subscribersOf, ← sound.presentOn, List.map_map]
    rfl
  | routeCount =>
    simp only [apply, Bus.apply, sound.routeCount]
    exact congrArg (Prod.mk _) (bus_prune c)
  | closeSession session => rfl
  | close => exact congrArg (Prod.mk _) (bus_close c)

theorem bus_run {c : Channel} (sound : c.Sound) (ops : List Op) :
    c.answers ops = c.bus.answers ops ∧ (c.run ops).bus = c.bus.run ops := by
  induction ops generalizing c with
  | nil => exact ⟨rfl, rfl⟩
  | cons op ops ih =>
    have once := bus_apply sound op
    obtain ⟨later, final⟩ := ih (sound.apply op)
    have answer : (c.apply op).1 = (c.bus.apply op).1 := congrArg Prod.fst once
    have state : (c.apply op).2.bus = (c.bus.apply op).2 := congrArg Prod.snd once
    rw [state] at later final
    refine ⟨?_, final⟩
    rw [answers, Bus.answers, answer, later]

end Channel
end RoomRelay
