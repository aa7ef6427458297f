import RoomRelay.Broker.Mock
import RoomRelay.Proofs.World.Opening

/-!
What remains of a relay that could not be opened: a cancelled subscription in the table and the number
of a closed session. Nothing that can be observed of the broker tells them (`Unchanged`).
-/

namespace RoomRelay

/-! ### What can be seen of a broker -/

/-- All counts, lists, queues and open sessions are the same. -/
structure Channel.Unchanged (c c' : Channel) : Prop where
  closed : c'.closed = c.closed
  counts : ∀ pattern, c'.count pattern = c.count pattern
  subscribers : ∀ pattern, c'.subscribersOf pattern = c.subscribersOf pattern
  routes : c'.routeCount.1 = c.routeCount.1
  reached : ∀ topic, c'.reached topic = c.reached topic
  feeds : ∀ sub < c.subscriptions.length, c'.feed sub = c.feed sub
  /-- Whatever subscription was added is cancelled. -/
  added : ∀ sub, c.subscriptions.length ≤ sub → (c'.feed sub).cancelled = true
  /-- Whatever session was opened is closed. -/
  sessions : ∀ session, c'.isOpen session = c.isOpen session

/-- Besides, the record and the switches are the same. -/
structure Mock.Unchanged (m m' : Mock) : Prop where
  channel : m.channel.Unchanged m'.channel
  published : m'.published = m.published
  rest : { m' with channel := m.channel } = m

namespace Channel

/-- Cancelled subscriptions and closed sessions at the end of the tables are not seen. -/
theorem unchanged_append (c : Channel) {dead : List Subscription} {shut : List Bool}
    (cancelled : ∀ s ∈ dead, s.feed.cancelled = true) (closed : ∀ x ∈ shut, x = false) :
    c.Unchanged
      { c with subscriptions := c.subscriptions ++ dead, sessions := c.sessions ++ shut } := by
  -- every look at the table passes over subscriptions that are not live
  have live : ∀ p : Subscription → Bool, (∀ s, s.isLive = false → p s = false) →
      (c.subscriptions ++ dead).filter p = c.subscriptions.filter p := by
    intro p needs
    have hidden : dead.filter p = [] := by
      refine List.filter_eq_nil_iff.mpr fun s member => Bool.eq_false_iff.mp (needs s ?_)
      rw [Subscription.isLive, cancelled s member, Bool.not_true, Bool.and_false]
    rw [List.filter_append, hidden, List.append_nil]
  have on : ∀ pattern, liveOn { c with
      subscriptions := c.subscriptions ++ dead, sessions := c.sessions ++ shut } pattern =
        c.liveOn pattern :=
    fun pattern => live _ fun s gone => by rw [gone, Bool.false_and]
  refine ⟨rfl, ?counts, ?subscribers, ?routes, ?reached, ?feeds, ?added, ?sessions⟩
  case counts => exact fun pattern => congrArg List.length (on pattern)
  case subscribers => exact fun pattern => congrArg (List.map Subscription.subscriber) (on pattern)
  case routes =>
    rw [routeCount_eq, routeCount_eq, List.countP_eq_length_filter, List.countP_eq_length_filter]
    exact congrArg List.length (live _ fun _ gone => gone)
  case reached =>
    exact fun topic => live _ fun s gone => by rw [Subscription.isReached, gone, Bool.false_and]
  case feeds =>
    intro sub known
    simp only [feed, List.getElem?_append_left known]
  case added =>
    intro sub new
    simp only [feed, List.getElem?_append_right new]
    split
    · rename_i s found
      exact cancelled s (List.mem_of_getElem? found)
    · rfl
  case sessions =>
    intro session
    simp only [isOpen, List.getD_eq_getElem?_getD]
    rcases Nat.lt_or_ge session c.sessions.length with known | new
    · rw [List.getElem?_append_left known]
    · rw [List.getElem?_append_right new, List.getElem?_eq_none new]
      cases found : shut[session - c.sessions.length]? with
      | none => rfl
      | some x => exact closed x (List.mem_of_getElem? found)

theorem unchanged_refl (c : Channel) : c.Unchanged c := by
  have same := c.unchanged_append (List.forall_mem_nil _) (List.forall_mem_nil _)
  rwa [List.append_nil, List.append_nil] at same

end Channel

/-! ### What a broker objects to -/

/-- `opened` fails with the `objection`, if there is one, and is then taken back. -/
def Broker.OpensUnless {β : Type} [Broker β] (b : β) (objection : Option BrokerError)
    (Unchanged : β → β → Prop) : Prop :=
  ∀ (user room : String) (at_ : Int64),
    match objection with
    | some e => ∃ b', opened b user room at_ = (.error e, b') ∧ Unchanged b b'
    | none => (opened b user room at_).1 = .ok ()

def Channel.objection? (c : Channel) : Option BrokerError :=
  if c.closed then some closedError else none

/-- What an opening meets first: the switches and the broker inside, in their order. -/
def Mock.objection? (m : Mock) : Option BrokerError :=
  if m.failSession then some (.connection "Mock session failure")
  else if m.channel.closed then some Channel.closedError
  else if m.failSubscribe then some (.subscribe "Mock subscribe failure")
  else if m.failPublish || m.failKinds.contains .userJoined then
    some (.publish "Mock publish failure")
  else none

namespace Channel

def withSession (c : Channel) : Channel :=
  { c with sessions := c.sessions ++ [true] }

def withRelay (c : Channel) (user room : String) : Channel :=
  { c.withSession with
    subscriptions := c.subscriptions ++
      [{ pattern := (Key.roomPattern room).encode, subscriber := user }] }

variable {c : Channel}

theorem openSession_running (running : c.closed = false) :
    c.openSession = (.ok c.sessions.length, c.withSession) := by
  rw [openSession, if_neg (Bool.eq_false_iff.mp running), withSession]

theorem openSession_shut (shut : c.closed = true) : c.openSession = (.error closedError, c) := by
  rw [openSession, if_pos shut]

theorem subscribe_withSession (running : c.closed = false) (user room : String) :
    c.withSession.subscribe c.sessions.length (Key.roomPattern room) user =
      (.ok c.subscriptions.length, c.withRelay user room) := by
  have opened : c.withSession.isOpen c.sessions.length = true := by simp [isOpen, withSession]
  have running' : c.withSession.closed = false := running
  exact subscribe_running opened running' _ user

theorem publish_running (running : c.closed = false) (user room : String) (key : Key)
    (payload : List UInt8) :
    ∃ c' ns, (c.withRelay user room).publish c.sessions.length key payload = (.ok (), c', ns) := by
  have opened : (c.withRelay user room).isOpen c.sessions.length = true := by
    simp [isOpen, withSession, withRelay]
  have running' : (c.withRelay user room).closed = false := running
  rw [publish_eq_deliver opened, (deliver_open running' _).1]
  exact ⟨_, _, rfl⟩

theorem unchanged_session (c : Channel) :
    c.Unchanged (c.withSession.closeSession c.sessions.length) := by
  have shut : c.withSession.closeSession c.sessions.length =
      { c with subscriptions := c.subscriptions ++ [], sessions := c.sessions ++ [false] } := by
    simp [closeSession, withSession]
  rw [shut]
  exact c.unchanged_append (List.forall_mem_nil _) (List.forall_mem_singleton.mpr rfl)

theorem unchanged_relay (c : Channel) (user room : String) :
    c.Unchanged
      (((c.withRelay user room).cancel c.subscriptions.length).closeSession c.sessions.length) := by
  let dead : Subscription :=
    { pattern := (Key.roomPattern room).encode, subscriber := user, feed := { cancelled := true } }
  have withdrawn :
      ((c.withRelay user room).cancel c.subscriptions.length).closeSession c.sessions.length =
        { c with
          subscriptions := c.subscriptions ++ [dead], sessions := c.sessions ++ [false] } := by
    simp [closeSession, cancel, setFeed, feed, Feed.cancel, withRelay, withSession,
      List.modify_eq_set_getElem?, dead]
  rw [withdrawn]
  exact c.unchanged_append (List.forall_mem_singleton.mpr rfl) (List.forall_mem_singleton.mpr rfl)

theorem subscribe_pending (c : Channel) (session : Nat) (pattern : Key) (subscriber : String) {sub : Nat}
    (pending : (c.receive sub).1 = .pending) :
    ((c.subscribe session pattern subscriber).2.receive sub).1 = .pending := by
  cases answer : c.subscribe session pattern subscriber with
  | mk number c' =>
    cases number with
    | error e => rwa [subscribe_error answer]
    | ok new =>
      obtain ⟨-, -, -, rfl⟩ := subscribe_ok answer
      simp only [receive, feed_append] at pending ⊢
      split
      · rfl
      · exact pending

theorem calm : Broker.IsCalm Channel where
  settled _ := rfl
  opens c := ⟨fun _ => rfl, fun sub pending => by
    simpa only [Broker.receive, Broker.openSession, receive, openSession_feed] using pending⟩
  subscribes c session pattern subscriber :=
    ⟨fun _ => rfl, fun _ pending => c.subscribe_pending session pattern subscriber pending⟩

theorem opensUnless (c : Channel) : Broker.OpensUnless c c.objection? Unchanged := by
  intro user room at_
  unfold objection?
  by_cases shut : c.closed = true
  · simp only [if_pos shut]
    exact ⟨c, Broker.opened_no_session (openSession_shut shut), c.unchanged_refl⟩
  · have running := Bool.eq_false_iff.mpr shut
    obtain ⟨c', ns, joins⟩ := publish_running running user room (.event room user .userJoined)
      (Event.encode ⟨at_, user, room, .userJoined⟩)
    have subscribes := subscribe_withSession running user room
    simp only [if_neg shut]
    rw [Broker.opened_joined (openSession_running running) subscribes joins]

end Channel

namespace Mock

theorem unchanged_of_channel {m : Mock} {c : Channel} (same : m.channel.Unchanged c) :
    m.Unchanged { m with channel := c } :=
  ⟨same, rfl, rfl⟩

variable {m : Mock}

theorem openSession_refused (refused : m.failSession = true) :
    m.openSession = (.error (.connection "Mock session failure"), m) := by
  rw [openSession, if_pos refused]

theorem openSession_shut (passes : ¬m.failSession = true) (shut : m.channel.closed = true) :
    m.openSession = (.error Channel.closedError, m) := by
  rw [openSession, if_neg passes, Channel.openSession_shut shut]

theorem openSession_running (passes : ¬m.failSession = true) (running : m.channel.closed = false) :
    m.openSession =
      (.ok m.channel.sessions.length, { m with channel := m.channel.withSession }) := by
  rw [openSession, if_neg passes, Channel.openSession_running running]

theorem subscribe_refused (refused : m.failSubscribe = true) (session : Nat) (pattern : Key)
    (user : String) :
    m.subscribe session pattern user = (.error (.subscribe "Mock subscribe failure"), m) := by
  rw [subscribe, if_pos refused]

theorem subscribe_running (passes : ¬m.failSubscribe = true) (running : m.channel.closed = false)
    (user room : String) :
    subscribe { m with channel := m.channel.withSession } m.channel.sessions.length
        (Key.roomPattern room) user =
      (.ok m.channel.subscriptions.length, { m with channel := m.channel.withRelay user room }) := by
  rw [subscribe, if_neg passes, Channel.subscribe_withSession running]

theorem publish_refused {plan : PublishPlan} (refused : plan.refused = true) (session : Nat) (key : Key)
    (payload : List UInt8) :
    m.publish plan session key payload = (.error (.publish "Mock publish failure"), m, []) := by
  rw [publish, if_pos refused]

theorem publish_running {plan : PublishPlan} (passes : ¬plan.refused = true)
    (running : m.channel.closed = false) (user room : String) (key : Key) (payload : List UInt8) :
    ∃ m' ns, publish { m with channel := m.channel.withRelay user room } plan m.channel.sessions.length
      key payload = (.ok (), m', ns) := by
  obtain ⟨c', ns, published⟩ := Channel.publish_running running user room key payload
  rw [publish, if_neg passes, published]
  exact ⟨_, _, rfl⟩

theorem calm : Broker.IsCalm Mock where
  settled _ := rfl
  opens m := by
    have calm := Channel.calm.opens m.channel
    simp only [Broker.openSession, openSession]
    split
    · exact ⟨fun _ => rfl, fun _ => id⟩
    · exact ⟨fun _ => rfl, calm.pending⟩
  subscribes m session pattern subscriber := by
    have calm := Channel.calm.subscribes m.channel session pattern subscriber
    simp only [Broker.subscribe, subscribe]
    split
    · exact ⟨fun _ => rfl, fun _ => id⟩
    · exact ⟨fun _ => rfl, calm.pending⟩

theorem opensUnless (m : Mock) : Broker.OpensUnless m m.objection? Unchanged := by
  intro user room at_
  unfold objection?
  by_cases noSession : m.failSession = true
  · simp only [if_pos noSession]
    exact ⟨m, Broker.opened_no_session (openSession_refused noSession),
      unchanged_of_channel m.channel.unchanged_refl⟩
  by_cases shut : m.channel.closed = true
  · simp only [if_neg noSession, if_pos shut]
    exact ⟨m, Broker.opened_no_session (openSession_shut noSession shut),
      unchanged_of_channel m.channel.unchanged_refl⟩
  have running := Bool.eq_false_iff.mpr shut
  have opens := openSession_running noSession running
  by_cases noSubscription : m.failSubscribe = true
  · simp only [if_neg noSession, if_neg shut, if_pos noSubscription]
    have refuses := subscribe_refused (m := { m with channel := m.channel.withSession })
      noSubscription m.channel.sessions.length (Key.roomPattern room) user
    exact ⟨_, Broker.opened_no_subscription opens refuses,
      unchanged_of_channel m.channel.unchanged_session⟩
  have subscribes := subscribe_running noSubscription running user room
  let key := Key.event room user .userJoined
  let payload := Event.encode ⟨at_, user, room, .userJoined⟩
  by_cases noJoin : (m.planPublish key).refused = true
  · have refused : (m.failPublish || m.failKinds.contains .userJoined) = true := noJoin
    simp only [if_neg noSession, if_neg shut, if_neg noSubscription, if_pos refused]
    have refuses := publish_refused (m := { m with channel := m.channel.withRelay user room }) noJoin
      m.channel.sessions.length key payload
    exact ⟨_, Broker.opened_no_join opens subscribes refuses,
      unchanged_of_channel (m.channel.unchanged_relay user room)⟩
  · have passes : ¬(m.failPublish || m.failKinds.contains .userJoined) = true := noJoin
    simp only [if_neg noSession, if_neg shut, if_neg noSubscription, if_neg passes]
    obtain ⟨m', ns, joins⟩ := publish_running noJoin running user room key payload
    rw [Broker.opened_joined opens subscribes joins]

end Mock

/-! ### Openings that fail -/

namespace World

def openAnswer (scope : Scope) (room : String) (number : Nat) (objection : Option BrokerError) :
    Except Failure Nat :=
  if scope.user = none then .error (.forbidden .anonymous)
  else if Topic.isSegment room = false then .error (.badRequest .badRoom)
  else
    match objection with
    | some e => .error (.broker e)
    | none => .ok number

/-- `openRelay` answers `openAnswer`: the scope is checked before the room, and the room before the
broker is asked. If it does not get to the broker nothing happens, and a broker that objects is left
`Unchanged`. -/
structure OpensAtomically {β : Type} [Broker β] (w : World β) (scope : Scope) (room : String)
    (objection : Option BrokerError) (Unchanged : β → β → Prop) : Prop where
  answer : (w.openRelay scope room).1 = openAnswer scope room w.tasks.length objection
  rejected : scope.user = none ∨ Topic.isSegment room = false → (w.openRelay scope room).2 = w
  failed : ∀ e, (w.openRelay scope room).1 = .error e →
    Unchanged w.broker (w.openRelay scope room).2.broker

theorem openRelay_rejected {β : Type} [Broker β] (w : World β) {scope : Scope} {room : String}
    (rejected : scope.user = none ∨ Topic.isSegment room = false) (objection : Option BrokerError) :
    w.openRelay scope room = (openAnswer scope room w.tasks.length objection, w) := by
  unfold openRelay openAnswer Relay.start Scope.requireUser
  cases known : scope.user with
  | none => simp only [if_true]
  | some user =>
    have unsafe_ : Topic.isSegment room = false := rejected.resolve_left (by rw [known]; nofun)
    simp only [unsafe_, Bool.false_eq_true, if_false, if_true, reduceCtorEq]

theorem opensAtomically {β : Type} [Broker β] (calm : Broker.IsCalm β) (w : World β)
    {objection : Option BrokerError} {Unchanged : β → β → Prop} (same : Unchanged w.broker w.broker)
    (opens : Broker.OpensUnless w.broker objection Unchanged) (scope : Scope) (room : String)
    (still : ∀ key, w.IsStill (w.now + (Broker.planPublish w.broker key).delay)) :
    w.OpensAtomically scope room objection Unchanged := by
  by_cases rejected : scope.user = none ∨ Topic.isSegment room = false
  · have result := w.openRelay_rejected rejected objection
    exact ⟨by rw [result], fun _ => by rw [result], fun _ _ => by rw [result]; exact same⟩
  · obtain ⟨named, segment⟩ := not_or.mp rejected
    obtain ⟨user, known⟩ := Option.ne_none_iff_exists'.mp named
    obtain ⟨answer, broker⟩ :=
      openRelay_alone calm w known (Bool.not_eq_false _ ▸ segment) (still _)
    have opened := opens user room (w.clock + 1)
    cases objection with
    | none =>
      have expected : openAnswer scope room w.tasks.length none = .ok w.tasks.length := by
        simp only [openAnswer, if_neg named, if_neg segment]
      simp only at opened
      rw [opened] at answer
      refine ⟨answer.trans expected.symm, fun early => absurd early rejected, fun e failed => ?_⟩
      rw [answer] at failed
      cases failed
    | some e =>
      have expected : openAnswer scope room w.tasks.length (some e) = .error (.broker e) := by
        simp only [openAnswer, if_neg named, if_neg segment]
      obtain ⟨b, opened, unchanged⟩ := opened
      rw [opened] at answer broker
      refine ⟨answer.trans expected.symm, fun early => absurd early rejected, fun _ _ => ?_⟩
      rw [broker]
      exact unchanged

/-- A relay that cannot be opened leaves nothing behind: in every state of a `Channel`, and in every
state of a `Mock` while nobody else acts during its join. -/
theorem failed_open_leaves_nothing :
    (∀ (w : World Channel) (scope : Scope) (room : String),
      w.OpensAtomically scope room w.broker.objection? Channel.Unchanged) ∧
    ∀ (w : World Mock) (scope : Scope) (room : String),
      w.IsStill (w.now + w.broker.publishDelay.getD 0) →
        w.OpensAtomically scope room w.broker.objection? Mock.Unchanged := by
  constructor
  · intro w scope room
    exact opensAtomically Channel.calm w w.broker.unchanged_refl w.broker.opensUnless scope room
      fun _ early => absurd early (Nat.lt_irrefl _)
  · intro w scope room still
    exact opensAtomically Mock.calm w (Mock.unchanged_of_channel w.broker.channel.unchanged_refl)
      w.broker.opensUnless scope room fun _ => still

/-- A join fails when it has been under way for a while, beside a relay that listens. -/
theorem failed_open_leaves_nothing_late :
    let pattern := Key.roomPattern "attic"
    let bob : Relay := { user := "bob", room := "attic", phase := .listening }
    let mock : Mock :=
      { channel := { subscriptions := [{ pattern := pattern.encode, subscriber := "bob" }],
                     sessions := [true] },
        publishDelay := some 100, failKinds := [.userJoined] }
    let w : World Mock :=
      { broker := mock, clock := 7, tasks := [⟨.relay bob ⟨4, [], false⟩, none⟩] }
    (w.openRelay ⟨some "ann", none⟩ "attic").1 = .error (.broker (.publish "Mock publish failure")) ∧
      (w.openRelay ⟨some "ann", none⟩ "attic").2.broker.channel.subscribersOf pattern = ["bob"] ∧
      (w.openRelay ⟨some "ann", none⟩ "attic").2.broker.channel.isOpen 1 = false ∧
      (w.openRelay ⟨some "ann", none⟩ "attic").2.broker.published = [] := by
  intro pattern bob mock w
  have still : w.IsStill (w.now + w.broker.publishDelay.getD 0) := by
    refine fun _ => ⟨fun j => ?_, fun j work u found => ?_⟩
    · cases j <;> rfl
    · cases j <;> cases found
  have opens := failed_open_leaves_nothing.2 w ⟨some "ann", none⟩ "attic" still
  have refusal : openAnswer ⟨some "ann", none⟩ "attic" w.tasks.length w.broker.objection? =
      .error (.broker (.publish "Mock publish failure")) := by decide
  have refused := opens.answer.trans refusal
  have same := opens.failed _ refused
  refine ⟨refused, (same.channel.subscribers pattern).trans ?_,
    (same.channel.sessions 1).trans ?_, same.published⟩
  · decide
  · rfl

end World
end RoomRelay
