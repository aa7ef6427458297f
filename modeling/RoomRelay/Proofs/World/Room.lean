import RoomRelay.Proofs.Event.Codec
import RoomRelay.Proofs.World.Outline
import RoomRelay.Proofs.World.Presence

/-!
The bus as one room sees it: the members on the room's pattern, with the readings of their queues.
Acts for other rooms do not change it, and acts for the room change it alike wherever it was alike.
-/

namespace RoomRelay

section Lists

variable {α : Type} {p : α → Bool}

theorem filter_modify {g : α → α} (keeps : ∀ x, p (g x) = p x) {xs : List α} {i : Nat} {x : α}
    (found : xs[i]? = some x) (passes : p x = true) :
    (xs.modify i g).filter p = (xs.filter p).modify ((xs.take i).countP p) g := by
  induction xs generalizing i with
  | nil => cases found
  | cons y xs ih =>
    cases i with
    | zero =>
      obtain rfl := Option.some.inj found
      simp [keeps, passes]
    | succ i =>
      have later := ih found
      cases first : p y <;> simp [first, later]

theorem filter_modify_other {g : α → α} (keeps : ∀ x, p (g x) = p x) {xs : List α} {i : Nat}
    (fails : ∀ x, xs[i]? = some x → p x = false) : (xs.modify i g).filter p = xs.filter p := by
  induction xs generalizing i with
  | nil => rw [List.modify_nil]
  | cons y xs ih =>
    cases i with
    | zero => simp [keeps, fails y rfl]
    | succ i =>
      have later := ih fun x found => fails x found
      cases first : p y <;> simp [first, later]

theorem getElem?_filter {xs : List α} {i : Nat} {x : α} (found : xs[i]? = some x) (passes : p x = true) :
    (xs.filter p)[(xs.take i).countP p]? = some x := by
  induction xs generalizing i with
  | nil => cases found
  | cons y xs ih =>
    cases i with
    | zero =>
      obtain rfl := Option.some.inj found
      simp [passes]
    | succ i =>
      have later := ih found
      cases first : p y <;> simp [first, later]

variable {β : Type} {f : α → β} {g g' : α → α} {xs xs' : List α}

theorem map_alike (same : xs.map f = xs'.map f) (alike : ∀ x x', f x = f x' → f (g x) = f (g' x')) :
    (xs.map g).map f = (xs'.map g').map f := by
  induction xs generalizing xs' with
  | nil => rw [List.map_eq_nil_iff.mp same.symm]; rfl
  | cons x xs ih =>
    cases xs' with
    | nil => cases same
    | cons x' xs' =>
      obtain ⟨first, rest⟩ := List.cons.inj same
      simp only [List.map_cons, alike x x' first]
      rw [ih rest]

theorem modify_alike (same : xs.map f = xs'.map f) (alike : ∀ x x', f x = f x' → f (g x) = f (g' x'))
    (i : Nat) : (xs.modify i g).map f = (xs'.modify i g').map f := by
  induction xs generalizing xs' i with
  | nil => rw [List.map_eq_nil_iff.mp same.symm, List.modify_nil, List.modify_nil]
  | cons x xs ih =>
    cases xs' with
    | nil => cases same
    | cons x' xs' =>
      obtain ⟨first, rest⟩ := List.cons.inj same
      cases i with
      | zero => simp only [List.modify_zero_cons, List.map_cons, alike x x' first, rest]
      | succ i => simp only [List.modify_succ_cons, List.map_cons, first, ih rest]

end Lists

/-- A subscription as a reader sees it. -/
structure Member.Outline where
  pattern : String
  subscriber : String
  active : Bool
  queue : List (String × Option Wire.Event)

namespace Member

def isOn (room : String) (m : Member) : Bool :=
  m.pattern == (Key.roomPattern room).encode

def outline (m : Member) : Outline :=
  ⟨m.pattern, m.subscriber, m.active, m.queue.map Delivery.reading⟩

theorem offer_isOn (room : String) (d : Delivery) (m : Member) : (m.offer d).isOn room = m.isOn room := by
  unfold offer
  split <;> rfl

theorem advance_isOn (room : String) (m : Member) : m.advance.isOn room = m.isOn room := by
  unfold advance
  split <;> rfl

variable {m m' : Member}

def misses (d : Delivery) (m : Member) : Bool :=
  m.active && Topic.selects m.pattern d.topic && !decide (m.queue.length < subscriptionCapacity)

theorem outline_takes (same : m.outline = m'.outline) {d d' : Delivery} (read : d.reading = d'.reading) :
    m.takes d = m'.takes d' ∧ m.misses d = m'.misses d' := by
  obtain ⟨pattern, -, active, queue⟩ := Outline.mk.inj same
  have length : m.queue.length = m'.queue.length := by
    simpa using congrArg List.length queue
  have topic : d.topic = d'.topic := congrArg Prod.fst read
  rw [takes, takes, misses, misses, pattern, active, length, topic]
  exact ⟨rfl, rfl⟩

theorem outline_offer (same : m.outline = m'.outline) {d d' : Delivery} (read : d.reading = d'.reading) :
    (m.offer d).outline = (m'.offer d').outline := by
  obtain ⟨pattern, subscriber, active, queue⟩ := Outline.mk.inj same
  unfold offer
  rw [(outline_takes same read).1]
  split
  · simp only [outline, pattern, subscriber, active, List.map_append, queue, List.map_singleton, read]
  · exact same

theorem outline_retire (same : m.outline = m'.outline) : m.retire.outline = m'.retire.outline := by
  obtain ⟨pattern, subscriber, -, queue⟩ := Outline.mk.inj same
  simp only [retire, outline, pattern, subscriber, queue]

theorem outline_advance (same : m.outline = m'.outline) : m.advance.outline = m'.advance.outline := by
  obtain ⟨pattern, subscriber, active, queue⟩ := Outline.mk.inj same
  unfold advance
  rw [active]
  split
  · simp only [outline, pattern, subscriber, List.map_tail, queue]
  · exact same

/-- Members with the same outline have the same `next`, up to readings. -/
theorem outline_next (same : m.outline = m'.outline) (closed : Bool) :
    (∃ d d', m.next closed = .delivery d ∧ m'.next closed = .delivery d' ∧ d.reading = d'.reading) ∨
      (m.next closed = m'.next closed ∧ ∀ d, m.next closed ≠ .delivery d) := by
  obtain ⟨-, -, active, queue⟩ := Outline.mk.inj same
  unfold next
  rw [← active]
  cases m.active with
  | false => exact .inr ⟨rfl, fun d => by simp⟩
  | true =>
    simp only [if_true]
    cases own : m.queue with
    | nil =>
      rw [own] at queue
      rw [List.map_eq_nil_iff.mp queue.symm]
      exact .inr ⟨rfl, fun d => by cases closed <;> simp⟩
    | cons d rest =>
      cases other : m'.queue with
      | nil =>
        rw [own, other] at queue
        cases queue
      | cons d' rest' =>
        rw [own, other] at queue
        exact .inl ⟨d, d', rfl, rfl, (List.cons.inj queue).1⟩

end Member

namespace Bus

variable {b b' : Bus} {room : String}

def on (b : Bus) (room : String) : List Member := b.members.filter (Member.isOn room)

/-- How many subscriptions on `room` precede `sub`. -/
def rank (b : Bus) (room : String) (sub : Nat) : Nat := (b.members.take sub).countP (Member.isOn room)

/-- Equal on `room`, up to times and numbers. -/
structure Alike (room : String) (b b' : Bus) : Prop where
  closed : b.closed = b'.closed
  on : (b.on room).map Member.outline = (b'.on room).map Member.outline

/-- Two subscriptions on `room` of the same `rank`. -/
def SamePlace (room : String) (b b' : Bus) (sub sub' : Nat) : Prop :=
  b.rank room sub = b'.rank room sub' ∧
    ∃ m m', b.members[sub]? = some m ∧ m.isOn room = true ∧
      b'.members[sub']? = some m' ∧ m'.isOn room = true

namespace Alike

theorem refl (b : Bus) : b.Alike room b := ⟨rfl, rfl⟩

theorem symm (alike : b.Alike room b') : b'.Alike room b := ⟨alike.closed.symm, alike.on.symm⟩

theorem trans {b'' : Bus} (first : b.Alike room b') (second : b'.Alike room b'') : b.Alike room b'' :=
  ⟨first.closed.trans second.closed, first.on.trans second.on⟩

theorem some_on (alike : b.Alike room b') (some_ : b'.on room ≠ []) : b.on room ≠ [] := by
  intro none
  have nobody := alike.on
  rw [none, List.map_nil] at nobody
  exact some_ (List.map_eq_nil_iff.mp nobody.symm)

/-! #### The same is done on both -/

theorem append (alike : b.Alike room b') {m m' : Member} (on : m.isOn room = true)
    (on' : m'.isOn room = true) (same : m.outline = m'.outline) :
    Alike room { b with members := b.members ++ [m] } { b' with members := b'.members ++ [m'] } := by
  refine ⟨alike.closed, ?_⟩
  simp only [Bus.on, List.filter_append, List.map_append, List.filter_cons, on, on', if_true,
    List.filter_nil, List.map_singleton, same]
  rw [← Bus.on, ← Bus.on, alike.on]

theorem deliver (alike : b.Alike room b') {d d' : Delivery} (read : d.reading = d'.reading) :
    ((b.deliver d).1.map fun _ => ()) = ((b'.deliver d').1.map fun _ => ()) ∧
      Alike room (b.deliver d).2 (b'.deliver d').2 := by
  unfold Bus.deliver
  rw [← alike.closed]
  cases b.closed
  · simp only [Bool.false_eq_true, if_false]
    refine ⟨rfl, rfl, ?_⟩
    have kept : ∀ d, (Member.isOn room ∘ Member.offer d) = Member.isOn room :=
      fun d => funext (Member.offer_isOn room d)
    simp only [Bus.on, List.filter_map, kept]
    exact map_alike alike.on fun m m' same => Member.outline_offer same read
  · exact ⟨rfl, alike⟩

theorem modify (alike : b.Alike room b') {g : Member → Member}
    (keeps : ∀ m, (g m).isOn room = m.isOn room)
    (outlines : ∀ m m', m.outline = m'.outline → (g m).outline = (g m').outline) {sub sub' : Nat}
    (place : b.SamePlace room b' sub sub') :
    Alike room { b with members := b.members.modify sub g }
      { b' with members := b'.members.modify sub' g } := by
  obtain ⟨rank, m, m', found, on, found', on'⟩ := place
  refine ⟨alike.closed, ?_⟩
  simp only [Bus.on]
  rw [filter_modify keeps found on, filter_modify keeps found' on']
  unfold Bus.rank at rank
  rw [rank]
  exact modify_alike alike.on outlines _

theorem member (alike : b.Alike room b') {sub sub' : Nat} (place : b.SamePlace room b' sub sub') :
    ∃ m m', b.members[sub]? = some m ∧ b'.members[sub']? = some m' ∧ m.outline = m'.outline := by
  obtain ⟨rank, m, m', found, on, found', on'⟩ := place
  refine ⟨m, m', found, found', ?_⟩
  have here := congrArg (fun ms => ms[b.rank room sub]?) alike.on
  simp only [List.getElem?_map, Bus.on] at here
  rw [rank] at here
  unfold Bus.rank at here rank
  rw [getElem?_filter found' on', ← rank, getElem?_filter found on] at here
  exact Option.some.inj here

/-! #### Something is done for others -/

theorem of_append {m : Member} (away : m.isOn room = false) :
    b.Alike room { b with members := b.members ++ [m] } := by
  refine ⟨rfl, ?_⟩
  simp only [Bus.on, List.filter_append, List.filter_cons, away, Bool.false_eq_true, if_false,
    List.filter_nil, List.append_nil]

theorem of_modify {g : Member → Member} (keeps : ∀ m, (g m).isOn room = m.isOn room) {sub : Nat}
    (away : ∀ m, b.members[sub]? = some m → m.isOn room = false) :
    b.Alike room { b with members := b.members.modify sub g } :=
  ⟨rfl, by simp only [Bus.on, filter_modify_other keeps away]⟩

theorem of_deliver {d : Delivery} (away : ∀ m ∈ b.on room, Topic.selects m.pattern d.topic = false) :
    b.Alike room (b.deliver d).2 := by
  unfold Bus.deliver
  cases closed : b.closed
  · simp only [Bool.false_eq_true, if_false]
    refine ⟨closed, ?_⟩
    have kept : (Member.isOn room ∘ Member.offer d) = Member.isOn room :=
      funext (Member.offer_isOn room d)
    simp only [Bus.on, List.filter_map, kept, List.map_map]
    refine List.map_congr_left fun m member => ?_
    simp [Member.offer, Member.takes, away m member]
  · exact refl b

theorem count (alike : b.Alike room b') :
    (b.presentOn (Key.roomPattern room)).length = (b'.presentOn (Key.roomPattern room)).length := by
  have told : ∀ b : Bus, (b.presentOn (Key.roomPattern room)).length =
      if b.closed then 0 else ((b.on room).map Member.outline).countP Member.Outline.active := by
    intro b
    unfold presentOn present
    cases b.closed
    · simp only [Bool.false_eq_true, if_false, Bus.on, List.countP_map]
      rw [← List.countP_eq_length_filter, List.countP_filter, List.countP_filter]
      exact List.countP_congr fun m _ => by simp [Member.isOn, Member.outline, and_comm]
    · rfl
  rw [told, told, alike.closed, alike.on]

end Alike
end Bus

/-! ### Acts for the room -/

theorem Event.key_alike {e e' : Event} (same : e.timeless = e'.timeless) : e.key? = e'.key? := by
  have told : ∀ e : Event, e.key? = e.timeless.key? := fun _ => rfl
  rw [told, same, ← told]

theorem Event.reading_alike {e e' : Event} (same : e.timeless = e'.timeless) (topic : String) :
    Delivery.reading ⟨topic, e.encode⟩ = Delivery.reading ⟨topic, e'.encode⟩ := by
  have told : ∀ e : Event, Delivery.reading ⟨topic, e.encode⟩ =
      (topic, if (Wire.Event.ofDomain e.timeless).fits then some (.ofDomain e.timeless) else none) := by
    intro e
    have fits : (Wire.Event.ofDomain e).fits = (Wire.Event.ofDomain e.timeless).fits := by
      rw [← Wire.timeless_ofDomain]
      rfl
    rw [Delivery.reading, encode, Wire.Event.decode?_encode, fits]
    split
    · rw [Option.map_some, Wire.timeless_ofDomain]
    · rfl
  rw [told, told, same]

/-- Acts that are the same to `room`, in two services. -/
inductive Act.Paired (room : String) (c c' : Channel) : Act → Act → Prop where
  | openSession : Paired room c c' .openSession .openSession
  | subscribe {session session' : Nat} (opened : c.isOpen session = true)
    (opened' : c'.isOpen session' = true) (user : String) :
    Paired room c c' (.subscribe session (Key.roomPattern room) user)
      (.subscribe session' (Key.roomPattern room) user)
  | publish {session session' : Nat} {e e' : Event} (opened : c.isOpen session = true)
    (opened' : c'.isOpen session' = true) (same : e.timeless = e'.timeless) :
    Paired room c c' (.publish session e) (.publish session' e')
  | count : Paired room c c' (.count (Key.roomPattern room)) (.count (Key.roomPattern room))
  | cancel {sub sub' : Nat} (place : c.bus.SamePlace room c'.bus sub sub') :
    Paired room c c' (.cancel sub) (.cancel sub')
  | closeSession (session session' : Nat) :
    Paired room c c' (.closeSession session) (.closeSession session')
  | offer {item item' : Item} (same : item.timeless = item'.timeless) :
    Paired room c c' (.offer item) (.offer item')
  | listen {sub sub' : Nat} (place : c.bus.SamePlace room c'.bus sub sub') :
    Paired room c c' (.listen sub) (.listen sub')
  | rest : Paired room c c' .rest .rest

theorem Work.offer_reply {work : Work} {item : Item} {reply : Reply}
    (answer : (work.offer item).1 = some reply) : reply = .taken ∨ reply = .peerGone := by
  cases work with
  | sending s => cases answer
  | relay r stream =>
    rcases stream.offer_cases item with ⟨taken, -⟩ | ⟨gone, -⟩
    · exact .inl (Option.some.inj (answer.symm.trans taken))
    · exact .inr (gone reply answer)

def Reply.number? : Reply → Option Nat
  | .subscription (.ok sub) => some sub
  | _ => none

/-- Outcomes of `serve` that are the same to `room`. -/
inductive Channel.SameOutcome (room : String) : Option (Reply × Work × Channel) →
    Option (Reply × Work × Channel) → Prop where
  | waits : SameOutcome room none none
  | goes {reply reply' : Reply} {shown shown' : Work} {c c' : Channel} (alike : reply.Alike reply')
    (works : shown.outline = shown'.outline) (brokers : c.bus.Alike room c'.bus)
    (numbers : ∀ sub, reply.number? = some sub →
      ∃ sub', reply'.number? = some sub' ∧ c.bus.SamePlace room c'.bus sub sub') :
    SameOutcome room (some (reply, shown, c)) (some (reply', shown', c'))

theorem Channel.SameOutcome.unnumbered {room : String} {reply reply' : Reply} {shown shown' : Work}
    {c c' : Channel} (alike : reply.Alike reply') (works : shown.outline = shown'.outline)
    (brokers : c.bus.Alike room c'.bus) (unnumbered : reply.number? = none) :
    SameOutcome room (some (reply, shown, c)) (some (reply', shown', c')) := by
  refine .goes alike works brokers fun sub numbered => ?_
  rw [unnumbered] at numbered
  cases numbered

namespace Channel

variable {c c' : Channel} {room : String}

theorem openSession_alike (alike : c.bus.Alike room c'.bus) :
    (Reply.session c.openSession.1).Alike (.session c'.openSession.1) ∧
      c.openSession.2.bus.Alike room c'.openSession.2.bus := by
  have closed : c.closed = c'.closed := alike.closed
  unfold openSession
  rw [← closed]
  cases c.closed
  · simp only [Bool.false_eq_true, if_false]
    exact ⟨.plain rfl rfl rfl, rfl, alike.on⟩
  · exact ⟨.plain rfl rfl rfl, alike⟩

theorem bus_append (c : Channel) (s : Subscription) :
    bus { c with subscriptions := c.subscriptions ++ [s] } =
      { c.bus with members := c.bus.members ++ [s.member] } := by
  simp only [bus, List.map_append, List.map_singleton]

theorem samePlace_append {b b' : Bus} (alike : b.Alike room b') {m m' : Member} (on : m.isOn room = true)
    (on' : m'.isOn room = true) :
    Bus.SamePlace room { b with members := b.members ++ [m] } { b' with members := b'.members ++ [m'] }
      b.members.length b'.members.length := by
  have length : (b.on room).length = (b'.on room).length := by
    simpa using congrArg List.length alike.on
  refine ⟨?_, m, m', List.getElem?_concat_length, on, List.getElem?_concat_length, on'⟩
  rw [Bus.rank, Bus.rank, List.take_left, List.take_left, List.countP_eq_length_filter,
    List.countP_eq_length_filter, ← Bus.on, ← Bus.on, length]

theorem subscribe_shut {session : Nat} (opened : c.isOpen session = true) (shut : c.closed = true)
    (pattern : Key) (user : String) :
    c.subscribe session pattern user = (.error (.subscribe "channel broker is closed"), c) := by
  rw [subscribe, opened, Bool.not_true, if_neg Bool.false_ne_true, if_pos shut]

theorem subscribe_alike (alike : c.bus.Alike room c'.bus) {session session' : Nat}
    (opened : c.isOpen session = true) (opened' : c'.isOpen session' = true) (user : String) :
    (Reply.subscription (c.subscribe session (Key.roomPattern room) user).1).Alike
        (.subscription (c'.subscribe session' (Key.roomPattern room) user).1) ∧
      (c.subscribe session (Key.roomPattern room) user).2.bus.Alike room
        (c'.subscribe session' (Key.roomPattern room) user).2.bus ∧
      ∀ sub, (Reply.subscription (c.subscribe session (Key.roomPattern room) user).1).number? = some sub →
        ∃ sub', (Reply.subscription (c'.subscribe session' (Key.roomPattern room) user).1).number? =
            some sub' ∧
          (c.subscribe session (Key.roomPattern room) user).2.bus.SamePlace room
            (c'.subscribe session' (Key.roomPattern room) user).2.bus sub sub' := by
  have closed : c.closed = c'.closed := alike.closed
  have on : Member.isOn room ⟨(Key.roomPattern room).encode, user, [], true⟩ = true := beq_self_eq_true _
  cases shut : c.closed
  · rw [subscribe_running opened shut, subscribe_running opened' (closed ▸ shut)]
    simp only [bus_append]
    refine ⟨.plain rfl rfl rfl, alike.append on on rfl, ?_⟩
    rintro sub ⟨⟩
    refine ⟨_, rfl, ?_⟩
    have place := samePlace_append alike on on
    have numbers : ∀ c : Channel, c.bus.members.length = c.subscriptions.length := fun c =>
      List.length_map _
    rwa [numbers, numbers] at place
  · rw [subscribe_shut opened shut, subscribe_shut opened' (closed ▸ shut)]
    exact ⟨.plain rfl rfl rfl, alike, fun sub numbered => by cases numbered⟩

theorem publish_alike (alike : c.bus.Alike room c'.bus) (sound : c.Sound) (sound' : c'.Sound)
    {session session' : Nat} (opened : c.isOpen session = true) (opened' : c'.isOpen session' = true)
    {e e' : Event} (same : e.timeless = e'.timeless) (key : Key) :
    (c.publish session key e.encode).1 = (c'.publish session' key e'.encode).1 ∧
      (c.publish session key e.encode).2.1.bus.Alike room
        (c'.publish session' key e'.encode).2.1.bus := by
  obtain ⟨answer, after⟩ := alike.deliver (Event.reading_alike same key.encode)
  rw [publish_eq_deliver opened, publish_eq_deliver opened']
  rw [← bus_deliver sound, ← bus_deliver sound'] at answer after
  exact ⟨answer, after⟩

theorem receive_alike (alike : c.bus.Alike room c'.bus) (sound : c.Sound) (sound' : c'.Sound)
    {sub sub' : Nat} (place : c.bus.SamePlace room c'.bus sub sub') :
    ((∃ d d', (c.receive sub).1 = .delivery d ∧ (c'.receive sub').1 = .delivery d' ∧
        d.reading = d'.reading) ∨
      ((c.receive sub).1 = (c'.receive sub').1 ∧ ∀ d, (c.receive sub).1 ≠ .delivery d)) ∧
      (c.receive sub).2.bus.Alike room (c'.receive sub').2.bus := by
  have told : ∀ {c : Channel} {sub : Nat}, c.Sound →
      (c.receive sub).1 = (c.bus.members[sub]?.map (Member.next c.closed)).getD .over ∧
        (c.receive sub).2.bus = { c.bus with members := c.bus.members.modify sub Member.advance } := by
    intro c sub sound
    have once := bus_apply sound (.receive sub)
    exact ⟨Answer.received.inj (congrArg Prod.fst once), congrArg Prod.snd once⟩
  obtain ⟨m, m', found, found', same⟩ := alike.member place
  have closed : c.closed = c'.closed := alike.closed
  rw [(told sound).1, (told sound').1, (told sound).2, (told sound').2, found, found', ← closed]
  exact ⟨Member.outline_next same c.closed,
    alike.modify (Member.advance_isOn room) (fun _ _ => Member.outline_advance) place⟩

/-- `poll?` finds the same in both services. -/
theorem poll_alike (alike : c.bus.Alike room c'.bus) (sound : c.Sound) (sound' : c'.Sound)
    {sub sub' : Nat} (place : c.bus.SamePlace room c'.bus sub sub') {work work' : Work}
    (same : work.outline = work'.outline) (hungUp stopping : Bool) (signal : Signal) :
    SameOutcome room ((signal.poll? c hungUp stopping sub).map fun (reply, c) => (reply, work, c))
      ((signal.poll? c' hungUp stopping sub').map fun (reply, c') => (reply, work', c')) := by
  unfold Signal.poll?
  cases signal with
  | client =>
    cases hungUp
    · exact .waits
    · exact .unnumbered (.plain rfl rfl rfl) same alike rfl
  | service =>
    cases stopping
    · exact .waits
    · exact .unnumbered (.plain rfl rfl rfl) same alike rfl
  | subscription =>
    obtain ⟨answers, brokers⟩ := receive_alike alike sound sound' place
    simp only [Broker.receive]
    generalize c.receive sub = given at answers brokers
    generalize c'.receive sub' = given' at answers brokers
    obtain ⟨r, d⟩ := given
    obtain ⟨r', d'⟩ := given'
    rcases answers with ⟨x, x', rfl, rfl, read⟩ | ⟨rfl, other⟩
    · exact .unnumbered (.delivery read) same brokers rfl
    · cases r with
      | delivery x => exact absurd rfl (other x)
      | pending => exact .waits
      | «over» => exact .unnumbered (.plain rfl rfl rfl) same brokers rfl

/-- `hear` finds the same in both services, whichever signal is polled first. -/
theorem hear_alike (alike : c.bus.Alike room c'.bus) (sound : c.Sound) (sound' : c'.Sound)
    {sub sub' : Nat} (place : c.bus.SamePlace room c'.bus sub sub') {work work' : Work}
    (same : work.outline = work'.outline) (hungUp stopping : Bool) (first : Signal) :
    SameOutcome room ((first.hear c hungUp stopping sub).map fun (reply, c) => (reply, work, c))
      ((first.hear c' hungUp stopping sub').map fun (reply, c') => (reply, work', c')) := by
  unfold Signal.hear
  induction first.round with
  | nil => exact .waits
  | cons signal rest ih =>
    have polled := poll_alike alike sound sound' place same hungUp stopping signal
    rw [List.findSome?_cons, List.findSome?_cons]
    generalize signal.poll? c hungUp stopping sub = ready at polled
    generalize signal.poll? c' hungUp stopping sub' = ready' at polled
    cases ready <;> cases ready'
    · exact ih
    · cases polled
    · cases polled
    · exact polled

theorem cancel_alike (alike : c.bus.Alike room c'.bus) {sub sub' : Nat}
    (place : c.bus.SamePlace room c'.bus sub sub') :
    (c.cancel sub).bus.Alike room (c'.cancel sub').bus := by
  rw [bus_cancel, bus_cancel]
  exact alike.modify (g := Member.retire) (fun _ => rfl) (fun _ _ => Member.outline_retire) place

theorem count_alike (alike : c.bus.Alike room c'.bus) (sound : c.Sound) (sound' : c'.Sound) :
    c.count (Key.roomPattern room) = c'.count (Key.roomPattern room) := by
  have told : ∀ {c : Channel}, c.Sound →
      c.count (Key.roomPattern room) = (c.bus.presentOn (Key.roomPattern room)).length := by
    intro c sound
    rw [← sound.presentOn, List.length_map, count]
  rw [told sound, told sound', alike.count]

/-- Paired acts have the `SameOutcome`. -/
theorem serve_alike (alike : c.bus.Alike room c'.bus) (sound : c.Sound) (sound' : c'.Sound)
    {work work' : Work} (same : work.outline = work'.outline)
    (paired : work.act.Paired room c c' work'.act) (stopping : Bool) (first : Signal) :
    SameOutcome room (c.serve stopping first work) (c'.serve stopping first work') := by
  unfold serve
  generalize asks : work.act = act at paired
  generalize asks' : work'.act = act' at paired
  cases paired with
  | openSession =>
    obtain ⟨replies, brokers⟩ := openSession_alike alike
    exact .unnumbered replies same brokers rfl
  | subscribe opened opened' user =>
    obtain ⟨replies, brokers, numbers⟩ := subscribe_alike alike opened opened' user
    exact .goes replies same brokers numbers
  | @publish session session' e e' opened opened' publishes =>
    simp only [Event.message, Event.key_alike publishes]
    cases e'.key? with
    | none => exact .unnumbered (.plain rfl rfl rfl) same alike rfl
    | some key =>
      obtain ⟨answer, brokers⟩ := publish_alike alike sound sound' opened opened' publishes key
      exact .unnumbered (.plain rfl rfl (congrArg Reply.published answer)) same brokers rfl
  | count =>
    have counts := count_alike alike sound sound'
    exact .unnumbered (.plain rfl rfl (by rw [counts])) same alike rfl
  | cancel place => exact .unnumbered (.plain rfl rfl rfl) same (cancel_alike alike place) rfl
  | closeSession => exact .unnumbered (.plain rfl rfl rfl) same ⟨alike.closed, alike.on⟩ rfl
  | @offer item item' offers =>
    obtain ⟨replies, works⟩ := Work.outline_offer same offers
    simp only [replies]
    cases answer : (work'.offer item').1 with
    | none => exact .waits
    | some reply =>
      rcases Work.offer_reply answer with rfl | rfl <;>
        exact .unnumbered (.plain rfl rfl rfl) works alike rfl
  | @listen sub sub' place =>
    simp only [Work.outline_hungUp same]
    exact hear_alike alike sound sound' place same _ stopping first
  | rest => exact .waits

end Channel

/-! ### Acts for others -/

/-- The act does not concern the members on `room`. -/
def Act.IsAway (room : String) (c : Channel) : Act → Prop
  | .subscribe _ pattern _ => pattern.encode ≠ (Key.roomPattern room).encode
  | .publish _ e => ∀ d, e.delivery? = some d → ∀ m ∈ c.bus.on room, Topic.selects m.pattern d.topic = false
  | .count pattern => pattern ≠ Key.roomPattern room
  | .cancel sub | .listen sub => ∀ m, c.bus.members[sub]? = some m → m.isOn room = false
  | _ => True

theorem Served.away {c c' : Channel} {room : String} {act : Act} {reply : Reply}
    (served : Served c act reply c') (sound : c.Sound) (away : act.IsAway room c) :
    c.bus.Alike room c'.bus := by
  cases served with
  | openSession =>
    unfold Channel.openSession
    split <;> exact ⟨rfl, rfl⟩
  | subscribe session pattern user =>
    rcases result : c.subscribe session pattern user with ⟨answer, after⟩
    cases answer with
    | error e =>
      rw [Channel.subscribe_error result]
      exact .refl _
    | ok sub =>
      obtain ⟨-, -, -, rfl⟩ := Channel.subscribe_ok result
      rw [Channel.bus_append]
      exact .of_append (beq_eq_false_iff_ne.mpr away)
  | @publish session e key payload message =>
    cases opened : c.isOpen session with
    | false =>
      rw [Channel.publish_refused opened]
      exact .refl _
    | true =>
      have after := congrArg Prod.snd (Channel.bus_deliver sound ⟨key.encode, payload⟩)
      rw [Channel.publish_eq_deliver opened]
      simp only at after ⊢
      rw [after]
      exact .of_deliver (away _ (Event.delivery_of_message message))
  | cancel sub =>
    rw [Channel.bus_cancel]
    exact .of_modify (g := Member.retire) (fun _ => rfl) away
  | receive sub =>
    have after : (c.receive sub).2.bus =
        { c.bus with members := c.bus.members.modify sub Member.advance } :=
      congrArg Prod.snd (Channel.bus_apply sound (.receive sub))
    rw [after]
    exact .of_modify (Member.advance_isOn room) away
  | closeSession session => exact ⟨rfl, rfl⟩
  | unroutable | count | offer | listen => exact .refl _

end RoomRelay
