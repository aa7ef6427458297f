import RoomRelay.Proofs.World.Moves

/-!
Invariants of every run. `WellKept`: the broker knows each relay by its subscription, which is
cancelled once the relay has parted. `Apart`: no two calls hold one session. `Later`: names, rooms and
subscriptions of relays are stable.
-/

namespace RoomRelay

namespace Relay

def isSubscribed (r : Relay) : Bool :=
  match r.phase with
  | .opening | .subscribing | .abandoning _ | .refused _ => false
  | _ => true

def session? (r : Relay) : Option Nat :=
  match r.phase with
  | .opening | .refused _ | .reporting _ | .ended _ => none
  | _ => some r.session

/-- A pending join or leave names the user and the room of the relay. -/
def Announces (r : Relay) : Prop :=
  match r.phase with
  | .joining joined => joined = r.event joined.createdAt .userJoined
  | .leaving _ left => left = r.event left.createdAt .userLeft
  | _ => True

theorem hear_announces (r : Relay) (d : Delivery) (listens : r.phase = .listening) :
    (r.hear d).1.Announces := by
  unfold hear
  split <;> simp [Announces, listens]

theorem conclude_announces (r : Relay) (why : Ending) : (r.conclude why).1.Announces := by
  unfold conclude
  split <;> exact trivial

theorem Announces.resume {r : Relay} (announces : r.Announces) (now : Int64) (reply : Reply) :
    (r.resume now reply).1.Announces := by
  unfold Relay.resume
  split
  case h_16 listens => exact hear_announces r _ listens
  case h_23 => exact conclude_announces r _
  case h_26 => exact announces
  all_goals first | exact trivial | exact rfl

theorem hear_notParted (r : Relay) (d : Delivery) (listens : r.phase = .listening) :
    (r.hear d).1.hasParted = false := by
  unfold hear
  split <;> simp [hasParted, listens]

theorem parts_by_cancelling {r : Relay} {now : Int64} {reply : Reply} (before : r.hasParted = false)
    (after : (r.resume now reply).1.hasParted = true) : ∃ why, r.phase = .cancelling why := by
  revert after
  unfold resume
  split
  case h_16 listens =>
    rw [hear_notParted r _ listens]
    exact fun after => absurd after Bool.false_ne_true
  case h_20 why phase => exact fun _ => ⟨why, phase⟩
  case h_26 =>
    rw [before]
    exact fun after => absurd after Bool.false_ne_true
  all_goals
    rename_i phase
    first
      | (intro after; cases after; done)
      | (rw [hasParted, phase] at before; cases before)

theorem subscribes_by_reply {r : Relay} {now : Int64} {reply : Reply} (before : r.isSubscribed = false)
    (after : (r.resume now reply).1.isSubscribed = true) :
    r.phase = .subscribing ∧
      ∃ sub, reply = .subscription (.ok sub) ∧ (r.resume now reply).1.subscription = sub := by
  revert after
  unfold resume
  split
  case h_3 phase => exact fun _ => ⟨phase, _, rfl, rfl⟩
  case h_26 =>
    rw [before]
    exact fun after => absurd after Bool.false_ne_true
  all_goals
    rename_i phase
    first
      | (intro after; cases after; done)
      | (rw [isSubscribed, phase] at before; cases before)

theorem hasAsked_of_isSubscribed {r : Relay} (subscribed : r.isSubscribed = true) :
    r.hasAsked = true := by
  obtain ⟨user, room, session, subscription, phase, relayed, excluded, skipped⟩ := r
  cases phase <;> first | rfl | cases subscribed

/-- Dropping a relay that opens cancels its subscription, if it has one. -/
theorem letGo_cases {r : Relay} (opening : r.isOpening = true) (c : Channel) :
    (r.isSubscribed = true ∧ r.letGo c = c.cancel r.subscription) ∨
      (r.isSubscribed = false ∧ r.letGo c = c) := by
  obtain ⟨user, room, session, subscription, phase, relayed, excluded, skipped⟩ := r
  cases phase with
  | joining | withdrawing => exact .inl ⟨rfl, rfl⟩
  | opening | subscribing | abandoning => exact .inr ⟨rfl, rfl⟩
  | _ => cases opening

theorem abandon_follows {r : Relay} (opening : r.isOpening = true) : r.Follows r.abandon := by
  obtain ⟨user, room, session, subscription, phase, relayed, excluded, skipped⟩ := r
  refine ⟨rfl, rfl, fun parted => ?_, fun _ => ⟨rfl, rfl⟩⟩
  cases phase <;> first | cases opening; done | cases parted

def WellKept (c : Channel) (r : Relay) : Prop :=
  Topic.isSafe r.user = true ∧ Topic.isSegment r.room = true ∧ r.Announces ∧
    (r.isSubscribed = true → ∃ cancelled, c.Holds r.subscription r.pattern.encode cancelled ∧
      (r.hasParted = true → cancelled = true))

end Relay

/-! ### The broker while calls act -/

/-- Subscriptions keep their numbers and patterns, and those that were cancelled stay so. -/
def Channel.Extends (c c' : Channel) : Prop :=
  ∀ sub pattern cancelled, c.Holds sub pattern cancelled →
    ∃ cancelled', c'.Holds sub pattern cancelled' ∧ (cancelled = true → cancelled' = true)

namespace Channel

theorem Extends.refl (c : Channel) : c.Extends c := fun _ _ cancelled held => ⟨cancelled, held, id⟩

theorem Extends.trans {c c' c'' : Channel} (first : c.Extends c') (second : c'.Extends c'') :
    c.Extends c'' := by
  intro sub pattern cancelled held
  obtain ⟨cancelled', held', stays⟩ := first sub pattern cancelled held
  obtain ⟨cancelled'', held'', stays'⟩ := second sub pattern cancelled' held'
  exact ⟨cancelled'', held'', fun already => stays' (stays already)⟩

theorem extends_apply (c : Channel) (op : Op) : c.Extends (c.apply op).2 := by
  intro sub pattern cancelled held
  refine ⟨_, held.apply op, ?_⟩
  intro already
  rw [already, Bool.or_true]

theorem deliver_keeps_closed (c : Channel) (d : Delivery) : (c.deliver d).2.1.closed = c.closed := by
  cases closed : c.closed
  · rw [(deliver_open closed d).2]
    exact closed
  · rw [deliver_closed closed]
    exact closed

theorem apply_closed (c : Channel) {op : Op} (other : op ≠ .close) :
    (c.apply op).2.closed = c.closed := by
  cases op with
  | openSession => exact openSession_closed c
  | subscribe session pattern subscriber =>
    simp only [apply, subscribe]
    repeat' split
    all_goals rfl
  | publish session key payload =>
    cases opened : c.isOpen session
    · simp only [apply, publish_refused opened]
    · simp only [apply, publish_eq_deliver opened]
      exact deliver_keeps_closed c _
  | deliver d => exact deliver_keeps_closed c d
  | close => exact absurd rfl other
  | _ => rfl

end Channel

namespace Served

variable {c c' : Channel} {act : Act} {reply : Reply}

theorem sound (served : Served c act reply c') (sound : c.Sound) : c'.Sound := by
  rcases served.broker with rfl | ⟨op, _, rfl⟩
  · exact sound
  · exact sound.apply op

theorem keeps_closed (served : Served c act reply c') : c'.closed = c.closed := by
  rcases served.broker with rfl | ⟨op, other, rfl⟩
  · rfl
  · exact c.apply_closed other

theorem extends_ (served : Served c act reply c') : c.Extends c' := by
  rcases served.broker with rfl | ⟨op, _, rfl⟩
  · exact .refl _
  · exact c.extends_apply op

theorem of_subscribe {session : Nat} {pattern : Key} {subscriber : String} {res : Except BrokerError Nat}
    (served : Served c (.subscribe session pattern subscriber) (.subscription res) c') :
    res = (c.subscribe session pattern subscriber).1 ∧
      c' = (c.subscribe session pattern subscriber).2 := by
  generalize same : Reply.subscription res = reply at served
  cases served
  exact ⟨Reply.subscription.inj same, rfl⟩

theorem of_cancel {sub : Nat} (served : Served c (.cancel sub) reply c') : c' = c.cancel sub := by
  cases served
  rfl

end Served

namespace Relay

theorem WellKept.extends {c c' : Channel} {r : Relay} (kept : r.WellKept c) (grows : c.Extends c') :
    r.WellKept c' := by
  obtain ⟨user, room, announces, known⟩ := kept
  refine ⟨user, room, announces, ?_⟩
  intro subscribed
  obtain ⟨cancelled, held, parted⟩ := known subscribed
  obtain ⟨cancelled', held', stays⟩ := grows _ _ _ held
  exact ⟨cancelled', held', fun left => stays (parted left)⟩

theorem WellKept.run {c : Channel} {r : Relay} (kept : r.WellKept c) (waits : r.phase = .joined) :
    r.run.WellKept c := by
  obtain ⟨user, room, _, known⟩ := kept
  obtain ⟨cancelled, held, _⟩ := known (by rw [isSubscribed, waits])
  exact ⟨user, room, trivial, fun _ => ⟨cancelled, held, nofun⟩⟩

theorem WellKept.abandon {c : Channel} {r : Relay} (kept : r.WellKept c) : r.abandon.WellKept c :=
  ⟨kept.1, kept.2.1, trivial, nofun⟩

theorem letGo_extends {r : Relay} (opening : r.isOpening = true) (c : Channel) :
    c.Extends (r.letGo c) := by
  rcases letGo_cases opening c with ⟨-, cancelled⟩ | ⟨-, same⟩
  · rw [cancelled]
    exact c.extends_apply (.cancel r.subscription)
  · rw [same]
    exact .refl c

theorem letGo_keeps {r : Relay} (opening : r.isOpening = true) (c : Channel) :
    (r.letGo c).sessions = c.sessions ∧ (r.letGo c).closed = c.closed ∧
      (c.Sound → (r.letGo c).Sound) := by
  rcases letGo_cases opening c with ⟨-, cancelled⟩ | ⟨-, same⟩
  · rw [cancelled]
    exact ⟨rfl, rfl, fun sound => sound.cancel _⟩
  · rw [same]
    exact ⟨rfl, rfl, id⟩

theorem WellKept.resume {c c' : Channel} {r : Relay} {reply : Reply} (kept : r.WellKept c)
    (served : Served c r.act reply c') (now : Int64) : (r.resume now reply).1.WellKept c' := by
  obtain ⟨user, room, announces, known⟩ := kept
  have follows := r.resume_follows now reply
  have samePattern : (r.resume now reply).1.pattern = r.pattern := congrArg Key.roomPattern follows.2.1
  refine ⟨follows.1 ▸ user, follows.2.1 ▸ room, announces.resume now reply, ?_⟩
  intro after
  rw [samePattern]
  cases before : r.isSubscribed
  · obtain ⟨asks, sub, rfl, same⟩ := subscribes_by_reply before after
    rw [act, asks] at served
    obtain ⟨given, rfl⟩ := served.of_subscribe
    have held := (Channel.holds_of_subscribe given.symm).2.2
    rw [same]
    refine ⟨false, held, ?_⟩
    intro parted
    obtain ⟨why, cancels⟩ := parts_by_cancelling (by rw [hasParted, asks]) parted
    rw [asks] at cancels
    contradiction
  · obtain ⟨cancelled, held, parted⟩ := known before
    rw [(follows.2.2.2 (hasAsked_of_isSubscribed before)).2]
    cases leaves : (r.resume now reply).1.hasParted
    · obtain ⟨cancelled', held', _⟩ := served.extends_ _ _ _ held
      exact ⟨cancelled', held', fun left => absurd left Bool.false_ne_true⟩
    · cases left : r.hasParted
      · obtain ⟨why, cancels⟩ := parts_by_cancelling left leaves
        rw [act, cancels] at served
        rw [served.of_cancel]
        refine ⟨_, held.cancel r.subscription, ?_⟩
        intro _
        rw [beq_self_eq_true, Bool.true_or]
      · obtain ⟨cancelled', held', stays⟩ := served.extends_ _ _ _ held
        exact ⟨cancelled', held', fun _ => stays (parted left)⟩

end Relay

/-! ### Sessions -/

namespace Call

def session? : Call → Option Nat
  | relay r => r.session?
  | sending s => s.session?

end Call

theorem Relay.session_hear (r : Relay) (d : Delivery) (listens : r.phase = .listening) :
    (r.hear d).1.session? = some r.session := by
  unfold hear
  split <;> simp [Relay.session?, listens]

theorem Relay.session_conclude (r : Relay) (why : Ending) : (r.conclude why).1.session? = none := by
  unfold conclude
  split <;> rfl

/-- A relay gets a session only by opening one. -/
theorem Relay.session_resume {r : Relay} (opened : r.phase ≠ .opening) (now : Int64) (reply : Reply) :
    (r.resume now reply).1.session? = r.session? ∨ (r.resume now reply).1.session? = none := by
  unfold resume
  split
  case h_1 | h_2 => all_goals exact absurd ‹_› opened
  case h_16 listens => exact .inl (by rw [session_hear r _ listens, session?, listens])
  case h_23 => exact .inr (session_conclude r _)
  case h_26 => exact .inl rfl
  all_goals
    rename_i phase
    first
      | exact .inr rfl
      | (refine .inl (Eq.trans (b := some r.session) rfl ?_); rw [session?, phase])

theorem Sending.session_proceed (s : Sending) (session : Nat) (createdAt : Int64) (rooms : List String) :
    (s.proceed session createdAt rooms).session? = some session := by
  cases rooms <;> rfl

namespace Call

theorem session_resume {call : Call} (opened : call.act ≠ .openSession) (now : Int64) (reply : Reply) :
    (call.resume now reply).session? = call.session? ∨ (call.resume now reply).session? = none := by
  cases call with
  | relay r => exact r.session_resume (fun opening => opened (by rw [act, Relay.act, opening])) now reply
  | sending s =>
    obtain ⟨user, rooms, payload, phase⟩ := s
    cases phase with
    | opening => exact absurd rfl opened
    | publishing session createdAt room rooms =>
      cases reply with
      | published res =>
        cases res with
        | ok _ => exact .inl (Sending.session_proceed _ session createdAt rooms)
        | error e => exact .inl rfl
      | _ => exact .inl rfl
    | closing session result => cases reply <;> first | exact .inl rfl | exact .inr rfl
    | _ => exact .inl rfl

theorem session_opened {call : Call} (opens : call.act = .openSession) (now : Int64)
    (res : Except BrokerError Nat) :
    (call.resume now (.session res)).session? = res.toOption := by
  cases call with
  | relay r =>
    obtain ⟨user, room, session, subscription, phase, relayed, excluded, skipped⟩ := r
    cases phase <;> cases opens
    cases res <;> rfl
  | sending s =>
    obtain ⟨user, rooms, payload, phase⟩ := s
    cases phase <;> cases opens
    cases res with
    | ok session => exact Sending.session_proceed _ session now rooms
    | error e => rfl

theorem session_closed {call : Call} {session : Nat} (closes : call.act = .closeSession session)
    (now : Int64) :
    call.session? = some session ∧ (call.resume now .done).session? = none := by
  cases call with
  | relay r =>
    obtain ⟨user, room, own, subscription, phase, relayed, excluded, skipped⟩ := r
    cases phase <;> cases closes
    · exact ⟨rfl, rfl⟩
    · exact ⟨rfl, Relay.session_conclude _ _⟩
  | sending s =>
    obtain ⟨user, rooms, payload, phase⟩ := s
    cases phase <;> cases closes
    exact ⟨rfl, rfl⟩

end Call

/-- Every session of a call is open, and no two calls have the same. -/
def Apart (c : Channel) (calls : List Call) : Prop :=
  ∀ (i : Nat) (call : Call) (session : Nat), calls[i]? = some call → call.session? = some session →
    c.isOpen session = true ∧
      ∀ (j : Nat) (other : Call), calls[j]? = some other → other.session? = some session → j = i

namespace Apart

variable {c c' : Channel} {calls : List Call}

theorem spawn (apart : Apart c calls) {call : Call} (none : call.session? = none) :
    Apart c (calls ++ [call]) := by
  -- the new call holds no session, so whoever holds one was there before
  have old : ∀ (j : Nat) (other : Call) (session : Nat), (calls ++ [call])[j]? = some other →
      other.session? = some session → calls[j]? = some other := by
    intro j other session found holds
    rcases getElem?_snoc found with ⟨-, before⟩ | ⟨-, rfl⟩
    · exact before
    · rw [none] at holds
      contradiction
  intro i x session found holds
  obtain ⟨isOpen, unique⟩ := apart i x session (old i x session found holds) holds
  exact ⟨isOpen, fun j other found' holds' => unique j other (old j other session found' holds') holds'⟩

/-- One call goes on, with a session of its own or none; the sessions of the others stay open. -/
theorem set (apart : Apart c calls) {i : Nat} {call : Call}
    (others : ∀ j other session, j ≠ i → calls[j]? = some other → other.session? = some session →
      c'.isOpen session = true ∧ call.session? ≠ some session)
    (own : ∀ session, call.session? = some session → c'.isOpen session = true) :
    Apart c' (calls.set i call) := by
  intro j x session found holds
  rcases getElem?_set_cases found with ⟨rfl, rfl⟩ | ⟨apartHere, found⟩
  · refine ⟨own session holds, ?_⟩
    intro k other found' holds'
    rcases getElem?_set_cases found' with ⟨here, _⟩ | ⟨elsewhere, found'⟩
    · exact here
    · exact absurd holds (others k other session elsewhere found' holds').2
  · obtain ⟨isOpen, free⟩ := others j x session apartHere found holds
    refine ⟨isOpen, ?_⟩
    intro k other found' holds'
    rcases getElem?_set_cases found' with ⟨rfl, rfl⟩ | ⟨_, found'⟩
    · exact absurd holds' free
    · exact (apart j x session found holds).2 k other found' holds'

end Apart

theorem Channel.deliver_sessions (c : Channel) (d : Delivery) :
    (c.deliver d).2.1.sessions = c.sessions := by
  cases closed : c.closed
  · rw [(deliver_open closed d).2]
  · rw [deliver_closed closed]

theorem Served.sessions {c c' : Channel} {act : Act} {reply : Reply} (served : Served c act reply c')
    (opens : act ≠ .openSession) (closes : ∀ session, act ≠ .closeSession session) :
    c'.sessions = c.sessions := by
  cases served with
  | openSession => exact absurd rfl opens
  | closeSession session => exact absurd rfl (closes session)
  | subscribe session pattern subscriber =>
    unfold Channel.subscribe
    repeat' split
    all_goals rfl
  | @publish session e key payload message =>
    cases opened : c.isOpen session
    · rw [Channel.publish_refused opened]
    · rw [Channel.publish_eq_deliver opened]
      exact c.deliver_sessions _
  | _ => rfl

theorem Channel.lt_of_isOpen {c : Channel} {session : Nat} (opened : c.isOpen session = true) :
    session < c.sessions.length := by
  apply Nat.lt_of_not_le
  intro beyond
  rw [isOpen, List.getD_eq_getElem?_getD, List.getElem?_eq_none beyond] at opened
  contradiction

theorem Channel.isOpen_openSession {c : Channel} (running : c.closed = false) (session : Nat) :
    c.openSession.2.isOpen session = (decide (session = c.sessions.length) || c.isOpen session) := by
  simp only [openSession, running, Bool.false_eq_true, if_false, isOpen, List.getD_eq_getElem?_getD]
  rcases Nat.lt_trichotomy session c.sessions.length with before | here | beyond
  · simp [List.getElem?_append_left before, Nat.ne_of_lt before]
  · simp [here]
  · have past : (c.sessions ++ [true]).length ≤ session := by
      rw [List.length_append]
      exact beyond
    simp [List.getElem?_eq_none past, Nat.ne_of_gt beyond, Nat.le_of_lt beyond]

theorem Channel.isOpen_closeSession {c : Channel} {session other : Nat} (apart : other ≠ session) :
    (c.closeSession session).isOpen other = c.isOpen other := by
  simp [closeSession, isOpen, List.getD_eq_getElem?_getD, List.getElem?_set_ne apart.symm]

namespace Apart

variable {c c' : Channel} {calls : List Call} {i : Nat} {call : Call}

theorem elsewhere (apart : Apart c calls) (found : calls[i]? = some call) {j session : Nat}
    {other : Call} (away : j ≠ i) (present : calls[j]? = some other)
    (holds : other.session? = some session) :
    c.isOpen session = true ∧ call.session? ≠ some session :=
  ⟨(apart j other session present holds).1,
    fun same => away ((apart i call session found same).2 j other present holds)⟩

theorem keeps (apart : Apart c calls) (found : calls[i]? = some call) {call' : Call}
    (sessions : c'.sessions = c.sessions)
    (kept : call'.session? = call.session? ∨ call'.session? = none) :
    Apart c' (calls.set i call') := by
  have same : ∀ session, c'.isOpen session = c.isOpen session := fun session => by
    rw [Channel.isOpen, sessions, Channel.isOpen]
  refine apart.set ?_ ?_
  · intro j other session away present holds
    obtain ⟨isOpen, free⟩ := apart.elsewhere found away present holds
    refine ⟨(same session).trans isOpen, ?_⟩
    intro taken
    rcases kept with kept | none
    · exact free (kept ▸ taken)
    · rw [none] at taken
      contradiction
  · intro session holds
    rcases kept with kept | none
    · exact (same session).trans (apart i call session found (kept ▸ holds)).1
    · rw [none] at holds
      contradiction

theorem opened (apart : Apart c calls) (found : calls[i]? = some call)
    (opens : call.act = .openSession) (now : Int64) :
    Apart c.openSession.2 (calls.set i (call.resume now (.session c.openSession.1))) := by
  have taken := call.session_opened opens now c.openSession.1
  cases running : c.closed
  · have number : c.openSession.1 = .ok c.sessions.length := by
      rw [Channel.openSession, running]
      rfl
    rw [number] at taken ⊢
    refine apart.set ?_ ?_
    · intro j other session away present holds
      have isOpen := (apart j other session present holds).1
      rw [Channel.isOpen_openSession running, isOpen, Bool.or_true]
      refine ⟨rfl, ?_⟩
      intro same
      obtain rfl := Option.some.inj (taken.symm.trans same)
      exact Nat.lt_irrefl _ (Channel.lt_of_isOpen isOpen)
    · intro session holds
      obtain rfl := Option.some.inj (taken.symm.trans holds)
      rw [Channel.isOpen_openSession running, decide_eq_true rfl, Bool.true_or]
  · have refused : c.openSession = (.error Channel.closedError, c) := by
      rw [Channel.openSession, running]
      rfl
    rw [refused] at taken ⊢
    exact apart.keeps found rfl (.inr taken)

theorem served {reply : Reply} (apart : Apart c calls) (found : calls[i]? = some call)
    (served : Served c call.act reply c') (now : Int64) :
    Apart c' (calls.set i (call.resume now reply)) := by
  by_cases opens : call.act = .openSession
  · rw [opens] at served
    cases served
    exact apart.opened found opens now
  by_cases closes : ∃ session, call.act = .closeSession session
  · obtain ⟨session, closes⟩ := closes
    rw [closes] at served
    cases served
    obtain ⟨held, released⟩ := call.session_closed closes now
    refine apart.set ?_ ?_
    · intro j other kept away present holds
      obtain ⟨isOpen, free⟩ := apart.elsewhere found away present holds
      have different : kept ≠ session := fun same => free (same ▸ held)
      rw [Channel.isOpen_closeSession different, released]
      exact ⟨isOpen, (Option.some_ne_none kept).symm⟩
    · intro kept holds
      rw [released] at holds
      contradiction
  · exact apart.keeps found (served.sessions opens fun session act => closes ⟨session, act⟩)
      (call.session_resume opens now reply)

end Apart

/-! ### The world -/

namespace World

def Kept (w : World Channel) : Prop :=
  w.IsPrompt ∧ w.broker.Sound ∧
    (∀ (i : Nat) (r : Relay), w.calls[i]? = some (.relay r) → r.WellKept w.broker) ∧
      Apart w.broker w.calls

def Orderly (w : World Channel) : Prop :=
  w.IsPrompt ∧ w.broker.Sound ∧ w.broker.closed = false ∧
    (∀ (i : Nat) (r : Relay), w.calls[i]? = some (.relay r) → r.WellKept w.broker) ∧
      Apart w.broker w.calls

/-- The broker `Extends`, and every relay `Follows` what it was. -/
def Later (w w' : World Channel) : Prop :=
  w.broker.Extends w'.broker ∧
    ∀ (i : Nat) (r : Relay), w.calls[i]? = some (.relay r) →
      ∃ r', w'.calls[i]? = some (.relay r') ∧ r.Follows r'

theorem Later.refl (w : World Channel) : w.Later w :=
  ⟨.refl _, fun _ r found => ⟨r, found, .refl r⟩⟩

theorem Later.trans {w w' w'' : World Channel} (first : w.Later w') (second : w'.Later w'') :
    w.Later w'' := by
  refine ⟨first.1.trans second.1, ?_⟩
  intro i r found
  obtain ⟨r', found', follows⟩ := first.2 i r found
  obtain ⟨r'', found'', follows'⟩ := second.2 i r' found'
  exact ⟨r'', found'', follows.trans follows'⟩

def fresh (clock : Int64) : World Channel := { broker := {}, clock }

theorem orderly_fresh (clock : Int64) : (fresh clock).Orderly := by
  have none : ∀ i : Nat, (fresh clock).calls[i]? = none := fun i => List.getElem?_nil
  refine ⟨?_, Channel.sound_empty, rfl, ?_, ?_⟩
  · intro t member
    exact absurd member List.not_mem_nil
  · intro i r found
    rw [none] at found
    contradiction
  · intro i call session found
    rw [none] at found
    contradiction

theorem relay_of_append {w w' : World Channel} {j : Nat} {call : Call} {r : Relay}
    (calls : w'.calls = w.calls ++ [call]) (found : w'.calls[j]? = some (.relay r)) :
    w.calls[j]? = some (.relay r) ∨ call = .relay r := by
  rcases getElem?_snoc (calls ▸ found) with ⟨-, before⟩ | ⟨-, new⟩
  · exact .inl before
  · exact .inr new.symm

theorem relay_of_set {w w' : World Channel} {i j : Nat} {call : Call} {r : Relay}
    (calls : w'.calls = w.calls.set i call) (found : w'.calls[j]? = some (.relay r)) :
    (j = i ∧ call = .relay r) ∨ (j ≠ i ∧ w.calls[j]? = some (.relay r)) := by
  rcases getElem?_set_cases (calls ▸ found) with ⟨here, new⟩ | away
  · exact .inl ⟨here, new.symm⟩
  · exact .inr away

theorem Moved.kept {w w' : World Channel} (moved : Moved w w') (kept : w.Kept)
    (prompt : w'.IsPrompt) : w'.Kept := by
  obtain ⟨-, sound, kept, apart⟩ := kept
  cases moved with
  | idle broker calls =>
    unfold Kept
    rw [broker, calls]
    exact ⟨prompt, sound, kept, apart⟩
  | @opens user room safe segment broker calls =>
    unfold Kept
    rw [broker]
    refine ⟨prompt, sound, ?_, calls ▸ apart.spawn rfl⟩
    intro j r found
    rcases relay_of_append calls found with old | new
    · exact kept j r old
    · obtain rfl := Call.relay.inj new
      exact ⟨safe, segment, trivial, nofun⟩
  | @sends s new broker calls =>
    unfold Kept
    rw [broker]
    have none : (Call.sending s).session? = none := by rw [Call.session?, Sending.session?, new]
    refine ⟨prompt, sound, ?_, calls ▸ apart.spawn none⟩
    intro j r found
    rcases relay_of_append calls found with old | new
    · exact kept j r old
    · contradiction
  | @acts i call reply found served calls =>
    refine ⟨prompt, served.sound sound, ?_, calls ▸ apart.served found served w.clock⟩
    intro j r present
    rcases relay_of_set calls present with ⟨rfl, same⟩ | ⟨_, old⟩
    · cases call with
      | relay r' =>
        obtain rfl := Call.relay.inj same
        exact (kept j r' found).resume served w.clock
      | sending s => contradiction
    · exact (kept j r old).extends served.extends_
  | @takenUp i r found waits broker calls =>
    unfold Kept
    rw [broker]
    have same : (Call.relay r.run).session? = (Call.relay r).session? := by
      simp only [Call.session?, Relay.session?, waits, Relay.run, Relay.enter]
    refine ⟨prompt, sound, ?_, calls ▸ apart.keeps found rfl (.inl same)⟩
    intro j r' present
    rcases relay_of_set calls present with ⟨rfl, same⟩ | ⟨_, old⟩
    · obtain rfl := Call.relay.inj same
      exact (kept j r found).run waits
    · exact kept j r' old
  | @forsaken i r found broker calls =>
    unfold Kept
    rw [broker, calls]
    refine ⟨prompt, sound.cancel _, ?_, apart⟩
    intro j r' present
    exact (kept j r' present).extends (w.broker.extends_apply (.cancel r.subscription))
  | @abandoned i s found broker calls =>
    unfold Kept
    rw [broker]
    refine ⟨prompt, sound, ?_, calls ▸ apart.keeps found rfl (.inr rfl)⟩
    intro j r present
    rcases relay_of_set calls present with ⟨_, same⟩ | ⟨_, old⟩
    · contradiction
    · exact kept j r old
  | @deserted i r found opening broker calls =>
    have grows := Relay.letGo_extends opening w.broker
    obtain ⟨sessions, -, tidy⟩ := Relay.letGo_keeps opening w.broker
    unfold Kept
    rw [broker]
    refine ⟨prompt, tidy sound, ?_, calls ▸ apart.keeps found (broker ▸ sessions) (.inr rfl)⟩
    intro j r' present
    rcases relay_of_set calls present with ⟨rfl, same⟩ | ⟨_, old⟩
    · obtain rfl := Call.relay.inj same
      exact ((kept j r found).extends grows).abandon
    · exact (kept j r' old).extends grows

theorem Moved.keeps_closed {w w' : World Channel} (moved : Moved w w') :
    w'.broker.closed = w.broker.closed := by
  cases moved with
  | idle broker | opens _ _ broker | sends _ broker | takenUp _ _ broker | abandoned _ broker =>
    rw [broker]
  | acts _ served => exact served.keeps_closed
  | forsaken _ broker =>
    rw [broker]
    rfl
  | deserted _ opening broker =>
    rw [broker]
    exact (Relay.letGo_keeps opening w.broker).2.1

theorem Moved.orderly {w w' : World Channel} (moved : Moved w w') (orderly : w.Orderly)
    (prompt : w'.IsPrompt) : w'.Orderly := by
  obtain ⟨before, sound, running, kept, apart⟩ := orderly
  obtain ⟨prompt, sound', kept', apart'⟩ := moved.kept ⟨before, sound, kept, apart⟩ prompt
  exact ⟨prompt, sound', moved.keeps_closed.trans running, kept', apart'⟩

theorem later_of_append {w w' : World Channel} {call : Call} (broker : w'.broker = w.broker)
    (calls : w'.calls = w.calls ++ [call]) : w.Later w' := by
  refine ⟨broker ▸ Channel.Extends.refl _, fun j r present => ⟨r, ?_, .refl r⟩⟩
  rw [calls, List.getElem?_append_left (List.getElem?_eq_some_iff.mp present).1, present]

theorem later_of_set {w w' : World Channel} {i : Nat} {call call' : Call}
    (grows : w.broker.Extends w'.broker) (found : w.calls[i]? = some call)
    (calls : w'.calls = w.calls.set i call')
    (follows : ∀ r, call = .relay r → ∃ r', call' = .relay r' ∧ r.Follows r') : w.Later w' := by
  refine ⟨grows, ?_⟩
  intro j r present
  by_cases here : i = j
  · subst here
    obtain ⟨r', rfl, after⟩ := follows r (Option.some.inj (found.symm.trans present))
    refine ⟨r', ?_, after⟩
    rw [calls, List.getElem?_set_self (List.getElem?_eq_some_iff.mp found).1]
  · refine ⟨r, ?_, .refl r⟩
    rw [calls, List.getElem?_set_ne here, present]

theorem Moved.later {w w' : World Channel} (moved : Moved w w') : w.Later w' := by
  cases moved with
  | idle broker calls =>
    refine ⟨broker ▸ Channel.Extends.refl _, fun i r present => ⟨r, ?_, .refl r⟩⟩
    rw [calls, present]
  | opens _ _ broker calls => exact later_of_append broker calls
  | sends _ broker calls => exact later_of_append broker calls
  | acts found served calls =>
    apply later_of_set served.extends_ found calls
    intro r same
    subst same
    exact ⟨_, rfl, r.resume_follows _ _⟩
  | takenUp found waits broker calls =>
    apply later_of_set (broker ▸ Channel.Extends.refl _) found calls
    intro r same
    obtain rfl := Call.relay.inj same
    exact ⟨_, rfl, Relay.run_follows waits⟩
  | forsaken found broker calls =>
    refine ⟨?_, fun i r present => ⟨r, ?_, .refl r⟩⟩
    · rw [broker]
      exact Channel.extends_apply _ (.cancel _)
    · rw [calls, present]
  | abandoned found broker calls =>
    exact later_of_set (broker ▸ Channel.Extends.refl _) found calls fun r same => by contradiction
  | deserted found opening broker calls =>
    apply later_of_set (broker ▸ Relay.letGo_extends opening _) found calls
    intro r same
    obtain rfl := Call.relay.inj same
    exact ⟨_, rfl, Relay.abandon_follows opening⟩

variable {svc : Service} {w : World Channel}

theorem Orderly.move (orderly : w.Orderly) (m : Move) : (w.move svc m).Orderly :=
  (moved svc orderly.1 m).orderly orderly (orderly.1.move m)

theorem Orderly.later_move (orderly : w.Orderly) (m : Move) : w.Later (w.move svc m) :=
  (moved svc orderly.1 m).later

theorem Orderly.play (orderly : w.Orderly) (ms : List Move) :
    (w.play svc ms).Orderly ∧ w.Later (w.play svc ms) := by
  induction ms generalizing w with
  | nil => exact ⟨orderly, .refl w⟩
  | cons m ms ih =>
    obtain ⟨final, later⟩ := ih (orderly.move m)
    exact ⟨final, (orderly.later_move m).trans later⟩

end World
end RoomRelay
