import RoomRelay.Proofs.Relay.Passage
import RoomRelay.Proofs.World.Leases
import RoomRelay.Proofs.World.Sight

/-!
Two accounts of who is present: the joins and leaves that a room is told, and the `count` on its
pattern. With `policy = .reject` the first agrees with the relays at every moment, and the second
whenever none of them is midway.
-/

namespace RoomRelay

namespace Event

def tells (payload : Payload) (user room : String) (e : Event) : Bool :=
  e.payload == payload && e.byUser == user && e.inRoom == room

end Event

/-- How often `room` was told this about `user`. -/
def tellings (payload : Payload) (user room : String) (published : List (Nat × Event)) : Nat :=
  published.countP fun x => x.2.tells payload user room

theorem tellings_append (payload : Payload) (user room : String) (published more : List (Nat × Event)) :
    tellings payload user room (published ++ more) =
      tellings payload user room published + tellings payload user room more :=
  List.countP_append

theorem tellings_toList (payload : Payload) (user room : String) (i : Nat) (e : Option Event) :
    tellings payload user room (e.map fun e => (i, e)).toList =
      (e.any (Event.tells payload user room)).toNat := by
  cases e with
  | none => rfl
  | some e =>
    rw [tellings, Option.map_some, Option.toList_some, List.countP_singleton, Option.any_some]
    cases e.tells payload user room <;> rfl

namespace Relay

/-- The join was published, and the leave was not yet. -/
def isAnnounced (r : Relay) : Bool :=
  match r.phase with
  | .joined | .counting | .announcing _ | .listening | .forwarding _ => true
  | .cancelling _ | .leaving .. => true
  | _ => false

def isMidway (r : Relay) : Bool :=
  match r.phase with
  | .opening | .subscribing | .joining _ | .withdrawing _ | .abandoning _ => true
  | .cancelling _ | .leaving .. | .closing _ => true
  | _ => false

def isPresent (r : Relay) : Bool :=
  r.state = .subscribed || r.state = .streaming

/-- A relay that is not midway is subscribed iff it is present. -/
theorem listed_of_settled {r : Relay} (settled : r.isMidway = false) :
    (r.isSubscribed && !r.hasParted) = r.isPresent := by
  obtain ⟨user, room, session, subscription, phase, relayed, excluded, skipped⟩ := r
  cases phase with
  | ended why => cases why <;> rfl
  | _ => first | rfl | cases settled

theorem announced_of_opening {r : Relay} (opening : r.isOpening = true) : r.isAnnounced = false := by
  obtain ⟨user, room, session, subscription, phase, relayed, excluded, skipped⟩ := r
  cases phase <;> first | rfl | cases opening

theorem announced_hear {r : Relay} (listens : r.phase = .listening) (d : Delivery) :
    (r.hear d).1.isAnnounced = r.isAnnounced := by
  unfold hear
  split <;> simp [isAnnounced, enter, listens]

theorem announced_conclude {r : Relay} {why : Ending} (closes : r.phase = .closing why) :
    (r.conclude why).1.isAnnounced = r.isAnnounced := by
  unfold conclude
  split <;> simp [isAnnounced, enter, closes]

/-- `isAnnounced` changes only with a publish. -/
theorem announced_resume {r : Relay} (quiet : ∀ session e, r.act ≠ .publish session e) (now : Int64)
    (reply : Reply) : (r.resume now reply).1.isAnnounced = r.isAnnounced := by
  unfold resume
  split
  case h_5 phase | h_6 phase | h_21 phase | h_22 phase =>
    exact absurd (by rw [act, phase]) (quiet r.session _)
  case h_16 d listens => exact announced_hear listens d
  case h_23 why closes => exact announced_conclude closes
  case h_26 => rfl
  all_goals
    rename_i phase
    simp [isAnnounced, enter, phase]

end Relay

namespace Call

def standsFor (user room : String) : Call → Bool
  | relay r => r.isAnnounced && r.user == user && r.room == room
  | sending _ => false

def isPresentIn (room : String) : Call → Bool
  | relay r => r.isPresent && r.room == room
  | sending _ => false

theorem dwells_relay (room : String) (r : Relay) :
    (relay r).dwells room = (r.isSubscribed && !r.hasParted && r.room == room) := by
  rw [dwells, lease?, Relay.lease?]
  cases r.isSubscribed
  · rfl
  · rw [if_pos rfl, Option.any_some, Bool.true_and, Bool.and_comm]

end Call

/-! ### One act -/

namespace Channel

variable {c c' : Channel} {stopping : Bool} {first : Signal} {work shown : Work} {reply : Reply}

/-- The reply to a publish tells whether it is `published?`. -/
theorem published_of_serve {session : Nat} {e : Event} (asks : work.act = .publish session e)
    (served : c.serve stopping first work = some (reply, shown, c')) :
    (reply = .published (.ok ()) ∧ c.published? work.act = some e) ∨
      ((∃ err, reply = .published (.error err)) ∧ c.published? work.act = none) := by
  simp only [serve, asks] at served
  simp only [published?, asks]
  split at served
  · rename_i err message
    cases served
    simp only [message]
    exact .inr ⟨⟨err, rfl⟩, trivial⟩
  · rename_i key payload message
    cases served
    simp only [message]
    cases answer : (c.publish session key payload).1 with
    | ok u => exact .inl ⟨rfl, rfl⟩
    | error err => exact .inr ⟨⟨err, rfl⟩, rfl⟩

theorem published_of_open {session : Nat} {e : Event} {kind : Kind} (running : c.closed = false)
    (opened : c.isOpen session = true) (kinded : e.payload.kind? = some kind) :
    c.published? (.publish session e) = some e := by
  have message := Event.message_of_kind kinded
  have done : (c.publish session (.event e.inRoom e.byUser kind) e.encode).1.isOk = true := by
    rw [publish_eq_deliver opened, (deliver_open running _).1]
    rfl
  simp only [published?, message, if_pos done]

end Channel

/-- The balance of one act of a relay: what it publishes is made up for by `isAnnounced`. -/
theorem Relay.balance {c c' : Channel} {stopping : Bool} {first : Signal} {r : Relay} {stream : Stream}
    {shown : Work} {reply : Reply}
    (served : c.serve stopping first (.relay r stream) = some (reply, shown, c'))
    (running : c.closed = false) (opened : ∀ session, r.session? = some session → c.isOpen session = true)
    (announces : r.Announces) (now : Int64) (user room : String) :
    ((c.published? r.act).any (Event.tells .userJoined user room)).toNat +
        ((Call.relay r).standsFor user room).toNat =
      ((c.published? r.act).any (Event.tells .userLeft user room)).toNat +
        ((Call.relay (r.resume now reply).1).standsFor user room).toNat := by
  have follows := r.resume_follows now reply
  by_cases publishes : ∃ session e, r.act = .publish session e
  · obtain ⟨session, e, asks⟩ := publishes
    have asks' : Work.act (.relay r stream) = .publish session e := asks
    have answer := Channel.published_of_serve asks' served
    rw [asks', ← asks] at answer
    simp only [Call.standsFor, follows.1, follows.2.1]
    rcases Relay.phase_of_publish asks with joins | ⟨why, leaves⟩
    · rw [Relay.Announces, joins] at announces
      have before : r.isAnnounced = false := by rw [isAnnounced, joins]
      rcases answer with ⟨rfl, taken⟩ | ⟨⟨err, rfl⟩, lost⟩
      · have after : (r.resume now (.published (.ok ()))).1.isAnnounced = true := by
          simp [resume, joins, isAnnounced, enter]
        rw [taken, before, after, announces]
        simp [Event.tells, event]
      · have after : (r.resume now (.published (.error err))).1.isAnnounced = false := by
          simp [resume, joins, isAnnounced, enter]
        rw [lost, before, after]
        rfl
    · rw [Relay.Announces, leaves] at announces
      have before : r.isAnnounced = true := by rw [isAnnounced, leaves]
      -- an open broker takes the leave on, since the session is still open
      have isOpen : c.isOpen session = true := by
        refine opened session ?_
        rw [act, leaves] at asks
        rw [session?, leaves, ← (Act.publish.inj asks).1]
      have done : c.published? r.act = some e := by
        have kinded : e.payload.kind? = some .userLeft := by
          rw [announces]
          rfl
        rw [asks]
        exact Channel.published_of_open running isOpen kinded
      have after : (r.resume now reply).1.isAnnounced = false := by
        rcases answer with ⟨rfl, -⟩ | ⟨⟨err, rfl⟩, -⟩ <;> simp [resume, leaves, isAnnounced, enter]
      rw [done, before, after, announces]
      simp [Event.tells, event]
  · have quiet : ∀ session e, r.act ≠ .publish session e :=
      fun session e asks => publishes ⟨session, e, asks⟩
    have none : c.published? r.act = none := by
      cases published : c.published? r.act with
      | none => rfl
      | some e =>
        obtain ⟨session, asks⟩ := Channel.asks_of_published published
        exact absurd asks (quiet session e)
    rw [none]
    simp only [Call.standsFor, follows.1, follows.2.1, announced_resume quiet now reply, Option.any_none]

/-! ### Runs -/

namespace World

variable {svc : Service} {w : World Channel}

/-- With `policy = .reject`, sendings publish drawings only. -/
theorem Sighted.draws {opened : List Call} {published : List (Nat × Event)} {shown : Nat → List Item}
    (sighted : Sighted svc opened published shown w) (reserved : svc.policy = .reject) {i : Nat}
    {s : Sending} (found : w.tasks[i]? = some ⟨.sending s, none⟩) {session : Nat} {e : Event}
    (asks : s.act = .publish session e) : ∃ d, e.payload = .drawing d := by
  obtain ⟨first, begun, continues⟩ := sighted.origin i _ found
  have publishes := continues.publishes (fun r same => by cases same) (e := e) asks
  have accepted := sighted.accepted first (List.mem_of_getElem? begun)
  obtain ⟨s', rfl, -⟩ := continues
  obtain ⟨req, -, accepted⟩ := accepted
  obtain ⟨d, drawn⟩ := accepted.reserved reserved
  exact ⟨d, publishes.2.2.trans drawn⟩

theorem Sighted.tells_nothing {opened : List Call} {published : List (Nat × Event)}
    {shown : Nat → List Item} (sighted : Sighted svc opened published shown w)
    (reserved : svc.policy = .reject) {i : Nat} {s : Sending}
    (found : w.tasks[i]? = some ⟨.sending s, none⟩) (user room : String) :
    (w.broker.published? s.act).any (Event.tells .userJoined user room) = false ∧
      (w.broker.published? s.act).any (Event.tells .userLeft user room) = false := by
  cases published : w.broker.published? s.act with
  | none => exact ⟨rfl, rfl⟩
  | some e =>
    obtain ⟨session, asks⟩ := Channel.asks_of_published published
    obtain ⟨d, drawn⟩ := sighted.draws reserved found asks
    simp [Event.tells, drawn]

/-- The balance of one happening, over all calls that `standsFor` the user. -/
theorem Sighted.balance {opened : List Call} {published : List (Nat × Event)} {shown : Nat → List Item}
    (sighted : Sighted svc opened published shown w) (reserved : svc.policy = .reject)
    (running : w.broker.closed = false) {w' : World Channel} (stays : w'.broker.closed = false)
    {h : Happening} (happened : Happened svc w w' h) (user room : String) :
    tellings .userJoined user room (publishes? w h).toList +
        w.calls.countP (Call.standsFor user room) =
      tellings .userLeft user room (publishes? w h).toList +
        w'.calls.countP (Call.standsFor user room) := by
  cases happened with
  | idle idles broker calls => rw [idles.publishes, calls]; rfl
  | closes broker =>
    rw [broker] at stays
    cases stays
  | begins opens broker calls =>
    rw [calls, List.countP_append]
    rcases Happening.opens_cases opens with ⟨_, _, _, rfl, -, -, rfl⟩ | ⟨_, _, _, _, rfl, -, -, rfl⟩ <;> rfl
  | @serves i first work shown reply found served calls =>
    have publishes : publishes? w (.move (.step i first)) =
        (w.broker.published? work.act).map fun e => (i, e) := by
      rw [publishes?, found]
      rfl
    have present := calls_of_task found
    have stands := countP_set (Call.standsFor user room) present (work.call.resume w.clock reply)
    rw [publishes, tellings_toList, tellings_toList, calls]
    cases work with
    | sending s =>
      obtain ⟨joins, leaves⟩ := sighted.tells_nothing reserved found user room
      change _ + 0 = _ + 0 at stands
      simp only [Work.act, joins, leaves]
      omega
    | relay r stream =>
      obtain ⟨-, -, known, apart⟩ := sighted.kept
      have balance := Relay.balance served running
        (fun session holds => (apart i _ session present holds).1) (known i r present).2.2.1 w.clock
        user room
      simp only [Work.call, Call.resume, Work.act] at stands ⊢
      omega
  | @takenUp i _ _ r found waits broker calls =>
    have stands := countP_set (Call.standsFor user room) found (.relay r.run)
    have same : (Call.relay r.run).standsFor user room = (Call.relay r).standsFor user room := by
      simp [Call.standsFor, Relay.isAnnounced, Relay.run, Relay.enter, waits]
    rw [same] at stands
    rw [calls, Nat.add_right_cancel stands]
    rfl
  | forsaken found broker calls => rw [calls]; rfl
  | @abandoned i s found broker calls =>
    have stands := countP_set (Call.standsFor user room) found (.sending s.abandon)
    rw [calls, Nat.add_right_cancel stands]
    rfl
  | @deserted i r found opening broker calls =>
    have stands := countP_set (Call.standsFor user room) found (.relay r.abandon)
    have same : (Call.relay r.abandon).standsFor user room = (Call.relay r).standsFor user room := by
      simp only [Call.standsFor, Relay.announced_of_opening opening]
      rfl
    rw [same] at stands
    rw [calls, Nat.add_right_cancel stands]
    rfl

theorem joins_balance (svc : Service) (clock : Int64) {hs : List Happening}
    (reserved : svc.policy = .reject) (running : ((fresh clock).live svc hs).broker.closed = false)
    (user room : String) :
    tellings .userJoined user room (record svc publishes? (fresh clock) hs) =
      tellings .userLeft user room (record svc publishes? (fresh clock) hs) +
        ((fresh clock).live svc hs).calls.countP (Call.standsFor user room) := by
  induction hs using List.reverseRecOn with
  | nil => rfl
  | append_singleton hs h ih =>
    have kept : ((fresh clock).live svc hs).Kept := (kept_fresh clock).live hs
    rw [live_snoc] at running ⊢
    have openBefore : ((fresh clock).live svc hs).broker.closed = false := by
      rw [← Bool.not_eq_true] at running ⊢
      exact fun shut => running ((closed_happen kept).mpr (.inl shut))
    have before := ih openBefore
    have balance :=
      (sighted svc clock hs).balance reserved openBefore running (happened svc kept h) user room
    rw [record_snoc, tellings_append, tellings_append]
    omega

theorem count_of_settled (svc : Service) (clock : Int64) {hs : List Happening}
    (stays : ∀ i, .move (.forsake i) ∉ hs)
    (running : ((fresh clock).live svc hs).broker.closed = false) {room : String}
    (settled : ∀ i r, ((fresh clock).live svc hs).relay? i = some r → r.room = room →
      r.isMidway = false) :
    ((fresh clock).live svc hs).broker.count (Key.roomPattern room) =
      ((fresh clock).live svc hs).calls.countP (Call.isPresentIn room) := by
  have kept : ((fresh clock).live svc hs).Kept := (kept_fresh clock).live hs
  rw [kept.2.1.count running]
  refine ((leases svc clock stays).counted room).trans (List.countP_congr ?_)
  intro call member
  cases call with
  | sending s => rfl
  | relay r =>
    obtain ⟨i, found⟩ := List.getElem?_of_mem member
    have calm := settled i r (relay?_eq_some.mpr found)
    rw [Call.dwells_relay, Call.isPresentIn]
    by_cases inside : r.room = room
    · rw [Relay.listed_of_settled (calm inside)]
    · simp only [beq_false_of_ne inside, Bool.and_false]

/-- With `policy = .reject` and an open broker, the joins that a room was told of a user are as many
as the leaves and the relays that stand for the user. While no relay of the room is midway, `count` is
the number of relays that are present. -/
theorem presence_balances (svc : Service) (clock : Int64) (hs : List Happening)
    (reserved : svc.policy = .reject)
    (running : ((fresh clock).live svc hs).broker.closed = false) :
    (∀ user room,
      tellings .userJoined user room (record svc publishes? (fresh clock) hs) =
        tellings .userLeft user room (record svc publishes? (fresh clock) hs) +
          ((fresh clock).live svc hs).calls.countP (Call.standsFor user room)) ∧
    ((∀ i, .move (.forsake i) ∉ hs) → ∀ room,
      (∀ i r, ((fresh clock).live svc hs).relay? i = some r → r.room = room → r.isMidway = false) →
        ((fresh clock).live svc hs).broker.count (Key.roomPattern room) =
          ((fresh clock).live svc hs).calls.countP (Call.isPresentIn room)) :=
  ⟨joins_balance svc clock reserved running,
    fun stays _ settled => count_of_settled svc clock stays running settled⟩

/-- Ann listens to the attic twice, and hangs up once. -/
def twice : List Happening :=
  [.move (.recvEvents [("x-user", [97, 110, 110])] "attic"),
    .move (.step 0 .client), .move (.step 0 .client), .move (.step 0 .client),
    .move (.takeUp 0 32 false),
    .move (.recvEvents [("x-user", [97, 110, 110])] "attic"),
    .move (.step 1 .client), .move (.step 1 .client), .move (.step 1 .client),
    .move (.takeUp 1 32 false),
    .move (.step 0 .client), .move (.step 0 .client), .move (.hangUp 0),
    .move (.step 0 .client), .move (.step 0 .client), .move (.step 0 .client), .move (.step 0 .client)]

theorem presence_balances_twice :
    tellings .userJoined "ann" "attic" (record {} publishes? (fresh 0) twice) = 2 ∧
      ((fresh 0).live {} twice).calls.countP (Call.standsFor "ann" "attic") = 1 ∧
      ((fresh 0).live {} twice).broker.count (Key.roomPattern "attic") =
        ((fresh 0).live {} twice).calls.countP (Call.isPresentIn "attic") := by
  have running : ((fresh 0).live {} twice).broker.closed = false := by decide +kernel
  obtain ⟨balance, counts⟩ := presence_balances {} 0 twice rfl running
  have joined : tellings .userJoined "ann" "attic" (record {} publishes? (fresh 0) twice) = 2 := by
    decide +kernel
  have left : tellings .userLeft "ann" "attic" (record {} publishes? (fresh 0) twice) = 1 := by
    decide +kernel
  have stands := balance "ann" "attic"
  refine ⟨joined, by omega, counts ?_ "attic" ?_⟩
  · intro i member
    simp [twice] at member
  · intro i r found _
    have settled : (((fresh 0).live {} twice).calls.all fun call =>
        match call with
        | .relay r => !r.isMidway
        | .sending _ => true) = true := by decide +kernel
    have member := List.mem_of_getElem? (relay?_eq_some.mp found)
    exact Bool.not_eq_true' _ ▸ List.all_eq_true.mp settled _ member

end World
end RoomRelay
