import RoomRelay.Proofs.World.Room
import RoomRelay.Proofs.World.Sight

/-!
One call in two services. A call about a room does the same in both if their buses are alike on the
room, and leaves them alike. A call that is not about the room leaves it as it is.
-/

namespace RoomRelay

namespace Channel

variable {c c' d d' : Channel} {room : String}

/-- `Extends` keeps the rank of a subscription on the room. -/
theorem Extends.rank (grows : c.Extends d) {sub : Nat} {m : Member} (found : c.bus.members[sub]? = some m)
    (on : m.isOn room = true) :
    d.bus.rank room sub = c.bus.rank room sub ∧
      ∃ m', d.bus.members[sub]? = some m' ∧ m'.isOn room = true := by
  have patterns : ∀ i ≤ sub, (d.bus.members[i]?).map Member.pattern = (c.bus.members[i]?).map Member.pattern := by
    intro i before
    have known : i < c.subscriptions.length := by
      have last := (List.getElem?_eq_some_iff.mp found).1
      rw [bus, List.length_map] at last
      exact Nat.lt_of_le_of_lt before last
    obtain ⟨pattern, cancelled, held⟩ := holds_of_lt known
    obtain ⟨cancelled', ⟨s', found', same', -⟩, -⟩ := grows _ _ _ held
    obtain ⟨s, found, same, -⟩ := held
    simp only [bus, List.getElem?_map, found, found', Option.map_some, Subscription.member, same, same']
  constructor
  · have counts : ∀ b : Bus, b.rank room sub =
        ((b.members.take sub).map Member.pattern).countP (· == (Key.roomPattern room).encode) := by
      intro b
      rw [List.countP_map]
      rfl
    rw [counts, counts]
    congr 1
    apply List.ext_getElem?
    intro i
    rw [List.getElem?_map, List.getElem?_map, List.getElem?_take, List.getElem?_take]
    split
    · exact patterns i (Nat.le_of_lt ‹_›)
    · rfl
  · have here := patterns sub (Nat.le_refl sub)
    rw [found, Option.map_some] at here
    obtain ⟨m', found', same⟩ := Option.map_eq_some_iff.mp here
    refine ⟨m', found', ?_⟩
    rwa [Member.isOn, same]

end Channel

theorem Bus.SamePlace.extends {c c' d d' : Channel} {room : String} {sub sub' : Nat}
    (place : c.bus.SamePlace room c'.bus sub sub') (grows : c.Extends d) (grows' : c'.Extends d') :
    d.bus.SamePlace room d'.bus sub sub' := by
  obtain ⟨rank, m, m', found, on, found', on'⟩ := place
  obtain ⟨same, m₁, found₁, on₁⟩ := grows.rank found on
  obtain ⟨same', m₁', found₁', on₁'⟩ := grows'.rank found' on'
  exact ⟨same.trans (rank.trans same'.symm), m₁, m₁', found₁, on₁, found₁', on₁'⟩

/-- The session and the subscription in an act are those of its call. -/
def Act.IsOwn (call : Call) : Act → Prop
  | .subscribe session pattern user =>
    call.session? = some session ∧ ∃ r, call = .relay r ∧ pattern = r.pattern ∧ user = r.user
  | .publish session _ => call.session? = some session
  | .count pattern => ∃ r, call = .relay r ∧ pattern = r.pattern
  | .cancel sub | .listen sub =>
    ∃ r, call = .relay r ∧ sub = r.subscription ∧ r.isSubscribed = true
  | _ => True

theorem Call.act_isOwn (call : Call) : call.act.IsOwn call := by
  cases call with
  | relay r =>
    obtain ⟨user, room, session, subscription, phase, relayed, excluded, skipped⟩ := r
    cases phase with
    | subscribing => exact ⟨rfl, _, rfl, rfl, rfl⟩
    | joining | leaving => exact rfl
    | counting => exact ⟨_, rfl, rfl⟩
    | withdrawing | cancelling | listening => exact ⟨_, rfl, rfl, rfl⟩
    | _ => exact trivial
  | sending s =>
    obtain ⟨user, rooms, payload, phase⟩ := s
    cases phase with
    | publishing => exact rfl
    | _ => exact trivial

/-! ### Calls that have nothing to do with the room -/

namespace Call

def Concerns (room : String) : Call → Prop
  | relay r => r.room = room
  | sending s => room ∈ s.rooms

variable {svc : Service} {c : Channel} {room : String} {first call : Call}

theorem Concerns.safe (concerns : call.Concerns room) (accepted : call.IsAccepted svc) :
    Topic.isSafe room = true := by
  cases call with
  | relay r => exact Topic.isSafe_of_isSegment (concerns ▸ accepted.2)
  | sending s =>
    obtain ⟨req, rooms, accepted⟩ := accepted
    exact Topic.isSafe_of_isSegment (accepted.segments room (rooms ▸ concerns))

theorem Publishes.elsewhere {e : Event} (publishes : first.Publishes e) (foreign : ¬first.Concerns room) :
    e.inRoom ≠ room := by
  rintro rfl
  obtain ⟨-, what⟩ := publishes
  cases first with
  | relay r => exact foreign what.1.symm
  | sending s => exact foreign what.1

theorem not_on_of_wellKept {r : Relay} (kept : r.WellKept c) (subscribed : r.isSubscribed = true)
    (other : r.room ≠ room) {m : Member} (found : c.bus.members[r.subscription]? = some m) :
    m.isOn room = false := by
  obtain ⟨-, -, -, known⟩ := kept
  obtain ⟨cancelled, ⟨s, present, pattern, -⟩, -⟩ := known subscribed
  rw [Channel.bus, List.getElem?_map, present] at found
  obtain rfl := Option.some.inj found
  apply beq_eq_false_iff_ne.mpr
  intro same
  exact other (Key.roomPattern_injective (pattern.symm.trans same))

theorem isAway (continues : first.Continues call) (accepted : first.IsAccepted svc)
    (foreign : ¬first.Concerns room) (kept : ∀ r, call = relay r → r.WellKept c)
    (safe : c.bus.on room ≠ [] → Topic.isSafe room = true) : call.act.IsAway room c := by
  have quiet : ∀ session e, call.act = .publish session e → (Act.publish session e).IsAway room c := by
    intro session e asks d carried m member
    have publishes := continues.publishes (fun r same => (kept r same).2.2.1) asks
    obtain ⟨segment, user, kind, key⟩ := publishes.key accepted
    rw [Event.delivery?, key] at carried
    obtain rfl := Option.some.inj carried
    obtain ⟨-, on⟩ := List.mem_filter.mp member
    rw [beq_iff_eq.mp on]
    apply Bool.eq_false_iff.mpr
    intro selected
    exact publishes.elsewhere foreign (Key.room_of_selects (safe (List.ne_nil_of_mem member))
      (Topic.isSafe_of_isSegment segment) user selected)
  have relays : ∀ r, call = relay r → r.room ≠ room ∧ r.WellKept c := by
    rintro r rfl
    obtain ⟨r', rfl, -, same⟩ := continues
    exact ⟨fun here => foreign (same.symm.trans here), kept r rfl⟩
  have own := call.act_isOwn
  cases asks : call.act with
  | publish session e => exact quiet session e asks
  | subscribe session pattern user =>
    rw [asks] at own
    obtain ⟨-, r, same, rfl, -⟩ := own
    exact fun equal => (relays r same).1 (Key.roomPattern_injective equal)
  | count pattern =>
    rw [asks] at own
    obtain ⟨r, same, rfl⟩ := own
    exact fun equal => (relays r same).1 (Key.roomPattern_injective (congrArg Key.encode equal))
  | cancel sub | listen sub =>
    rw [asks] at own
    obtain ⟨r, same, rfl, subscribed⟩ := own
    obtain ⟨other, wellKept⟩ := relays r same
    exact fun m found => not_on_of_wellKept wellKept subscribed other found
  | openSession | closeSession | offer | rest => exact trivial

end Call

namespace Work

theorem touch_extends (c : Channel) (stopping : Bool) (now : Int64) (work : Work) (m : Move) :
    c.Extends (work.touch c stopping now m).2 := by
  by_cases steps : ∃ i first, m = .step i first
  · obtain ⟨i, first, rfl⟩ := steps
    simp only [touch]
    split
    · rename_i served
      exact (Channel.serve_served served).extends_
    · exact .refl c
  · have waits : ∀ i first, m ≠ .step i first := fun i first same => steps ⟨i, first, same⟩
    rcases touch_broker waits c stopping now work with same | ⟨r, -, -, cancelled⟩
    · rw [same]
      exact .refl c
    · rw [cancelled]
      exact c.extends_apply (.cancel r.subscription)

/-- What happens to a call that is not about the room leaves it `Alike`. -/
theorem touch_away {svc : Service} {c : Channel} {room : String} {first : Call} {work : Work}
    (sound : c.Sound) (continues : first.Continues work.call) (accepted : first.IsAccepted svc)
    (foreign : ¬first.Concerns room) (kept : ∀ r, work.call = .relay r → r.WellKept c)
    (safe : c.bus.on room ≠ [] → Topic.isSafe room = true) (stopping : Bool) (now : Int64) (m : Move) :
    c.bus.Alike room (work.touch c stopping now m).2.bus := by
  by_cases steps : ∃ i first, m = .step i first
  · obtain ⟨i, first, rfl⟩ := steps
    simp only [touch]
    split
    · rename_i served
      have away := Call.isAway continues accepted foreign kept safe
      rw [work.call_act] at away
      exact (Channel.serve_served served).away sound away
    · exact .refl _
  · have waits : ∀ i first, m ≠ .step i first := fun i first same => steps ⟨i, first, same⟩
    rcases touch_broker waits c stopping now work with same | ⟨r, call, subscribed, cancelled⟩
    · rw [same]
      exact .refl _
    · rw [call] at continues
      obtain ⟨r', rfl, -, room'⟩ := continues
      rw [cancelled, Channel.bus_cancel]
      refine .of_modify (g := Member.retire) (fun _ => rfl) fun m found => ?_
      exact Call.not_on_of_wellKept (kept r call) subscribed
        (fun here => foreign (room'.symm.trans here)) found

end Work

/-! ### Calls that have to do with the room -/

/-- Equal up to times and numbers; the subscriptions have the same place on the room. -/
def Work.Alike (room : String) (c c' : Channel) (work work' : Work) : Prop :=
  work.outline = work'.outline ∧
    ∀ r r', work.call = .relay r → work'.call = .relay r' → r.isSubscribed = true →
      c.bus.SamePlace room c'.bus r.subscription r'.subscription

namespace Relay

theorem outline_isSubscribed (r : Relay) : r.isSubscribed = r.outline.isSubscribed := by
  obtain ⟨user, room, session, subscription, phase, relayed, excluded, skipped⟩ := r
  cases phase <;> rfl

theorem outline_isOpening (r : Relay) : r.isOpening = r.outline.isOpening := by
  obtain ⟨user, room, session, subscription, phase, relayed, excluded, skipped⟩ := r
  cases phase <;> rfl

theorem outline_joined (r : Relay) : r.phase = .joined ↔ r.outline.phase = .joined := by
  obtain ⟨user, room, session, subscription, phase, relayed, excluded, skipped⟩ := r
  cases phase <;> simp [outline, Phase.timeless]

end Relay

namespace Work

variable {c c' : Channel} {room : String} {work work' : Work}

theorem stream_of_outline {r : Relay} {stream : Stream} (same : (relay r stream).outline = work'.outline) :
    ∃ r' stream', work' = relay r' stream' ∧ r.outline = r'.outline ∧ stream.outline = stream'.outline := by
  cases work' with
  | sending s' => cases same
  | relay r' stream' =>
    obtain ⟨relays, streams⟩ := relay.inj same
    exact ⟨r', stream', rfl, relays, streams⟩

theorem sending_of_outline {s : Sending} (same : (sending s).outline = work'.outline) :
    ∃ s', work' = sending s' := by
  cases work' with
  | sending s' => exact ⟨s', rfl⟩
  | relay r' stream' => cases same

theorem relay_of_outline {r : Relay} (same : work.outline = work'.outline) (here : work.call = .relay r) :
    ∃ r', work'.call = .relay r' ∧ r.outline = r'.outline := by
  cases work with
  | sending s => cases here
  | relay r₀ stream =>
    obtain rfl := Call.relay.inj here
    obtain ⟨r', stream', rfl, relays, -⟩ := stream_of_outline same
    exact ⟨r', rfl, relays⟩

theorem paired (alike : work.Alike room c c' work') (here : ∀ r, work.call = .relay r → r.room = room)
    (opened : ∀ session, work.call.session? = some session → c.isOpen session = true)
    (opened' : ∀ session, work'.call.session? = some session → c'.isOpen session = true) :
    work.act.Paired room c c' work'.act := by
  obtain ⟨same, places⟩ := alike
  have acts := outline_act same
  have own := work.call.act_isOwn
  have own' := work'.call.act_isOwn
  have place : ∀ {sub sub'}, (∃ r, work.call = .relay r ∧ sub = r.subscription ∧ r.isSubscribed = true) →
      (∃ r', work'.call = .relay r' ∧ sub' = r'.subscription ∧ r'.isSubscribed = true) →
        c.bus.SamePlace room c'.bus sub sub' := by
    rintro _ _ ⟨r, found, rfl, subscribed⟩ ⟨r', found', rfl, -⟩
    exact places r r' found found' subscribed
  rw [call_act] at own own'
  generalize work.act = act at acts own
  generalize work'.act = act' at acts own'
  cases act <;> cases act' <;> simp only [Act.outline, reduceCtorEq] at acts
  case openSession.openSession => exact .openSession
  case subscribe.subscribe session pattern user session' pattern' user' =>
    obtain ⟨-, rfl, rfl⟩ := Act.subscribe.inj acts
    obtain ⟨holds, r, found, rfl, rfl⟩ := own
    obtain ⟨holds', -⟩ := own'
    rw [Relay.pattern, here r found]
    exact .subscribe (opened session holds) (opened' session' holds') r.user
  case publish.publish session e session' e' =>
    exact .publish (opened session own) (opened' session' own') (Act.publish.inj acts).2
  case count.count pattern pattern' =>
    obtain rfl := Act.count.inj acts
    obtain ⟨r, found, rfl⟩ := own
    rw [Relay.pattern, here r found]
    exact .count
  case cancel.cancel => exact .cancel (place own own')
  case closeSession.closeSession session session' => exact .closeSession session session'
  case offer.offer => exact .offer (Act.offer.inj acts)
  case listen.listen => exact .listen (place own own')
  case rest.rest => exact .rest

theorem Alike.extends (alike : work.Alike room c c' work') {d d' : Channel} (grows : c.Extends d)
    (grows' : c'.Extends d') : work.Alike room d d' work' :=
  ⟨alike.1, fun r r' found found' subscribed => (alike.2 r r' found found' subscribed).extends grows grows'⟩

theorem places_resume (alike : work.Alike room c c' work') {stopping : Bool} {first : Signal}
    {reply reply' : Reply} {shown shown' : Work} {d d' : Channel}
    (served : c.serve stopping first work = some (reply, shown, d))
    (served' : c'.serve stopping first work' = some (reply', shown', d'))
    (numbers : ∀ sub, reply.number? = some sub →
      ∃ sub', reply'.number? = some sub' ∧ d.bus.SamePlace room d'.bus sub sub')
    {now now' : Int64} (after : (shown.resume now reply).1.outline = (shown'.resume now' reply').1.outline) :
    (shown.resume now reply).1.Alike room d d' (shown'.resume now' reply').1 := by
  refine ⟨after, ?_⟩
  intro r₁ r₁' found₁ found₁' subscribed₁
  obtain ⟨_, found₂', outlines₁⟩ := relay_of_outline after found₁
  obtain rfl := Call.relay.inj (found₁'.symm.trans found₂')
  have subscribed₁' : r₁'.isSubscribed = true := by
    rw [Relay.outline_isSubscribed, ← outlines₁, ← Relay.outline_isSubscribed, subscribed₁]
  rw [call_resume, Channel.serve_call served] at found₁
  rw [call_resume, Channel.serve_call served'] at found₁'
  cases own : work.call with
  | sending s =>
    rw [own] at found₁
    cases found₁
  | relay r =>
    obtain ⟨r', own', outlines⟩ := relay_of_outline alike.1 own
    rw [own] at found₁
    rw [own'] at found₁'
    obtain rfl := Call.relay.inj found₁
    obtain rfl := Call.relay.inj found₁'
    have same : r.isSubscribed = r'.isSubscribed := by
      rw [Relay.outline_isSubscribed, outlines, ← Relay.outline_isSubscribed]
    -- a relay gets its number once and keeps it
    cases before : r.isSubscribed with
    | false =>
      obtain ⟨-, sub, asked, number⟩ := Relay.subscribes_by_reply before subscribed₁
      obtain ⟨-, sub', asked', number'⟩ := Relay.subscribes_by_reply (same ▸ before) subscribed₁'
      obtain ⟨_, given, place⟩ := numbers sub (congrArg Reply.number? asked)
      rw [asked'] at given
      obtain rfl := Option.some.inj given
      rwa [number, number']
    | true =>
      have kept := (r.resume_follows now reply).2.2.2 (Relay.hasAsked_of_isSubscribed before)
      have kept' := (r'.resume_follows now' reply').2.2.2 (Relay.hasAsked_of_isSubscribed (same ▸ before))
      rw [kept.2, kept'.2]
      exact (alike.2 r r' own own' before).extends (Channel.serve_served served).extends_
        (Channel.serve_served served').extends_

theorem step_alike (brokers : c.bus.Alike room c'.bus) (sound : c.Sound) (sound' : c'.Sound)
    (alike : work.Alike room c c' work') (paired : work.act.Paired room c c' work'.act)
    (stopping : Bool) (now now' : Int64) (i : Nat) (first : Signal) :
    let after := work.touch c stopping now (.step i first)
    let after' := work'.touch c' stopping now' (.step i first)
    after.2.bus.Alike room after'.2.bus ∧ after.1.Alike room after.2 after'.2 after'.1 := by
  have outcome := Channel.serve_alike brokers sound sound' alike.1 paired stopping first
  simp only [touch]
  generalize served : c.serve stopping first work = o at outcome
  generalize served' : c'.serve stopping first work' = o' at outcome
  cases outcome with
  | waits => exact ⟨brokers, alike⟩
  | goes replies works brokers numbers =>
    exact ⟨brokers, places_resume alike served served' numbers (outline_resume works replies now now')⟩

theorem letGo_alike (brokers : c.bus.Alike room c'.bus) {r r' : Relay} (same : r.outline = r'.outline)
    (opening : r.isOpening = true)
    (place : r.isSubscribed = true → c.bus.SamePlace room c'.bus r.subscription r'.subscription) :
    (r.letGo c).bus.Alike room (r'.letGo c').bus := by
  have opening' : r'.isOpening = true := by
    rw [Relay.outline_isOpening, ← same, ← Relay.outline_isOpening, opening]
  have subscribes : r.isSubscribed = r'.isSubscribed := by
    rw [Relay.outline_isSubscribed, same, ← Relay.outline_isSubscribed]
  rcases Relay.letGo_cases opening c with ⟨subscribed, cancelled⟩ | ⟨free, unchanged⟩ <;>
    rcases Relay.letGo_cases opening' c' with ⟨subscribed', cancelled'⟩ | ⟨free', unchanged'⟩
  · rw [cancelled, cancelled']
    exact Channel.cancel_alike brokers (place subscribed)
  · cases subscribed.symm.trans (subscribes.trans free')
  · cases subscribed'.symm.trans (subscribes.symm.trans free)
  · rw [unchanged, unchanged']
    exact brokers

/-- The same move of the same call keeps the room `Alike`. -/
theorem touch_alike (brokers : c.bus.Alike room c'.bus) (sound : c.Sound) (sound' : c'.Sound)
    (alike : work.Alike room c c' work') (paired : work.act.Paired room c c' work'.act)
    (stopping : Bool) (now now' : Int64) (m : Move) :
    (work.touch c stopping now m).2.bus.Alike room (work'.touch c' stopping now' m).2.bus ∧
      (work.touch c stopping now m).1.Alike room (work.touch c stopping now m).2
        (work'.touch c' stopping now' m).2 (work'.touch c' stopping now' m).1 := by
  cases work with
  | sending s =>
    obtain ⟨s', rfl⟩ := sending_of_outline alike.1
    cases m with
    | step i first => exact step_alike brokers sound sound' alike paired stopping now now' i first
    | abandon =>
      refine ⟨brokers, ?_, fun r r' found => by cases found⟩
      exact congrArg (fun s => sending s.abandon) (sending.inj alike.1)
    | _ => exact ⟨brokers, alike⟩
  | relay r stream =>
    obtain ⟨r', stream', rfl, relays, streams⟩ := stream_of_outline alike.1
    have joins : r.phase = .joined ↔ r'.phase = .joined := by
      rw [Relay.outline_joined r, relays, ← Relay.outline_joined r']
    have place : r.phase = .joined → c.bus.SamePlace room c'.bus r.subscription r'.subscription :=
      fun joined => alike.2 r r' rfl rfl (Relay.isSubscribed_of_joined joined)
    cases m with
    | step i first => exact step_alike brokers sound sound' alike paired stopping now now' i first
    | takeUp i capacity hungUp =>
      simp only [touch]
      by_cases joined : r.phase = .joined
      · simp only [if_pos joined, if_pos (joins.mp joined)]
        refine ⟨brokers, ?_, ?_⟩
        · exact congrArg (fun r => relay (r.enter .counting) ⟨capacity, [], hungUp⟩) relays
        · rintro _ _ ⟨⟩ ⟨⟩ -
          exact place joined
      · simp only [if_neg joined, if_neg (mt joins.mpr joined)]
        exact ⟨brokers, alike⟩
    | forsake =>
      simp only [touch]
      by_cases joined : r.phase = .joined
      · simp only [if_pos joined, if_pos (joins.mp joined)]
        refine ⟨Channel.cancel_alike brokers (place joined), alike.extends ?_ ?_⟩
        · exact c.extends_apply (.cancel r.subscription)
        · exact c'.extends_apply (.cancel r'.subscription)
      · simp only [if_neg joined, if_neg (mt joins.mpr joined)]
        exact ⟨brokers, alike⟩
    | abandon =>
      have opens : r.isOpening = r'.isOpening := by
        rw [Relay.outline_isOpening, relays, ← Relay.outline_isOpening]
      simp only [touch]
      by_cases opening : r.isOpening = true
      · simp only [if_pos opening, if_pos (opens ▸ opening)]
        refine ⟨letGo_alike brokers relays opening fun subscribed => alike.2 r r' rfl rfl subscribed, ?_, ?_⟩
        · have given_up : ∀ r : Relay, r.abandon.outline = r.outline.abandon := fun _ => rfl
          simp only [outline, given_up, relays, streams]
        · rintro _ _ ⟨⟩ ⟨⟩ subscribed
          cases subscribed
      · simp only [if_neg opening, if_neg (opens ▸ opening)]
        exact ⟨brokers, alike⟩
    | read =>
      have rest : ∀ s : Stream, ((s.read.map Prod.snd).getD s).outline =
          (s.outline.read.map Prod.snd).getD s.outline := by
        intro s
        rw [s.read_outline]
        cases s.read <;> rfl
      refine ⟨brokers, ?_, alike.2⟩
      simp only [touch, outline, rest, streams, relays]
    | hangUp =>
      have hung : ∀ s : Stream, s.hangUp.outline = s.outline.hangUp := fun _ => rfl
      refine ⟨brokers, ?_, alike.2⟩
      simp only [touch, outline, hung, streams, relays]
    | _ => exact ⟨brokers, alike⟩

end Work

namespace Act.Paired

variable {c c' : Channel} {room : String} {act act' : Act}

theorem published (paired : act.Paired room c c' act') (alike : c.bus.Alike room c'.bus)
    (sound : c.Sound) (sound' : c'.Sound) :
    ((c.published? act).bind Event.delivery?).map Delivery.reading =
      ((c'.published? act').bind Event.delivery?).map Delivery.reading := by
  cases paired with
  | @publish session session' e e' opened opened' same =>
    have key := Event.key_alike same
    simp only [Channel.published?, Event.message, key]
    cases known : e'.key? with
    | none => rfl
    | some k =>
      obtain ⟨answer, -⟩ := Channel.publish_alike alike sound sound' opened opened' same k
      simp only [answer]
      split
      · simp only [Option.bind_some, Event.delivery?, key, known, Option.map_some,
          Event.reading_alike same]
      · rfl
  | _ => rfl

end Act.Paired
end RoomRelay
