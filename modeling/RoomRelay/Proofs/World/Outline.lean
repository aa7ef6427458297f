import RoomRelay.Proofs.World.Happenings

/-!
`outline` erases times and the numbers given by the broker. The outline of a call determines its next
act and how it resumes, up to times and numbers.
-/

namespace RoomRelay

def Event.timeless (e : Event) : Event := { e with createdAt := 0 }

def Wire.Event.timeless (e : Wire.Event) : Wire.Event := { e with createdAt := 0 }

def Item.timeless (item : Item) : Item := item.map Wire.Event.timeless

/-- A delivery as it is read, up to the time of its event. -/
def Delivery.reading (d : Delivery) : String × Option Wire.Event :=
  (d.topic, (Wire.Event.decode? d.payload).map Wire.Event.timeless)

theorem Wire.timeless_ofDomain (e : RoomRelay.Event) :
    (Wire.Event.ofDomain e).timeless = Wire.Event.ofDomain e.timeless := by
  obtain ⟨at_, user, room, payload⟩ := e
  cases payload <;> rfl

theorem Wire.toDomain_timeless (e : Wire.Event) :
    e.timeless.toDomain = e.toDomain.map RoomRelay.Event.timeless := by
  rw [Event.toDomain, Event.toDomain]
  have same : e.timeless.payload = e.payload := rfl
  rw [same]
  cases e.payload <;> rfl

namespace Relay

def Phase.timeless : Phase → Phase
  | joining e => joining e.timeless
  | announcing e => announcing e.timeless
  | forwarding e => forwarding e.timeless
  | leaving why e => leaving why e.timeless
  | phase => phase

def outline (r : Relay) : Relay :=
  { r with session := 0, subscription := 0, phase := r.phase.timeless }

def Step.timeless : Step → Step
  | forward e => forward e.timeless
  | s => s

theorem decode_timeless (payload : List UInt8) :
    (decode payload).map Wire.Event.timeless =
      match (Wire.Event.decode? payload).map Wire.Event.timeless with
      | none => .error .bytes
      | some e =>
        match e.toDomain with
        | .ok e => .ok (.ofDomain e)
        | .error why => .error (.payload why) := by
  unfold decode
  cases Wire.Event.decode? payload with
  | none => rfl
  | some e =>
    simp only [Option.map_some, Wire.toDomain_timeless]
    cases e.toDomain with
    | error why => rfl
    | ok e => simp only [Except.map, Wire.timeless_ofDomain]

theorem step_timeless (user : String) (d : Delivery) :
    (step user d).timeless =
      match Key.decode d.topic with
      | .error e => .fail (.routing e)
      | .ok key =>
        if key.user = user then .exclude
        else
          match (decode d.payload).map Wire.Event.timeless with
          | .ok e => .forward e
          | .error _ => .skip := by
  unfold step
  cases Key.decode d.topic with
  | error e => rfl
  | ok key =>
    by_cases own : key.user = user
    · simp only [if_pos own, Step.timeless]
    · simp only [if_neg own]
      cases decode d.payload <;> rfl

theorem step_alike {d d' : Delivery} (same : d.reading = d'.reading) (user : String) :
    (step user d).timeless = (step user d').timeless := by
  obtain ⟨topic, payload⟩ := Prod.mk.inj same
  have read : (decode d.payload).map Wire.Event.timeless = (decode d'.payload).map Wire.Event.timeless := by
    rw [decode_timeless, decode_timeless, payload]
  rw [step_timeless, step_timeless, topic, read]

theorem hear_outline (r : Relay) (d : Delivery) :
    (r.hear d).1.outline =
      match (step r.outline.user d).timeless with
      | .forward e => { r.outline with phase := .forwarding e }
      | .exclude => { r.outline with excluded := r.outline.excluded + 1 }
      | .skip => { r.outline with skipped := r.outline.skipped + 1 }
      | .fail e => { r.outline with phase := .cancelling (.failed e) } := by
  unfold hear
  rw [show r.outline.user = r.user from rfl]
  cases step r.user d <;> rfl

theorem outline_hear {r r' : Relay} (same : r.outline = r'.outline) {d d' : Delivery}
    (alike : d.reading = d'.reading) : (r.hear d).1.outline = (r'.hear d').1.outline := by
  rw [hear_outline, hear_outline, same, step_alike alike]

theorem conclude_outline (r : Relay) (why : Ending) :
    (r.conclude why).1.outline = (r.outline.conclude why).1.outline := by
  cases why <;> rfl

end Relay

def Act.outline : Act → Act
  | .subscribe _ pattern user => .subscribe 0 pattern user
  | .publish _ e => .publish 0 e.timeless
  | .cancel _ => .cancel 0
  | .closeSession _ => .closeSession 0
  | .offer item => .offer item.timeless
  | .listen _ => .listen 0
  | act => act

def Reply.outline : Reply → Reply
  | .session r => .session (r.map fun _ => 0)
  | .subscription r => .subscription (r.map fun _ => 0)
  | reply => reply

def Reply.delivery? : Reply → Option Delivery
  | .delivery d => some d
  | _ => none

/-- Equal up to times and numbers. -/
inductive Reply.Alike : Reply → Reply → Prop where
  | delivery {d d' : Delivery} (same : d.reading = d'.reading) : Alike (.delivery d) (.delivery d')
  | plain {reply reply' : Reply} (quiet : reply.delivery? = none) (quiet' : reply'.delivery? = none)
    (same : reply.outline = reply'.outline) : Alike reply reply'

namespace Relay

theorem act_outline (r : Relay) : r.act.outline = r.outline.act.outline := by
  obtain ⟨user, room, session, subscription, phase, relayed, excluded, skipped⟩ := r
  cases phase with
  | announcing e =>
    simp only [act, outline, Phase.timeless, Act.outline, Item.timeless, Except.map,
      Wire.timeless_ofDomain]
    rfl
  | _ => rfl

theorem resume_outline (r : Relay) (now : Int64) {reply : Reply} (quiet : reply.delivery? = none) :
    (r.resume now reply).1.outline = (r.outline.resume 0 reply.outline).1.outline := by
  obtain ⟨user, room, session, subscription, phase, relayed, excluded, skipped⟩ := r
  cases reply with
  | delivery d => cases quiet
  | session res => cases phase <;> cases res <;> rfl
  | subscription res => cases phase <;> cases res <;> rfl
  | published res => cases phase <;> cases res <;> rfl
  | counted res =>
    cases res with
    | error e => cases phase <;> rfl
    | ok n => cases phase <;> cases n <;> rfl
  | done =>
    cases phase with
    | closing why => exact conclude_outline _ why
    | _ => rfl
  | taken | peerGone | stopping | feedOver => cases phase <;> rfl

theorem listening_of_timeless {phase : Phase} (listens : phase.timeless = .listening) :
    phase = .listening := by
  cases phase <;> first | rfl | cases listens

theorem resume_delivery (r : Relay) (now : Int64) (d : Delivery) :
    r.resume now (.delivery d) = if r.phase = .listening then r.hear d else (r, []) := by
  obtain ⟨user, room, session, subscription, phase, relayed, excluded, skipped⟩ := r
  cases phase <;> rfl

theorem outline_resume {r r' : Relay} (same : r.outline = r'.outline) {reply reply' : Reply}
    (alike : reply.Alike reply') (now now' : Int64) :
    (r.resume now reply).1.outline = (r'.resume now' reply').1.outline := by
  cases alike with
  | plain quiet quiet' told => rw [resume_outline r now quiet, resume_outline r' now' quiet', same, told]
  | delivery read =>
    have phase : r.phase.timeless = r'.phase.timeless := congrArg Relay.phase same
    rw [resume_delivery, resume_delivery]
    by_cases listens : r.phase = .listening
    · rw [listens] at phase
      rw [if_pos listens, if_pos (listening_of_timeless phase.symm)]
      exact outline_hear same read
    · have other : r'.phase ≠ .listening := by
        intro listens'
        rw [listens'] at phase
        exact listens (listening_of_timeless phase)
      rw [if_neg listens, if_neg other]
      exact same

end Relay

namespace Sending

def Phase.outline : Phase → Phase
  | publishing _ _ room rooms => publishing 0 0 room rooms
  | closing _ result => closing 0 result
  | phase => phase

def outline (s : Sending) : Sending :=
  { s with phase := s.phase.outline }

theorem act_outline (s : Sending) : s.act.outline = s.outline.act.outline := by
  obtain ⟨user, rooms, payload, phase⟩ := s
  cases phase <;> rfl

theorem proceed_outline (s : Sending) (session : Nat) (at_ : Int64) (rooms : List String) :
    (s.proceed session at_ rooms).outline = (s.outline.proceed 0 0 rooms).outline := by
  cases rooms <;> rfl

theorem resume_outline (s : Sending) (now : Int64) (reply : Reply) :
    (s.resume now reply).outline = (s.outline.resume 0 reply.outline).outline := by
  obtain ⟨user, rooms, payload, phase⟩ := s
  cases reply with
  | session res =>
    cases phase with
    | opening =>
      cases res with
      | ok session => exact proceed_outline _ session now rooms
      | error e => rfl
    | _ => rfl
  | published res =>
    cases phase with
    | publishing session at_ room rest =>
      cases res with
      | ok _ => exact proceed_outline _ session at_ rest
      | error e => rfl
    | _ => rfl
  | _ => cases phase <;> rfl

theorem resume_delivery (s : Sending) (now : Int64) (d : Delivery) : s.resume now (.delivery d) = s := by
  obtain ⟨user, rooms, payload, phase⟩ := s
  cases phase <;> rfl

end Sending

namespace Stream

def outline (s : Stream) : Stream :=
  { s with queue := s.queue.map Item.timeless }

theorem offer_outline (s : Stream) (item : Item) :
    (s.offer item).1 = (s.outline.offer item.timeless).1 ∧
      (s.offer item).2.outline = (s.outline.offer item.timeless).2 := by
  unfold offer outline
  rw [List.length_map]
  split
  · exact ⟨rfl, rfl⟩
  · split
    · exact ⟨rfl, by rw [List.map_append]; rfl⟩
    · exact ⟨rfl, rfl⟩

theorem takes_outline (s : Stream) : s.outline.takes = s.takes := by
  rw [takes, outline, List.length_map, takes]

theorem read_outline (s : Stream) :
    s.outline.read = s.read.map fun x => (Item.timeless x.1, x.2.outline) := by
  obtain ⟨capacity, queue, hungUp⟩ := s
  cases queue <;> rfl

end Stream

namespace Work

def outline : Work → Work
  | relay r stream => relay r.outline stream.outline
  | sending s => sending s.outline

variable {work work' : Work}

theorem act_outline (work : Work) : work.act.outline = work.outline.act.outline := by
  cases work with
  | relay r stream => exact r.act_outline
  | sending s => exact s.act_outline

theorem outline_act (same : work.outline = work'.outline) : work.act.outline = work'.act.outline := by
  rw [act_outline, same, ← act_outline]

theorem outline_hungUp (same : work.outline = work'.outline) : work.hungUp = work'.hungUp := by
  have told : ∀ work : Work, work.hungUp = work.outline.hungUp := fun work => by cases work <;> rfl
  rw [told, same, ← told]

theorem outline_puts (same : work.outline = work'.outline) :
    work.puts?.map Item.timeless = work'.puts?.map Item.timeless := by
  have told : ∀ work : Work, work.puts?.map Item.timeless = work.outline.puts?.map Item.timeless := by
    intro work
    cases work with
    | sending s => rfl
    | relay r stream =>
      have acts := r.act_outline
      simp only [outline, puts?, stream.takes_outline]
      cases asks : r.act with
      | offer item =>
        rw [asks] at acts
        cases asks' : r.outline.act with
        | offer item' =>
          rw [asks'] at acts
          simp only
          split
          · exact congrArg some (Act.offer.inj acts)
          · rfl
        | _ =>
          rw [asks'] at acts
          cases acts
      | _ =>
        rw [asks] at acts
        cases asks' : r.outline.act <;> first | rfl | (rw [asks'] at acts; cases acts)
  rw [told, same, ← told]

theorem outline_offer (same : work.outline = work'.outline) {item item' : Item}
    (alike : item.timeless = item'.timeless) :
    (work.offer item).1 = (work'.offer item').1 ∧
      (work.offer item).2.outline = (work'.offer item').2.outline := by
  have told : ∀ (work : Work) (item : Item),
      (work.offer item).1 = (work.outline.offer item.timeless).1 ∧
        (work.offer item).2.outline = (work.outline.offer item.timeless).2 := by
    intro work item
    cases work with
    | sending s => exact ⟨rfl, rfl⟩
    | relay r stream =>
      obtain ⟨reply, after⟩ := stream.offer_outline item
      exact ⟨reply, congrArg (relay r.outline) after⟩
  rw [(told work item).1, (told work item).2, (told work' item').1, (told work' item').2, same, alike]
  exact ⟨rfl, rfl⟩

theorem outline_resume (same : work.outline = work'.outline) {reply reply' : Reply}
    (alike : reply.Alike reply') (now now' : Int64) :
    (work.resume now reply).1.outline = (work'.resume now' reply').1.outline := by
  cases work with
  | relay r stream =>
    cases work' with
    | sending s' => cases same
    | relay r' stream' =>
      obtain ⟨relays, streams⟩ := relay.inj same
      simp only [resume, outline, streams, Relay.outline_resume relays alike now now']
  | sending s =>
    cases work' with
    | relay r' stream' => cases same
    | sending s' =>
      have sendings := sending.inj same
      refine congrArg sending ?_
      cases alike with
      | plain quiet quiet' told => rw [s.resume_outline, s'.resume_outline, sendings, told]
      | delivery => rw [s.resume_delivery, s'.resume_delivery, sendings]

end Work
end RoomRelay
