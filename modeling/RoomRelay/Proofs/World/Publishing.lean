import RoomRelay.Proofs.Sending.Prefix
import RoomRelay.Proofs.World.Happenings
import RoomRelay.Proofs.World.Presence

/-!
`Continues` and `Publishes`: a call publishes only in the name of its user and to the rooms that were
accepted with it. `Carries`: whatever is queued is an event that some call published.
-/

namespace RoomRelay

/-! ### What a call may publish -/

def Sending.Within (s : Sending) : Prop :=
  match s.phase with
  | .publishing _ _ room rooms => room ∈ s.rooms ∧ ∀ x ∈ rooms, x ∈ s.rooms
  | _ => True

theorem Sending.within_proceed {s : Sending} {rooms : List String} (inside : ∀ x ∈ rooms, x ∈ s.rooms)
    (session : Nat) (at_ : Int64) : (s.proceed session at_ rooms).Within := by
  cases rooms with
  | nil => exact trivial
  | cons room rooms =>
    exact ⟨inside room List.mem_cons_self, fun x member => inside x (List.mem_cons_of_mem _ member)⟩

theorem Sending.Within.resume {s : Sending} (within : s.Within) (now : Int64) (reply : Reply) :
    (s.resume now reply).Within := by
  unfold Sending.resume
  split
  case h_1 => exact within_proceed (fun x member => member) _ _
  case h_3 phase =>
    rw [Within, phase] at within
    exact within_proceed within.2 _ _
  case h_6 => exact within
  all_goals exact trivial

namespace Call

def user : Call → String
  | relay r => r.user
  | sending s => s.user

/-- The call has the names and the request of `first`. -/
def Continues (first : Call) : Call → Prop
  | relay r => ∃ r', first = relay r' ∧ r.user = r'.user ∧ r.room = r'.room
  | sending s => ∃ s', first = sending s' ∧ s'.SameOrder s ∧ s.Within

/-- The events that a call can publish, by what is fixed when it is accepted. -/
def Publishes (first : Call) (e : Event) : Prop :=
  e.byUser = first.user ∧
    match first with
    | relay r => e.inRoom = r.room ∧ (e.payload = .userJoined ∨ e.payload = .userLeft)
    | sending s => e.inRoom ∈ s.rooms ∧ e.payload = s.payload

def IsAccepted (svc : Service) : Call → Prop
  | relay r => Topic.isSafe r.user = true ∧ Topic.isSegment r.room = true
  | sending s => ∃ req : SendRequest, req.rooms = s.rooms ∧ req.Accepted s.user svc.policy s.payload

theorem Continues.resume {first call : Call} (continues : first.Continues call) (now : Int64)
    (reply : Reply) : first.Continues (call.resume now reply) := by
  cases call with
  | relay r =>
    obtain ⟨r', rfl, user, room⟩ := continues
    have follows := r.resume_follows now reply
    exact ⟨r', rfl, follows.1.trans user, follows.2.1.trans room⟩
  | sending s =>
    obtain ⟨s', rfl, ⟨user, rooms, payload⟩, within⟩ := continues
    obtain ⟨user', rooms', payload'⟩ := s.resume_sameOrder now reply
    exact ⟨s', rfl, ⟨user'.trans user, rooms'.trans rooms, payload'.trans payload⟩,
      within.resume now reply⟩

theorem Continues.touch {first : Call} {work : Work} (continues : first.Continues work.call)
    (c : Channel) (stopping : Bool) (now : Int64) (m : Move) :
    first.Continues (work.touch c stopping now m).1.call := by
  cases m with
  | step =>
    simp only [Work.touch]
    split
    · rename_i served
      rw [Work.call_resume, Channel.serve_call served]
      exact continues.resume now _
    · exact continues
  | abandon =>
    cases work with
    | relay r stream =>
      simp only [Work.touch]
      split <;> exact continues
    | sending s =>
      obtain ⟨s', rfl, same, -⟩ := continues
      exact ⟨s', rfl, same, trivial⟩
  | takeUp | forsake | read | hangUp =>
    cases work with
    | relay r stream =>
      simp only [Work.touch]
      try split
      all_goals exact continues
    | sending s => exact continues
  | _ => exact continues

theorem Continues.publishes {first call : Call} (continues : first.Continues call)
    (announces : ∀ r, call = relay r → r.Announces) {session : Nat} {e : Event}
    (asks : call.act = .publish session e) : first.Publishes e := by
  cases call with
  | relay r =>
    obtain ⟨r', rfl, user, room⟩ := continues
    have named := announces r rfl
    rcases Relay.phase_of_publish asks with joins | ⟨why, leaves⟩
    · rw [Relay.Announces, joins] at named
      rw [named]
      exact ⟨user, room, .inl rfl⟩
    · rw [Relay.Announces, leaves] at named
      rw [named]
      exact ⟨user, room, .inr rfl⟩
  | sending s =>
    obtain ⟨s', rfl, ⟨user, rooms, payload⟩, within⟩ := continues
    cases phase : s.phase with
    | publishing session at_ room rest =>
      simp only [act, Sending.act, phase, Act.publish.injEq] at asks
      rw [Sending.Within, phase] at within
      rw [← asks.2]
      exact ⟨user, rooms ▸ within.1, payload⟩
    | opening | closing | «over» =>
      simp only [act, Sending.act, phase] at asks
      cases asks

theorem isAccepted_of_opens {svc : Service} {h : Happening} {call : Call}
    (opens : h.opens? svc = some call) : call.IsAccepted svc := by
  rcases Happening.opens_cases opens with
    ⟨headers, room, user, -, known, segment, rfl⟩ | ⟨headers, req, user, payload, -, known, valid, rfl⟩
  · exact ⟨Headers.identity_safe known, segment⟩
  · exact ⟨req, rfl, SendRequest.accepted_of_validate valid⟩

theorem continues_of_opens {svc : Service} {h : Happening} {call : Call}
    (opens : h.opens? svc = some call) : call.Continues call := by
  rcases Happening.opens_cases opens with
    ⟨headers, room, user, -, -, -, rfl⟩ | ⟨headers, req, user, payload, -, -, -, rfl⟩
  · exact ⟨_, rfl, rfl, rfl⟩
  · exact ⟨_, rfl, ⟨rfl, rfl, rfl⟩, trivial⟩

/-- Accepted calls publish on keys of plain names. -/
theorem Publishes.key {svc : Service} {first : Call} {e : Event} (publishes : first.Publishes e)
    (accepted : first.IsAccepted svc) :
    Topic.isSegment e.inRoom = true ∧ Topic.isSafe e.byUser = true ∧
      ∃ kind, e.key? = some (.event e.inRoom e.byUser kind) := by
  obtain ⟨user, what⟩ := publishes
  cases first with
  | relay r =>
    obtain ⟨room, status⟩ := what
    obtain ⟨safe, segment⟩ := accepted
    refine ⟨room ▸ segment, user ▸ safe, ?_⟩
    rcases status with joined | left
    · exact ⟨.userJoined, by rw [Event.key?, joined]; rfl⟩
    · exact ⟨.userLeft, by rw [Event.key?, left]; rfl⟩
  | sending s =>
    obtain ⟨room, payload⟩ := what
    obtain ⟨req, rooms, accepted⟩ := accepted
    obtain ⟨kind, publishable⟩ := accepted.publishable
    refine ⟨accepted.segments _ (rooms ▸ room), ?_, kind, ?_⟩
    · rw [user]
      exact Topic.isSafe_of_isSegment accepted.named
    · rw [Event.key?, payload, publishable]
      rfl

/-- Accepted calls publish no occupancy, and only drawings with a visible color and a common
length. -/
theorem Publishes.shape {svc : Service} {first : Call} {e : Event} (publishes : first.Publishes e)
    (accepted : first.IsAccepted svc) :
    (Wire.Event.ofDomain e).users = none ∧
      ∀ d, (Wire.Event.ofDomain e).drawing = some d →
        (d.color = Color.black.code ∨ d.color = Color.white.code) ∧
          ∃ n, commonLength d.xs d.ys d.pressures d.widths = some n := by
  obtain ⟨at_, user, room, payload⟩ := e
  obtain ⟨-, what⟩ := publishes
  cases first with
  | relay r =>
    obtain ⟨-, status⟩ := what
    rcases status with rfl | rfl <;> exact ⟨rfl, fun d drawn => by cases drawn⟩
  | sending s =>
    obtain ⟨-, rfl⟩ := what
    obtain ⟨req, -, accepted⟩ := accepted
    obtain ⟨kind, publishable⟩ := accepted.publishable
    cases same : s.payload with
    | occupancy count =>
      rw [same] at publishable
      cases publishable
    | userJoined | userLeft => exact ⟨rfl, fun d drawn => by cases drawn⟩
    | drawing d =>
      refine ⟨rfl, ?_⟩
      rintro _ ⟨rfl⟩
      refine ⟨?_, accepted.drawn d same⟩
      rw [Wire.Drawing.ofDomain]
      cases d.color
      · exact .inl rfl
      · exact .inr rfl

theorem Publishes.by_relay {svc : Service} {first : Call} {e : Event} (publishes : first.Publishes e)
    (accepted : first.IsAccepted svc) (reserved : svc.policy = .reject)
    (status : (Wire.Event.ofDomain e).joined = true ∨ (Wire.Event.ofDomain e).left = true) :
    ∃ r, first = .relay r ∧ r.room = e.inRoom := by
  obtain ⟨-, what⟩ := publishes
  cases first with
  | relay r => exact ⟨r, rfl, what.1.symm⟩
  | sending s =>
    obtain ⟨req, -, accepted⟩ := accepted
    obtain ⟨d, drawn⟩ := accepted.reserved reserved
    rw [Wire.Event.ofDomain, what.2, drawn] at status
    rcases status with joined | left <;> contradiction

end Call

/-! ### What waits in the queues -/

namespace Channel

theorem asks_of_published {c : Channel} {act : Act} {e : Event} (taken : c.published? act = some e) :
    ∃ session, act = .publish session e := by
  unfold published? at taken
  split at taken
  · rename_i session e'
    repeat' split at taken
    all_goals cases taken
    exact ⟨session, rfl⟩
  · cases taken

/-- A delivery that enters a queue is the event of the act, and the queue `takes` it. -/
theorem queue_of_served {c c' : Channel} {act : Act} {reply : Reply} (sound : c.Sound)
    (served : Served c act reply c') {sub : Nat} {d : Delivery} (queued : d ∈ (c'.feed sub).queue) :
    d ∈ (c.feed sub).queue ∨
      ∃ e, c.published? act = some e ∧ e.delivery? = some d ∧ c.takes sub d = true := by
  cases served with
  | openSession =>
    rw [openSession_feed] at queued
    exact .inl queued
  | subscribe =>
    rw [subscribe_queue] at queued
    exact .inl queued
  | @publish session e key payload message =>
    cases carried : c.carried? (.publish session key payload) with
    | none =>
      rw [publish_lost carried] at queued
      exact .inl queued
    | some d' =>
      have queue := queue_of_carried sound carried sub
      obtain ⟨-, rfl, -⟩ := carried_publish carried
      simp only [apply] at queue
      rw [queue] at queued
      rcases List.mem_append.mp queued with old | new
      · exact .inl old
      · split at new
        · rename_i takes
          rw [List.mem_singleton.mp new]
          have done : c.published? (.publish session e) = some e := by
            simp only [published?, message]
            rw [carried?] at carried
            split at carried
            · rename_i done
              exact if_pos done
            · contradiction
          exact .inr ⟨e, done, Event.delivery_of_message message, takes⟩
        · cases new
  | cancel =>
    rw [cancel_queue] at queued
    exact .inl queued
  | receive i =>
    by_cases own : sub = i
    · subst own
      rcases receive_queue c sub with ⟨first, -, queue, -⟩ | ⟨-, same⟩
      · rw [queue]
        exact .inl (List.mem_cons_of_mem _ queued)
      · rw [same] at queued
        exact .inl queued
    · rw [receive_other own] at queued
      exact .inl queued
  | unroutable | count | closeSession | offer | listen => exact .inl queued

/-- All that is queued was published, on a topic that the pattern of its queue selects. -/
def Carries (c : Channel) (published : List (Nat × Event)) : Prop :=
  ∀ sub d, d ∈ (c.feed sub).queue →
    (∃ x ∈ published, x.2.delivery? = some d) ∧
      ∃ pattern cancelled, c.Holds sub pattern cancelled ∧ Topic.selects pattern d.topic = true

variable {c c' : Channel} {published : List (Nat × Event)}

theorem carries_empty : Carries {} [] := by
  intro sub d queued
  cases queued

theorem Carries.shrinks (carries : c.Carries published) (grows : c.Extends c')
    (old : ∀ sub d, d ∈ (c'.feed sub).queue → d ∈ (c.feed sub).queue) : c'.Carries published := by
  intro sub d queued
  obtain ⟨stems, pattern, cancelled, held, selected⟩ := carries sub d (old sub d queued)
  obtain ⟨cancelled', held', -⟩ := grows _ _ _ held
  exact ⟨stems, pattern, cancelled', held', selected⟩

theorem Carries.mono (carries : c.Carries published) (more : List (Nat × Event)) :
    c.Carries (published ++ more) := by
  intro sub d queued
  obtain ⟨⟨x, member, stems⟩, wanted⟩ := carries sub d queued
  exact ⟨⟨x, List.mem_append_left _ member, stems⟩, wanted⟩

theorem Carries.served (carries : c.Carries published) (sound : c.Sound) (i : Nat) {act : Act}
    {reply : Reply} (served : Served c act reply c') :
    c'.Carries (published ++ ((c.published? act).map fun e => (i, e)).toList) := by
  have grows := served.extends_
  intro sub d queued
  -- it was there before, or the act put it there
  rcases queue_of_served sound served queued with old | ⟨e, taken, delivery, takes⟩
  · obtain ⟨⟨x, member, stems⟩, pattern, cancelled, held, selected⟩ := carries sub d old
    obtain ⟨cancelled', held', -⟩ := grows _ _ _ held
    exact ⟨⟨x, List.mem_append_left _ member, stems⟩, pattern, cancelled', held', selected⟩
  · obtain ⟨s, found, wants⟩ := Option.any_eq_true _ _ |>.mp takes
    simp only [Subscription.takes, Bool.and_eq_true] at wants
    obtain ⟨cancelled', held', -⟩ := grows sub s.pattern s.feed.cancelled ⟨s, found, rfl, rfl⟩
    refine ⟨⟨(i, e), ?_, delivery⟩, s.pattern, cancelled', held', wants.1.2⟩
    rw [taken]
    exact List.mem_append_right _ List.mem_cons_self

end Channel

end RoomRelay
