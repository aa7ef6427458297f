import RoomRelay.Broker.Mock
import RoomRelay.Proofs.World.Drive
import RoomRelay.Proofs.World.Order

/-!
What a call can rely on while other calls go on over a `Mock`: no call changes the switches, and a
session stays open as long as no other task holds it.
-/

namespace RoomRelay

/-! ### Sessions -/

namespace Call

theorem resume_opening {call : Call} (opens : call.act = .openSession) {reply : Reply}
    (other : ∀ r, reply ≠ .session r) (now : Int64) : call.resume now reply = call := by
  cases call with
  | relay r =>
    obtain ⟨user, room, session, subscription, phase, relayed, excluded, skipped⟩ := r
    cases phase <;> cases opens
    cases reply with
    | session r => exact absurd rfl (other r)
    | _ => rfl
  | sending s =>
    obtain ⟨user, rooms, payload, phase⟩ := s
    cases phase <;> cases opens
    cases reply with
    | session r => exact absurd rfl (other r)
    | _ => rfl

theorem session_published (call : Call) (now : Int64) (r : Except BrokerError Unit) :
    (call.resume now (.published r)).session? = call.session? ∨
      (call.resume now (.published r)).session? = none := by
  by_cases opens : call.act = .openSession
  · rw [resume_opening opens (by simp)]
    exact .inl rfl
  · exact call.session_resume opens now _

end Call

namespace Channel

theorem sessions_apply {c : Channel} {op : Op} (opens : op ≠ .openSession)
    (closes : ∀ session, op ≠ .closeSession session) : (c.apply op).2.sessions = c.sessions := by
  cases op with
  | openSession => exact absurd rfl opens
  | closeSession session => exact absurd rfl (closes session)
  | publish session key payload =>
    cases usable : c.isOpen session with
    | false => simp only [apply, publish_refused usable]
    | true =>
      simp only [apply, publish_eq_deliver usable]
      exact c.deliver_sessions _
  | deliver d => exact c.deliver_sessions d
  | subscribe session pattern subscriber =>
    simp only [apply, subscribe]
    repeat' split
    all_goals rfl
  | _ => rfl

theorem openSession_sessions (c : Channel) :
    c.openSession.2.sessions = c.sessions ∨ c.openSession.2.sessions = c.sessions ++ [true] := by
  unfold openSession
  split
  · exact .inl rfl
  · exact .inr rfl

/-- Only `closeSession` closes a session. -/
theorem isOpen_apply {c : Channel} {session : Nat} {op : Op} (other : op ≠ .closeSession session)
    (opened : c.isOpen session = true) : (c.apply op).2.isOpen session = true := by
  by_cases opens : op = .openSession
  · subst opens
    have within := lt_of_isOpen opened
    show c.openSession.2.isOpen session = true
    rw [isOpen, List.getD_eq_getElem?_getD] at opened ⊢
    rcases c.openSession_sessions with same | more
    · rwa [same]
    · rwa [more, List.getElem?_append_left within]
  by_cases closes : ∃ s, op = .closeSession s
  · obtain ⟨s, rfl⟩ := closes
    have apart : session ≠ s := fun same => other (by rw [same])
    exact (isOpen_closeSession apart).trans opened
  · rw [isOpen, sessions_apply opens fun s same => closes ⟨s, same⟩]
    exact opened

theorem length_sessions_apply (c : Channel) (op : Op) :
    c.sessions.length ≤ (c.apply op).2.sessions.length := by
  by_cases opens : op = .openSession
  · subst opens
    show _ ≤ c.openSession.2.sessions.length
    rcases c.openSession_sessions with same | more
    · exact Nat.le_of_eq (by rw [same])
    · rw [more, List.length_append]
      exact Nat.le_add_right _ _
  by_cases closes : ∃ s, op = .closeSession s
  · obtain ⟨s, rfl⟩ := closes
    exact Nat.le_of_eq List.length_set.symm
  · have same := sessions_apply (c := c) opens fun s same => closes ⟨s, same⟩
    exact Nat.le_of_eq (congrArg List.length same.symm)

end Channel

namespace Mock

structure Works (m : Mock) (delay : Nat) : Prop where
  opens : m.failSession = false
  publishes : m.failPublish = false
  kinds : m.failKinds = []
  slow : m.publishDelay = some delay
  running : m.channel.closed = false

/-- A served act leaves the switches, may extend the record, and is at most one operation of the
channel. -/
structure Frame (act : Act) (m m' : Mock) : Prop where
  switches : m'.failSession = m.failSession ∧ m'.failPublish = m.failPublish ∧
    m'.failKinds = m.failKinds ∧ m'.publishDelay = m.publishDelay
  record : m.published <+: m'.published
  channel : m'.channel = m.channel ∨ ∃ op, op ≠ .close ∧
    (∀ session, op = .closeSession session → act = .closeSession session) ∧
      m'.channel = (m.channel.apply op).2

variable {m m' : Mock} {act : Act} {reply : Reply}

theorem frame_refl (act : Act) (m : Mock) : Frame act m m :=
  ⟨⟨rfl, rfl, rfl, rfl⟩, List.prefix_rfl, .inl rfl⟩

theorem frame_channel (op : Channel.Op) (other : op ≠ .close)
    (closes : ∀ session, op = .closeSession session → act = .closeSession session) :
    Frame act m { m with channel := (m.channel.apply op).2 } :=
  ⟨⟨rfl, rfl, rfl, rfl⟩, List.prefix_rfl, .inr ⟨op, other, closes, rfl⟩⟩

theorem frame (served : Broker.Serves m act reply m') : Frame act m m' := by
  cases served with
  | openSession =>
    show Frame _ m m.openSession.2
    unfold openSession
    split
    · exact frame_refl _ m
    · exact frame_channel .openSession nofun nofun
  | subscribe session pattern subscriber =>
    show Frame _ m (m.subscribe session pattern subscriber).2
    unfold subscribe
    split
    · exact frame_refl _ m
    · exact frame_channel (.subscribe session pattern subscriber) nofun nofun
  | publish _ plan session key payload =>
    show Frame _ m (m.publish plan session key payload).2.1
    unfold publish
    split
    · exact frame_refl _ m
    · exact ⟨⟨rfl, rfl, rfl, rfl⟩, List.prefix_append _ _,
        .inr ⟨.publish session key payload, nofun, nofun, rfl⟩⟩
  | cancel sub => exact frame_channel (.cancel sub) nofun nofun
  | closeSession session =>
    exact frame_channel (.closeSession session) nofun fun _ same => by cases same; rfl
  | receive sub => exact frame_channel (.receive sub) nofun nofun
  | _ => exact frame_refl _ m

theorem Works.frame {delay : Nat} (works : m.Works delay) (frame : Frame act m m') :
    m'.Works delay := by
  obtain ⟨opens, publishes, kinds, slow, running⟩ := works
  obtain ⟨⟨opens', publishes', kinds', slow'⟩, -, channel⟩ := frame
  refine ⟨opens'.trans opens, publishes'.trans publishes, kinds'.trans kinds, slow'.trans slow, ?_⟩
  rcases channel with same | ⟨op, other, -, after⟩
  · rw [same, running]
  · rw [after, Channel.apply_closed _ other, running]

theorem Frame.isOpen (frame : Frame act m m') {session : Nat} (other : act ≠ .closeSession session)
    (opened : m.channel.isOpen session = true) : m'.channel.isOpen session = true := by
  rcases frame.channel with same | ⟨op, -, closes, after⟩
  · rw [same, opened]
  · rw [after]
    exact Channel.isOpen_apply (fun same => other (closes session same)) opened

theorem Frame.sessions (frame : Frame act m m') :
    m.channel.sessions.length ≤ m'.channel.sessions.length := by
  rcases frame.channel with same | ⟨op, -, -, after⟩
  · exact Nat.le_of_eq (by rw [same])
  · rw [after]
    exact m.channel.length_sessions_apply op

theorem openSession_fresh {session : Nat} (opened : m.openSession.1 = .ok session) :
    session = m.channel.sessions.length ∧ session < m.openSession.2.channel.sessions.length := by
  unfold openSession at opened ⊢
  split at opened
  · cases opened
  · rename_i works
    have channel : m.channel.openSession.1 = .ok session := opened
    rw [if_neg works]
    show _ ∧ session < m.channel.openSession.2.sessions.length
    unfold Channel.openSession at channel ⊢
    split at channel
    · cases channel
    · rename_i running
      obtain rfl := Except.ok.inj channel
      rw [if_neg running, List.length_append]
      exact ⟨rfl, Nat.lt_succ_self _⟩

/-- A served call has its old session, or a new one, or none. -/
theorem session_served {call : Call} (served : Broker.Serves m call.act reply m') (now : Int64)
    {session : Nat} (holds : (call.resume now reply).session? = some session) :
    call.session? = some session ∨
      session = m.channel.sessions.length ∧ session < m'.channel.sessions.length := by
  have keeps : ((call.resume now reply).session? = call.session? ∨
      (call.resume now reply).session? = none) → call.session? = some session := by
    rintro (same | gone)
    · rw [← same, holds]
    · rw [gone] at holds
      cases holds
  generalize asks : call.act = act at served
  cases served with
  | openSession =>
    rw [call.session_opened asks] at holds
    cases given : (Broker.openSession m).1 with
    | error e =>
      rw [given] at holds
      cases holds
    | ok new =>
      rw [given] at holds
      exact .inr (openSession_fresh (given.trans (congrArg Except.ok (Option.some.inj holds))))
  | publish | unroutable => exact .inl (keeps (call.session_published now _))
  | _ => exact .inl (keeps (call.session_resume (by rw [asks]; nofun) now _))

end Mock

namespace World

section Given

variable {w w' : World Mock}

def Given (w : World Mock) : Prop :=
  ∀ t ∈ w.tasks, ∀ session, t.work.call.session? = some session →
    session < w.broker.channel.sessions.length

theorem Given.spawn (given : w.Given) {work : Work} (none : work.call.session? = none) :
    (w.spawn work).2.Given := by
  intro t member session holds
  rcases List.mem_append.mp member with old | new
  · exact given t old session holds
  · obtain rfl := List.mem_singleton.mp new
    rw [none] at holds
    cases holds

theorem Given.step (given : w.Given) {j : Nat} (step : w.step j = some w') : w'.Given := by
  intro t member session holds
  obtain ⟨k, present⟩ := List.getElem?_of_mem member
  cases step_advances step with
  | @begins work u found _ broker tasks =>
    rw [broker]
    rw [tasks] at present
    rcases getElem?_set_cases present with ⟨-, rfl⟩ | ⟨-, before⟩
    · exact given _ (List.mem_of_getElem? found) session holds
    · exact given t (List.mem_of_getElem? before) session holds
  | @goes t₀ t₁ reply found _ served tasks call =>
    have grows := (Mock.frame served).sessions
    rw [tasks] at present
    rcases getElem?_set_cases present with ⟨-, rfl⟩ | ⟨-, before⟩
    · rw [call] at holds
      rw [← Work.call_act] at served
      rcases Mock.session_served served w.clock holds with held | ⟨-, known⟩
      · exact Nat.lt_of_lt_of_le (given t₀ (List.mem_of_getElem? found) session held) grows
      · exact known
    · exact Nat.lt_of_lt_of_le (given t (List.mem_of_getElem? before) session holds) grows

end Given

/-- Task `i` alone has `session`, on a mock that `Works`. -/
structure Reserves (w : World Mock) (i session delay : Nat) : Prop where
  works : w.broker.Works delay
  opened : w.broker.channel.isOpen session = true
  alone : ∀ j t, j ≠ i → w.tasks[j]? = some t → t.work.call.session? ≠ some session

theorem reserves_lasts (i session delay : Nat) : Lasts i fun w => w.Reserves i session delay where
  steps := by
    rintro w w' j other step ⟨works, opened, alone⟩
    cases step_advances step with
    | begins found now broker tasks =>
      refine ⟨broker ▸ works, broker ▸ opened, ?_⟩
      intro k t away present
      rw [tasks] at present
      rcases getElem?_set_cases present with ⟨rfl, rfl⟩ | ⟨-, before⟩
      · exact alone k ⟨_, none⟩ away found
      · exact alone k t away before
    | @goes t t' reply found now served tasks call =>
      have frame := Mock.frame served
      refine ⟨works.frame frame, frame.isOpen ?_ opened, ?_⟩
      · intro closes
        rw [← Work.call_act] at closes
        exact alone j t other found (t.work.call.session_closed closes w.clock).1
      · intro k t'' away present holds
        rw [tasks] at present
        rcases getElem?_set_cases present with ⟨rfl, rfl⟩ | ⟨-, before⟩
        · rw [call] at holds
          rw [← Work.call_act] at served
          rcases Mock.session_served served w.clock holds with held | new
          · exact alone k t other found held
          · exact Nat.ne_of_lt (Channel.lt_of_isOpen opened) new.1
        · exact alone k t'' away before holds
  ages := fun _ ⟨works, opened, alone⟩ => ⟨works, opened, alone⟩
  settles := fun ⟨works, opened, alone⟩ => ⟨works, opened, alone⟩

end World
end RoomRelay
