import RoomRelay.Proofs.Relay.Life

/-!
A relay's join and leave. `Past` gives for each phase the exchanges that lead there. In a complete
life (`Bracketed`) the join is published after the subscription, and after a join that succeeded the
leave is published exactly once and as the last event, however the stream ends.
-/
namespace RoomRelay.Relay

/-! ### Stretches of a life -/

def opening (r : Relay) (at_ : Int64) (published : Except BrokerError Unit) : List Exchange :=
  [⟨.openSession, .session (.ok r.session)⟩,
    ⟨.subscribe r.session r.pattern r.user, .subscription (.ok r.subscription)⟩,
    ⟨.publish r.session (r.event at_ .userJoined), .published published⟩]

def parting (r : Relay) (at_ : Int64) (published : Except BrokerError Unit) : List Exchange :=
  [⟨.cancel r.subscription, .done⟩,
    ⟨.publish r.session (r.event at_ .userLeft), .published published⟩]

/-- The `Ending` that an exchange brings about while the relay streams. -/
def ending? (x : Exchange) : Option Ending :=
  match x.act, x.reply with
  | .listen _, .peerGone => some .cancelled
  | .listen _, .stopping => some .cancelled
  | .offer _, .peerGone => some .peerGone
  | .listen _, .feedOver => some (.failed (.broker (.subscribe "subscription ended")))
  | .listen _, .delivery d =>
    match Key.decode d.topic with
    | .ok _ => none
    | .error e => some (.failed (.routing e))
  | _, _ => none

def Streams (r : Relay) (x : Exchange) : Prop :=
  x.act = .count r.pattern ∨ (∃ e, x.act = .offer (.ok e)) ∨ x.act = .listen r.subscription

/-- The exchanges between joining and parting, of which only the last one has an `ending?`. -/
def Streamed (r : Relay) (stream : List Exchange) (why : Ending) : Prop :=
  ∃ body last, stream = body ++ [last] ∧ (∀ x ∈ body, r.Streams x ∧ ending? x = none) ∧
    r.Streams last ∧ ending? last = some why

/-- The last offer to the client: a status iff the relay failed. -/
def verdict (why : Ending) (tail : List Exchange) : Prop :=
  match why with
  | .failed e => ∃ reply, tail = [⟨.offer (.error e.status), reply⟩]
  | _ => tail = []

def Past (r : Relay) (log : List Exchange) : Prop :=
  match r.phase with
  | .opening => log = []
  | .subscribing => log = [⟨.openSession, .session (.ok r.session)⟩]
  | .joining joined =>
    ∃ at_, joined = r.event at_ .userJoined ∧ log = (r.opening at_ (.ok ())).take 2
  | .withdrawing e => ∃ at_ b, e = .broker b ∧ log = r.opening at_ (.error b)
  | .abandoning e =>
    (∃ b, e = .broker b ∧ log = [⟨.openSession, .session (.ok r.session)⟩,
      ⟨.subscribe r.session r.pattern r.user, .subscription (.error b)⟩]) ∨
    (∃ at_ b, e = .broker b ∧ log = r.opening at_ (.error b) ++ [⟨.cancel r.subscription, .done⟩])
  | .refused e =>
    (∃ b, e = .broker b ∧ log = [⟨.openSession, .session (.error b)⟩]) ∨
    (∃ b, e = .broker b ∧ log = [⟨.openSession, .session (.ok r.session)⟩,
      ⟨.subscribe r.session r.pattern r.user, .subscription (.error b)⟩,
      ⟨.closeSession r.session, .done⟩]) ∨
    (∃ at_ b, e = .broker b ∧ log = r.opening at_ (.error b) ++
      [⟨.cancel r.subscription, .done⟩, ⟨.closeSession r.session, .done⟩])
  | .joined | .counting => ∃ at_, log = r.opening at_ (.ok ())
  | .announcing _ | .listening | .forwarding _ =>
    ∃ at_ body, log = r.opening at_ (.ok ()) ++ body ∧ ∀ x ∈ body, r.Streams x ∧ ending? x = none
  | .cancelling why => ∃ at_ stream, log = r.opening at_ (.ok ()) ++ stream ∧ r.Streamed stream why
  | .leaving why left =>
    ∃ at_ stream at_', log = r.opening at_ (.ok ()) ++ stream ++ [⟨.cancel r.subscription, .done⟩] ∧
      r.Streamed stream why ∧ left = r.event at_' .userLeft
  | .closing why =>
    ∃ at_ stream at_' res, log = r.opening at_ (.ok ()) ++ stream ++ r.parting at_' res ∧
      r.Streamed stream why
  | .reporting e =>
    ∃ at_ stream at_' res, log = r.opening at_ (.ok ()) ++ stream ++ r.parting at_' res ++
      [⟨.closeSession r.session, .done⟩] ∧ r.Streamed stream (.failed e)
  | .ended why =>
    ∃ at_ stream at_' res tail, log = r.opening at_ (.ok ()) ++ stream ++ r.parting at_' res ++
      ⟨.closeSession r.session, .done⟩ :: tail ∧ r.Streamed stream why ∧ verdict why tail

theorem streams_snoc {r : Relay} {body : List Exchange} {x : Exchange}
    (before : ∀ y ∈ body, r.Streams y ∧ ending? y = none) (streams : r.Streams x)
    (goesOn : ending? x = none) : ∀ y ∈ body ++ [x], r.Streams y ∧ ending? y = none :=
  List.forall_mem_append.mpr ⟨before, List.forall_mem_singleton.mpr ⟨streams, goesOn⟩⟩

theorem past_resume {r : Relay} {log : List Exchange} {reply : Reply} (past : r.Past log)
    (admitted : r.act.admits reply = true) (now : Int64) :
    (r.resume now reply).1.Past (log ++ [⟨r.act, reply⟩]) := by
  obtain ⟨user, room, session, subscription, phase, relayed, excluded, skipped⟩ := r
  -- each phase with a reply that its act admits; the others are contradictory
  cases phase <;> cases reply <;> simp only [act, Act.admits, Bool.false_eq_true] at admitted
  case opening.session res =>
    obtain rfl : log = [] := past
    cases res with
    | ok => rfl
    | error b => exact Or.inl ⟨b, rfl, rfl⟩
  case subscribing.subscription res =>
    obtain rfl : log = _ := past
    cases res with
    | ok => exact ⟨now, rfl, rfl⟩
    | error b => exact Or.inl ⟨b, rfl, rfl⟩
  case joining.published joined res =>
    obtain ⟨at_, same, rfl⟩ := past
    change joined = ⟨at_, user, room, .userJoined⟩ at same
    subst same
    cases res with
    | ok => exact ⟨at_, rfl⟩
    | error b => exact ⟨at_, b, rfl, rfl⟩
  case withdrawing.done =>
    obtain ⟨at_, b, rfl, rfl⟩ := past
    exact Or.inr ⟨at_, b, rfl, rfl⟩
  case abandoning.done =>
    rcases past with ⟨b, rfl, rfl⟩ | ⟨at_, b, rfl, rfl⟩
    · exact Or.inr (Or.inl ⟨b, rfl, rfl⟩)
    · exact Or.inr (Or.inr ⟨at_, b, rfl, rfl⟩)
  case counting.counted res =>
    obtain ⟨at_, rfl⟩ := past
    rcases res with b | _ | n
    all_goals exact ⟨at_, _, rfl, streams_snoc (List.forall_mem_nil _) (Or.inl rfl) rfl⟩
  case announcing.taken =>
    obtain ⟨at_, body, rfl, before⟩ := past
    exact ⟨at_, _, List.append_assoc .., streams_snoc before (Or.inr (Or.inl ⟨_, rfl⟩)) rfl⟩
  case announcing.peerGone =>
    obtain ⟨at_, body, rfl, before⟩ := past
    exact ⟨at_, _, List.append_assoc .., body, _, rfl, before, Or.inr (Or.inl ⟨_, rfl⟩), rfl⟩
  case listening.peerGone | listening.stopping | listening.feedOver =>
    all_goals
      obtain ⟨at_, body, rfl, before⟩ := past
      exact ⟨at_, _, List.append_assoc .., body, _, rfl, before, Or.inr (Or.inr rfl), rfl⟩
  case listening.delivery d =>
    obtain ⟨at_, body, rfl, before⟩ := past
    -- only a topic that cannot be read ends the streaming
    cases read : Key.decode d.topic with
    | error e =>
      have left : ending? ⟨.listen subscription, .delivery d⟩ = some (.failed (.routing e)) := by
        simp [ending?, read]
      simp only [resume, hear, step, read]
      exact ⟨at_, _, List.append_assoc .., body, _, rfl, before, Or.inr (Or.inr rfl), left⟩
    | ok key =>
      have goesOn : ending? ⟨.listen subscription, .delivery d⟩ = none := by simp [ending?, read]
      have next := streams_snoc before (Or.inr (Or.inr rfl)) goesOn
      simp only [resume, hear, step, read]
      by_cases own : key.user = user
      · simp only [own, if_true]
        exact ⟨at_, _, List.append_assoc .., next⟩
      · simp only [own, if_false]
        cases decode d.payload
        all_goals exact ⟨at_, _, List.append_assoc .., next⟩
  case forwarding.taken =>
    obtain ⟨at_, body, rfl, before⟩ := past
    exact ⟨at_, _, List.append_assoc .., streams_snoc before (Or.inr (Or.inl ⟨_, rfl⟩)) rfl⟩
  case forwarding.peerGone =>
    obtain ⟨at_, body, rfl, before⟩ := past
    exact ⟨at_, _, List.append_assoc .., body, _, rfl, before, Or.inr (Or.inl ⟨_, rfl⟩), rfl⟩
  case cancelling.done =>
    obtain ⟨at_, stream, rfl, streamed⟩ := past
    exact ⟨at_, stream, now, rfl, streamed, rfl⟩
  case leaving.published why left res =>
    obtain ⟨at_, stream, at_', rfl, streamed, same⟩ := past
    change left = ⟨at_', user, room, .userLeft⟩ at same
    subst same
    cases res
    all_goals exact ⟨at_, stream, at_', _, List.append_assoc .., streamed⟩
  case closing.done why =>
    obtain ⟨at_, stream, at_', res, rfl, streamed⟩ := past
    cases why with
    | failed e => exact ⟨at_, stream, at_', res, rfl, streamed⟩
    | cancelled | peerGone => exact ⟨at_, stream, at_', res, [], rfl, streamed, rfl⟩
  case reporting.taken | reporting.peerGone =>
    all_goals
      obtain ⟨at_, stream, at_', res, rfl, streamed⟩ := past
      exact ⟨at_, stream, at_', res, _, List.append_assoc .., streamed, _, rfl⟩

theorem Lives.past {first r : Relay} {log : List Exchange} (life : Lives first log r)
    (fresh : first.phase = .opening) : r.Past log := by
  induction life with
  | born => simp [Past, fresh]
  | goes _ now reply admitted ih => exact past_resume ih admitted now
  | takenUp _ waits ih =>
    rw [Past, waits] at ih
    exact ih

/-! ### The calls of a whole life -/

/-- The complete logs of a relay, by how far it got. `at_` are the times of its join and its leave. -/
inductive Bracketed (user room : String) (log : List Exchange) (r : Relay) : Prop where
  | unsubscribed (e : Failure) (phase : r.phase = .refused e) (unseen : offered log = [])
      (asked : calls log = [] ∨
        calls log = [.subscribe r.session (.roomPattern room) user, .close r.session])
  | unannounced (e : Failure) (at_ : Int64) (before : List Exchange) (phase : r.phase = .refused e)
      (unseen : offered log = [])
      (asked : calls log = [.subscribe r.session (.roomPattern room) user,
        .publish r.session (.event room user .userJoined) ⟨at_, user, room, .userJoined⟩,
        .close r.session])
      (cancelled : log = before ++ [⟨.cancel r.subscription, .done⟩, ⟨.closeSession r.session, .done⟩])
  /-- The stream came to its end. Whatever became of the leave, only a failure is offered after it. -/
  | left (why : Ending) (at_ at_' : Int64) (stream tail : List Exchange)
      (published : Except BrokerError Unit) (phase : r.phase = .ended why)
      (asked : calls log = [.subscribe r.session (.roomPattern room) user,
        .publish r.session (.event room user .userJoined) ⟨at_, user, room, .userJoined⟩,
        .publish r.session (.event room user .userLeft) ⟨at_', user, room, .userLeft⟩,
        .close r.session])
      (course : log = r.opening at_ (.ok ()) ++ stream ++ r.parting at_' published ++
        ⟨.closeSession r.session, .done⟩ :: tail)
      (streamed : r.Streamed stream why)
      (told : offered tail = (r.error.map Except.error).toList)
      (silent : calls tail = [])
      (final : r.state = if why = .cancelled then .closed else .failed)

theorem calls_streamed {r : Relay} {stream : List Exchange} {why : Ending}
    (streamed : r.Streamed stream why) : calls stream = [] := by
  obtain ⟨body, last, rfl, before, lastStreams, _⟩ := streamed
  have silent : ∀ x, r.Streams x → x.act.sessionCall? = none := by
    rintro x (h | ⟨e, h⟩ | h) <;> simp [h, Act.sessionCall?]
  have all : ∀ x ∈ body ++ [last], r.Streams x :=
    List.forall_mem_append.mpr
      ⟨fun x member => (before x member).1, List.forall_mem_singleton.mpr lastStreams⟩
  exact List.filterMap_eq_nil_iff.mpr fun x member => silent x (all x member)

theorem bracketed_of_refused {r : Relay} {log : List Exchange} {e : Failure}
    (phase : r.phase = .refused e) (past : r.Past log) : Bracketed r.user r.room log r := by
  rw [Past, phase] at past
  rcases past with ⟨b, rfl, rfl⟩ | ⟨b, rfl, rfl⟩ | ⟨at_, b, rfl, rfl⟩
  · exact .unsubscribed _ phase rfl (Or.inl rfl)
  · exact .unsubscribed _ phase rfl (Or.inr rfl)
  · exact .unannounced _ at_ (r.opening at_ (.error b)) phase rfl rfl rfl

theorem bracketed_of_ended {r : Relay} {log : List Exchange} {why : Ending}
    (phase : r.phase = .ended why) (past : r.Past log) : Bracketed r.user r.room log r := by
  rw [Past, phase] at past
  obtain ⟨at_, stream, at_', published, tail, rfl, streamed, told⟩ := past
  have ended : offered tail = (r.error.map Except.error).toList ∧ calls tail = [] := by
    cases why with
    | failed e =>
      obtain ⟨reply, rfl⟩ := told
      simp [error, phase, Act.item?, Act.sessionCall?]
    | cancelled | peerGone =>
      obtain rfl : tail = [] := told
      simp [error, phase]
  refine .left why at_ at_' stream tail published phase ?_ rfl streamed ended.1 ended.2 ?_
  · simp [calls_streamed streamed, ended.2, opening, parting, Act.sessionCall?, pattern, event,
      Event.key?, Payload.kind?]
  · cases why <;> simp [state, phase]

/-- For every broker and every end of the stream, a relay publishes its join at most once. If it
joined and was taken up, it publishes its leave exactly once, after the `cancel` and before the
`close`. -/
theorem joins_and_leaves {scope : Scope} {room user : String} {first r : Relay}
    {log : List Exchange} (known : scope.user = some user)
    (start : Relay.start scope room = .ok first) (life : Lives first log r) (finished : r.IsOver) :
    Bracketed user room log r := by
  obtain ⟨user', known', -, rfl⟩ := start_ok start
  obtain rfl : user = user' := Option.some.inj (known.symm.trans known')
  have past := life.past rfl
  have sameUser : r.user = user := life.user
  have sameRoom : r.room = room := life.room
  rw [← sameUser, ← sameRoom]
  rcases over_phase finished with ⟨e, refused⟩ | ⟨why, ended⟩
  · exact bracketed_of_refused refused past
  · exact bracketed_of_ended ended past

/-- A client that hangs up at once gets its join and its leave. -/
theorem joins_and_leaves_hang_up : ∃ log r,
    Lives { user := "ann", room := "attic" } log r ∧ r.IsOver ∧ Bracketed "ann" "attic" log r := by
  have subscribed := ((Lives.born : Lives { user := "ann", room := "attic" } [] _).goes 0
    (.session (.ok 7)) rfl).goes 0 (.subscription (.ok 3)) rfl
  have joined := subscribed.goes 0 (.published (.ok ())) rfl
  have listening := (joined.takenUp rfl).goes 0 (.counted (.ok none)) rfl
  have cancelled := (listening.goes 0 .peerGone rfl).goes 0 .done rfl
  have closed := (cancelled.goes 0 (.published (.ok ())) rfl).goes 0 .done rfl
  have start : Relay.start ⟨some "ann", none⟩ "attic" = .ok { user := "ann", room := "attic" } :=
    start_of_user rfl (by decide +kernel)
  exact ⟨_, _, closed, ⟨rfl, nofun⟩, joins_and_leaves rfl start closed ⟨rfl, nofun⟩⟩

/-! ### Parting -/

def partingBound : Phase → Option Nat
  | .cancelling _ => some 4
  | .leaving .. => some 3
  | .closing _ => some 2
  | .reporting _ => some 1
  | .ended _ => some 0
  | _ => none

theorem partingBound_resume {r : Relay} {reply : Reply} {n : Nat}
    (bound : partingBound r.phase = some n) (admitted : r.act.admits reply = true) (now : Int64) :
    ∃ m, partingBound (r.resume now reply).1.phase = some m ∧ m < n := by
  obtain ⟨user, room, session, subscription, phase, relayed, excluded, skipped⟩ := r
  cases phase <;> cases reply <;> simp only [act, Act.admits, Bool.false_eq_true] at admitted <;>
    cases bound
  case cancelling.done => exact ⟨3, rfl, by decide⟩
  case leaving.published res => cases res <;> exact ⟨2, rfl, by decide⟩
  case closing.done why => cases why <;> exact ⟨_, rfl, by decide⟩
  case reporting.taken | reporting.peerGone => all_goals exact ⟨0, rfl, by decide⟩

/-- Once the streaming has ended at most four exchanges follow, and until it is over the relay always
has a next act. -/
theorem parting_is_short {r r' : Relay} {why : Ending} {log : List Exchange}
    (parting : r.phase = .cancelling why) (life : Lives r log r') :
    log.length ≤ 4 ∧ (r'.IsOver ∨ r'.act ≠ .rest) := by
  -- every exchange lowers the bound by one at least
  have bounded : ∃ n, partingBound r'.phase = some n ∧ log.length + n ≤ 4 := by
    induction life with
    | born => exact ⟨4, by rw [parting, partingBound], Nat.le_refl 4⟩
    | goes _ now reply admitted ih =>
      obtain ⟨n, bound, short⟩ := ih
      obtain ⟨m, next, less⟩ := partingBound_resume bound admitted now
      exact ⟨m, next, by simp only [List.length_append, List.length_singleton]; omega⟩
    | takenUp _ waits ih =>
      obtain ⟨n, bound, _⟩ := ih
      rw [waits] at bound
      cases bound
  obtain ⟨n, bound, short⟩ := bounded
  refine ⟨by omega, ?_⟩
  by_cases rests : r'.act = .rest
  · exact Or.inl ⟨rests, fun waits => by rw [waits] at bound; cases bound⟩
  · exact Or.inr rests

end RoomRelay.Relay
