import RoomRelay.Broker.Mock
import RoomRelay.Proofs.Key.Verify
import RoomRelay.Proofs.World.Publishing

/-!
The keys that calls hand to their brokers are made of names that are segments. `Key.verify` accepts
these but for the name `0`, which is a segment and counts as an empty field, so that a client can
bring it in.
-/

namespace RoomRelay

def Act.keys : Act → List Key
  | subscribe _ pattern _ => [pattern]
  | publish _ event => event.key?.toList
  | count pattern => [pattern]
  | _ => []

def handed (log : List Exchange) (next : Act) : List Key :=
  log.flatMap (fun x => x.act.keys) ++ next.keys

theorem handed_snoc (log : List Exchange) (x : Exchange) (next : Act) :
    handed (log ++ [x]) next = handed log x.act ++ next.keys := by
  rw [handed, handed, List.flatMap_append, List.flatMap_singleton]

/-! ### The acts that hand out keys -/

theorem Relay.keys_of_act {r : Relay} {k : Key} (asks : k ∈ r.act.keys) :
    k = r.pattern ∨ ∃ session e, r.act = .publish session e ∧ e.key? = some k := by
  cases phase : r.phase with
  | subscribing | counting =>
    simp only [act, phase, Act.keys, List.mem_singleton] at asks
    exact .inl asks
  | joining e | leaving _ e =>
    simp only [act, phase, Act.keys, Option.mem_toList] at asks
    exact .inr ⟨_, e, by rw [act, phase], asks⟩
  | _ =>
    simp only [act, phase] at asks
    cases asks

theorem Sending.keys_of_act {s : Sending} {k : Key} (asks : k ∈ s.act.keys) :
    ∃ session e, s.act = .publish session e ∧ e.key? = some k := by
  cases phase : s.phase with
  | publishing session at_ room rooms =>
    simp only [act, phase, Act.keys, Option.mem_toList] at asks
    exact ⟨_, _, by rw [act, phase], asks⟩
  | opening | closing | «over» =>
    simp only [act, phase] at asks
    cases asks

namespace Call

def Names : Call → Key → Prop
  | relay r, k => k = Key.roomPattern r.room ∨ ∃ kind, k = .event r.room r.user kind
  | sending s, k => ∃ room ∈ s.rooms, ∃ kind, k = .event room s.user kind

theorem Publishes.names {first : Call} {e : Event} {k : Key} (publishes : first.Publishes e)
    (named : e.key? = some k) : first.Names k := by
  obtain ⟨kind, -, rfl⟩ := Option.map_eq_some_iff.mp named
  obtain ⟨user, what⟩ := publishes
  rw [user]
  cases first with
  | relay r =>
    rw [what.1]
    exact .inr ⟨kind, rfl⟩
  | sending s => exact ⟨_, what.1, kind, rfl⟩

theorem Continues.names {first call : Call} (continues : first.Continues call)
    (announces : ∀ r, call = relay r → r.Announces) {k : Key} (asks : k ∈ call.act.keys) :
    first.Names k := by
  have publishes : (∃ session e, call.act = .publish session e ∧ e.key? = some k) → first.Names k := by
    rintro ⟨session, e, act, named⟩
    exact (continues.publishes announces act).names named
  cases call with
  | relay r =>
    rcases Relay.keys_of_act asks with pattern | publish
    · obtain ⟨r', rfl, -, room⟩ := continues
      exact .inl (by rw [pattern, Relay.pattern, room])
    · exact publishes publish
  | sending s => exact publishes (Sending.keys_of_act asks)

end Call

/-! ### The keys of a whole life -/

theorem Sending.Lives.names {first s : Sending} {log : List Exchange} (life : first.Lives log s)
    (fresh : first.phase = .opening) :
    (Call.sending first).Continues (.sending s) ∧
      ∀ k ∈ handed log s.act, (Call.sending first).Names k := by
  have silent : ∀ (s : Sending) (r : Relay), Call.sending s = .relay r → r.Announces := by
    intro s r same
    cases same
  induction life with
  | born =>
    have continues : (Call.sending first).Continues (.sending first) :=
      ⟨first, rfl, ⟨rfl, rfl, rfl⟩, by rw [Within, fresh]; trivial⟩
    exact ⟨continues, fun k asks => continues.names (silent first) asks⟩
  | @goes log s _ now reply _ ih =>
    obtain ⟨continues, before⟩ := ih
    have continues' := continues.resume now reply
    refine ⟨continues', fun k member => ?_⟩
    rw [handed_snoc] at member
    rcases List.mem_append.mp member with old | new
    · exact before k old
    · exact continues'.names (silent _) new

theorem Relay.Lives.names {first r : Relay} {log : List Exchange} (life : first.Lives log r)
    (announces : first.Announces) :
    r.Announces ∧ ∀ k ∈ handed log r.act, (Call.relay first).Names k := by
  -- whatever it does next is in the names that it kept
  have next : ∀ {log : List Exchange} {r : Relay}, first.Lives log r → r.Announces →
      ∀ k ∈ r.act.keys, (Call.relay first).Names k := by
    intro log r life announces k asks
    have continues : (Call.relay first).Continues (.relay r) := ⟨first, rfl, life.user, life.room⟩
    exact continues.names (fun r' same => by cases same; exact announces) asks
  induction life with
  | born => exact ⟨announces, fun k asks => next .born announces k asks⟩
  | @goes log r life now reply admitted ih =>
    obtain ⟨announces, before⟩ := ih
    have announces' := announces.resume now reply
    refine ⟨announces', fun k member => ?_⟩
    rw [handed_snoc] at member
    rcases List.mem_append.mp member with old | new
    · exact before k old
    · exact next (.goes life now reply admitted) announces' k new
  | @takenUp log r life waits ih =>
    refine ⟨trivial, fun k member => ?_⟩
    rcases List.mem_append.mp member with old | new
    · exact ih.2 k (List.mem_append_left _ old)
    · exact next (.takenUp life waits) trivial k new

/-! ### The keys of accepted calls -/

theorem Topic.name_of_isSegment {s : String} (segment : isSegment s = true) :
    s ≠ "" ∧ separator ∉ s.toList := by
  refine ⟨?_, plain_of_isSafe (isSafe_of_isSegment segment)⟩
  rintro rfl
  cases segment

theorem Key.verify_of_segments {k : Key} (room : Topic.isSegment k.room = true)
    (user : Topic.isSegment k.user = true ∨ k.user = Topic.wildcard) : k.verify = k.verdict := by
  obtain ⟨some_room, whole⟩ := Topic.name_of_isSegment room
  have ⟨some_user, whole'⟩ : k.user ≠ "" ∧ Topic.separator ∉ k.user.toList := by
    rcases user with segment | wild
    · exact Topic.name_of_isSegment segment
    · rw [wild]
      decide
  exact verify_eq_verdict ⟨whole, whole'⟩ some_room some_user

theorem Sending.start_ok {headers : Headers} {req : SendRequest} {policy : StatusPolicy}
    {now limit : Nat} {scope : Scope} {s : Sending}
    (start : Sending.start headers req policy now limit = .ok (scope, s)) :
    ∃ user payload, headers.identity = .ok user ∧ req.validate user policy = .ok payload ∧
      s = { user, rooms := req.rooms, payload } := by
  unfold Sending.start at start
  split at start
  · cases start
  · rename_i prepared
    split at start
    · cases start
    · rename_i user required
      split at start
      · cases start
      · rename_i payload valid
        cases start
        have known : scope.user = some user := by
          unfold Scope.requireUser at required
          split at required
          · rw [‹scope.user = _›, Except.ok.inj required]
          · cases required
        exact ⟨user, payload, Scope.prepare_identity prepared known, valid, rfl⟩

namespace Call

/-- Whatever its broker replies, an accepted call hands out keys of its own names only, and `verify`
accepts all of them unless one of the names is `0`. -/
theorem keys_pass_but_zero (headers : Headers) (now limit : Nat) :
    (∀ req policy scope s, Sending.start headers req policy now limit = .ok (scope, s) →
      ∃ user, headers.identity = .ok user ∧
        ∀ log s', s.Lives log s' → ∀ k ∈ handed log s'.act,
          (∃ room ∈ req.rooms, ∃ kind, k = .event room user kind) ∧ k.verify = k.verdict) ∧
    ∀ scope room r, Scope.prepare headers .streaming now limit = .ok scope →
      Relay.start scope room = .ok r →
      ∃ user, headers.identity = .ok user ∧
        ∀ log r', r.Lives log r' → ∀ k ∈ handed log r'.act,
          (k = Key.roomPattern room ∨ ∃ kind, k = .event room user kind) ∧ k.verify = k.verdict := by
  constructor
  · intro req policy scope s start
    obtain ⟨user, payload, known, valid, rfl⟩ := Sending.start_ok start
    refine ⟨user, known, fun log s' life k member => ?_⟩
    obtain ⟨room, listed, kind, rfl⟩ := (life.names rfl).2 k member
    have segment := (SendRequest.accepted_of_validate valid).segments room listed
    exact ⟨⟨room, listed, kind, rfl⟩,
      Key.verify_of_segments segment (.inl (Headers.identity_segment known))⟩
  · intro scope room r prepared start
    obtain ⟨user, known, segment, rfl⟩ := Relay.start_ok start
    have identity := Scope.prepare_identity prepared known
    refine ⟨user, identity, fun log r' life k member => ?_⟩
    have names := (life.names trivial).2 k member
    refine ⟨names, ?_⟩
    rcases names with rfl | ⟨kind, rfl⟩
    · exact Key.verify_of_segments segment (.inr rfl)
    · exact Key.verify_of_segments segment (.inl (Headers.identity_segment identity))

theorem keys_pass_but_zero_two_rooms :
    let headers : Headers := [("x-user", [97, 110, 110])]
    let req : SendRequest := { event := some { joined := true }, rooms := ["0", "attic"] }
    (∃ scope s log s', Sending.start headers req .allow 0 500 = .ok (scope, s) ∧ s.Lives log s' ∧
      handed log s'.act = [.event "0" "ann" .userJoined, .event "attic" "ann" .userJoined] ∧
      (Key.event "0" "ann" .userJoined).verify =
        .error (.emptySegment ["evt", "0", "ann", "userjoinedroom"] 1) ∧
      (Key.event "attic" "ann" .userJoined).verify = .ok 4) ∧
    ∃ scope r log r', Scope.prepare headers .streaming 0 500 = .ok scope ∧
      Relay.start scope "0" = .ok r ∧ r.Lives log r' ∧ handed log r'.act = [.roomPattern "0"] ∧
      (Key.roomPattern "0").verify = .error (.emptySegment ["evt", "0", "*", "*"] 1) := by
  intro headers req
  obtain ⟨sends, receives⟩ := keys_pass_but_zero headers 0 500
  constructor
  · let s : Sending := { user := "ann", rooms := ["0", "attic"], payload := .userJoined }
    let s₁ := s.resume 7 (.session (.ok 0))
    let s₂ := s₁.resume 8 (.published (.ok ()))
    have start : Sending.start headers req .allow 0 500 = .ok (⟨some "ann", some 500⟩, s) := rfl
    have life : s.Lives [⟨s.act, .session (.ok 0)⟩, ⟨s₁.act, .published (.ok ())⟩] s₂ :=
      .goes (.goes .born 7 _ rfl) 8 _ rfl
    obtain ⟨user, -, all⟩ := sends req .allow _ s start
    have first := all _ _ life (.event "0" "ann" .userJoined) (by decide)
    have second := all _ _ life (.event "attic" "ann" .userJoined) (by decide)
    exact ⟨_, s, _, s₂, start, life, by decide, first.2, second.2⟩
  · let r : Relay := { user := "ann", room := "0" }
    let r₁ := (r.resume 7 (.session (.ok 0))).1
    have life : r.Lives [⟨r.act, .session (.ok 0)⟩] r₁ := .goes .born 7 _ rfl
    obtain ⟨user, -, all⟩ := receives ⟨some "ann", none⟩ "0" r rfl rfl
    have asks := all _ _ life (.roomPattern "0") (by decide)
    exact ⟨_, r, _, r₁, rfl, rfl, life, by decide, asks.2⟩

end Call

/-- A room of the name `0` is accepted, and the copy for it published on a key that `verify`
refuses. -/
theorem Service.zero_gets_through :
    let headers : Headers := [("x-user", [97, 110, 110])]
    let req : SendRequest := { event := some { joined := true }, rooms := ["0"] }
    let sent := sendEvent { policy := .allow } ({ broker := {}, clock := 7 } : World Mock) headers req
    sent.1 = .ok () ∧
      sent.2.broker.published.map Delivery.topic = [(Key.event "0" "ann" .userJoined).encode] ∧
      (Key.event "0" "ann" .userJoined).verify =
        .error (.emptySegment ["evt", "0", "ann", "userjoinedroom"] 1) := by
  decide +kernel

end RoomRelay
