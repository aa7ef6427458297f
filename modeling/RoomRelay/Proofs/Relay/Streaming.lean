import Mathlib.Data.List.TakeWhile
import RoomRelay.Proofs.Event.Wire
import RoomRelay.Proofs.Relay.Life

/-!
What the client of a relay is sent. `Tally` relates the stream and the relay's counters to the
deliveries heard so far, in every phase; for a client that keeps reading it gives the whole stream.
-/
namespace RoomRelay.Relay

/-! ### What becomes of a delivery -/

def isReadable (d : Delivery) : Bool :=
  (Key.decode d.topic).isOk

def isOwn (user : String) (d : Delivery) : Bool :=
  match Key.decode d.topic with
  | .ok key => key.user == user
  | .error _ => false

/-- The record that a delivery adds to the stream of `user`: that of an event of somebody else. -/
def contribution (user : String) (d : Delivery) : Option Wire.Event :=
  if isOwn user d then none else (Wire.Event.decode? d.payload).filter Wire.Event.isEvent

def isUndecodable (user : String) (d : Delivery) : Bool :=
  !isOwn user d && (contribution user d).isNone

theorem decode_eq (payload : List UInt8) :
    (∃ w, (Wire.Event.decode? payload).filter Wire.Event.isEvent = some w ∧
      decode payload = .ok w) ∨
    ((Wire.Event.decode? payload).filter Wire.Event.isEvent = none ∧
      ∃ why, decode payload = .error why) := by
  cases bytes : Wire.Event.decode? payload with
  | none => exact Or.inr ⟨rfl, .bytes, by simp [decode, bytes]⟩
  | some w =>
    cases event : w.isEvent with
    | true =>
      obtain ⟨e, known, same⟩ := Wire.toDomain_of_isEvent event
      exact Or.inl ⟨w, by simp [Option.filter, event], by simp [decode, bytes, known, same]⟩
    | false =>
      obtain ⟨why, unknown⟩ := Wire.toDomain_of_not_isEvent event
      exact Or.inr ⟨by simp [Option.filter, event], .payload why, by simp [decode, bytes, unknown]⟩

/-- `step` decodes the topic, then compares the user, then decodes the payload. -/
theorem step_cases (user : String) (d : Delivery) :
    (∃ e, isReadable d = false ∧ Key.decode d.topic = .error e ∧ step user d = .fail (.routing e)) ∨
    (isReadable d = true ∧ isOwn user d = true ∧ step user d = .exclude) ∨
    (∃ w, isReadable d = true ∧ isOwn user d = false ∧ contribution user d = some w ∧
      step user d = .forward w) ∨
    (isReadable d = true ∧ isOwn user d = false ∧ contribution user d = none ∧
      step user d = .skip) := by
  unfold contribution isReadable isOwn step
  cases Key.decode d.topic with
  | error e => exact Or.inl ⟨e, rfl, rfl, rfl⟩
  | ok key =>
    by_cases own : key.user = user
    · exact Or.inr (Or.inl ⟨rfl, by simpa using own, by simp [own]⟩)
    · rcases decode_eq d.payload with ⟨w, event, decoded⟩ | ⟨noEvent, why, failed⟩
      · exact Or.inr (Or.inr (Or.inl ⟨w, rfl, by simpa using own, by simpa [own] using event,
          by simp [own, decoded]⟩))
      · exact Or.inr (Or.inr (Or.inr ⟨rfl, by simpa using own, by simpa [own] using noEvent,
          by simp [own, failed]⟩))

/-! ### What a relay has told its client -/

/-- The occupancy at the head of a stream, if `count` answered one. -/
def welcome (user room : String) (at_ : Int64) (counted : Except BrokerError (Option Nat)) :
    List Wire.Event :=
  match counted with
  | .ok (some n) => [{ createdAt := at_, byUser := user, inRoom := room, users := some n.toUInt32 }]
  | _ => []

def Counts (r : Relay) (ds : List Delivery) : Prop :=
  r.relayed = (ds.filterMap (contribution r.user)).length ∧
  r.excluded = ds.countP (isOwn r.user) ∧
  r.skipped = ds.countP (isUndecodable r.user)

/-- The client was sent the `welcome` and the `contribution` of each of `ds`, and nothing else. -/
def Told (r : Relay) (log : List Exchange) (ds : List Delivery) : Prop :=
  (∃ at_ counted, ⟨.count r.pattern, .counted counted⟩ ∈ log ∧
    sent log = (welcome r.user r.room at_ counted ++ ds.filterMap (contribution r.user)).map .ok) ∧
  (∀ d ∈ ds, isReadable d = true) ∧ r.Counts ds

def Stopped (r : Relay) (log : List Exchange) : Ending → Prop
  | .cancelled => ∃ x ∈ log, x.reply = .peerGone ∨ x.reply = .stopping
  | .peerGone => ∃ x ∈ log, x.reply = .peerGone
  | .failed e =>
    (e = .broker (.subscribe "subscription ended") ∧ (∃ x ∈ log, x.reply = .feedOver) ∧
      r.Told log (heard log)) ∨
    (∃ ds d why, e = .routing why ∧ heard log = ds ++ [d] ∧ isReadable d = false ∧ r.Told log ds)

/-- The invariant of a relay that was taken up, by phase. -/
def Tally (r : Relay) (log : List Exchange) : Prop :=
  match r.phase with
  | .counting => log = [] ∧ r.Counts []
  | .announcing occupancy =>
    ∃ at_ n, occupancy = ⟨at_, r.user, r.room, .occupancy n.toUInt32⟩ ∧
      log = [⟨.count r.pattern, .counted (.ok (some n))⟩] ∧ r.Counts []
  | .listening => r.Told log (heard log)
  | .forwarding e =>
    ∃ ds d, heard log = ds ++ [d] ∧ isReadable d = true ∧ isOwn r.user d = false ∧
      contribution r.user d = some e ∧ r.Told log ds
  | .cancelling why | .leaving why _ | .closing why => r.Stopped log why
  | .reporting e => r.Stopped log (.failed e)
  | .ended (.failed e) =>
    ∃ before reply, log = before ++ [⟨.offer (.error e.status), reply⟩] ∧
      (reply = .taken ∨ reply = .peerGone) ∧ r.Stopped before (.failed e)
  | .ended why => r.Stopped log why
  | _ => False

def Quiet (x : Exchange) : Prop :=
  x.sent? = none ∧ x.heard? = none

theorem Told.unsent {r : Relay} {log : List Exchange} {ds : List Delivery} {x : Exchange}
    (told : r.Told log ds) (unsent : x.sent? = none) : r.Told (log ++ [x]) ds := by
  obtain ⟨⟨at_, counted, asked, stream⟩, readable, counts⟩ := told
  exact ⟨⟨at_, counted, List.mem_append_left _ asked, by simp [stream, unsent]⟩, readable, counts⟩

/-- `Told` with one more delivery, whose `contribution` is what the exchange sends. -/
theorem Told.snoc {r r' : Relay} {log : List Exchange} {ds : List Delivery} {d : Delivery}
    {x : Exchange} (told : r.Told log ds) (counts : r'.Counts (ds ++ [d]))
    (user : r'.user = r.user) (room : r'.room = r.room) (readable : isReadable d = true)
    (adds : x.sent?.toList = ((contribution r.user d).map Except.ok).toList) :
    r'.Told (log ++ [x]) (ds ++ [d]) := by
  obtain ⟨⟨at_, counted, asked, stream⟩, before, -⟩ := told
  refine ⟨⟨at_, counted, ?_, ?_⟩, ?_, counts⟩
  · rw [pattern, room]
    exact List.mem_append_left _ asked
  · rw [user, room]
    cases added : contribution r.user d <;> simp [stream, adds, added]
  · exact List.forall_mem_append.mpr ⟨before, List.forall_mem_singleton.mpr readable⟩

theorem Stopped.quiet {r : Relay} {log : List Exchange} {x : Exchange} (why : Ending)
    (stopped : r.Stopped log why) (quiet : Quiet x) : r.Stopped (log ++ [x]) why := by
  have later : ∀ {P : Exchange → Prop}, (∃ y ∈ log, P y) → ∃ y ∈ log ++ [x], P y :=
    fun ⟨y, member, holds⟩ => ⟨y, List.mem_append_left _ member, holds⟩
  cases why with
  | cancelled => exact later stopped
  | peerGone => exact later stopped
  | failed e =>
    rcases stopped with ⟨cause, feedOver, told⟩ | ⟨ds, d, why, cause, last, unreadable, told⟩
    · have same : heard (log ++ [x]) = heard log := by simp [quiet.2]
      exact Or.inl ⟨cause, later feedOver, same ▸ told.unsent quiet.1⟩
    · exact Or.inr ⟨ds, d, why, cause, by simp [last, quiet.2], unreadable, told.unsent quiet.1⟩

theorem Counts.excluded_snoc {r : Relay} {ds : List Delivery} {d : Delivery} (counts : r.Counts ds)
    (own : isOwn r.user d = true) : Counts { r with excluded := r.excluded + 1 } (ds ++ [d]) := by
  obtain ⟨relayed, excluded, skipped⟩ := counts
  refine ⟨?_, ?_, ?_⟩ <;> simp [relayed, excluded, skipped, contribution, isUndecodable, own]

theorem Counts.skipped_snoc {r : Relay} {ds : List Delivery} {d : Delivery} (counts : r.Counts ds)
    (other : isOwn r.user d = false) (nothing : contribution r.user d = none) :
    Counts { r with skipped := r.skipped + 1 } (ds ++ [d]) := by
  obtain ⟨relayed, excluded, skipped⟩ := counts
  refine ⟨?_, ?_, ?_⟩ <;> simp [relayed, excluded, skipped, isUndecodable, other, nothing]

theorem Counts.relayed_snoc {r : Relay} {ds : List Delivery} {d : Delivery} {e : Wire.Event}
    (counts : r.Counts ds) (other : isOwn r.user d = false)
    (something : contribution r.user d = some e) :
    Counts { r with relayed := r.relayed + 1 } (ds ++ [d]) := by
  obtain ⟨relayed, excluded, skipped⟩ := counts
  refine ⟨?_, ?_, ?_⟩ <;> simp [relayed, excluded, skipped, isUndecodable, other, something]

theorem tally_resume {r : Relay} {log : List Exchange} {reply : Reply} (tally : r.Tally log)
    (admitted : r.act.admits reply = true) (now : Int64) :
    (r.resume now reply).1.Tally (log ++ [⟨r.act, reply⟩]) := by
  obtain ⟨user, room, session, subscription, phase, relayed, excluded, skipped⟩ := r
  cases phase <;> cases reply <;> simp only [act, Act.admits, Bool.false_eq_true] at admitted <;>
    try exact tally.elim
  case counting.counted res =>
    obtain ⟨rfl, counts⟩ := tally
    rcases res with b | _ | n
    · exact ⟨⟨now, _, List.mem_singleton.mpr rfl, rfl⟩, List.forall_mem_nil _, counts⟩
    · exact ⟨⟨now, _, List.mem_singleton.mpr rfl, rfl⟩, List.forall_mem_nil _, counts⟩
    · exact ⟨now, n, rfl, rfl, counts⟩
  case announcing.taken occupancy =>
    obtain ⟨at_, n, same, rfl, counts⟩ := tally
    change occupancy = ⟨at_, user, room, .occupancy n.toUInt32⟩ at same
    subst same
    exact ⟨⟨at_, _, List.mem_cons_self, rfl⟩, List.forall_mem_nil _, counts⟩
  case announcing.peerGone =>
    exact ⟨_, List.mem_append_right _ (List.mem_singleton.mpr rfl), rfl⟩
  case listening.peerGone =>
    exact ⟨_, List.mem_append_right _ (List.mem_singleton.mpr rfl), Or.inl rfl⟩
  case listening.stopping =>
    exact ⟨_, List.mem_append_right _ (List.mem_singleton.mpr rfl), Or.inr rfl⟩
  case listening.feedOver =>
    have told : Told _ (log ++ [⟨.listen subscription, .feedOver⟩]) (heard log) :=
      Told.unsent tally rfl
    have same : heard (log ++ [⟨.listen subscription, .feedOver⟩]) = heard log := by
      simp [Exchange.heard?]
    refine Or.inl ⟨rfl, ⟨_, List.mem_append_right _ (List.mem_singleton.mpr rfl), rfl⟩, ?_⟩
    exact same ▸ told
  case listening.delivery d =>
    have one : heard (log ++ [⟨.listen subscription, .delivery d⟩]) = heard log ++ [d] := by
      simp [Exchange.heard?]
    have told : Told _ log (heard log) := tally
    rcases step_cases user d with ⟨e, unreadable, -, fails⟩ | ⟨readable, own, excludes⟩ |
      ⟨w, readable, other, adds, forwards⟩ | ⟨readable, other, nothing, skips⟩
    · simp only [resume, hear, fails]
      exact Or.inr ⟨heard log, d, e, rfl, one, unreadable, told.unsent rfl⟩
    · simp only [resume, hear, excludes]
      have next := told.snoc (x := ⟨.listen subscription, .delivery d⟩)
        (told.2.2.excluded_snoc own) rfl rfl readable (by simp [contribution, own, Exchange.sent?])
      rw [← one] at next
      exact next
    · simp only [resume, hear, forwards]
      exact ⟨heard log, d, one, readable, other, adds, told.unsent rfl⟩
    · simp only [resume, hear, skips]
      have next := told.snoc (x := ⟨.listen subscription, .delivery d⟩)
        (told.2.2.skipped_snoc other nothing) rfl rfl readable (by simp [nothing, Exchange.sent?])
      rw [← one] at next
      exact next
  case forwarding.taken e =>
    obtain ⟨ds, d, last, readable, other, adds, told⟩ := tally
    have same : heard (log ++ [⟨.offer (.ok e), .taken⟩]) = ds ++ [d] := by
      simp [last, Exchange.heard?]
    have next := told.snoc (x := ⟨.offer (.ok e), .taken⟩)
      (told.2.2.relayed_snoc other adds) rfl rfl readable (by simp [adds, Exchange.sent?])
    rw [← same] at next
    exact next
  case forwarding.peerGone =>
    exact ⟨_, List.mem_append_right _ (List.mem_singleton.mpr rfl), rfl⟩
  case cancelling.done why => exact Stopped.quiet why tally ⟨rfl, rfl⟩
  case leaving.published why left res =>
    have stopped := Stopped.quiet (x := ⟨.publish session left, .published res⟩) why tally ⟨rfl, rfl⟩
    cases res
    all_goals exact stopped
  case closing.done why =>
    have stopped := Stopped.quiet (x := ⟨.closeSession session, .done⟩) why tally ⟨rfl, rfl⟩
    cases why
    all_goals exact stopped
  case reporting.taken => exact ⟨_, _, rfl, Or.inl rfl, tally⟩
  case reporting.peerGone => exact ⟨_, _, rfl, Or.inr rfl, tally⟩

theorem Lives.tally {opened r : Relay} {log : List Exchange} (life : Lives opened.run log r)
    (counts : opened.Counts []) : r.Tally log := by
  induction life with
  | born => exact ⟨rfl, counts⟩
  | goes _ now reply admitted ih => exact tally_resume ih admitted now
  | takenUp _ waits ih =>
    rw [Tally, waits] at ih
    exact ih.elim

def Uncounted (r : Relay) : Prop :=
  match r.phase with
  | .opening | .subscribing | .joining _ | .joined => r.Counts []
  | _ => True

theorem uncounted_resume {r : Relay} {reply : Reply} (uncounted : r.Uncounted)
    (admitted : r.act.admits reply = true) (now : Int64) : (r.resume now reply).1.Uncounted := by
  obtain ⟨user, room, session, subscription, phase, relayed, excluded, skipped⟩ := r
  cases phase <;> cases reply <;> simp only [act, Act.admits, Bool.false_eq_true] at admitted
  case listening.delivery d =>
    simp only [resume, hear]
    split <;> trivial
  case counting.counted res => rcases res with b | _ | n <;> trivial
  case closing.done why => cases why <;> trivial
  case opening.session res | subscribing.subscription res | joining.published res =>
    all_goals
      cases res with
      | ok => exact uncounted
      | error => trivial
  case leaving.published res => cases res <;> trivial
  all_goals trivial

theorem Lives.uncounted {first r : Relay} {log : List Exchange} (life : Lives first log r)
    (uncounted : first.Uncounted) : r.Uncounted := by
  induction life with
  | born => exact uncounted
  | goes _ now reply admitted ih => exact uncounted_resume ih admitted now
  | takenUp => trivial

/-! ### A client that keeps reading -/

/-- The client keeps reading, the service is not stopped, `count` answers `counted`, and the
subscription gives `ds` and then ends. -/
structure Attended (counted : Except BrokerError (Option Nat)) (ds : List Delivery)
    (log : List Exchange) : Prop where
  reads : ∀ x ∈ log, x.reply ≠ .peerGone
  unstopped : ∀ x ∈ log, x.reply ≠ .stopping
  counts : ∀ x ∈ log, ∀ c, x.reply = .counted c → c = counted
  hears : heard log <+: ds
  ends : ∀ x ∈ log, x.reply = .feedOver → heard log = ds

def plain : Reply → Bool
  | .session _ | .subscription _ | .published _ | .done | .taken => true
  | _ => false

theorem Attended.snoc {counted : Except BrokerError (Option Nat)} {ds : List Delivery}
    {log : List Exchange} {x : Exchange} (attended : Attended counted ds log)
    (reads : x.reply ≠ .peerGone) (unstopped : x.reply ≠ .stopping)
    (counts : ∀ c, x.reply = .counted c → c = counted) (hears : heard (log ++ [x]) <+: ds)
    (ends : ∀ y ∈ log ++ [x], y.reply = .feedOver → heard (log ++ [x]) = ds) :
    Attended counted ds (log ++ [x]) where
  reads := List.forall_mem_append.mpr ⟨attended.reads, List.forall_mem_singleton.mpr reads⟩
  unstopped := List.forall_mem_append.mpr ⟨attended.unstopped, List.forall_mem_singleton.mpr unstopped⟩
  counts := List.forall_mem_append.mpr ⟨attended.counts, List.forall_mem_singleton.mpr counts⟩
  hears := hears
  ends := ends

theorem Attended.plain {counted : Except BrokerError (Option Nat)} {ds : List Delivery}
    {log : List Exchange} {x : Exchange} (attended : Attended counted ds log)
    (h : Relay.plain x.reply = true) : Attended counted ds (log ++ [x]) := by
  have unheard : heard (log ++ [x]) = heard log := by
    cases reply : x.reply <;> simp [reply, Relay.plain] at h <;> simp [Exchange.heard?, reply]
  refine attended.snoc ?_ ?_ ?_ (unheard ▸ attended.hears) ?_
  · intro gone; simp [gone, Relay.plain] at h
  · intro stop; simp [stop, Relay.plain] at h
  · intro c count; simp [count, Relay.plain] at h
  · rw [unheard]
    refine List.forall_mem_append.mpr ⟨attended.ends, List.forall_mem_singleton.mpr ?_⟩
    intro ends; simp [ends, Relay.plain] at h

theorem ends_of_cancelling {first r : Relay} {counted : Except BrokerError (Option Nat)}
    {ds : List Delivery} {log : List Exchange} {e : Failure} (life : Lives first log r)
    (attended : Attended counted ds log) (phase : r.phase = .cancelling (.failed e)) :
    ∃ log' r', Lives first log' r' ∧ Attended counted ds log' ∧ r'.IsOver := by
  obtain ⟨user, room, session, subscription, _, relayed, excluded, skipped⟩ := r
  cases phase
  have cancelled := life.goes 0 .done rfl
  have left := cancelled.goes 0 (.published (.ok ())) rfl
  have closed := left.goes 0 .done rfl
  have told := closed.goes 0 .taken rfl
  exact ⟨_, _, told, (((attended.plain rfl).plain rfl).plain rfl).plain rfl, rfl, nofun⟩

/-- A relay that listens goes on through the rest of the deliveries to its end. -/
theorem ends_of_listening {first r : Relay} {counted : Except BrokerError (Option Nat)}
    {ds rest : List Delivery} {log : List Exchange} (life : Lives first log r)
    (attended : Attended counted ds log) (phase : r.phase = .listening)
    (left : ds = heard log ++ rest) :
    ∃ log' r', Lives first log' r' ∧ Attended counted ds log' ∧ r'.IsOver := by
  induction rest generalizing log r with
  | nil =>
    have attendedAll : Attended counted ds (log ++ [⟨r.act, .feedOver⟩]) := by
      refine attended.snoc nofun nofun nofun ?_ ?_ <;> simp [Exchange.heard?, left]
    have ended := life.goes 0 .feedOver (by simp [act, phase, Act.admits])
    exact ends_of_cancelling (e := .broker (.subscribe "subscription ended")) ended attendedAll
      (by simp [resume, phase])
  | cons d rest ih =>
    have one : heard (log ++ [⟨r.act, .delivery d⟩]) = heard log ++ [d] := by simp [Exchange.heard?]
    have goesOn : ds = heard (log ++ [⟨r.act, .delivery d⟩]) ++ rest := by simp [one, left]
    -- The feed is not over while it still holds a delivery.
    have notOver : ∀ y ∈ log, y.reply ≠ .feedOver := by
      intro y member ends
      rw [attended.ends y member ends] at left
      simp at left
    have hears : Attended counted ds (log ++ [⟨r.act, .delivery d⟩]) := by
      refine attended.snoc nofun nofun nofun ⟨rest, goesOn.symm⟩ ?_
      exact List.forall_mem_append.mpr
        ⟨fun y member ends => absurd ends (notOver y member), List.forall_mem_singleton.mpr nofun⟩
    have next := life.goes 0 (.delivery d) (by simp [act, phase, Act.admits])
    rcases step_cases r.user d with ⟨e, -, -, fails⟩ | ⟨-, -, excludes⟩ | ⟨w, -, -, -, forwards⟩ |
      ⟨-, -, -, skips⟩
    · exact ends_of_cancelling (e := .routing e) next hears (by simp [resume, phase, hear, fails])
    · exact ih next hears (by simp [resume, phase, hear, excludes]) goesOn
    · have forwarding : (r.resume 0 (.delivery d)).1.phase = .forwarding w := by
        simp [resume, phase, hear, forwards]
      generalize (r.resume 0 (.delivery d)).1 = q at next forwarding
      have taken := next.goes 0 .taken (by simp [act, forwarding, Act.admits])
      refine ih taken (hears.plain rfl) (by simp [resume, forwarding]) ?_
      simpa [Exchange.heard?] using left
    · exact ih next hears (by simp [resume, phase, hear, skips]) goesOn

theorem ends_of_counting {r : Relay} (counted : Except BrokerError (Option Nat))
    (ds : List Delivery) :
    ∃ log r', Lives r.run log r' ∧ Attended counted ds log ∧ r'.IsOver := by
  have asked : Lives r.run [⟨.count r.pattern, .counted counted⟩] _ :=
    Lives.born.goes 0 (.counted counted) rfl
  have attended : Attended counted ds [⟨.count r.pattern, .counted counted⟩] := by
    constructor <;> simp [Exchange.heard?]
  rcases counted with b | _ | n
  · exact ends_of_listening asked attended rfl rfl
  · exact ends_of_listening asked attended rfl rfl
  · have greeted := asked.goes 0 .taken rfl
    exact ends_of_listening greeted (attended.plain rfl) rfl rfl

/-- The status at the end of a stream: the feed is over, or a topic could not be decoded. -/
def lastStatus (ds : List Delivery) : Status :=
  if ds.all isReadable then ⟨.unavailable, "Event broker temporarily unavailable"⟩
  else ⟨.internal, "corrupted routing key"⟩

theorem takeWhile_readable {ds hs rest : List Delivery} {d : Delivery}
    (readable : ∀ y ∈ hs, isReadable y = true) (unreadable : isReadable d = false)
    (split : ds = hs ++ d :: rest) : ds.takeWhile isReadable = hs := by
  rw [split, List.takeWhile_append_of_pos readable, List.takeWhile_cons_of_neg (by simp [unreadable]),
    List.append_nil]

theorem failed_of_attended {r : Relay} {counted : Except BrokerError (Option Nat)}
    {ds : List Delivery} {log : List Exchange} (tally : r.Tally log)
    (attended : Attended counted ds log) (finished : r.IsOver) :
    ∃ e before, r.phase = .ended (.failed e) ∧
      log = before ++ [⟨.offer (.error e.status), .taken⟩] ∧ e.status = lastStatus ds ∧
      heard log = ds.take ((ds.takeWhile isReadable).length + 1) ∧
      r.Told before (ds.takeWhile isReadable) := by
  rcases over_phase finished with ⟨e, refused⟩ | ⟨why, ended⟩
  · rw [Tally, refused] at tally
    exact tally.elim
  rw [Tally, ended] at tally
  cases why with
  | cancelled =>
    obtain ⟨x, member, gone | stop⟩ := tally
    · exact absurd gone (attended.reads x member)
    · exact absurd stop (attended.unstopped x member)
  | peerGone =>
    obtain ⟨x, member, gone⟩ := tally
    exact absurd gone (attended.reads x member)
  | failed e =>
    obtain ⟨before, reply, rfl, rfl | rfl, stopped⟩ := tally
    · have heardBefore : heard (before ++ [⟨.offer (.error e.status), .taken⟩]) = heard before := by
        simp [Exchange.heard?]
      refine ⟨e, before, ended, rfl, ?_⟩
      rcases stopped with ⟨rfl, ⟨x, member, feedOver⟩, told⟩ | ⟨hs, d, why, rfl, last, unreadable, told⟩
      · have all := attended.ends x (List.mem_append_left _ member) feedOver
        rw [heardBefore] at all ⊢
        rw [all] at told ⊢
        have kept : ds.takeWhile isReadable = ds := List.takeWhile_eq_self_iff.mpr told.2.1
        rw [kept]
        exact ⟨by simp [lastStatus, List.all_eq_true.mpr told.2.1, Failure.status],
          (List.take_of_length_le (Nat.le_succ _)).symm, told⟩
      · obtain ⟨rest, split⟩ := attended.hears
        rw [heardBefore, last, List.append_assoc] at split
        have kept := takeWhile_readable told.2.1 unreadable split.symm
        rw [heardBefore, last, kept]
        refine ⟨?_, ?_, told⟩
        · simp [lastStatus, ← split, unreadable, Failure.status]
        · rw [← split, List.take_length_add_append]
          rfl
    · exact absurd rfl (attended.reads _ (List.mem_append_right _ (List.mem_singleton.mpr rfl)))

theorem counts_of_start {scope : Scope} {room : String} {first opened : Relay}
    {before : List Exchange} (start : Relay.start scope room = .ok first)
    (life : Lives first before opened) (waits : opened.phase = .joined) : opened.Counts [] := by
  obtain ⟨user, -, -, rfl⟩ := start_ok start
  have uncounted := life.uncounted ⟨rfl, rfl, rfl⟩
  rwa [Uncounted, waits] at uncounted

/-- The whole stream of a client that keeps reading: the `welcome`, the `contribution` of each
delivery up to the first that is not readable, and `lastStatus`. Such a run exists for all `ds`. -/
theorem stream_of_reading_client {scope : Scope} {room user : String} {first opened : Relay}
    {before : List Exchange} (known : scope.user = some user)
    (start : Relay.start scope room = .ok first) (life : Lives first before opened)
    (waits : opened.phase = .joined) (counted : Except BrokerError (Option Nat))
    (ds : List Delivery) :
    (∃ log r, Lives opened.run log r ∧ Attended counted ds log ∧ r.IsOver) ∧
    ∀ log r, Lives opened.run log r → Attended counted ds log → r.IsOver →
      let kept := ds.takeWhile isReadable
      (∃ at_, sent log =
        (welcome user room at_ counted ++ kept.filterMap (contribution user)).map .ok ++
          [.error (lastStatus ds)]) ∧
      heard log = ds.take (kept.length + 1) ∧
      r.relayed = (kept.filterMap (contribution user)).length ∧
      r.excluded = kept.countP (isOwn user) ∧
      r.skipped = kept.countP (isUndecodable user) ∧
      r.error = some (lastStatus ds) ∧ r.state = .failed := by
  refine ⟨ends_of_counting counted ds, ?_⟩
  intro log r streaming attended finished
  have tally := streaming.tally (counts_of_start start life waits)
  obtain ⟨e, told, phase, rfl, status, heard, ⟨at_, c, asked, stream⟩, -, relayed, excluded, skipped⟩ :=
    failed_of_attended tally attended finished
  obtain rfl : c = counted := attended.counts _ (List.mem_append_left _ asked) c rfl
  obtain ⟨user', known', -, rfl⟩ := start_ok start
  obtain rfl : user = user' := Option.some.inj (known.symm.trans known')
  have sameUser : r.user = user := streaming.user.trans life.user
  have sameRoom : r.room = room := streaming.room.trans life.room
  rw [sameUser] at relayed excluded skipped stream
  rw [sameRoom] at stream
  refine ⟨⟨at_, ?_⟩, heard, relayed, excluded, skipped, ?_, ?_⟩
  · simp [stream, Exchange.sent?, status]
  · simp [error, phase, status]
  · simp [state, phase]

/-- A topic that cannot be decoded ends the stream behind the `welcome`. -/
theorem stream_of_reading_client_stray_topic : ∃ log r at_,
    Lives (Relay.run { user := "ann", room := "attic", phase := .joined }) log r ∧ r.IsOver ∧
    sent log = [.ok { createdAt := at_, byUser := "ann", inRoom := "attic", users := some 2 },
      .error ⟨.internal, "corrupted routing key"⟩] := by
  have life : Lives { user := "ann", room := "attic" } _
      { user := "ann", room := "attic", phase := .joined } :=
    ((Lives.born.goes 0 (.session (.ok 0)) rfl).goes 0
      (.subscription (.ok 0)) rfl).goes 0 (.published (.ok ())) rfl
  have start : Relay.start ⟨some "ann", none⟩ "attic" = .ok { user := "ann", room := "attic" } :=
    start_of_user rfl (by decide +kernel)
  have stray : isReadable ⟨"hc.wb.2.evt", []⟩ = false := by decide +kernel
  obtain ⟨⟨log, r, streaming, attended, finished⟩, all⟩ :=
    stream_of_reading_client rfl start life rfl (.ok (some 2)) [⟨"hc.wb.2.evt", []⟩]
  obtain ⟨⟨at_, stream⟩, -⟩ := all log r streaming attended finished
  refine ⟨log, r, at_, streaming, finished, ?_⟩
  simpa [welcome, lastStatus, stray] using stream

end RoomRelay.Relay
