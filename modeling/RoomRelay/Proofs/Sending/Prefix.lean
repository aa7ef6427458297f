import RoomRelay.Proofs.Event.Codec
import RoomRelay.Proofs.Relay.Life
import RoomRelay.Proofs.Validation
import RoomRelay.Sending

/-!
Sendings over any broker. `Past` gives for each phase the exchanges that lead there. Hence every end
of a sending publishes to a prefix of the rooms, up to the first publish that fails, and closes the
session.
-/

namespace RoomRelay.Sending

inductive Lives (first : Sending) : List Exchange → Sending → Prop where
  | born : Lives first [] first
  | goes {log : List Exchange} {s : Sending} (life : Lives first log s) (now : Int64) (reply : Reply)
      (admitted : s.act.admits reply = true) :
      Lives first (log ++ [⟨s.act, reply⟩]) (s.resume now reply)

/-- The ends of a sending: its log, the act it was waiting for if it was given up, and its answer. It
can be given up wherever it waits for the broker. -/
inductive Ends (first : Sending) : List Exchange → Option Act → Except Failure Unit → Prop where
  | answered {log : List Exchange} {s : Sending} {answer : Except Failure Unit}
      (life : first.Lives log s) (done : s.phase = .over answer) : Ends first log none answer
  | abandoned {log : List Exchange} {s : Sending} (life : first.Lives log s)
      (waits : s.act ≠ .rest) : Ends first log (some s.act) (.error .deadlineExceeded)

def copy (s : Sending) (session : Nat) (at_ : Int64) (room : String) : Act :=
  .publish session (s.event at_ room)

/-! ### Stretches of a life -/

/-- The exchanges of a sending that has published to `done`. -/
def spread (s : Sending) (session : Nat) (at_ : Int64) (done : List String) : List Exchange :=
  ⟨.openSession, .session (.ok session)⟩ ::
    done.map fun room => ⟨s.copy session at_ room, .published (.ok ())⟩

def Spent (s : Sending) (session : Nat) (at_ : Int64) (log : List Exchange) :
    Except Failure Unit → Prop
  | .ok () => log = s.spread session at_ s.rooms
  | .error e =>
    ∃ done room rooms b, s.rooms = done ++ room :: rooms ∧ e = .broker b ∧
      log = s.spread session at_ done ++ [⟨s.copy session at_ room, .published (.error b)⟩]

def Past (first s : Sending) (log : List Exchange) : Prop :=
  match s.phase with
  | .opening => log = []
  | .publishing session at_ room rooms =>
    ∃ done, first.rooms = done ++ room :: rooms ∧ log = first.spread session at_ done
  | .closing session result => ∃ at_, first.Spent session at_ log result
  | .over result =>
    (∃ b, result = .error (.broker b) ∧ log = [⟨.openSession, .session (.error b)⟩]) ∨
      ∃ session at_ before, first.Spent session at_ before result ∧
        log = before ++ [⟨.closeSession session, .done⟩]

theorem spread_snoc (s : Sending) (session : Nat) (at_ : Int64) (done : List String) (room : String) :
    s.spread session at_ done ++ [⟨s.copy session at_ room, .published (.ok ())⟩] =
      s.spread session at_ (done ++ [room]) := by
  simp only [spread, List.map_append, List.map_cons, List.map_nil, List.cons_append]

theorem past_proceed {first s : Sending} {session : Nat} {at_ : Int64} {rooms : List String}
    {log : List Exchange} (done : List String) (all : first.rooms = done ++ rooms)
    (sofar : log = first.spread session at_ done) :
    first.Past (s.proceed session at_ rooms) log := by
  cases rooms with
  | nil =>
    refine ⟨at_, ?_⟩
    rw [List.append_nil] at all
    rw [Spent, all, sofar]
  | cons room rooms => exact ⟨done, all, sofar⟩

def SameOrder (first s : Sending) : Prop :=
  s.user = first.user ∧ s.rooms = first.rooms ∧ s.payload = first.payload

theorem resume_sameOrder (s : Sending) (now : Int64) (reply : Reply) :
    s.SameOrder (s.resume now reply) := by
  have proceeds : ∀ session at_ rooms, s.SameOrder (s.proceed session at_ rooms) := by
    intro session at_ rooms
    cases rooms <;> exact ⟨rfl, rfl, rfl⟩
  unfold resume
  split
  · exact proceeds _ _ _
  · exact ⟨rfl, rfl, rfl⟩
  · exact proceeds _ _ _
  all_goals exact ⟨rfl, rfl, rfl⟩

theorem copy_eq {first s : Sending} (same : first.SameOrder s) : s.copy = first.copy := by
  obtain ⟨user, -, payload⟩ := same
  funext session at_ room
  rw [copy, copy, event, event, user, payload]

theorem past_resume {first s : Sending} {log : List Exchange} (same : first.SameOrder s)
    (past : first.Past s log) (now : Int64) (reply : Reply) (admitted : s.act.admits reply = true) :
    first.Past (s.resume now reply) (log ++ [⟨s.act, reply⟩]) := by
  cases phase : s.phase with
  | opening =>
    simp only [Past, phase] at past
    cases reply <;> simp only [act, phase, Act.admits, reduceCtorEq] at admitted
    case session r =>
      subst past
      simp only [act, phase, List.nil_append]
      cases r with
      | ok session =>
        simp only [resume, phase]
        exact past_proceed [] same.2.1.symm rfl
      | error b =>
        simp only [resume, phase]
        exact .inl ⟨b, rfl, rfl⟩
  | publishing session at_ room rooms =>
    simp only [Past, phase] at past
    obtain ⟨done, all, rfl⟩ := past
    cases reply <;> simp only [act, phase, Act.admits, reduceCtorEq] at admitted
    case published r =>
      have asked : s.act = first.copy session at_ room := by
        rw [← copy_eq same]
        simp only [act, phase, copy]
      rw [asked]
      cases r with
      | ok _ =>
        simp only [resume, phase]
        refine past_proceed (done ++ [room]) ?_ (spread_snoc ..)
        rw [all, List.append_assoc, List.singleton_append]
      | error b =>
        simp only [resume, phase]
        exact ⟨at_, done, room, rooms, b, all, rfl, rfl⟩
  | closing session result =>
    simp only [Past, phase] at past
    obtain ⟨at_, spent⟩ := past
    cases reply <;> simp only [act, phase, Act.admits, reduceCtorEq] at admitted
    case done =>
      have asked : s.act = .closeSession session := by simp only [act, phase]
      rw [asked]
      simp only [resume, phase]
      exact .inr ⟨session, at_, log, spent, rfl⟩
  | «over» result =>
    simp only [act, phase] at admitted
    cases reply <;> cases admitted

theorem Lives.past {first s : Sending} {log : List Exchange} (fresh : first.phase = .opening)
    (life : first.Lives log s) : first.SameOrder s ∧ first.Past s log := by
  induction life with
  | born =>
    refine ⟨⟨rfl, rfl, rfl⟩, ?_⟩
    rw [Past, fresh]
  | @goes log s _ now reply admitted ih =>
    obtain ⟨same, past⟩ := ih
    obtain ⟨user, rooms, payload⟩ := resume_sameOrder s now reply
    exact ⟨⟨user.trans same.1, rooms.trans same.2.1, payload.trans same.2.2⟩,
      past_resume same past now reply admitted⟩

/-! ### What a call asks for -/

def asked (log : List Exchange) (pending : Option Act) : List Act :=
  log.map Exchange.act ++ pending.toList

/-- The acts of a sending with a session: `openSession`, copies of the event for a prefix `tried` of
the rooms, and the close. Only the last copy can have failed. -/
structure Attempts (first : Sending) (log : List Exchange) (pending : Option Act)
    (answer : Except Failure Unit) (session : Nat) (at_ : Int64) (tried : List String)
    (closes : List Act) : Prop where
  opened : log.head? = some ⟨.openSession, .session (.ok session)⟩
  asks : asked log pending = .openSession :: tried.map (first.copy session at_) ++ closes
  in_order : tried <+: first.rooms
  until_failed : ∀ room b, ⟨first.copy session at_ room, .published (.error b)⟩ ∈ log →
    tried.getLast? = some room
  all_but_last : ∀ room ∈ tried.dropLast, ⟨first.copy session at_ room, .published (.ok ())⟩ ∈ log
  complete : answer = .ok () → tried = first.rooms ∧
    ∀ room ∈ first.rooms, ⟨first.copy session at_ room, .published (.ok ())⟩ ∈ log
  closes_once : closes = [.closeSession session] ∨ (closes = [] ∧ pending ≠ none)

theorem mem_spread {s : Sending} {session : Nat} {at_ : Int64} {done : List String} {room : String}
    (member : room ∈ done) :
    ⟨s.copy session at_ room, .published (.ok ())⟩ ∈ s.spread session at_ done :=
  List.mem_cons_of_mem _ (List.mem_map.mpr ⟨room, member, rfl⟩)

theorem not_failed_of_spread {s : Sending} {session : Nat} {at_ : Int64} {done : List String}
    {x : Exchange} (member : x ∈ s.spread session at_ done) (b : BrokerError) :
    x.reply ≠ .published (.error b) := by
  rcases List.mem_cons.mp member with rfl | member
  · nofun
  · obtain ⟨room, -, rfl⟩ := List.mem_map.mp member
    nofun

theorem map_act_spread (s : Sending) (session : Nat) (at_ : Int64) (done : List String) :
    (s.spread session at_ done).map Exchange.act =
      .openSession :: done.map (s.copy session at_) := by
  rw [spread, List.map_cons, List.map_map]
  rfl

theorem attempts_of_spent {first : Sending} {before : List Exchange} {result : Except Failure Unit}
    {session : Nat} {at_ : Int64} (tail : List Exchange) (pending : Option Act)
    (answer : Except Failure Unit) (spent : first.Spent session at_ before result)
    (tells : answer = .ok () → result = .ok ())
    (closes : asked tail pending = [.closeSession session])
    (quiet : ∀ x ∈ tail, x.reply = .done) :
    ∃ tried, first.Attempts (before ++ tail) pending answer session at_ tried
      [.closeSession session] := by
  have asks : asked (before ++ tail) pending = before.map Exchange.act ++ asked tail pending := by
    rw [asked, asked, List.map_append, List.append_assoc]
  cases result with
  | ok _ =>
    obtain rfl : before = first.spread session at_ first.rooms := spent
    refine ⟨first.rooms, rfl, ?asks, List.prefix_refl _, ?until_failed, ?all, ?complete, .inl rfl⟩
    case asks => rw [asks, map_act_spread, closes]
    case until_failed =>
      intro room b member
      rcases List.mem_append.mp member with member | member
      · exact absurd rfl (not_failed_of_spread member b)
      · cases quiet _ member
    case all =>
      intro room member
      exact List.mem_append_left _ (mem_spread (List.dropLast_subset _ member))
    case complete =>
      intro _
      exact ⟨rfl, fun room member => List.mem_append_left _ (mem_spread member)⟩
  | error e =>
    obtain ⟨done, room, rooms, b, all, rfl, rfl⟩ := spent
    refine ⟨done ++ [room], rfl, ?asks, ?prefix_, ?until_failed, ?all, ?complete, .inl rfl⟩
    case asks =>
      rw [asks, List.map_append, map_act_spread, closes, List.map_append]
      rfl
    case prefix_ => exact ⟨rooms, by rw [all, List.append_assoc, List.singleton_append]⟩
    case until_failed =>
      intro other c member
      rw [List.getLast?_concat]
      rcases List.mem_append.mp member with member | member
      · rcases List.mem_append.mp member with member | member
        · exact absurd rfl (not_failed_of_spread member c)
        · have same := congrArg Exchange.act (List.mem_singleton.mp member)
          simp only [copy, event, Act.publish.injEq, Event.mk.injEq] at same
          rw [same.2.2.2.1]
      · cases quiet _ member
    case all =>
      rw [List.dropLast_concat]
      intro other member
      exact List.mem_append_left _ (List.mem_append_left _ (mem_spread member))
    case complete =>
      intro ok
      cases tells ok

/-- A sending either fails to open a session and asks for nothing else, or makes its `Attempts`. -/
theorem Ends.attempts {first : Sending} {log : List Exchange} {pending : Option Act}
    {answer : Except Failure Unit} (fresh : first.phase = .opening)
    (ends : first.Ends log pending answer) :
    (asked log pending = [.openSession] ∧ answer ≠ .ok ()) ∨
      ∃ session at_ tried closes, first.Attempts log pending answer session at_ tried closes := by
  cases ends with
  | @answered s _ life done =>
    obtain ⟨-, past⟩ := life.past fresh
    simp only [Past, done] at past
    rcases past with ⟨b, rfl, rfl⟩ | ⟨session, at_, before, spent, rfl⟩
    · exact .inl ⟨rfl, nofun⟩
    · obtain ⟨tried, attempts⟩ := attempts_of_spent [⟨.closeSession session, .done⟩] none answer spent
        id rfl fun x member => by rw [List.mem_singleton.mp member]
      exact .inr ⟨session, at_, tried, _, attempts⟩
  | @abandoned s life waits =>
    obtain ⟨same, past⟩ := life.past fresh
    cases phase : s.phase with
    | opening =>
      simp only [Past, phase] at past
      subst past
      refine .inl ⟨?_, nofun⟩
      simp only [asked, act, phase]
      rfl
    | publishing session at_ room rooms =>
      simp only [Past, phase] at past
      obtain ⟨done, all, rfl⟩ := past
      have wanted : s.act = first.copy session at_ room := by
        rw [← copy_eq same]
        simp only [act, phase, copy]
      rw [wanted]
      refine .inr ⟨session, at_, done ++ [room], [], rfl, ?asks, ?prefix_, ?until_failed, ?all, nofun,
        .inr ⟨rfl, nofun⟩⟩
      case asks =>
        rw [asked, map_act_spread, List.map_append, List.append_nil]
        rfl
      case prefix_ => exact ⟨rooms, by rw [all, List.append_assoc, List.singleton_append]⟩
      case until_failed =>
        intro other b member
        exact absurd rfl (not_failed_of_spread member b)
      case all =>
        rw [List.dropLast_concat]
        exact fun other member => mem_spread member
    | closing session result =>
      simp only [Past, phase] at past
      obtain ⟨at_, spent⟩ := past
      have wanted : s.act = .closeSession session := by simp only [act, phase]
      obtain ⟨tried, attempts⟩ := attempts_of_spent [] (some s.act) (.error .deadlineExceeded) spent
        (fun tells => by cases tells) (by rw [wanted]; rfl) (List.forall_mem_nil _)
      rw [List.append_nil] at attempts
      exact .inr ⟨session, at_, tried, _, attempts⟩
    | «over» result =>
      refine absurd ?_ waits
      simp only [act, phase]

end RoomRelay.Sending
