import RoomRelay.Relay

/-!
`Lives` relates a relay to the logs of its exchanges. Replies are restricted only by `Act.admits`, so
what holds in every life holds over every broker, client and shutdown.
-/
namespace RoomRelay

structure Exchange where
  act : Act
  reply : Reply

inductive SessionCall where
  | subscribe (session : Nat) (pattern : Key) (subscriber : String)
  | publish (session : Nat) (key : Key) (event : Event)
  | close (session : Nat)

/-- The call on the session that an act amounts to; an event without a key makes none. -/
def Act.sessionCall? : Act → Option SessionCall
  | subscribe session pattern subscriber => some (.subscribe session pattern subscriber)
  | publish session event => event.key?.map fun key => .publish session key event
  | closeSession session => some (.close session)
  | _ => none

def Act.item? : Act → Option Item
  | offer item => some item
  | _ => none

namespace Exchange

def sent? (x : Exchange) : Option Item :=
  match x.act, x.reply with
  | .offer item, .taken => some item
  | _, _ => none

def heard? (x : Exchange) : Option Delivery :=
  match x.reply with
  | .delivery d => some d
  | _ => none

end Exchange

/-! ### What a log shows -/

def calls (log : List Exchange) : List SessionCall :=
  log.filterMap fun x => x.act.sessionCall?

def offered (log : List Exchange) : List Item :=
  log.filterMap fun x => x.act.item?

def sent (log : List Exchange) : List Item :=
  log.filterMap Exchange.sent?

def heard (log : List Exchange) : List Delivery :=
  log.filterMap Exchange.heard?

@[simp] theorem calls_append (xs ys : List Exchange) : calls (xs ++ ys) = calls xs ++ calls ys :=
  List.filterMap_append

@[simp] theorem sent_append (xs ys : List Exchange) : sent (xs ++ ys) = sent xs ++ sent ys :=
  List.filterMap_append

@[simp] theorem heard_append (xs ys : List Exchange) : heard (xs ++ ys) = heard xs ++ heard ys :=
  List.filterMap_append

@[simp] theorem calls_nil : calls [] = [] := rfl
@[simp] theorem offered_nil : offered [] = [] := rfl
@[simp] theorem sent_nil : sent [] = [] := rfl
@[simp] theorem heard_nil : heard [] = [] := rfl

@[simp] theorem calls_cons (x : Exchange) (xs : List Exchange) :
    calls (x :: xs) = x.act.sessionCall?.toList ++ calls xs := by
  cases h : x.act.sessionCall? <;> simp [calls, h]

@[simp] theorem offered_cons (x : Exchange) (xs : List Exchange) :
    offered (x :: xs) = x.act.item?.toList ++ offered xs := by
  cases h : x.act.item? <;> simp [offered, h]

@[simp] theorem sent_cons (x : Exchange) (xs : List Exchange) :
    sent (x :: xs) = x.sent?.toList ++ sent xs := by
  cases h : x.sent? <;> simp [sent, h]

@[simp] theorem heard_cons (x : Exchange) (xs : List Exchange) :
    heard (x :: xs) = x.heard?.toList ++ heard xs := by
  cases h : x.heard? <;> simp [heard, h]

namespace Relay

/-- The logs and states of a relay since `first`. Being taken up, between `joined` and the streaming,
is no exchange. -/
inductive Lives (first : Relay) : List Exchange → Relay → Prop where
  | born : Lives first [] first
  | goes {log : List Exchange} {r : Relay} (life : Lives first log r) (now : Int64) (reply : Reply)
      (admitted : r.act.admits reply = true) :
      Lives first (log ++ [⟨r.act, reply⟩]) (r.resume now reply).1
  | takenUp {log : List Exchange} {r : Relay} (life : Lives first log r)
      (waits : r.phase = .joined) : Lives first log r.run

/-- At rest for good; a `joined` relay still waits to be taken up. -/
def IsOver (r : Relay) : Prop :=
  r.act = .rest ∧ r.phase ≠ .joined

theorem over_phase {r : Relay} (finished : r.IsOver) :
    (∃ e, r.phase = .refused e) ∨ ∃ why, r.phase = .ended why := by
  obtain ⟨rests, notWaiting⟩ := finished
  unfold act at rests
  split at rests <;> cases rests
  · exact Or.inl ⟨_, ‹_›⟩
  · exact absurd ‹_› notWaiting
  · exact Or.inr ⟨_, ‹_›⟩

theorem start_ok {scope : Scope} {room : String} {r : Relay} (h : start scope room = .ok r) :
    ∃ user, scope.user = some user ∧ Topic.isSegment room = true ∧ r = { user, room } := by
  unfold start Scope.requireUser at h
  cases known : scope.user with
  | none => simp [known] at h
  | some user =>
    simp only [known] at h
    split at h
    · exact ⟨user, rfl, ‹_›, (Except.ok.inj h).symm⟩
    · cases h

theorem start_of_user {scope : Scope} {room user : String} (known : scope.user = some user)
    (segment : Topic.isSegment room = true) : start scope room = .ok { user, room } := by
  simp only [start, Scope.requireUser, known, segment, if_true]

@[simp] theorem enter_phase (r : Relay) (p : Phase) : (r.enter p).phase = p := rfl
@[simp] theorem enter_session (r : Relay) (p : Phase) : (r.enter p).session = r.session := rfl
@[simp] theorem enter_subscription (r : Relay) (p : Phase) :
    (r.enter p).subscription = r.subscription := rfl

/-! ### What stays of a relay -/

def hasAsked (r : Relay) : Bool :=
  match r.phase with
  | .opening | .subscribing => false
  | _ => true

def hasParted (r : Relay) : Bool :=
  match r.phase with
  | .leaving .. | .closing _ | .reporting _ | .ended _ => true
  | _ => false

def Follows (r r' : Relay) : Prop :=
  r'.user = r.user ∧ r'.room = r.room ∧ (r.hasParted = true → r'.hasParted = true) ∧
    (r.hasAsked = true → r'.hasAsked = true ∧ r'.subscription = r.subscription)

theorem Follows.refl (r : Relay) : r.Follows r := ⟨rfl, rfl, id, fun asked => ⟨asked, rfl⟩⟩

theorem Follows.trans {r r' r'' : Relay} (first : r.Follows r') (second : r'.Follows r'') :
    r.Follows r'' := by
  obtain ⟨user, room, parts, keeps⟩ := first
  obtain ⟨user', room', parts', keeps'⟩ := second
  refine ⟨user'.trans user, room'.trans room, fun parted => parts' (parts parted), ?_⟩
  intro asked
  obtain ⟨asked', same⟩ := keeps asked
  obtain ⟨asked'', same'⟩ := keeps' asked'
  exact ⟨asked'', same'.trans same⟩

theorem hear_follows (r : Relay) (d : Delivery) (listens : r.phase = .listening) :
    r.Follows (r.hear d).1 := by
  unfold hear
  split <;> exact ⟨rfl, rfl, by simp [hasParted, listens], by simp [hasAsked, listens]⟩

theorem conclude_follows (r : Relay) (why : Ending) : r.Follows (r.conclude why).1 := by
  unfold conclude
  split <;> exact ⟨rfl, rfl, fun _ => rfl, fun _ => ⟨rfl, rfl⟩⟩

theorem resume_follows (r : Relay) (now : Int64) (reply : Reply) :
    r.Follows (r.resume now reply).1 := by
  unfold resume
  split
  case h_16 listens => exact hear_follows r _ listens
  case h_23 => exact conclude_follows r _
  case h_26 => exact Follows.refl r
  -- the others enter a phase and at most take a number before they have asked
  all_goals
    rename_i phase
    simp only [Follows, hasParted, hasAsked, enter]
    rw [phase]
    simp

theorem run_follows {r : Relay} (waits : r.phase = .joined) : r.Follows r.run :=
  ⟨rfl, rfl, by simp [hasParted, waits], fun _ => ⟨rfl, rfl⟩⟩

theorem Lives.follows {first r : Relay} {log : List Exchange} (life : Lives first log r) :
    first.Follows r := by
  induction life with
  | born => exact Follows.refl first
  | goes _ now reply _ ih => exact ih.trans (resume_follows _ now reply)
  | takenUp _ waits ih => exact ih.trans (run_follows waits)

theorem Lives.user {first r : Relay} {log : List Exchange} (life : Lives first log r) :
    r.user = first.user :=
  life.follows.1

theorem Lives.room {first r : Relay} {log : List Exchange} (life : Lives first log r) :
    r.room = first.room :=
  life.follows.2.1

end Relay
end RoomRelay
