import RoomRelay.Proofs.Validation
import RoomRelay.Proofs.World.Order

/-!
All that can happen to a service: a `Move`, and the closing of its broker. `record` collects what each
happening of a run opens, publishes or puts on a stream.
-/

namespace RoomRelay

inductive Happening where
  | move (m : Move)
  | close

namespace Happening

/-- The call that begins, if its caller and its request are accepted. -/
def opens? (svc : Service) : Happening → Option Call
  | .move (.recvEvents headers room) =>
    match headers.identity with
    | .ok user => if Topic.isSegment room then some (.relay { user, room }) else none
    | .error _ => none
  | .move (.sendEvent headers req) =>
    match headers.identity with
    | .ok user =>
      match req.validate user svc.policy with
      | .ok payload => some (.sending { user, rooms := req.rooms, payload })
      | .error _ => none
    | .error _ => none
  | _ => none

theorem opens_cases {svc : Service} {h : Happening} {call : Call} (opens : h.opens? svc = some call) :
    (∃ headers room user, h = .move (.recvEvents headers room) ∧ headers.identity = .ok user ∧
      Topic.isSegment room = true ∧ call = .relay { user, room }) ∨
    ∃ headers req user payload, h = .move (.sendEvent headers req) ∧ headers.identity = .ok user ∧
      req.validate user svc.policy = .ok payload ∧
        call = .sending { user, rooms := req.rooms, payload } := by
  unfold opens? at opens
  split at opens
  · rename_i headers room
    split at opens
    · rename_i user known
      split at opens
      · rename_i segment
        exact .inl ⟨headers, room, user, rfl, known, segment, (Option.some.inj opens).symm⟩
      · contradiction
    · contradiction
  · rename_i headers req
    split at opens
    · rename_i user known
      split at opens
      · rename_i payload valid
        exact .inr ⟨headers, req, user, payload, rfl, known, valid, (Option.some.inj opens).symm⟩
      · contradiction
    · contradiction
  · contradiction

end Happening

def Call.work : Call → Work
  | relay r => .relay r ⟨0, [], false⟩
  | sending s => .sending s

theorem Call.call_work (call : Call) : call.work.call = call := by cases call <;> rfl

def Stream.takes (s : Stream) : Bool :=
  !s.hungUp && decide (s.queue.length < s.capacity)

theorem Stream.offer_cases (stream : Stream) (item : Item) :
    ((stream.offer item).1 = some .taken ∧ stream.takes = true) ∨
      ((∀ reply, (stream.offer item).1 = some reply → reply = .peerGone) ∧ stream.takes = false) := by
  unfold Stream.offer Stream.takes
  cases gone : stream.hungUp
  · by_cases room : stream.queue.length < stream.capacity
    · exact .inl ⟨by simp [room], by simp [room]⟩
    · exact .inr ⟨by simp [room], by simp [room]⟩
  · exact .inr ⟨by simp, by simp⟩

def Work.puts? : Work → Option Item
  | relay r stream =>
    match r.act with
    | .offer item => if stream.takes then some item else none
    | _ => none
  | sending _ => none

/-! ### One act -/

/-- The next act of a call, served by the broker or by the client's stream; there is none while the
call waits. -/
def Channel.serve (c : Channel) (stopping : Bool) (first : Signal) (work : Work) :
    Option (Reply × Work × Channel) :=
  match work.act with
  | .openSession => some (.session c.openSession.1, work, c.openSession.2)
  | .subscribe session pattern subscriber =>
    some (.subscription (c.subscribe session pattern subscriber).1, work,
      (c.subscribe session pattern subscriber).2)
  | .publish session e =>
    match e.message with
    | .error err => some (.published (.error err), work, c)
    | .ok (key, payload) =>
      some (.published (c.publish session key payload).1, work, (c.publish session key payload).2.1)
  | .count pattern => some (.counted (.ok (some (c.count pattern))), work, c)
  | .cancel sub => some (.done, work, c.cancel sub)
  | .closeSession session => some (.done, work, c.closeSession session)
  | .offer item => (work.offer item).1.map fun reply => (reply, (work.offer item).2, c)
  | .listen sub => (first.hear c work.hungUp stopping sub).map fun (reply, c) => (reply, work, c)
  | .rest => none

/-- The event that an act publishes, if the broker answers with `ok`. -/
def Channel.published? (c : Channel) : Act → Option Event
  | .publish session e =>
    match e.message with
    | .ok (key, payload) => if (c.publish session key payload).1.isOk then some e else none
    | .error _ => none
  | _ => none

theorem Channel.serve_served {c c' : Channel} {stopping : Bool} {first : Signal} {work shown : Work}
    {reply : Reply} (served : c.serve stopping first work = some (reply, shown, c')) :
    Served c work.act reply c' := by
  unfold serve at served
  cases act : work.act with
  | publish session e =>
    simp only [act] at served
    split at served
    · rename_i message
      cases served
      exact .unroutable session message
    · rename_i message
      cases served
      exact .publish session message
  | offer item =>
    simp only [act] at served
    obtain ⟨_, -, same⟩ := Option.map_eq_some_iff.mp served
    cases same
    exact .offer item _
  | listen sub =>
    simp only [act] at served
    obtain ⟨⟨_, _⟩, heard, same⟩ := Option.map_eq_some_iff.mp served
    cases same
    cases Signal.hears heard with
    | peerGone | stopping => exact .listen sub _
    | delivery | feedOver => exact .receive sub _
  | openSession | subscribe | count | cancel | closeSession =>
    simp only [act] at served
    cases served
    constructor
  | rest =>
    simp only [act] at served
    cases served

theorem Channel.serve_call {c c' : Channel} {stopping : Bool} {first : Signal} {work shown : Work}
    {reply : Reply} (served : c.serve stopping first work = some (reply, shown, c')) :
    shown.call = work.call := by
  unfold serve at served
  split at served
  case h_7 item _ =>
    obtain ⟨_, -, same⟩ := Option.map_eq_some_iff.mp served
    cases same
    exact work.call_offer item
  case h_3 => split at served <;> cases served <;> rfl
  case h_8 =>
    obtain ⟨_, -, same⟩ := Option.map_eq_some_iff.mp served
    cases same
    rfl
  all_goals
    cases served
    try rfl

namespace World

theorem step_serve {w : World Channel} {i : Nat} {work : Work}
    (found : w.tasks[i]? = some ⟨work, none⟩) (first : Signal) :
    (∃ reply shown broker notices, w.broker.serve w.stopping first work = some (reply, shown, broker) ∧
      w.step i first = some ({ w with broker, notices }.reply i shown reply)) ∨
    (w.broker.serve w.stopping first work = none ∧ w.step i first = none) := by
  simp only [World.step, found, Channel.serve]
  cases act : work.act with
  | publish session e =>
    simp only [begin]
    cases message : e.message with
    | error err => exact .inl ⟨_, _, _, _, rfl, rfl⟩
    | ok m => exact .inl ⟨_, _, _, _, rfl, rfl⟩
  | offer item =>
    cases reply : (work.offer item).1 with
    | none => exact .inr (by simp only [reply, Option.map_none, and_self])
    | some r => exact .inl ⟨r, _, _, w.notices, by simp only [reply, Option.map_some]; rfl,
        by simp only [reply, Option.map_some]⟩
  | listen sub =>
    cases heard : first.hear w.broker work.hungUp w.stopping sub with
    | none => exact .inr (by simp only [heard, Option.map_none, and_self])
    | some answer => exact .inl ⟨answer.1, _, answer.2, w.notices, by simp only [heard, Option.map_some]; rfl,
        by simp only [heard, Option.map_some]⟩
  | rest => exact .inr ⟨rfl, rfl⟩
  | _ => exact .inl ⟨_, _, _, _, rfl, rfl⟩

end World

/-! ### One happening -/

namespace Move

def task? : Move → Option Nat
  | .step i _ | .takeUp i .. | .forsake i | .abandon i | .read i | .hangUp i => some i
  | .recvEvents .. | .sendEvent .. | .stop | .wait _ => none

def about (j : Nat) : Move → Move
  | .step _ first => .step j first
  | .takeUp _ capacity hungUp => .takeUp j capacity hungUp
  | .forsake _ => .forsake j
  | .abandon _ => .abandon j
  | .read _ => .read j
  | .hangUp _ => .hangUp j
  | m => m

theorem task_about {m : Move} {i : Nat} (about : m.task? = some i) (j : Nat) :
    (m.about j).task? = some j := by
  cases m <;> first | rfl | cases about

theorem waits_about {m : Move} (waits : ∀ i first, m ≠ .step i first) (j : Nat) :
    ∀ i first, m.about j ≠ .step i first := by
  intro i first same
  cases m with
  | step k first => exact waits k first rfl
  | _ => cases same

def stops : Move → Bool
  | .stop => true
  | _ => false

end Move

/-- The effect of a move on the call that it is about and on the broker. -/
def Work.touch (c : Channel) (stopping : Bool) (now : Int64) (work : Work) : Move → Work × Channel
  | .step _ first =>
    match c.serve stopping first work with
    | some (reply, shown, c') => ((shown.resume now reply).1, c')
    | none => (work, c)
  | .takeUp _ capacity hungUp =>
    match work with
    | .relay r _ =>
      if r.phase = .joined then (.relay r.run ⟨capacity, [], hungUp⟩, c) else (work, c)
    | .sending _ => (work, c)
  | .forsake _ =>
    match work with
    | .relay r _ => (work, if r.phase = .joined then c.cancel r.subscription else c)
    | .sending _ => (work, c)
  | .abandon _ =>
    match work with
    | .relay r stream => if r.isOpening then (.relay r.abandon stream, r.letGo c) else (work, c)
    | .sending s => (.sending s.abandon, c)
  | .read _ =>
    match work with
    | .relay r stream => (.relay r ((stream.read.map Prod.snd).getD stream), c)
    | .sending _ => (work, c)
  | .hangUp _ =>
    match work with
    | .relay r stream => (.relay r stream.hangUp, c)
    | .sending _ => (work, c)
  | .recvEvents .. | .sendEvent .. | .stop | .wait _ => (work, c)

theorem Relay.isSubscribed_of_joined {r : Relay} (joined : r.phase = .joined) : r.isSubscribed = true := by
  rw [isSubscribed, joined]

/-- Besides the steps of a call, what happens to it reaches the broker only as the `cancel` of the
subscription that it has. -/
theorem Work.touch_broker {m : Move} (waits : ∀ i first, m ≠ .step i first) (c : Channel)
    (stopping : Bool) (now : Int64) (work : Work) :
    (work.touch c stopping now m).2 = c ∨
      ∃ r, work.call = .relay r ∧ r.isSubscribed = true ∧
        (work.touch c stopping now m).2 = c.cancel r.subscription := by
  cases work with
  | sending s =>
    cases m with
    | step i first => exact absurd rfl (waits i first)
    | _ => exact .inl rfl
  | relay r stream =>
    cases m with
    | step i first => exact absurd rfl (waits i first)
    | takeUp =>
      simp only [touch]
      split <;> exact .inl rfl
    | forsake =>
      simp only [touch]
      split
      · rename_i joined
        exact .inr ⟨r, rfl, Relay.isSubscribed_of_joined joined, rfl⟩
      · exact .inl rfl
    | abandon =>
      simp only [touch]
      split
      · rename_i opening
        rcases Relay.letGo_cases opening c with ⟨subscribed, cancelled⟩ | ⟨-, same⟩
        · exact .inr ⟨r, rfl, subscribed, cancelled⟩
        · exact .inl same
      · exact .inl rfl
    | _ => exact .inl rfl

theorem Work.touch_about (c : Channel) (stopping : Bool) (now : Int64) (work : Work) (m : Move) (j : Nat) :
    work.touch c stopping now (m.about j) = work.touch c stopping now m := by
  cases m <;> rfl

namespace World

def happen (svc : Service) (w : World Channel) : Happening → World Channel
  | .move m => w.move svc m
  | .close => w.onBroker Channel.close

def live (svc : Service) (w : World Channel) (hs : List Happening) : World Channel :=
  hs.foldl (happen svc) w

/-- `w` up to its clock and its notices. -/
def Is (w : World Channel) (broker : Channel) (tasks : List Task) (now : Nat) (stopping : Bool) : Prop :=
  w.broker = broker ∧ w.tasks = tasks ∧ w.now = now ∧ w.stopping = stopping

theorem move_opens {svc : Service} {m : Move} {call : Call}
    (opens : (Happening.move m).opens? svc = some call) (w : World Channel) :
    (w.move svc m).Is w.broker (w.tasks ++ [⟨call.work, none⟩]) w.now w.stopping := by
  rcases Happening.opens_cases opens with
    ⟨headers, room, user, same, known, segment, rfl⟩ | ⟨headers, req, user, payload, same, known, valid, rfl⟩
  · obtain rfl := Happening.move.inj same
    simp [move, Scope.prepare, ScopeOptions.streaming, known, Except.map, Relay.start,
      Scope.requireUser, segment, spawn, Is, Call.work]
  · obtain rfl := Happening.move.inj same
    simp [move, Sending.start, Scope.prepare, known, Except.map, Scope.requireUser, valid, spawn, Is,
      Call.work]

theorem move_refused {svc : Service} {m : Move} (refused : (Happening.move m).opens? svc = none)
    (begins : m.task? = none) (w : World Channel) :
    (w.move svc m).broker = w.broker ∧ (w.move svc m).tasks = w.tasks ∧
      (w.move svc m).stopping = (w.stopping || m.stops) := by
  cases m with
  | recvEvents headers room =>
    simp only [Happening.opens?] at refused
    split at refused
    · rename_i user known
      split at refused
      · contradiction
      · rename_i unfit
        simp [move, Scope.prepare, ScopeOptions.streaming, known, Except.map, Relay.start,
          Scope.requireUser, unfit, Move.stops]
    · rename_i why unknown
      simp [move, Scope.prepare, ScopeOptions.streaming, unknown, Except.map, Move.stops]
  | sendEvent headers req =>
    simp only [Happening.opens?] at refused
    split at refused
    · rename_i user known
      split at refused
      · contradiction
      · rename_i why broken
        simp [move, Sending.start, Scope.prepare, known, Except.map, Scope.requireUser, broken,
          Move.stops]
    · rename_i why unknown
      simp [move, Sending.start, Scope.prepare, unknown, Except.map, Move.stops]
  | stop => exact ⟨rfl, rfl, (Bool.or_true _).symm⟩
  | wait => exact ⟨rfl, rfl, (Bool.or_false _).symm⟩
  | _ => cases begins

theorem move_missing {svc : Service} {m : Move} {i : Nat} {w : World Channel} (about : m.task? = some i)
    (missing : w.tasks[i]? = none) : w.move svc m = w := by
  cases m with
  | step j | takeUp j | forsake j | abandon j | read j | hangUp j =>
    obtain rfl := Option.some.inj about
    simp [move, step, relay?, abandon, read, hangUp, missing]
  | _ => cases about

theorem move_touches {svc : Service} {m : Move} {i : Nat} {w : World Channel} {work : Work}
    (about : m.task? = some i) (found : w.tasks[i]? = some ⟨work, none⟩) :
    (w.move svc m).Is (work.touch w.broker w.stopping w.clock m).2
      (w.tasks.set i ⟨(work.touch w.broker w.stopping w.clock m).1, none⟩) w.now w.stopping := by
  have same := set_found found
  cases m with
  | step j first =>
    obtain rfl := Option.some.inj about
    rcases step_serve found first with ⟨reply, shown, broker, notices, served, step⟩ | ⟨waits, still⟩
    · simp only [move, step, Option.getD_some, Work.touch, served]
      exact ⟨rfl, rfl, rfl, rfl⟩
    · simp only [move, still, Option.getD_none, Work.touch, waits]
      exact ⟨rfl, same.symm, rfl, rfl⟩
  | takeUp j capacity hungUp =>
    obtain rfl := Option.some.inj about
    cases work with
    | relay r stream =>
      by_cases joined : r.phase = .joined
      · simp [move, relay?, found, joined, runRelay, Work.touch, Is, setTask]
      · simp [move, relay?, found, joined, Work.touch, Is, same]
    | sending s => simp [move, relay?, found, Work.touch, Is, same]
  | forsake j =>
    obtain rfl := Option.some.inj about
    cases work with
    | relay r stream =>
      by_cases joined : r.phase = .joined
      · simp [move, relay?, found, joined, dropRelay, Work.touch, Is, same, onBroker]
        rfl
      · simp [move, relay?, found, joined, Work.touch, Is, same]
    | sending s => simp [move, relay?, found, Work.touch, Is, same]
  | abandon j =>
    obtain rfl := Option.some.inj about
    cases work with
    | relay r stream =>
      by_cases opening : r.isOpening = true
      · simp [move, abandon, found, opening, Work.touch, Is, setTask, onBroker]
      · simp [move, abandon, found, opening, Work.touch, Is, same]
    | sending s =>
      simp only [move, abandon, found, Work.touch]
      split <;> exact ⟨rfl, rfl, rfl, rfl⟩
  | read j =>
    obtain rfl := Option.some.inj about
    cases work with
    | relay r stream =>
      cases given : stream.read with
      | none => simp [move, read, found, given, Work.touch, Is, same]
      | some x => simp [move, read, found, given, Work.touch, Is, setTask]
    | sending s => simp [move, read, found, Work.touch, Is, same]
  | hangUp j =>
    obtain rfl := Option.some.inj about
    cases work with
    | relay r stream => simp [move, hangUp, found, Work.touch, Is, setTask]
    | sending s => simp [move, hangUp, found, Work.touch, Is, same]
  | _ => cases about

/-! ### Runs -/

variable {svc : Service}

theorem live_snoc (w : World Channel) (hs : List Happening) (h : Happening) :
    w.live svc (hs ++ [h]) = (w.live svc hs).happen svc h :=
  List.foldl_append

/-- What `see` sees of the happenings of a run, each in the world that it meets. -/
def record {α : Type} (svc : Service) (see : World Channel → Happening → Option α) :
    World Channel → List Happening → List α
  | _, [] => []
  | w, h :: hs => (see w h).toList ++ record svc see (w.happen svc h) hs

theorem record_snoc {α : Type} (see : World Channel → Happening → Option α) (w : World Channel)
    (hs : List Happening) (h : Happening) :
    record svc see w (hs ++ [h]) = record svc see w hs ++ (see (w.live svc hs) h).toList := by
  induction hs generalizing w with
  | nil => exact List.append_nil _
  | cons first hs ih => rw [List.cons_append, record, ih, record, List.append_assoc]; rfl

def opened (svc : Service) (hs : List Happening) : List Call :=
  hs.filterMap (Happening.opens? svc)

/-- The event that a happening publishes, with the number of its call. -/
def publishes? (w : World Channel) : Happening → Option (Nat × Event)
  | .move (.step i _) =>
    (w.tasks[i]?).bind fun t => (w.broker.published? t.work.act).map fun e => (i, e)
  | _ => none

def puts? (i : Nat) (w : World Channel) : Happening → Option Item
  | .move (.step j _) => if j = i then (w.tasks[j]?).bind fun t => t.work.puts? else none
  | _ => none

theorem quiet_unless_step {m : Move} (waits : ∀ i first, m ≠ .step i first) (w : World Channel) :
    publishes? w (.move m) = none ∧ ∀ j, puts? j w (.move m) = none := by
  cases m with
  | step i first => exact absurd rfl (waits i first)
  | _ => exact ⟨rfl, fun _ => rfl⟩

theorem quiet_of_missing {w : World Channel} {i : Nat} (missing : w.tasks[i]? = none)
    (first : Signal) :
    publishes? w (.move (.step i first)) = none ∧ ∀ j, puts? j w (.move (.step i first)) = none := by
  simp only [publishes?, puts?, missing, Option.bind_none, ite_self, implies_true, and_self]

theorem Kept.close {w : World Channel} (kept : w.Kept) : (w.onBroker Channel.close).Kept := by
  obtain ⟨prompt, sound, kept, apart⟩ := kept
  refine ⟨prompt, sound.close, ?_, apart⟩
  intro i r found
  exact (kept i r found).extends (w.broker.extends_apply .close)

theorem Kept.happen {w : World Channel} (kept : w.Kept) (svc : Service) (h : Happening) :
    (w.happen svc h).Kept := by
  cases h with
  | move m => exact (moved svc kept.1 m).kept kept (kept.1.move m)
  | close => exact kept.close

theorem kept_fresh (clock : Int64) : (fresh clock).Kept := by
  obtain ⟨prompt, sound, -, kept, apart⟩ := orderly_fresh clock
  exact ⟨prompt, sound, kept, apart⟩

theorem Kept.live {w : World Channel} (kept : w.Kept) (hs : List Happening) : (w.live svc hs).Kept := by
  induction hs generalizing w with
  | nil => exact kept
  | cons h hs ih => exact ih (kept.happen svc h)

theorem Kept.task {w : World Channel} (kept : w.Kept) {i : Nat} {t : Task}
    (found : w.tasks[i]? = some t) : w.tasks[i]? = some ⟨t.work, none⟩ := by
  rw [found, ← kept.1 t (List.mem_of_getElem? found)]

end World
end RoomRelay
