import RoomRelay.Proofs.Broker.Ledger
import RoomRelay.Proofs.Entries
import RoomRelay.Proofs.Relay.Life
import RoomRelay.Proofs.Topic
import RoomRelay.World

/-!
The transition system of a service over `Channel`. A `Move` is one step of a call, or something that a
client or the service does to one; a run is a list of moves. `Moved` states once what a move does to
the broker and the calls.
-/

namespace RoomRelay

/-! ### Calls -/

/-- A call in progress, without the stream of its client. -/
inductive Call where
  | relay (r : Relay)
  | sending (s : Sending)

namespace Call

def act : Call → Act
  | relay r => r.act
  | sending s => s.act

def resume (now : Int64) (reply : Reply) : Call → Call
  | relay r => relay (r.resume now reply).1
  | sending s => sending (s.resume now reply)

end Call

namespace Work

def call : Work → Call
  | relay r _ => .relay r
  | sending s => .sending s

theorem call_act (work : Work) : work.call.act = work.act := by cases work <;> rfl

theorem call_resume (work : Work) (now : Int64) (reply : Reply) :
    (work.resume now reply).1.call = work.call.resume now reply := by
  cases work <;> rfl

theorem call_offer (work : Work) (item : Item) :
    (work.offer item).2.call = work.call := by cases work <;> rfl

end Work

def Act.mayWait : Act → Bool
  | offer _ => true
  | listen _ => true
  | rest => true
  | _ => false

namespace Signal

variable {β : Type} [Broker β] {b b' : β} {hungUp stopping : Bool} {sub : Nat} {reply : Reply}

/-- The outcomes of `hear`, whichever signal is polled first. -/
inductive Hears (b : β) (hungUp stopping : Bool) (sub : Nat) : Reply → β → Prop where
  | peerGone (gone : hungUp = true) : Hears b hungUp stopping sub .peerGone b
  | stopping (stops : stopping = true) : Hears b hungUp stopping sub .stopping b
  | delivery {d : Delivery} (received : (Broker.receive b sub).1 = .delivery d) :
    Hears b hungUp stopping sub (.delivery d) (Broker.receive b sub).2
  | feedOver (received : (Broker.receive b sub).1 = .over) :
    Hears b hungUp stopping sub .feedOver (Broker.receive b sub).2

theorem hears {first : Signal} (heard : first.hear b hungUp stopping sub = some (reply, b')) :
    Hears b hungUp stopping sub reply b' := by
  obtain ⟨signal, -, polled⟩ := List.exists_of_findSome?_eq_some heard
  unfold poll? at polled
  cases signal with
  | client =>
    simp only [Option.ite_none_right_eq_some] at polled
    obtain ⟨gone, ⟨⟩⟩ := polled
    exact .peerGone gone
  | service =>
    simp only [Option.ite_none_right_eq_some] at polled
    obtain ⟨stops, ⟨⟩⟩ := polled
    exact .stopping stops
  | subscription =>
    have received : ∀ {r b'}, Broker.receive b sub = (r, b') →
        (Broker.receive b sub).1 = r ∧ (Broker.receive b sub).2 = b' :=
      fun same => ⟨congrArg Prod.fst same, congrArg Prod.snd same⟩
    simp only at polled
    split at polled
    · rename_i same
      obtain ⟨taken, rfl⟩ := received same
      cases polled
      exact .delivery taken
    · rename_i same
      obtain ⟨ended, rfl⟩ := received same
      cases polled
      exact .feedOver ended
    · cases polled

theorem mem_round (first signal : Signal) : signal ∈ first.round := by
  cases first <;> cases signal <;> decide

/-- `hear` waits iff no signal is there. -/
theorem hear_eq_none {first : Signal} :
    first.hear b hungUp stopping sub = none ↔
      hungUp = false ∧ stopping = false ∧ (Broker.receive b sub).1 = .pending := by
  have pending : poll? b hungUp stopping sub subscription = none ↔ (Broker.receive b sub).1 = .pending := by
    rcases received : Broker.receive b sub with ⟨r, b'⟩
    cases r <;> simp [poll?, received]
  rw [hear, List.findSome?_eq_none_iff, ← pending]
  constructor
  · intro none
    refine ⟨?_, ?_, none subscription (mem_round ..)⟩
    · simpa [poll?] using none client (mem_round ..)
    · simpa [poll?] using none service (mem_round ..)
  · rintro ⟨stays, goes_on, waits⟩ signal -
    cases signal with
    | client => simp [poll?, stays]
    | service => simp [poll?, goes_on]
    | subscription => exact waits

end Signal

inductive Served (c : Channel) : Act → Reply → Channel → Prop where
  | openSession : Served c .openSession (.session c.openSession.1) c.openSession.2
  | subscribe (session : Nat) (pattern : Key) (subscriber : String) :
    Served c (.subscribe session pattern subscriber)
      (.subscription (c.subscribe session pattern subscriber).1)
      (c.subscribe session pattern subscriber).2
  | publish (session : Nat) {e : Event} {key : Key} {payload : List UInt8}
    (message : e.message = .ok (key, payload)) :
    Served c (.publish session e) (.published (c.publish session key payload).1)
      (c.publish session key payload).2.1
  | unroutable (session : Nat) {e : Event} {err : BrokerError} (message : e.message = .error err) :
    Served c (.publish session e) (.published (.error err)) c
  | count (pattern : Key) : Served c (.count pattern) (.counted (.ok (some (c.count pattern)))) c
  | cancel (sub : Nat) : Served c (.cancel sub) .done (c.cancel sub)
  | closeSession (session : Nat) : Served c (.closeSession session) .done (c.closeSession session)
  | offer (item : Item) (reply : Reply) : Served c (.offer item) reply c
  | listen (sub : Nat) (reply : Reply) : Served c (.listen sub) reply c
  | receive (sub : Nat) (reply : Reply) : Served c (.listen sub) reply (c.receive sub).2

/-- An act is at most one operation of the broker, and never `close`. -/
theorem Served.broker {c c' : Channel} {act : Act} {reply : Reply} (served : Served c act reply c') :
    c' = c ∨ ∃ op, op ≠ .close ∧ c' = (c.apply op).2 := by
  cases served with
  | openSession => exact .inr ⟨.openSession, nofun, rfl⟩
  | subscribe session pattern subscriber =>
    exact .inr ⟨.subscribe session pattern subscriber, nofun, rfl⟩
  | publish session message => exact .inr ⟨.publish session _ _, nofun, rfl⟩
  | unroutable session message => exact .inl rfl
  | count pattern => exact .inl rfl
  | cancel sub => exact .inr ⟨.cancel sub, nofun, rfl⟩
  | closeSession session => exact .inr ⟨.closeSession session, nofun, rfl⟩
  | offer item reply => exact .inl rfl
  | listen sub reply => exact .inl rfl
  | receive sub reply => exact .inr ⟨.receive sub, nofun, rfl⟩

theorem Sending.start_opening {headers : Headers} {req : SendRequest} {policy : StatusPolicy}
    {now limit : Nat} {begun : Scope × Sending}
    (start : Sending.start headers req policy now limit = .ok begun) :
    begun.2.phase = .opening := by
  unfold Sending.start at start
  repeat' split at start
  all_goals first | contradiction | skip
  rw [← Except.ok.inj start]

/-! ### Moves -/

inductive Move where
  | recvEvents (headers : Headers) (room : String)
  | sendEvent (headers : Headers) (req : SendRequest)
  /-- If the call listens, it polls `first` before the other signals. -/
  | step (i : Nat) (first : Signal)
  /-- A stream takes up an open relay. -/
  | takeUp (i capacity : Nat) (hungUp : Bool)
  /-- An open relay goes away without having been taken up. -/
  | forsake (i : Nat)
  /-- A sending is given up, or the call of a relay that is opening is dropped. -/
  | abandon (i : Nat)
  | read (i : Nat)
  | hangUp (i : Nat)
  | stop
  | wait (milliseconds : Nat)

namespace World

/-- A move that cannot be made changes nothing. -/
def move (svc : Service) (w : World Channel) : Move → World Channel
  | .recvEvents headers room =>
    match Scope.prepare headers .streaming w.now svc.callLimit with
    | .error _ => w
    | .ok scope =>
      match Relay.start scope room with
      | .error _ => w
      | .ok r => (w.spawn (.relay r ⟨0, [], false⟩)).2
  | .sendEvent headers req =>
    match Sending.start headers req svc.policy w.now svc.callLimit with
    | .error _ => w
    | .ok (_, s) => (w.spawn (.sending s)).2
  | .step i first => (w.step i first).getD w
  | .takeUp i capacity hungUp =>
    if (w.relay? i).map Relay.phase = some .joined then w.runRelay i capacity hungUp else w
  | .forsake i => if (w.relay? i).map Relay.phase = some .joined then w.dropRelay i else w
  | .abandon i => w.abandon i
  | .read i => ((w.read i).map Prod.snd).getD w
  | .hangUp i => w.hangUp i
  | .stop => { w with stopping := true }
  | .wait milliseconds => { w with now := w.now + milliseconds }

def play (svc : Service) (w : World Channel) (ms : List Move) : World Channel :=
  ms.foldl (move svc) w

def calls (w : World Channel) : List Call := w.tasks.map fun t => t.work.call

def IsPrompt (w : World Channel) : Prop := ∀ t ∈ w.tasks, t.underway = none

inductive Moved (w w' : World Channel) : Prop where
  | idle (broker : w'.broker = w.broker) (calls : w'.calls = w.calls)
  | opens {user room : String} (user_safe : Topic.isSafe user = true)
    (segment : Topic.isSegment room = true)
    (broker : w'.broker = w.broker) (calls : w'.calls = w.calls ++ [.relay { user, room }])
  | sends {s : Sending} (new : s.phase = .opening)
    (broker : w'.broker = w.broker) (calls : w'.calls = w.calls ++ [.sending s])
  | acts {i : Nat} {call : Call} {reply : Reply} (found : w.calls[i]? = some call)
    (served : Served w.broker call.act reply w'.broker)
    (calls : w'.calls = w.calls.set i (call.resume w.clock reply))
  | takenUp {i : Nat} {r : Relay} (found : w.calls[i]? = some (.relay r)) (waits : r.phase = .joined)
    (broker : w'.broker = w.broker) (calls : w'.calls = w.calls.set i (.relay r.run))
  | forsaken {i : Nat} {r : Relay} (found : w.calls[i]? = some (.relay r))
    (broker : w'.broker = w.broker.cancel r.subscription) (calls : w'.calls = w.calls)
  | abandoned {i : Nat} {s : Sending} (found : w.calls[i]? = some (.sending s))
    (broker : w'.broker = w.broker) (calls : w'.calls = w.calls.set i (.sending s.abandon))
  | deserted {i : Nat} {r : Relay} (found : w.calls[i]? = some (.relay r)) (opening : r.isOpening = true)
    (broker : w'.broker = r.letGo w.broker) (calls : w'.calls = w.calls.set i (.relay r.abandon))

theorem relay?_eq_some {w : World Channel} {i : Nat} {r : Relay} :
    w.relay? i = some r ↔ w.calls[i]? = some (.relay r) := by
  unfold relay? calls
  rw [List.getElem?_map]
  split
  · rename_i found
    simp [found, Work.call]
  · rename_i other
    cases found : w.tasks[i]? with
    | none => simp
    | some t =>
      obtain ⟨work, underway⟩ := t
      cases work with
      | relay r' stream => exact absurd found (other r' stream underway)
      | sending s => simp [Work.call]

theorem task_of_call {w : World Channel} (prompt : w.IsPrompt) {i : Nat} {call : Call}
    (found : w.calls[i]? = some call) :
    ∃ work : Work, w.tasks[i]? = some ⟨work, none⟩ ∧ work.call = call := by
  unfold calls at found
  rw [List.getElem?_map] at found
  obtain ⟨t, present, same⟩ := Option.map_eq_some_iff.mp found
  refine ⟨t.work, ?_, same⟩
  rw [present, ← prompt t (List.mem_of_getElem? present)]

theorem calls_setTask (w : World Channel) (i : Nat) (t : Task) :
    (w.setTask i t).calls = w.calls.set i t.work.call := by
  unfold calls setTask
  rw [List.map_set]

theorem reply_tasks (w : World Channel) (i : Nat) (work : Work) (r : Reply) :
    (w.reply i work r).tasks = w.tasks.set i ⟨(work.resume w.clock r).1, none⟩ := rfl

/-- One step of a task: its act is served and it resumes with the reply, or it waits. -/
theorem step_cases {w : World Channel} {i : Nat} {work : Work}
    (found : w.tasks[i]? = some ⟨work, none⟩) (first : Signal) :
    (∃ broker notices reply shown,
      w.step i first = some ({ w with broker, notices }.reply i shown reply) ∧ shown.call = work.call ∧
        Served w.broker work.act reply broker) ∨
    (w.step i first = none ∧ work.act.mayWait = true) := by
  simp only [step, found]
  cases act : work.act with
  | openSession => exact .inl ⟨_, _, _, work, rfl, rfl, .openSession⟩
  | subscribe session pattern subscriber =>
    exact .inl ⟨_, _, _, work, rfl, rfl, .subscribe session pattern subscriber⟩
  | publish session e =>
    simp only [begin]
    cases message : e.message with
    | error err => exact .inl ⟨_, _, _, work, rfl, rfl, .unroutable session message⟩
    | ok m => exact .inl ⟨_, _, _, work, rfl, rfl, .publish session message⟩
  | count pattern => exact .inl ⟨_, _, _, work, rfl, rfl, .count pattern⟩
  | cancel sub => exact .inl ⟨_, _, _, work, rfl, rfl, .cancel sub⟩
  | closeSession session => exact .inl ⟨_, _, _, work, rfl, rfl, .closeSession session⟩
  | offer item =>
    cases reply : (work.offer item).1 with
    | none => exact .inr ⟨by simp [reply], rfl⟩
    | some r =>
      have same := work.call_offer item
      refine .inl ⟨w.broker, w.notices, r, (work.offer item).2, ?_, same, .offer item r⟩
      simp [reply]
  | listen sub =>
    cases heard : first.hear w.broker work.hungUp w.stopping sub with
    | none => exact .inr ⟨by simp [heard], rfl⟩
    | some answer =>
      obtain ⟨r, broker⟩ := answer
      refine .inl ⟨broker, w.notices, r, work, by simp [heard], rfl, ?_⟩
      cases Signal.hears heard with
      | peerGone | stopping => exact .listen sub _
      | delivery | feedOver => exact .receive sub _
  | rest => exact .inr ⟨rfl, rfl⟩

theorem prompt_set {w : World Channel} (prompt : w.IsPrompt) (i : Nat) (work : Work) :
    ∀ t ∈ w.tasks.set i ⟨work, none⟩, t.underway = none := by
  intro t member
  rcases List.mem_or_eq_of_mem_set member with old | rfl
  · exact prompt t old
  · rfl

theorem move_step (svc : Service) {w : World Channel} (prompt : w.IsPrompt) {i : Nat} {call : Call}
    (found : w.calls[i]? = some call) (first : Signal) :
    (∃ reply, Served w.broker call.act reply (w.move svc (.step i first)).broker ∧
      (w.move svc (.step i first)).calls = w.calls.set i (call.resume w.clock reply)) ∨
    (w.move svc (.step i first) = w ∧ call.act.mayWait = true) := by
  obtain ⟨work, present, rfl⟩ := task_of_call prompt found
  rw [work.call_act]
  rcases step_cases present first with
    ⟨broker, notices, reply, shown, stepped, same, served⟩ | ⟨still, waits⟩
  · refine .inl ⟨reply, ?_, ?_⟩
    · rw [move, stepped]
      exact served
    · rw [move, stepped, Option.getD_some, calls, reply_tasks, List.map_set, shown.call_resume, same]
      rfl
  · refine .inr ⟨?_, waits⟩
    rw [move, still]
    rfl

theorem move_step_none {svc : Service} {w : World Channel} {i : Nat} {first : Signal}
    (missing : w.calls[i]? = none) : w.move svc (.step i first) = w := by
  have absent : w.tasks[i]? = none := by
    unfold calls at missing
    rw [List.getElem?_map] at missing
    exact Option.map_eq_none_iff.mp missing
  simp only [move, step, absent, Option.getD_none]

theorem spawn_calls (w : World Channel) (work : Work) :
    (w.spawn work).2.calls = w.calls ++ [work.call] := by
  unfold calls spawn
  rw [List.map_append]
  rfl

theorem calls_restream {w : World Channel} {i : Nat} {r : Relay} {stream : Stream} {u : Option Underway}
    (found : w.tasks[i]? = some ⟨.relay r stream, u⟩) (stream' : Stream) :
    (w.setTask i ⟨.relay r stream', u⟩).calls = w.calls := by
  have present : w.calls[i]? = some (.relay r) := by
    unfold calls
    rw [List.getElem?_map, found]
    rfl
  rw [calls_setTask]
  exact set_found present

theorem calls_of_task {w : World Channel} {i : Nat} {t : Task} (found : w.tasks[i]? = some t) :
    w.calls[i]? = some t.work.call := by
  unfold calls
  rw [List.getElem?_map, found]
  rfl

theorem moved (svc : Service) {w : World Channel} (prompt : w.IsPrompt) (m : Move) :
    Moved w (w.move svc m) := by
  cases m with
  | recvEvents headers room =>
    simp only [move]
    cases prepared : Scope.prepare headers .streaming w.now svc.callLimit with
    | error e => exact .idle rfl rfl
    | ok scope =>
      cases start : Relay.start scope room with
      | error e => simp only [start]; exact .idle rfl rfl
      | ok r =>
        obtain ⟨user, known, segment, rfl⟩ := Relay.start_ok start
        simp only [start]
        exact .opens (Scope.prepare_safe prepared known) segment rfl (spawn_calls w _)
  | sendEvent headers req =>
    simp only [move]
    cases start : Sending.start headers req svc.policy w.now svc.callLimit with
    | error e => exact .idle rfl rfl
    | ok s => exact .sends (Sending.start_opening start) rfl (spawn_calls w _)
  | step i first =>
    cases found : w.calls[i]? with
    | none => exact .idle (by rw [move_step_none found]) (by rw [move_step_none found])
    | some call =>
      rcases move_step svc prompt found first with ⟨reply, served, calls⟩ | ⟨still, _⟩
      · exact .acts found served calls
      · rw [still]
        exact .idle rfl rfl
  | takeUp i capacity hungUp =>
    simp only [move]
    split
    case isTrue joined =>
      obtain ⟨r, found, waits⟩ := Option.map_eq_some_iff.mp joined
      simp only [runRelay, found]
      exact .takenUp (relay?_eq_some.mp found) waits rfl (calls_setTask w i _)
    case isFalse => exact .idle rfl rfl
  | forsake i =>
    simp only [move]
    split
    case isTrue joined =>
      obtain ⟨r, found, _⟩ := Option.map_eq_some_iff.mp joined
      simp only [dropRelay, found]
      exact .forsaken (relay?_eq_some.mp found) rfl rfl
    case isFalse => exact .idle rfl rfl
  | abandon i =>
    simp only [move, abandon]
    split
    case h_1 s u found =>
      have calls := calls_setTask w i { work := .sending s.abandon }
      split
      · exact .abandoned (calls_of_task found) rfl calls
      · exact .abandoned (calls_of_task found) rfl calls
    case h_2 r stream u found =>
      split
      · rename_i opening
        exact .deserted (calls_of_task found) opening rfl (calls_setTask w i _)
      · exact .idle rfl rfl
    case h_3 => exact .idle rfl rfl
  | read i =>
    simp only [move, read]
    split
    case h_1 r stream u found =>
      cases stream.read with
      | none => exact .idle rfl rfl
      | some given => exact .idle rfl (calls_restream found given.2)
    case h_2 => exact .idle rfl rfl
  | hangUp i =>
    simp only [move, hangUp]
    split
    case h_1 r stream u found => exact .idle rfl (calls_restream found stream.hangUp)
    case h_2 => exact .idle rfl rfl
  | stop => exact .idle rfl rfl
  | wait milliseconds => exact .idle rfl rfl

theorem IsPrompt.move {svc : Service} {w : World Channel} (prompt : w.IsPrompt) (m : Move) :
    (w.move svc m).IsPrompt := by
  have spawned : ∀ work : Work, (w.spawn work).2.IsPrompt := by
    intro work t member
    rcases List.mem_append.mp member with old | new
    · exact prompt t old
    · rw [List.mem_singleton.mp new]
  cases m with
  | recvEvents headers room =>
    simp only [World.move]
    repeat' split
    · exact prompt
    · exact prompt
    · exact spawned _
  | sendEvent headers req =>
    simp only [World.move]
    split
    · exact prompt
    · exact spawned _
  | step i first =>
    cases found : w.calls[i]? with
    | none => rwa [move_step_none found]
    | some call =>
      obtain ⟨work, present, _⟩ := task_of_call prompt found
      rcases step_cases present first with ⟨broker, notices, reply, shown, stepped, _⟩ | ⟨still, _⟩
      · rw [World.move, stepped]
        exact prompt_set prompt i _
      · rw [World.move, still]
        exact prompt
  | takeUp i capacity hungUp =>
    simp only [World.move, runRelay]
    repeat' split
    · exact prompt_set prompt i _
    · exact prompt
    · exact prompt
  | forsake i =>
    simp only [World.move, dropRelay]
    repeat' split
    all_goals exact prompt
  | abandon i =>
    simp only [World.move, World.abandon]
    repeat' split
    · exact prompt_set prompt i _
    · exact prompt_set prompt i _
    · exact prompt_set prompt i _
    · exact prompt
    · exact prompt
  | read i =>
    simp only [World.move, World.read]
    split
    case h_1 r stream u found =>
      obtain rfl : u = none := prompt _ (List.mem_of_getElem? found)
      cases stream.read with
      | none => exact prompt
      | some given => exact prompt_set prompt i _
    case h_2 => exact prompt
  | hangUp i =>
    simp only [World.move, World.hangUp]
    split
    case h_1 r stream u found =>
      obtain rfl : u = none := prompt _ (List.mem_of_getElem? found)
      exact prompt_set prompt i _
    case h_2 => exact prompt
  | stop => exact prompt
  | wait milliseconds => exact prompt

end World
end RoomRelay
