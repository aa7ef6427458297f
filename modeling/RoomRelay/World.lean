import RoomRelay.Relay
import RoomRelay.Sending
import RoomRelay.Stream
import RoomRelay.Total

/-!
A running service: a broker, a clock, and calls that go on side by side. `World.step` lets one call
take one step; all interleavings are sequences of such steps. Time stands still while a call can run
and then jumps to the moment for which the next one waits.
-/
namespace RoomRelay

structure Underway where
  due : Nat
  plan : PublishPlan
  session : Nat
  key : Key
  payload : List UInt8
  /-- How many were begun before it. -/
  number : Nat
  deriving DecidableEq

inductive Work where
  | relay (r : Relay) (stream : Stream)
  | sending (s : Sending)

structure Task where
  work : Work
  underway : Option Underway := none

structure World (β : Type) where
  broker : β
  /-- Milliseconds since the start. -/
  now : Nat := 0
  /-- The next reading of the wall clock; each reading is later than the one before. -/
  clock : Int64
  stopping : Bool := false
  tasks : List Task := []
  /-- How many publishes that take time have been begun. -/
  begun : Nat := 0
  notices : List Notice := []

namespace Work

def act : Work → Act
  | relay r _ => r.act
  | sending s => s.act

def resume (w : Work) (now : Int64) (reply : Reply) : Work × List Notice :=
  match w with
  | relay r stream => (relay (r.resume now reply).1 stream, (r.resume now reply).2)
  | sending s => (sending (s.resume now reply), [])

def offer (w : Work) (item : Item) : Option Reply × Work :=
  match w with
  | relay r stream => ((stream.offer item).1, relay r (stream.offer item).2)
  | sending s => (none, sending s)

def publishesLeft : Work → Nat
  | relay r _ => r.publishesLeft
  | sending s => s.publishesLeft

/-- A bound on the steps besides those for deliveries. -/
def stepBound : Work → Nat
  | relay _ _ => Relay.phaseBound
  | sending s => s.stepBound

def hungUp : Work → Bool
  | relay _ stream => stream.hungUp
  | sending _ => false

end Work

namespace Signal

variable {β : Type} [Broker β]

/-- The reply to a task that listens, if the signal is there. -/
def poll? (b : β) (hungUp stopping : Bool) (sub : Nat) : Signal → Option (Reply × β)
  | client => if hungUp then some (.peerGone, b) else none
  | service => if stopping then some (.stopping, b) else none
  | subscription =>
    match Broker.receive b sub with
    | (.delivery d, b) => some (.delivery d, b)
    | (.over, b) => some (.feedOver, b)
    | (.pending, _) => none

/-- The reply of the first signal that is there. -/
def hear (first : Signal) (b : β) (hungUp stopping : Bool) (sub : Nat) : Option (Reply × β) :=
  first.round.findSome? (poll? b hungUp stopping sub)

end Signal

namespace World

variable {β : Type} [Broker β]

def onBroker (w : World β) (f : β → β) : World β :=
  { w with broker := f w.broker }

def note (w : World β) (ns : List Notice) : World β :=
  { w with notices := w.notices ++ ns }

/-- A new task at the end of the list, where its place is its number. -/
def spawn (w : World β) (work : Work) : Nat × World β :=
  (w.tasks.length, { w with tasks := w.tasks ++ [{ work }] })

def setTask (w : World β) (i : Nat) (t : Task) : World β :=
  { w with tasks := w.tasks.set i t }

/-- Hands a reply to a task and reads the clock. -/
def reply (w : World β) (i : Nat) (work : Work) (r : Reply) : World β :=
  let (work, ns) := work.resume w.clock r
  ({ w with clock := w.clock + 1 }.setTask i { work }).note ns

def finish (w : World β) (u : Underway) : Except BrokerError Unit × World β :=
  let (r, broker, ns) := Broker.publish w.broker u.plan u.session u.key u.payload
  (r, { w with broker }.note ns)

/-- Begins a publish; an event of no kind cannot be published. -/
def begin (w : World β) (session : Nat) (e : Event) : Except BrokerError Underway :=
  e.message.map fun (key, payload) =>
    let plan := Broker.planPublish w.broker key
    ⟨w.now + plan.delay, plan, session, key, payload, w.begun⟩

/-- One step of a task, if it can take one. A publish that takes time is begun in one step and ended
in another. A task that listens polls `first` before the other signals. -/
def step (w : World β) (i : Nat) (first : Signal := .client) : Option (World β) :=
  match w.tasks[i]? with
  | none => none
  | some ⟨work, some u⟩ =>
    if u.due ≤ w.now then
      let (r, w) := w.finish u
      some (w.reply i work (.published r))
    else none
  | some ⟨work, none⟩ =>
    match work.act with
    | .openSession =>
      let (r, broker) := Broker.openSession w.broker
      some ({ w with broker }.reply i work (.session r))
    | .subscribe session pattern subscriber =>
      let (r, broker) := Broker.subscribe w.broker session pattern subscriber
      some ({ w with broker }.reply i work (.subscription r))
    | .publish session e =>
      match w.begin session e with
      | .error err => some (w.reply i work (.published (.error err)))
      | .ok u =>
        if u.plan.delay = 0 then
          let (r, w) := w.finish u
          some (w.reply i work (.published r))
        else some ({ w with begun := w.begun + 1 }.setTask i ⟨work, some u⟩)
    | .count pattern =>
      let (r, broker) := Broker.count w.broker pattern
      some ({ w with broker }.reply i work (.counted r))
    | .cancel sub => some ((w.onBroker fun b => Broker.cancel b sub).reply i work .done)
    | .closeSession session =>
      some ((w.onBroker fun b => Broker.closeSession b session).reply i work .done)
    | .offer item =>
      let (r, work) := work.offer item
      r.map fun r => w.reply i work r
    | .listen sub =>
      (first.hear w.broker work.hungUp w.stopping sub).map fun (r, broker) =>
        { w with broker }.reply i work r
    | .rest => none

/-! ### Running until all wait -/

/-- Steps of one task until it waits. The first argument bounds them; the answer tells whether there
was any. -/
def runTask (w : World β) (i : Nat) : Nat → Bool × World β
  | 0 => (false, w)
  | fuel + 1 =>
    match w.step i with
    | none => (false, w)
    | some w => (true, (w.runTask i fuel).2)

def dueNumber (w : World β) (i : Nat) : Option Nat :=
  (((w.tasks[i]?).bind Task.underway).filter fun u => u.due ≤ w.now).map Underway.number

/-- The order in which tasks take their turn: first those whose publish is due, in the order in
which they began it. -/
def order (w : World β) : List Nat :=
  let (due, rest) := (List.range w.tasks.length).partition fun i => (w.dueNumber i).isSome
  due.mergeSort (fun i j => (w.dueNumber i).getD 0 ≤ (w.dueNumber j).getD 0) ++ rest

def runAll (w : World β) (bound : Nat) : Bool × World β :=
  w.order.foldl (fun (ran, w) i =>
    let (r, w) := w.runTask i bound
    (ran || r, w)) (false, w)

def turns (w : World β) (bound : Nat) : Nat → World β
  | 0 => w
  | fuel + 1 =>
    match w.runAll bound with
    | (true, w) => w.turns bound fuel
    | (false, w) => w

def publishesLeft (w : World β) : Nat :=
  totalOf (fun t => t.work.publishesLeft) w.tasks

/-- How many deliveries relays still take at most: those that wait, and every publish once for
each. -/
def deliveriesLeft (w : World β) : Nat :=
  Broker.held w.broker + w.publishesLeft * w.tasks.length

def stepBound (w : World β) : Nat :=
  totalOf (fun t => t.work.stepBound) w.tasks + 2 * w.deliveriesLeft

def settle (w : World β) : World β :=
  (w.turns (w.stepBound + 1) (w.stepBound + 1)).onBroker Broker.settle

def nextDue (w : World β) : Option Nat :=
  (w.tasks.filterMap fun t => t.underway.map Underway.due).min?

/-- Runs tasks as they come due, up to but not including a moment. The last argument bounds how
often time jumps. -/
def runBefore (w : World β) (time : Nat) : Nat → World β
  | 0 => w
  | fuel + 1 =>
    match w.settle.nextDue with
    | some due =>
      if due < time then { w.settle with now := max w.now due }.runBefore time fuel else w.settle
    | none => w.settle

/-- Waits until a moment while the tasks go on. A moment that is not to come is waited for in no
time. -/
def waitUntil (w : World β) (time : Nat) : World β :=
  if time ≤ w.now then w else { w.runBefore time (w.publishesLeft + 1) with now := time }

/-! ### Calls in the foreground -/

/-- Runs one task to where it rests, waiting for its publishes, unless the deadline comes first. The
answer tells whether the task came to its rest; the last argument bounds the steps. -/
def drive (w : World β) (i : Nat) (scope : Scope) : Nat → Bool × World β
  | 0 => (true, w)
  | fuel + 1 =>
    match (w.tasks[i]?).bind Task.underway with
    | some u =>
      match scope.abandonedAt w.now u.due with
      | some time => (false, w.waitUntil time)
      | none =>
        let w := w.waitUntil u.due
        match w.step i with
        | some w => w.drive i scope fuel
        | none => (true, w)
    | none =>
      match w.step i with
      | some w => w.drive i scope fuel
      | none => (true, w)

def driveBound (w : World β) (i : Nat) : Nat :=
  (w.tasks[i]?.map fun t => t.work.stepBound).getD 0

def relay? (w : World β) (i : Nat) : Option Relay :=
  match w.tasks[i]? with
  | some ⟨.relay r _, _⟩ => some r
  | _ => none

def stream? (w : World β) (i : Nat) : Option Stream :=
  match w.tasks[i]? with
  | some ⟨.relay _ s, _⟩ => some s
  | _ => none

/-- Opens a relay for a scope in a room; it then waits to be taken up by a stream. -/
def openRelay (w : World β) (scope : Scope) (room : String) : Except Failure Nat × World β :=
  match Relay.start scope room with
  | .error e => (.error e, w)
  | .ok relay =>
    let (i, w) := w.spawn (.relay relay ⟨0, [], false⟩)
    let (_, w) := w.drive i Scope.anonymous (w.driveBound i)
    match (w.relay? i).map Relay.phase with
    | some (.refused e) => (.error e, w)
    | _ => (.ok i, w)

/-- A relay that is open is taken up by a stream, whose client may have hung up already. -/
def runRelay (w : World β) (i capacity : Nat) (hungUp : Bool) : World β :=
  match w.relay? i with
  | some r => w.setTask i { work := .relay r.run ⟨capacity, [], hungUp⟩ }
  | none => w

/-- An open relay goes away without having been taken up. -/
def dropRelay (w : World β) (i : Nat) : World β :=
  match w.relay? i with
  | some r => w.onBroker fun b => Broker.cancel (Broker.dropSession b r.session) r.subscription
  | none => w

def read (w : World β) (i : Nat) : Option (Item × World β) :=
  match w.tasks[i]? with
  | some ⟨.relay r stream, u⟩ =>
    stream.read.map fun (item, stream) => (item, w.setTask i ⟨.relay r stream, u⟩)
  | _ => none

def hangUp (w : World β) (i : Nat) : World β :=
  match w.tasks[i]? with
  | some ⟨.relay r stream, u⟩ => w.setTask i ⟨.relay r stream.hangUp, u⟩
  | _ => w

/-- Publishes on a session that no call owns. -/
def publish (w : World β) (session : Nat) (key : Key) (payload : List UInt8) :
    Except BrokerError Unit × World β :=
  let plan := Broker.planPublish w.broker key
  let due := w.now + plan.delay
  (w.waitUntil due).finish ⟨due, plan, session, key, payload, w.begun⟩

def publishEvent (w : World β) (session : Nat) (e : Event) : Except BrokerError Unit × World β :=
  match e.message with
  | .ok (key, payload) => w.publish session key payload
  | .error err => (.error err, w)

/-- Drops a call that has no answer yet: a sending, or a relay that is opening. Its session is let go of
unclosed. -/
def abandon (w : World β) (i : Nat) : World β :=
  match w.tasks[i]? with
  | some ⟨.sending s, _⟩ =>
    let w := w.setTask i { work := .sending s.abandon }
    match s.session? with
    | some session => w.onBroker fun b => Broker.dropSession b session
    | none => w
  | some ⟨.relay r stream, _⟩ =>
    if r.isOpening then (w.setTask i { work := .relay r.abandon stream }).onBroker r.letGo else w
  | none => w

def result? (w : World β) (i : Nat) : Option (Except Failure Unit) :=
  match w.tasks[i]? with
  | some ⟨.sending s, _⟩ => s.result?
  | _ => none

end World

structure Service where
  policy : StatusPolicy := .reject
  /-- How long a call with one answer may take, in milliseconds. -/
  callLimit : Nat := 500
  deriving DecidableEq, Repr

namespace Service

variable {β : Type} [Broker β]

/-- Publishes one event to each listed room within the deadline of the call. -/
def sendEvent (s : Service) (w : World β) (headers : Headers) (req : SendRequest) :
    Except Failure Unit × World β :=
  match Sending.start headers req s.policy w.now s.callLimit with
  | .error e => (.error e, w)
  | .ok (scope, sending) =>
    let (i, w) := w.spawn (.sending sending)
    match w.drive i scope (w.driveBound i) with
    | (false, w) => (.error .deadlineExceeded, w.abandon i)
    | (true, w) => ((w.result? i).getD (.ok ()), w)

/-- Opens the stream of one client; the answer is the number of its relay. -/
def recvEvents (s : Service) (w : World β) (headers : Headers) (room : String) :
    Except Failure Nat × World β :=
  match Scope.prepare headers .streaming w.now s.callLimit with
  | .error e => (.error (.forbidden e), w)
  | .ok scope =>
    match w.openRelay scope room with
    | (.error e, w) => (.error e, w)
    | (.ok i, w) => (.ok i, w.runRelay i Stream.serviceCapacity false)

/-- Rooms are not kept track of: a caller with an identity gets an empty list. -/
def listRooms (s : Service) (now : Nat) (headers : Headers) : Except Failure (List String) :=
  match Scope.prepare headers {} now s.callLimit with
  | .error e => .error (.forbidden e)
  | .ok _ => .ok []

def listRoomMembers (s : Service) (now : Nat) (headers : Headers) (_room : String) :
    Except Failure (List String) :=
  s.listRooms now headers

end Service
end RoomRelay
