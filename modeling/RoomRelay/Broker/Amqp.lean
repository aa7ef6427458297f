import RoomRelay.Broker
import RoomRelay.Broker.Pump
import RoomRelay.Confirm
import RoomRelay.Settings
import RoomRelay.Total

/-!
The broker behind an AMQP connection. Events go to a durable topic exchange; each session has a
channel in confirm mode, and each subscription a queue of its own that lives no longer than the
subscription. What the server answers is told by a script; what reaches it is kept as commands.
-/
namespace RoomRelay
namespace Amqp

structure Properties where
  contentType : String := "application/protobuf"
  /-- Messages do not outlive a restart of the server. -/
  deliveryMode : Nat := 1
  /-- Milliseconds as text. -/
  expiration : String
  appId : String := "hypercards"
  deriving DecidableEq, Repr

inductive Command where
  | refused
  | start (mechanism user password : String)
  | openHost (vhost : String)
  | channelOpen (ch : Nat)
  | exchangeDeclare (ch : Nat) (exchange type : String)
      (passive durable autoDelete internal : Bool)
  | confirmSelect (ch : Nat)
  | publish (ch : Nat) (exchange : String) (mandatory immediate : Bool) (properties : Properties)
      (message : Delivery)
  | queueDeclare (ch : Nat) (queue : String) (passive durable exclusive autoDelete : Bool)
      (messageTtl : Int64)
  | queueBind (ch : Nat) (queue exchange routingKey : String)
  | consume (ch : Nat) (queue consumerTag : String) (noAck exclusive noLocal : Bool)
  | ack (ch tag : Nat) (multiple : Bool)
  | cancel (ch : Nat) (consumerTag : String)
  | channelClose (ch code : Nat) (text : String)
  deriving DecidableEq, Repr

inductive Settlement where
  | ack
  | nack
  /-- The server never says anything. -/
  | silence
  /-- The server closes the channel instead. -/
  | close
  /-- The channel turns out not to be in confirm mode. -/
  | unconfirmed
  /-- The message cannot be sent at all. -/
  | unsent
  deriving DecidableEq, Repr

/-- Commands that the server may answer by closing their channel. -/
inductive Step where
  | channelOpen
  | exchangeDeclare
  | confirmSelect
  | queueDeclare
  | queueBind
  | consume
  | publish
  deriving DecidableEq, Repr

def Step.name : Step → String
  | channelOpen => "channel.open"
  | exchangeDeclare => "exchange.declare"
  | confirmSelect => "confirm.select"
  | queueDeclare => "queue.declare"
  | queueBind => "queue.bind"
  | consume => "basic.consume"
  | publish => "basic.publish"

structure Script where
  /-- How many connections are closed at once. -/
  refuseConnections : Nat := 0
  refuse : List Step := []
  /-- How the publishes are settled, in order; what is not listed is acknowledged. -/
  settlements : List Settlement := []
  deriving DecidableEq, Repr

/-- One session: the number of its channel, whether it was closed, and its confirmations. -/
structure Session where
  channel : Nat
  closed : Bool := false
  tracker : ConfirmTracker
  deriving DecidableEq, Repr

structure Consumer where
  channel : Nat
  queue : String
  pump : Pump := {}
  acked : Nat := 0
  deriving DecidableEq, Repr, Inhabited

end Amqp

open Amqp in
structure Amqp where
  settings : AmqpSettings
  script : Script := {}
  poolClosed : Bool := false
  connected : Bool := false
  /-- For each channel ever opened, numbered from one, whether it is open. -/
  channels : List Bool := []
  sessions : List Session := []
  consumers : List Consumer := []
  settled : Nat := 0
  commands : List Command := []
  cancels : List Command := []
  deriving DecidableEq, Repr

namespace Amqp

def send (a : Amqp) (c : Command) : Amqp :=
  { a with commands := a.commands ++ [c] }

def nextSettlement (a : Amqp) : Settlement :=
  if a.script.refuse.contains .publish then .close else a.script.settlements.getD a.settled .ack

def isChannelOpen (a : Amqp) (ch : Nat) : Bool :=
  ch ≠ 0 && a.channels.getD (ch - 1) false

/-- A channel is over, and with it its consumers. -/
def endChannel (a : Amqp) (ch : Nat) : Amqp :=
  { a with
    channels := a.channels.set (ch - 1) false
    consumers := a.consumers.map fun c =>
      if c.channel = ch then { c with pump := c.pump.detach } else c }

def request (a : Amqp) (ch : Nat) (step : Step) (c : Command) : Bool × Amqp :=
  if !a.isChannelOpen ch then (false, a)
  else if a.script.refuse.contains step then (false, (a.send c).endChannel ch)
  else (true, a.send c)

def reconnect (a : Amqp) : Option Amqp :=
  if a.connected then some a
  else
    a.settings.login?.map fun l =>
      { (a.send (.start "PLAIN" l.user l.password)).send (.openHost l.vhost) with
        connected := true }

/-- The connection is lost, and with it all channels. -/
def disconnect (a : Amqp) : Amqp :=
  { a with
    connected := false
    channels := a.channels.map fun _ => false
    consumers := a.consumers.map fun c => { c with pump := c.pump.detach } }

/-- The most bytes that a name may have. A longer one cannot be sent, and the connection is lost
over it. -/
def maxName : Nat := 255

def openChannel (a : Amqp) : Except BrokerError Nat × Amqp :=
  match if a.poolClosed then none else a.reconnect with
  | none => (.error (.connection "Failed to get connection from pool"), a)
  | some a =>
    let ch := a.channels.length + 1
    let (ok, a) := { a with channels := a.channels ++ [true] }.request ch .channelOpen
      (.channelOpen ch)
    (if ok then .ok ch else .error (.connection "Failed to create channel"), a)

def closeChannel (a : Amqp) (ch : Nat) (text : String) : Amqp :=
  if a.isChannelOpen ch then (a.send (.channelClose ch 200 text)).endChannel ch else a

/-- Connects, trying again as often as the server refuses, and declares the exchange. -/
def connect (settings : AmqpSettings) (script : Script) : Except BrokerError Unit × Amqp :=
  let refused := List.replicate script.refuseConnections .refused
  let a : Amqp := { settings, script, commands := refused }
  let failure : BrokerError := .connection "Failed to declare exchange"
  match a.openChannel with
  | (.error e, a) => (.error e, a)
  | (.ok ch, a) =>
    if maxName < settings.exchange.utf8ByteSize then (.error failure, a.disconnect)
    else
      let (ok, a) := a.request ch .exchangeDeclare
        (.exchangeDeclare ch settings.exchange "topic" false true false false)
      if ok then (.ok (), a.closeChannel ch "exchange declared") else (.error failure, a)

def openSession (a : Amqp) : Except BrokerError Nat × Amqp :=
  match a.openChannel with
  | (.error e, a) => (.error e, a)
  | (.ok ch, a) =>
    let (ok, a) := a.request ch .confirmSelect (.confirmSelect ch)
    if ok then
      let tracker : ConfirmTracker := { wait := a.settings.ackTimeoutSecs.toNat * 1000 }
      (.ok a.sessions.length, { a with sessions := a.sessions ++ [{ channel := ch, tracker }] })
    else (.error (.connection "Failed to enable confirms"), a)

def properties (a : Amqp) : Properties :=
  { expiration := toString a.settings.messageTtlMs }

/-- A cancelled consumer tells the server so, if its channel is still open. -/
def flushConsumer (a : Amqp) (c : Consumer) : Option Command :=
  if c.pump.attached && c.pump.feed.cancelled && a.isChannelOpen c.channel then
    some (.cancel c.channel c.queue)
  else none

def settle (a : Amqp) : Amqp :=
  { a with
    cancels := a.cancels ++ a.consumers.filterMap a.flushConsumer
    consumers := a.consumers.map fun c =>
      if c.pump.feed.cancelled then { c with pump := c.pump.detach } else c }

/-- How long a confirmation is on its way. It comes over the network, so it is never there at once. -/
def confirmDelay : Nat := 1

def confirmation (tag : Nat) : Settlement → Confirmation
  | .ack => some (confirmDelay, .confirmed tag true)
  | .nack => some (confirmDelay, .confirmed tag false)
  | .silence => none
  | .unconfirmed => some (confirmDelay, .failed (.publish "channel is not in confirm mode"))
  | _ => some (confirmDelay, .failed (.publish "Publish confirmation failed"))

/-- What a session makes of the next settlement, which is the server's word on the message that it
sends. -/
def settleNext (a : Amqp) (session : Nat) (s : Session) (message : Delivery) :
    Except BrokerError Unit × Amqp × List Notice :=
  let settled := s.tracker.settle (confirmation s.tracker.nextTag a.nextSettlement)
  let sent := a.send (.publish s.channel a.settings.exchange false false a.properties message)
  let ended := if a.nextSettlement = .close then sent.endChannel s.channel else sent
  let a := { ended with
    settled := a.settled + 1
    sessions := a.sessions.set session { s with tracker := settled.tracker } }
  (settled.result.map fun _ => (), a.settle, settled.notices)

/-- What a session makes of a message whose key is too long: it is never confirmed. -/
def failNext (a : Amqp) (session : Nat) (s : Session) :
    Except BrokerError Unit × Amqp × List Notice :=
  let settled := s.tracker.settle (confirmation s.tracker.nextTag .close)
  let a := { a.disconnect with
    sessions := a.sessions.set session { s with tracker := settled.tracker } }
  (settled.result.map fun _ => (), a.settle, settled.notices)

/-- Publishes on the channel of a session and waits for the confirmation. A session that is closed
or out of step sends nothing. -/
def publish (a : Amqp) (session : Nat) (key : Key) (payload : List UInt8) :
    Except BrokerError Unit × Amqp × List Notice :=
  match a.sessions[session]? with
  | none => (.error (.publish "session is closed"), a, [])
  | some s =>
    if s.closed then (.error (.publish "session is closed"), a, [])
    else
      match s.tracker.check with
      | .error e => (.error e, a, [])
      | .ok _ =>
        if !a.isChannelOpen s.channel then (.error (.publish "Failed to publish"), a, [])
        else if a.nextSettlement = .unsent then
          (.error (.publish "Failed to publish"), { a with settled := a.settled + 1 }, [])
        else if maxName < key.encode.utf8ByteSize then a.failNext session s
        else a.settleNext session s ⟨key.encode, payload⟩

/-- A mark that stands for a part of a name that is never the same twice. -/
def uniqueMark : String := "UUID"

def uniqueSize : Nat := 32

def queueName (binding subscriber : String) : String :=
  s!"sub.{binding}.{subscriber}.{uniqueMark}"

def queueSize (queue : String) : Nat :=
  queue.utf8ByteSize - uniqueMark.utf8ByteSize + uniqueSize

def subscribe (a : Amqp) (session : Nat) (pattern : Key) (subscriber : String) :
    Except BrokerError Nat × Amqp :=
  match a.sessions[session]? with
  | none => (.error (.subscribe "session is closed"), a)
  | some s =>
    if s.closed then (.error (.subscribe "session is closed"), a)
    else
      let ch := s.channel
      let queue := queueName pattern.encode subscriber
      if a.isChannelOpen ch && decide (maxName < queueSize queue) then
        (.error (.subscribe "Failed to declare queue"), a.disconnect)
      else
        match a.request ch .queueDeclare (.queueDeclare ch queue false false true true
            a.settings.messageTtlMs.toInt64) with
        | (false, a) => (.error (.subscribe "Failed to declare queue"), a)
        | (true, a) =>
          match a.request ch .queueBind
              (.queueBind ch queue a.settings.exchange pattern.encode) with
          | (false, a) => (.error (.subscribe "Failed to bind queue"), a)
          | (true, a) =>
            match a.request ch .consume (.consume ch queue queue false false false) with
            | (false, a) => (.error (.subscribe "Failed to start consumer"), a)
            | (true, a) =>
              (.ok a.consumers.length,
                { a with consumers := a.consumers ++ [{ channel := ch, queue }] })

def acknowledge (a : Amqp) (i : Nat) (c : Consumer) : Amqp :=
  { a with
    consumers := a.consumers.set i { c with acked := c.pump.taken }
    commands := a.commands ++ (List.range (c.pump.taken - c.acked)).map fun k =>
      .ack c.channel (c.acked + 1 + k) false }

def pump (a : Amqp) (sub : Nat) : Pump :=
  match a.consumers[sub]? with
  | some c => c.pump
  | none => { feed := { cancelled := true }, attached := false }

def setPump (a : Amqp) (sub : Nat) (p : Pump) : Amqp :=
  match a.consumers[sub]? with
  | some c => a.acknowledge sub { c with pump := p }
  | none => a

def receive (a : Amqp) (sub : Nat) : Received × Amqp :=
  ((a.pump sub).receive.1, a.setPump sub (a.pump sub).receive.2)

def cancel (a : Amqp) (sub : Nat) : Amqp :=
  a.setPump sub (a.pump sub).cancel

def endSession (a : Amqp) (session : Nat) (text : String) : Amqp :=
  match a.sessions[session]? with
  | none => a
  | some s =>
    if s.closed then a
    else
      { a with sessions := a.sessions.set session { s with closed := true } }.closeChannel
        s.channel text

/-! ### What the server does of its own accord -/

def serverDeliver (a : Amqp) (sub : Nat) (d : Delivery) : Amqp :=
  if (a.pump sub).feed.cancelled then a else a.setPump sub ((a.pump sub).push d)

/-- Cancels a consumer, which answers in kind. -/
def serverCancel (a : Amqp) (sub : Nat) : Amqp :=
  match a.consumers[sub]? with
  | some c =>
    let isTold := c.pump.attached && a.isChannelOpen c.channel
    let told := if isTold then [.cancel c.channel c.queue] else []
    { a.setPump sub c.pump.detach with cancels := a.cancels ++ told }
  | none => a

def serverCloseChannel (a : Amqp) (sub : Nat) : Amqp :=
  match a.consumers[sub]? with
  | some c => a.endChannel c.channel
  | none => a

/-- The commands since the last time, those from the background at the end. -/
def takeCommands (a : Amqp) : List Command × Amqp :=
  (a.commands ++ a.cancels, { a with commands := [], cancels := [] })

instance : Broker Amqp where
  openSession := openSession
  subscribe := subscribe
  planPublish _ _ := {}
  publish a _ session key payload := a.publish session key payload
  count a _ := (.ok none, a)
  receive := receive
  isCancelled a sub := (a.pump sub).feed.cancelled
  cancel := cancel
  closeSession a session := a.endSession session "session closed"
  dropSession a session := a.endSession session "session dropped"
  close a := { a with poolClosed := true }
  settle := settle
  held a := totalOf (fun c => c.pump.held) a.consumers

end Amqp
end RoomRelay
