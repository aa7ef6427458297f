import RoomRelay.Settings
import RoomRelay.Word

/-!
The shape of settings: which sections there are and which fields they have. It is read from values
of any format that can tell what a text, a number, a choice and a section are.
-/
namespace RoomRelay.Settings

/-- What values of a format mean. Each reading fails on a value of another kind. -/
structure Format (V : Type) where
  text : V → Option String
  unsigned : Nat → V → Option Nat
  signed : V → Option Int64
  choice : {α : Type} → List (String × α) → V → Option α
  /-- The members of a section with the given names, in this order if they have no names. -/
  members? : List String → V → Option (String → Option V)

namespace Format

variable {V : Type} (f : Format V)

/-- A member that has a default when it is absent. -/
def member {α : Type} (read : V → Option α) (members : String → Option V) (name : String)
    (default : α) : Option α :=
  match members name with
  | none => some default
  | some v => read v

def port (v : V) : Option UInt16 :=
  (f.unsigned Word.size16 v).map Nat.toUInt16

def count (v : V) : Option UInt64 :=
  (f.unsigned Word.size64 v).map Nat.toUInt64

def server (v : V) : Option ServerSettings := do
  let d : ServerSettings := {}
  let m ← f.members? ["host", "port", "call_deadline_ms", "status_events"] v
  let host ← member f.text m "host" d.host
  let port ← member f.port m "port" d.port
  let deadline ← member f.count m "call_deadline_ms" d.callDeadlineMs
  let status ← member (f.choice StatusPolicy.names) m "status_events" d.statusEvents
  return ⟨host, port, deadline, status⟩

def amqp (v : V) : Option AmqpSettings := do
  let d : AmqpSettings := {}
  let m ← f.members? ["host", "port", "user", "password", "vhost", "exchange",
    "message_ttl_secs", "ack_timeout_secs"] v
  let host ← member f.text m "host" d.host
  let port ← member f.port m "port" d.port
  let user ← member f.text m "user" d.user
  let password ← member f.text m "password" d.password
  let vhost ← member f.text m "vhost" d.vhost
  let exchange ← member f.text m "exchange" d.exchange
  let ttl ← member f.count m "message_ttl_secs" d.messageTtlSecs
  let wait ← member f.count m "ack_timeout_secs" d.ackTimeoutSecs
  return ⟨host, port, user, password, vhost, exchange, ttl, wait⟩

def nats (v : V) : Option NatsSettings := do
  let d : NatsSettings := {}
  let m ← f.members? ["host", "port", "user", "password", "monitor_url"] v
  let host ← member f.text m "host" d.host
  let port ← member f.port m "port" d.port
  let user ← member f.text m "user" d.user
  let password ← member f.text m "password" d.password
  let monitor ← member f.text m "monitor_url" d.monitorUrl
  return ⟨host, port, user, password, monitor⟩

def broker (v : V) : Option BrokerSettings := do
  let d : BrokerSettings := {}
  let m ← f.members? ["type", "amqp", "nats"] v
  let choice ← member (f.choice BrokerChoice.names) m "type" d.choice
  let amqp ← member f.amqp m "amqp" d.amqp
  let nats ← member f.nats m "nats" d.nats
  return ⟨choice, amqp, nats⟩

def redis (v : V) : Option RedisSettings := do
  let d : RedisSettings := {}
  let m ← f.members? ["host", "port", "password", "db"] v
  let host ← member f.text m "host" d.host
  let port ← member f.port m "port" d.port
  let password ← member f.text m "password" d.password
  let db ← member f.signed m "db" d.db
  return ⟨host, port, password, db⟩

def cache (v : V) : Option CacheSettings := do
  let d : CacheSettings := {}
  let m ← f.members? ["type", "redis", "ttl_secs"] v
  let choice ← member (f.choice CacheChoice.names) m "type" d.choice
  let redis ← member f.redis m "redis" d.redis
  let ttl ← member f.count m "ttl_secs" d.ttlSecs
  return ⟨choice, redis, ttl⟩

/-- Reads settings. What is absent has its default. -/
def settings (v : V) : Option Settings := do
  let d : Settings := {}
  let m ← f.members? ["server", "broker", "cache"] v
  let server ← member f.server m "server" d.server
  let broker ← member f.broker m "broker" d.broker
  let cache ← member f.cache m "cache" d.cache
  return ⟨server, broker, cache⟩

end Format
end RoomRelay.Settings
