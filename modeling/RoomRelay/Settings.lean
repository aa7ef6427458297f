import RoomRelay.Url
import RoomRelay.Validation

/-!
Settings of the service, with their defaults, and the addresses that are made of them.
-/
namespace RoomRelay

inductive BrokerChoice where
  | amqp
  | nats
  | channel
  deriving DecidableEq, Repr

inductive CacheChoice where
  | redis
  | memory
  deriving DecidableEq, Repr

def StatusPolicy.names : List (String × StatusPolicy) :=
  [("reject", .reject), ("allow", .allow)]

def BrokerChoice.names : List (String × BrokerChoice) :=
  [("amqp", .amqp), ("nats", .nats), ("channel", .channel)]

def CacheChoice.names : List (String × CacheChoice) :=
  [("redis", .redis), ("memory", .memory)]

def nameIn {α : Type} [DecidableEq α] (names : List (String × α)) (a : α) : String :=
  ((names.find? fun p => p.2 = a).map Prod.fst).getD ""

structure ServerSettings where
  host : String := "0.0.0.0"
  port : UInt16 := 8888
  /-- How long a call with one answer may take, in milliseconds. -/
  callDeadlineMs : UInt64 := 500
  statusEvents : StatusPolicy := .reject
  deriving DecidableEq, Repr

structure AmqpSettings where
  host : String := "localhost"
  port : UInt16 := 5672
  user : String := "guest"
  password : String := "guest"
  /-- The empty text stands for the broker's own default. -/
  vhost : String := ""
  exchange : String := "hypercards"
  /-- How long a message lives, in seconds. -/
  messageTtlSecs : UInt64 := 300
  /-- How long to wait for a confirmation, in seconds. -/
  ackTimeoutSecs : UInt64 := 900
  deriving DecidableEq, Repr

structure NatsSettings where
  host : String := "nats"
  port : UInt16 := 4222
  user : String := ""
  password : String := ""
  monitorUrl : String := "http://nats:8222"
  deriving DecidableEq, Repr

structure BrokerSettings where
  choice : BrokerChoice := .channel
  amqp : AmqpSettings := {}
  nats : NatsSettings := {}
  deriving DecidableEq, Repr

structure RedisSettings where
  host : String := "localhost"
  port : UInt16 := 6379
  password : String := ""
  db : Int64 := 0
  deriving DecidableEq, Repr

structure CacheSettings where
  choice : CacheChoice := .memory
  redis : RedisSettings := {}
  /-- How long a screen lives, in seconds. -/
  ttlSecs : UInt64 := 86400
  deriving DecidableEq, Repr

structure Settings where
  server : ServerSettings := {}
  broker : BrokerSettings := {}
  cache : CacheSettings := {}
  deriving DecidableEq, Repr

def ServerSettings.bindAddress (s : ServerSettings) : String :=
  s!"{s.host}:{s.port}"

namespace AmqpSettings

def uri (s : AmqpSettings) : String :=
  s!"amqp://{s.user}:{s.password}@{s.host}:{s.port}" ++ if s.vhost = "" then "" else "/" ++ s.vhost

/-- The same with the password masked, for operators to read. -/
def redactedUri (s : AmqpSettings) : String :=
  { s with password := "***" }.uri

structure Login where
  user : String
  password : String
  vhost : String
  deriving DecidableEq, Repr

/-- What the address says of the login. A part that is empty there means the usual one. A user or a
password may spell an address that leads elsewhere. -/
def login? (s : AmqpSettings) : Option Login := do
  let u ← Url.parse? s.uri
  let orUsual := fun part => if part = "" then some "guest" else Url.unescape? part
  if u.host = s!"{s.host}:{s.port}" then
    let vhost ← Url.unescape? (String.ofList (u.path.toList.drop 1))
    return ⟨← orUsual u.user, ← orUsual u.password, if u.path = "" then "/" else vhost⟩
  else none

/-- How long a message lives, in milliseconds, in 64-bit arithmetic. -/
def messageTtlMs (s : AmqpSettings) : UInt64 :=
  s.messageTtlSecs * 1000

end AmqpSettings

def NatsSettings.serverAddress (s : NatsSettings) : String :=
  s!"nats://{s.host}:{s.port}"

def NatsSettings.monitorBase (s : NatsSettings) : List Char :=
  (s.monitorUrl.toList.reverse.dropWhile (· == '/')).reverse

def NatsSettings.monitorTarget? (s : NatsSettings) : Option String :=
  (Url.ofWeb? (String.ofList s.monitorBase ++ "/connz?subs=1")).map Url.target

def RedisSettings.url (s : RedisSettings) : String :=
  let credentials := if s.password = "" then "" else s!":{s.password}@"
  s!"redis://{credentials}{s.host}:{s.port}/{s.db}"

/-- The password that the address gives, if any. -/
def RedisSettings.login? (s : RedisSettings) : Option String := do
  let u ← Url.parse? s.url
  if u.password = "" then none else Url.unescape? u.password

def CacheSettings.ttlMs (s : CacheSettings) : Nat :=
  s.ttlSecs.toNat * 1000

inductive SettingsError where
  /-- They could not be read at all. -/
  | load
  | missing (field : String)
  | invalid (field reason : String)
  deriving DecidableEq, Repr

def SettingsError.message : SettingsError → String
  | load => "Failed to load config"
  | missing field => "Missing required value: " ++ field
  | invalid field reason => s!"Invalid value for {field}: {reason}"

namespace Settings

def require (value field : String) : Except SettingsError Unit :=
  if Text.isBlank value then .error (.missing field) else .ok ()

def requirePositive (value : UInt64) (field : String) : Except SettingsError Unit :=
  if value = 0 then .error (.invalid field "must be positive") else .ok ()

def validateServer (s : ServerSettings) : Except SettingsError Unit := do
  if s.port = 0 then throw (.missing "server.port")
  requirePositive s.callDeadlineMs "server.call_deadline_ms"

def validateBroker (s : BrokerSettings) : Except SettingsError Unit :=
  match s.choice with
  | .amqp => do
    require s.amqp.host "broker.amqp.host"
    require s.amqp.user "broker.amqp.user"
    require s.amqp.password "broker.amqp.password"
    require s.amqp.exchange "broker.amqp.exchange"
    requirePositive s.amqp.messageTtlSecs "broker.amqp.message_ttl_secs"
    requirePositive s.amqp.ackTimeoutSecs "broker.amqp.ack_timeout_secs"
  | .nats => require s.nats.host "broker.nats.host"
  | .channel => .ok ()

def validateCache (s : CacheSettings) : Except SettingsError Unit :=
  match s.choice with
  | .redis => do
    require s.redis.host "cache.redis.host"
    if s.redis.port = 0 then throw (.missing "cache.redis.port")
  | .memory => .ok ()

def validate (s : Settings) : Except SettingsError Unit := do
  validateServer s.server
  validateBroker s.broker
  validateCache s.cache

end Settings
end RoomRelay
