import RoomRelay.Json.Printer
import RoomRelay.Settings

/-!
Settings laid out section by section, each with the addresses and times that are made of its values.
-/
namespace RoomRelay

def ServerSettings.summary (s : ServerSettings) : Json :=
  .object [("host", .string s.host), ("port", .ofNat s.port.toNat),
    ("call_deadline_ms", .ofNat s.callDeadlineMs.toNat),
    ("status_events", .string (nameIn StatusPolicy.names s.statusEvents)),
    ("bind_address", .string s.bindAddress), ("call_deadline", .ofNat s.callDeadlineMs.toNat)]

def AmqpSettings.summary (s : AmqpSettings) : Json :=
  .object [("host", .string s.host), ("port", .ofNat s.port.toNat), ("user", .string s.user),
    ("password", .string s.password), ("vhost", .string s.vhost), ("exchange", .string s.exchange),
    ("message_ttl_secs", .ofNat s.messageTtlSecs.toNat),
    ("ack_timeout_secs", .ofNat s.ackTimeoutSecs.toNat), ("uri", .string s.uri),
    ("redacted_uri", .string s.redactedUri)]

def NatsSettings.summary (s : NatsSettings) : Json :=
  .object [("host", .string s.host), ("port", .ofNat s.port.toNat), ("user", .string s.user),
    ("password", .string s.password), ("monitor_url", .string s.monitorUrl),
    ("server_address", .string s.serverAddress)]

def BrokerSettings.summary (s : BrokerSettings) : Json :=
  .object [("type", .string (nameIn BrokerChoice.names s.choice)), ("amqp", s.amqp.summary),
    ("nats", s.nats.summary)]

def RedisSettings.summary (s : RedisSettings) : Json :=
  .object [("host", .string s.host), ("port", .ofNat s.port.toNat),
    ("password", .string s.password), ("db", .ofInt s.db.toInt), ("url", .string s.url)]

def CacheSettings.summary (s : CacheSettings) : Json :=
  .object [("type", .string (nameIn CacheChoice.names s.choice)), ("redis", s.redis.summary),
    ("ttl_secs", .ofNat s.ttlSecs.toNat), ("ttl", .ofNat s.ttlSecs.toNat)]

def Settings.sections (s : Settings) : List (String × Json) :=
  [("server", s.server.summary), ("broker", s.broker.summary), ("cache", s.cache.summary)]

end RoomRelay
