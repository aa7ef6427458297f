import RoomRelay.Notice
import RoomRelay.Settings
import RoomRelay.Text.Number
import RoomRelay.Word

/-!
Single variables that fill in connection details. Each sets one field; a number that cannot be read
leaves its field as it was.
-/
namespace RoomRelay.Settings

abbrev Lookup := String → Option String

def port? (s : String) : Option UInt16 :=
  (Text.natOf? s).bind fun n => if n < Word.size16 then some n.toUInt16 else none

def int64? (s : String) : Option Int64 :=
  (Text.intOf? s).bind Word.int64?

def number? {α : Type} (read : String → Option α) (lookup : Lookup) (name : String) : Option α :=
  (lookup name).bind read

/-- Notice of a numeric variable that is set but cannot be read. -/
def numberNotices {α : Type} (read : String → Option α) (lookup : Lookup) (name : String) :
    List Notice :=
  match lookup name with
  | some raw => if (read raw).isNone then [.unparseableVariable name raw] else []
  | none => []

def override (s : Settings) (lookup : Lookup) : Settings where
  server := { s.server with port := (number? port? lookup "PORT").getD s.server.port }
  broker :=
    { s.broker with
      amqp :=
        { s.broker.amqp with
          host := (lookup "RABBITMQ_HOST").getD s.broker.amqp.host
          user := (lookup "RABBITMQ_USER").getD s.broker.amqp.user
          password := (lookup "RABBITMQ_PASS").getD s.broker.amqp.password
          vhost := (lookup "RABBITMQ_VHOST").getD s.broker.amqp.vhost
          exchange := (lookup "RABBITMQ_EXCHANGE").getD s.broker.amqp.exchange }
      nats :=
        { s.broker.nats with
          host := (lookup "NATS_HOST").getD s.broker.nats.host
          user := (lookup "NATS_USER").getD s.broker.nats.user
          password := (lookup "NATS_PASS").getD s.broker.nats.password } }
  cache :=
    { s.cache with
      redis :=
        { host := (lookup "REDIS_HOST").getD s.cache.redis.host
          port := (number? port? lookup "REDIS_PORT").getD s.cache.redis.port
          password := (lookup "REDIS_PASSWORD").getD s.cache.redis.password
          db := (number? int64? lookup "REDIS_DB").getD s.cache.redis.db } }

def overrideNotices (lookup : Lookup) : List Notice :=
  numberNotices port? lookup "PORT" ++ numberNotices port? lookup "REDIS_PORT" ++
    numberNotices int64? lookup "REDIS_DB"

end RoomRelay.Settings
