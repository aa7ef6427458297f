import RoomRelay.Backend
import RoomRelay.Json.Printer

/-!
What reached servers, as records that can be read in a trace: the name of each command with its
arguments. How a message is shown is up to the reader of the trace.
-/
namespace RoomRelay

def Json.command (name : String) (arguments : List (String × Json)) : Json :=
  .object (("cmd", .string name) :: arguments)

def Amqp.Properties.record (p : Properties) : Json :=
  .object [("content_type", .string p.contentType), ("delivery_mode", .ofNat p.deliveryMode),
    ("expiration", .string p.expiration), ("app_id", .string p.appId), ("others", .bool false)]

def Amqp.Command.record (message : Delivery → Json) : Amqp.Command → Json
  | refused => .command "connection refused" []
  | start mechanism user password => .command "start"
      [("mechanism", .string mechanism), ("user", .string user), ("password", .string password)]
  | openHost vhost => .command "open" [("vhost", .string vhost)]
  | channelOpen ch => .command "channel.open" [("ch", .ofNat ch)]
  | exchangeDeclare ch exchange type passive durable autoDelete internal =>
    .command "exchange.declare" [("ch", .ofNat ch), ("exchange", .string exchange),
      ("type", .string type), ("passive", .bool passive), ("durable", .bool durable),
      ("auto_delete", .bool autoDelete), ("internal", .bool internal)]
  | confirmSelect ch => .command "confirm.select" [("ch", .ofNat ch)]
  | publish ch exchange mandatory immediate properties m =>
    .command "basic.publish" [("ch", .ofNat ch), ("exchange", .string exchange),
      ("routing_key", .string m.topic), ("mandatory", .bool mandatory),
      ("immediate", .bool immediate), ("properties", properties.record), ("message", message m)]
  | queueDeclare ch queue passive durable exclusive autoDelete messageTtl =>
    .command "queue.declare" [("ch", .ofNat ch), ("queue", .string queue),
      ("passive", .bool passive), ("durable", .bool durable), ("exclusive", .bool exclusive),
      ("auto_delete", .bool autoDelete),
      ("arguments", .object [("x-message-ttl", .object [("i64", .ofInt messageTtl.toInt)])])]
  | queueBind ch queue exchange routingKey =>
    .command "queue.bind" [("ch", .ofNat ch), ("queue", .string queue),
      ("exchange", .string exchange), ("routing_key", .string routingKey)]
  | consume ch queue consumerTag noAck exclusive noLocal =>
    .command "basic.consume" [("ch", .ofNat ch), ("queue", .string queue),
      ("consumer_tag", .string consumerTag), ("no_ack", .bool noAck),
      ("exclusive", .bool exclusive), ("no_local", .bool noLocal)]
  | ack ch tag multiple => .command "basic.ack"
      [("ch", .ofNat ch), ("delivery_tag", .ofNat tag), ("multiple", .bool multiple)]
  | cancel ch consumerTag =>
    .command "basic.cancel" [("ch", .ofNat ch), ("consumer_tag", .string consumerTag)]
  | channelClose ch code text =>
    .command "channel.close" [("ch", .ofNat ch), ("code", .ofNat code), ("text", .string text)]

def Nats.Command.record (message : Delivery → Json) : Nats.Command → Json
  | refused => .command "connection refused" []
  | connect (some (user, password)) =>
    .command "CONNECT" [("user", .string user), ("pass", .string password)]
  | connect none => .command "CONNECT" [("user", .null), ("pass", .null)]
  | publish m => .command "PUB" [("message", message m)]
  | subscribe subject => .command "SUB" [("subject", .string subject)]
  | unsubscribe subject => .command "UNSUB" [("subject", .string subject)]
  | http request => .command "HTTP" [("request", .string request)]

def Redis.Command.record (c : Redis.Command) : Json :=
  .command c.name <| match c with
    | auth password => [("arg", .string password)]
    | select db => [("arg", .string (toString db.toInt))]
    | setEx key seconds value => [("key", .string key), ("seconds", .string (toString seconds)),
        ("value", .string (Text.hexOf value))]
    | get key => [("key", .string key)]

/-- The commands that reached a broker's server since the last time; other brokers have no server. -/
def Backend.takeTrace (message : Delivery → Json) : Backend → Option (List Json) × Backend
  | amqp a => (some (a.takeCommands.1.map fun c => c.record message), amqp a.takeCommands.2)
  | nats n => (some (n.takeCommands.1.map fun c => c.record message), nats n.takeCommands.2)
  | b => (none, b)

def Screens.takeTrace : Screens → Option (List Json) × Screens
  | redis r => (some (r.takeCommands.1.map Redis.Command.record), redis r.takeCommands.2)
  | s => (none, s)

end RoomRelay
