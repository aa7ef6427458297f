import RoomRelay.Broker.Amqp
import RoomRelay.Broker.Mock
import RoomRelay.Broker.Nats
import RoomRelay.Screen.Redis

/-!
The broker and the screen cache that settings choose. What servers would answer is told by scripts.
-/
namespace RoomRelay

inductive Backend where
  | channel (c : Channel)
  | mock (m : Mock)
  | amqp (a : Amqp)
  | nats (n : Nats)

structure BrokerScripts where
  amqp : Amqp.Script := {}
  nats : Nats.Script := {}

namespace Backend

def connect (s : BrokerSettings) (scripts : BrokerScripts) : Except BrokerError Unit × Backend :=
  match s.choice with
  | .amqp =>
    let (r, a) := Amqp.connect s.amqp scripts.amqp
    (r, amqp a)
  | .nats => (.ok (), nats (Nats.connect s.nats scripts.nats))
  | .channel => (.ok (), channel {})

def channel? : Backend → Option Channel
  | channel c => some c
  | mock m => some m.channel
  | _ => none

def setChannel (b : Backend) (c : Channel) : Backend :=
  match b with
  | channel _ => channel c
  | mock m => mock { m with channel := c }
  | b => b

def mock? : Backend → Option Mock
  | mock m => some m
  | _ => none

private def wrap {α β : Type} (f : β → Backend) (p : α × β) : α × Backend :=
  (p.1, f p.2)

private def wrapNoted {α β : Type} (f : β → Backend) (p : α × β × List Notice) :
    α × Backend × List Notice :=
  (p.1, f p.2.1, p.2.2)

instance : Broker Backend where
  openSession
    | channel c => wrap channel (Broker.openSession c)
    | mock m => wrap mock (Broker.openSession m)
    | amqp a => wrap amqp (Broker.openSession a)
    | nats n => wrap nats (Broker.openSession n)
  subscribe
    | channel c, s, k, u => wrap channel (Broker.subscribe c s k u)
    | mock m, s, k, u => wrap mock (Broker.subscribe m s k u)
    | amqp a, s, k, u => wrap amqp (Broker.subscribe a s k u)
    | nats n, s, k, u => wrap nats (Broker.subscribe n s k u)
  planPublish
    | channel c, k => Broker.planPublish c k
    | mock m, k => Broker.planPublish m k
    | amqp a, k => Broker.planPublish a k
    | nats n, k => Broker.planPublish n k
  publish
    | channel c, p, s, k, x => wrapNoted channel (Broker.publish c p s k x)
    | mock m, p, s, k, x => wrapNoted mock (Broker.publish m p s k x)
    | amqp a, p, s, k, x => wrapNoted amqp (Broker.publish a p s k x)
    | nats n, p, s, k, x => wrapNoted nats (Broker.publish n p s k x)
  count
    | channel c, k => wrap channel (Broker.count c k)
    | mock m, k => wrap mock (Broker.count m k)
    | amqp a, k => wrap amqp (Broker.count a k)
    | nats n, k => wrap nats (Broker.count n k)
  receive
    | channel c, s => wrap channel (Broker.receive c s)
    | mock m, s => wrap mock (Broker.receive m s)
    | amqp a, s => wrap amqp (Broker.receive a s)
    | nats n, s => wrap nats (Broker.receive n s)
  isCancelled
    | channel c, s => Broker.isCancelled c s
    | mock m, s => Broker.isCancelled m s
    | amqp a, s => Broker.isCancelled a s
    | nats n, s => Broker.isCancelled n s
  cancel
    | channel c, s => channel (Broker.cancel c s)
    | mock m, s => mock (Broker.cancel m s)
    | amqp a, s => amqp (Broker.cancel a s)
    | nats n, s => nats (Broker.cancel n s)
  closeSession
    | channel c, s => channel (Broker.closeSession c s)
    | mock m, s => mock (Broker.closeSession m s)
    | amqp a, s => amqp (Broker.closeSession a s)
    | nats n, s => nats (Broker.closeSession n s)
  dropSession
    | channel c, s => channel (Broker.dropSession c s)
    | mock m, s => mock (Broker.dropSession m s)
    | amqp a, s => amqp (Broker.dropSession a s)
    | nats n, s => nats (Broker.dropSession n s)
  close
    | channel c => channel (Broker.close c)
    | mock m => mock (Broker.close m)
    | amqp a => amqp (Broker.close a)
    | nats n => nats (Broker.close n)
  settle
    | channel c => channel (Broker.settle c)
    | mock m => mock (Broker.settle m)
    | amqp a => amqp (Broker.settle a)
    | nats n => nats (Broker.settle n)
  held
    | channel c => Broker.held c
    | mock m => Broker.held m
    | amqp a => Broker.held a
    | nats n => Broker.held n

end Backend

inductive Screens where
  | memory (m : MemoryCache)
  | redis (r : RedisCache)

namespace Screens

def connect (s : CacheSettings) (server : Redis.Server) : Screens :=
  match s.choice with
  | .memory => memory {}
  | .redis => redis (RedisCache.connect s.redis server)

instance : ScreenCache Screens where
  get
    | memory m, key, now => ((ScreenCache.get m key now).1, memory (ScreenCache.get m key now).2)
    | redis r, key, now => ((ScreenCache.get r key now).1, redis (ScreenCache.get r key now).2)
  set
    | memory m, key, v, now, ttl =>
      ((ScreenCache.set m key v now ttl).1, memory (ScreenCache.set m key v now ttl).2)
    | redis r, key, v, now, ttl =>
      ((ScreenCache.set r key v now ttl).1, redis (ScreenCache.set r key v now ttl).2)

end Screens
end RoomRelay
