import RoomRelay.Address
import RoomRelay.Log.Filter
import RoomRelay.Settings.Load
import RoomRelay.Text.Quoted

/-!
How the service comes up, what it says meanwhile, and how it goes down again. It starts with its
settings, tests its keys, sets up a broker and a screen cache, and listens if it is told an address
that it can read.
-/
namespace RoomRelay

inductive BootError where
  | settings (e : SettingsError)
  | keys (e : KeyError)
  | address
  deriving DecidableEq, Repr

inductive StopSignal where
  | terminate
  | interrupt
  deriving DecidableEq, Repr

def StopSignal.name : StopSignal → String
  | terminate => "SIGTERM"
  | interrupt => "SIGINT"

structure Boot where
  lines : List LogLine
  result : Except BootError SocketAddress

namespace Boot

def serviceName : String := "hypercards-grpc"

def said (target text : String) (fields : List (String × String)) : LogLine :=
  ⟨.info, target, text, fields⟩

def bySelf (text : String) (fields : List (String × String)) : LogLine :=
  said "hypercards_grpc" text fields

def failure (text : String) (fields : List (String × String)) : LogLine :=
  ⟨.error, "hypercards_grpc", text, fields⟩

/-- Notices on the way to the settings; only variables give rise to any. -/
def noticeLine : Notice → LogLine
  | .unparseableVariable name value =>
    ⟨.warn, "hypercards::config", (Notice.unparseableVariable name value).text,
      [("var", Text.quoted name), ("value", value)]⟩
  | n => ⟨n.level, "hypercards", n.text, []⟩

def choiceName {α : Type} [DecidableEq α] (names : List (String × α)) (a : α) : String :=
  (nameIn names a).capitalize

/-- Lines of the broker as it is set up; the one inside the process has one of its own. -/
def brokerLines (s : BrokerSettings) : List LogLine :=
  said "hypercards::bus" "Broker initialized"
      [("broker_type", Text.quoted (nameIn BrokerChoice.names s.choice))] ::
    match s.choice with
    | .channel => [said "hypercards::bus::channel" "Channel broker initialized" []]
    | _ => []

def cacheLines (s : CacheSettings) : List LogLine :=
  [said "hypercards::cache" "Screen cache initialized"
    [("cache_type", Text.quoted (nameIn CacheChoice.names s.choice))]]

def listeningLine (s : Settings) (address : SocketAddress) : LogLine :=
  bySelf s!"{serviceName} listening"
    [("address", address.text), ("broker", choiceName BrokerChoice.names s.broker.choice),
      ("cache", choiceName CacheChoice.names s.cache.choice),
      ("status_events", choiceName StatusPolicy.names s.server.statusEvents)]

def listen (s : Settings) : Boot :=
  match Key.verifySamples with
  | .error e => ⟨[failure "Routing key self-test failed" [("error", e.message)]], .error (.keys e)⟩
  | .ok _ =>
    let ready := brokerLines s.broker ++ cacheLines s.cache
    match SocketAddress.parse? s.server.bindAddress with
    | none => ⟨ready, .error .address⟩
    | some address => ⟨ready ++ [listeningLine s address], .ok address⟩

def refused (e : SettingsError) : Boot :=
  ⟨[failure s!"Failed to load configuration: {e.message}" []], .error (.settings e)⟩

def after (lines : List LogLine) (b : Boot) : Boot :=
  { b with lines := lines ++ b.lines }

def start (sources : Settings.Sources) : Boot :=
  after [bySelf s!"Starting {serviceName} service" []] <|
    match Settings.load sources none with
    | .error e => refused e
    | .ok (s, notices) =>
      after (notices.map noticeLine) <|
        match s.validate with
        | .error e => refused e
        | .ok _ => listen s

def stopLines (signal : StopSignal) : List LogLine :=
  [said "hypercards::utils::bootstrap" s!"Received {signal.name}" [],
    said "hypercards::bus::channel" "Channel broker closed" [], bySelf s!"{serviceName} stopped" []]

def filterVariable : String := "HYPERCARDS_LOG"

def filter (sources : Settings.Sources) : LogFilter :=
  LogFilter.ofVariable (sources.lookup filterVariable)

def log (sources : Settings.Sources) (signal : StopSignal) : List String :=
  let boot := start sources
  let stop := match boot.result with
    | .ok _ => stopLines signal
    | .error _ => []
  ((boot.lines ++ stop).filter (filter sources).admits).map LogLine.render

/-- The parts whose health can be asked for; the empty name stands for all of them. -/
def parts : List String :=
  ["", "hypercards.Whiteboard", "hypercards.ScreenSharing"]

def isServing (name : String) : Bool :=
  parts.contains name

end Boot
end RoomRelay
