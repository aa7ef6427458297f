import RoomRelay.Settings

/-!
`Settings.validate` as a list of `Demand`s, the first unmet one of which is the error. Only the chosen
backends make demands, and the port of a broker is none of them.
-/
namespace RoomRelay

structure Demand where
  unmet : SettingsError
  isMet : Bool

namespace Demand

def text (value field : String) : Demand :=
  ⟨.missing field, !Text.isBlank value⟩

def port (value : UInt16) (field : String) : Demand :=
  ⟨.missing field, value != 0⟩

def positive (value : UInt64) (field : String) : Demand :=
  ⟨.invalid field "must be positive", value != 0⟩

def check : List Demand → Except SettingsError Unit
  | [] => .ok ()
  | d :: ds => if d.isMet then check ds else .error d.unmet

theorem check_append (xs ys : List Demand) : check (xs ++ ys) = (do check xs; check ys) := by
  induction xs with
  | nil => rfl
  | cons x xs ih =>
    rw [List.cons_append, check, check]
    split
    · exact ih
    · rfl

theorem check_eq_ok_iff {ds : List Demand} : check ds = .ok () ↔ ∀ d ∈ ds, d.isMet = true := by
  induction ds with
  | nil => simp [check]
  | cons d ds ih =>
    rw [check, List.forall_mem_cons, ← ih]
    split <;> simp_all

def IsFirstUnmet (ds : List Demand) (d : Demand) : Prop :=
  ∃ before behind, ds = before ++ d :: behind ∧ (∀ b ∈ before, b.isMet = true) ∧ d.isMet = false

theorem check_of_isFirstUnmet {ds : List Demand} {d : Demand} (first : IsFirstUnmet ds d) :
    check ds = .error d.unmet := by
  obtain ⟨before, behind, rfl, met, unmet⟩ := first
  have passed : check before = .ok () := check_eq_ok_iff.mpr met
  have failed : check (d :: behind) = .error d.unmet := by rw [check, unmet]; rfl
  rw [check_append, passed, failed]
  rfl

theorem exists_isFirstUnmet {ds : List Demand} {e : SettingsError} (failed : check ds = .error e) :
    ∃ d, IsFirstUnmet ds d ∧ e = d.unmet := by
  induction ds with
  | nil => contradiction
  | cons d ds ih =>
    rw [check] at failed
    split at failed
    · rename_i met
      obtain ⟨first, ⟨before, behind, rfl, all, unmet⟩, told⟩ := ih failed
      exact ⟨first, ⟨d :: before, behind, rfl, List.forall_mem_cons.mpr ⟨met, all⟩, unmet⟩, told⟩
    · rename_i unmet
      exact ⟨d, ⟨[], ds, rfl, nofun, Bool.eq_false_iff.mpr unmet⟩, (Except.error.inj failed).symm⟩

theorem check_eq_error_iff {ds : List Demand} {e : SettingsError} :
    check ds = .error e ↔ ∃ d, IsFirstUnmet ds d ∧ e = d.unmet := by
  constructor
  · exact exists_isFirstUnmet
  · rintro ⟨d, first, rfl⟩
    exact check_of_isFirstUnmet first

end Demand

/-! ### The demands of each section -/

def ServerSettings.demands (s : ServerSettings) : List Demand :=
  [.port s.port "server.port", .positive s.callDeadlineMs "server.call_deadline_ms"]

def AmqpSettings.demands (s : AmqpSettings) : List Demand :=
  [.text s.host "broker.amqp.host", .text s.user "broker.amqp.user",
    .text s.password "broker.amqp.password", .text s.exchange "broker.amqp.exchange",
    .positive s.messageTtlSecs "broker.amqp.message_ttl_secs",
    .positive s.ackTimeoutSecs "broker.amqp.ack_timeout_secs"]

def NatsSettings.demands (s : NatsSettings) : List Demand :=
  [.text s.host "broker.nats.host"]

def RedisSettings.demands (s : RedisSettings) : List Demand :=
  [.text s.host "cache.redis.host", .port s.port "cache.redis.port"]

def BrokerSettings.demands (s : BrokerSettings) : List Demand :=
  match s.choice with
  | .amqp => s.amqp.demands
  | .nats => s.nats.demands
  | .channel => []

def CacheSettings.demands (s : CacheSettings) : List Demand :=
  match s.choice with
  | .redis => s.redis.demands
  | .memory => []

namespace Settings

def demands (s : Settings) : List Demand :=
  s.server.demands ++ (s.broker.demands ++ s.cache.demands)

theorem require_eq (value field : String) : require value field = Demand.check [.text value field] := by
  unfold require
  cases blank : Text.isBlank value <;> simp [Demand.check, Demand.text, blank]

theorem requirePositive_eq (value : UInt64) (field : String) :
    requirePositive value field = Demand.check [.positive value field] := by
  simp [requirePositive, Demand.check, Demand.positive]

theorem check_port (value : UInt16) (field : String) :
    Demand.check [.port value field] = if value = 0 then throw (.missing field) else pure () := by
  by_cases zero : value = 0 <;> simp [Demand.check, Demand.port, zero] <;> rfl

theorem validateServer_eq (s : ServerSettings) : validateServer s = Demand.check s.demands := by
  have split : s.demands =
      [.port s.port "server.port"] ++ [.positive s.callDeadlineMs "server.call_deadline_ms"] := rfl
  rw [split, Demand.check_append, ← requirePositive_eq, check_port, validateServer]
  by_cases zero : s.port = 0
  · simp only [zero, if_true]
  · simp only [zero, if_false]
    rfl

theorem validateBroker_eq (s : BrokerSettings) : validateBroker s = Demand.check s.demands := by
  unfold validateBroker BrokerSettings.demands
  cases s.choice with
  | amqp =>
    simp only [require_eq, requirePositive_eq, ← Demand.check_append]
    rfl
  | nats => exact require_eq _ _
  | channel => rfl

theorem validateCache_eq (s : CacheSettings) : validateCache s = Demand.check s.demands := by
  unfold validateCache CacheSettings.demands
  cases s.choice with
  | redis =>
    dsimp only
    rw [require_eq, ← check_port, ← Demand.check_append]
    rfl
  | memory => rfl

theorem validate_eq (s : Settings) : s.validate = Demand.check s.demands := by
  rw [validate, validateServer_eq, validateBroker_eq, validateCache_eq, demands, Demand.check_append,
    Demand.check_append]

end Settings

/-! ### What is needed -/

structure IsDialable (host : String) (port : UInt16) : Prop where
  host : Text.isBlank host = false
  port : port ≠ 0

structure AmqpSettings.IsComplete (s : AmqpSettings) : Prop where
  dialable : IsDialable s.host s.port
  user : Text.isBlank s.user = false
  password : Text.isBlank s.password = false
  exchange : Text.isBlank s.exchange = false
  messageTtl : s.messageTtlSecs ≠ 0
  ackTimeout : s.ackTimeoutSecs ≠ 0

namespace BrokerSettings

def port? (s : BrokerSettings) : Option UInt16 :=
  match s.choice with
  | .amqp => some s.amqp.port
  | .nats => some s.nats.port
  | .channel => none

def IsComplete (s : BrokerSettings) : Prop :=
  match s.choice with
  | .amqp => s.amqp.IsComplete
  | .nats => IsDialable s.nats.host s.nats.port
  | .channel => True

end BrokerSettings

def CacheSettings.IsComplete (s : CacheSettings) : Prop :=
  match s.choice with
  | .redis => IsDialable s.redis.host s.redis.port
  | .memory => True

namespace Settings

/-- All that the server and the chosen backends need. -/
structure IsComplete (s : Settings) : Prop where
  port : s.server.port ≠ 0
  broker : s.broker.IsComplete
  cache : s.cache.IsComplete

def withBrokerPort (s : Settings) (port : UInt16) : Settings :=
  { s with broker.amqp.port := port, broker.nats.port := port }

/-- Settings that agree in the server, in the backends chosen and in what is said of those. -/
structure AgreesInUse (s t : Settings) : Prop where
  server : t.server = s.server
  broker : t.broker.choice = s.broker.choice
  amqp : s.broker.choice = .amqp → t.broker.amqp = s.broker.amqp
  nats : s.broker.choice = .nats → t.broker.nats = s.broker.nats
  cache : t.cache.choice = s.cache.choice
  redis : s.cache.choice = .redis → t.cache.redis = s.cache.redis

end Settings

theorem IsDialable.iff {host : String} {port : UInt16} :
    IsDialable host port ↔ Text.isBlank host = false ∧ port ≠ 0 :=
  ⟨fun ⟨host, port⟩ => ⟨host, port⟩, fun ⟨host, port⟩ => ⟨host, port⟩⟩

theorem AmqpSettings.isComplete_iff {s : AmqpSettings} :
    s.IsComplete ↔ s.port ≠ 0 ∧ ∀ d ∈ s.demands, d.isMet = true := by
  simp only [demands, Demand.text, Demand.positive, List.forall_mem_cons, List.not_mem_nil,
    false_imp_iff, implies_true, and_true, Bool.not_eq_true', bne_iff_ne]
  constructor
  · rintro ⟨⟨host, port⟩, user, password, exchange, messageTtl, ackTimeout⟩
    exact ⟨port, host, user, password, exchange, messageTtl, ackTimeout⟩
  · rintro ⟨port, host, user, password, exchange, messageTtl, ackTimeout⟩
    exact ⟨⟨host, port⟩, user, password, exchange, messageTtl, ackTimeout⟩

theorem BrokerSettings.isComplete_iff {s : BrokerSettings} :
    s.IsComplete ↔ s.port? ≠ some 0 ∧ ∀ d ∈ s.demands, d.isMet = true := by
  unfold IsComplete port? demands
  cases s.choice with
  | amqp => simp [AmqpSettings.isComplete_iff]
  | nats => simp [IsDialable.iff, NatsSettings.demands, Demand.text, and_comm]
  | channel => simp

theorem CacheSettings.isComplete_iff {s : CacheSettings} :
    s.IsComplete ↔ ∀ d ∈ s.demands, d.isMet = true := by
  unfold IsComplete demands
  cases s.choice with
  | redis => simp [IsDialable.iff, RedisSettings.demands, Demand.text, Demand.port]
  | memory => simp

theorem ServerSettings.met_iff {s : ServerSettings} :
    (∀ d ∈ s.demands, d.isMet = true) ↔ s.port ≠ 0 ∧ s.callDeadlineMs ≠ 0 := by
  simp [demands, Demand.port, Demand.positive]

namespace Settings

variable {s t : Settings}

theorem validate_eq_ok_iff : s.validate = .ok () ↔ ∀ d ∈ s.demands, d.isMet = true := by
  rw [validate_eq, Demand.check_eq_ok_iff]

theorem demands_withBrokerPort (s : Settings) (port : UInt16) :
    (s.withBrokerPort port).demands = s.demands := by
  have broker : (s.withBrokerPort port).broker.demands = s.broker.demands := by
    unfold withBrokerPort BrokerSettings.demands
    cases s.broker.choice <;> rfl
  unfold demands
  rw [broker]
  rfl

theorem AgreesInUse.demands (agrees : s.AgreesInUse t) : t.demands = s.demands := by
  have broker : t.broker.demands = s.broker.demands := by
    unfold BrokerSettings.demands
    rw [agrees.broker]
    cases chosen : s.broker.choice with
    | amqp => rw [agrees.amqp chosen]
    | nats => rw [agrees.nats chosen]
    | channel => rfl
  have cache : t.cache.demands = s.cache.demands := by
    unfold CacheSettings.demands
    rw [agrees.cache]
    cases chosen : s.cache.choice with
    | redis => rw [agrees.redis chosen]
    | memory => rfl
  unfold Settings.demands
  rw [agrees.server, broker, cache]

/-- `IsComplete` in terms of `validate`, which misses the port of the broker. -/
theorem isComplete_iff : s.IsComplete ∧ s.server.callDeadlineMs ≠ 0 ↔
    s.broker.port? ≠ some 0 ∧ s.validate = .ok () := by
  rw [validate_eq_ok_iff, Settings.demands, List.forall_mem_append, List.forall_mem_append,
    ServerSettings.met_iff, ← CacheSettings.isComplete_iff]
  constructor
  · rintro ⟨⟨port, broker, cache⟩, deadline⟩
    obtain ⟨dialable, met⟩ := BrokerSettings.isComplete_iff.mp broker
    exact ⟨dialable, ⟨port, deadline⟩, met, cache⟩
  · rintro ⟨dialable, ⟨port, deadline⟩, met, cache⟩
    exact ⟨⟨port, BrokerSettings.isComplete_iff.mpr ⟨dialable, met⟩, cache⟩, deadline⟩

theorem validate_withBrokerPort (s : Settings) (port : UInt16) :
    (s.withBrokerPort port).validate = s.validate := by
  rw [validate_eq, demands_withBrokerPort, validate_eq]

theorem validate_eq_ok_iff_isComplete :
    s.validate = .ok () ↔ s.server.callDeadlineMs ≠ 0 ∧ (s.withBrokerPort 1).IsComplete := by
  have ported : (s.withBrokerPort 1).broker.port? ≠ some 0 := by
    unfold withBrokerPort BrokerSettings.port?
    cases s.broker.choice <;> simp
  have both := isComplete_iff (s := s.withBrokerPort 1)
  rw [and_iff_right ported, validate_withBrokerPort] at both
  exact both.symm.trans and_comm

/-- `validate` accepts settings iff the deadline is not zero and they would be complete with a port
for the chosen broker, which is never checked. Its error is that of the first unmet demand, and
backends that are not chosen do not matter. -/
theorem validate_misses_only_broker_ports (s : Settings) :
    (s.validate = .ok () ↔ s.server.callDeadlineMs ≠ 0 ∧ (s.withBrokerPort 1).IsComplete) ∧
    (s.validate = .ok () → (s.IsComplete ↔ s.broker.port? ≠ some 0)) ∧
    (∀ port, (s.withBrokerPort port).validate = s.validate) ∧
    (∀ e, s.validate = .error e ↔ ∃ d, Demand.IsFirstUnmet s.demands d ∧ e = d.unmet) ∧
    (∀ t, s.AgreesInUse t → t.validate = s.validate) := by
  refine ⟨validate_eq_ok_iff_isComplete, ?lack, validate_withBrokerPort s, ?errors, ?others⟩
  case lack =>
    intro valid
    have deadline := (validate_eq_ok_iff_isComplete.mp valid).1
    have both := isComplete_iff (s := s)
    rwa [and_iff_left deadline, and_iff_left valid] at both
  case errors =>
    intro e
    rw [validate_eq, Demand.check_eq_error_iff]
  case others =>
    intro t agrees
    rw [validate_eq, agrees.demands, validate_eq]

/-- On NATS with screens in memory, neither a host for AMQP nor a port for Redis is needed. -/
theorem validate_misses_only_broker_ports_unused :
    let s : Settings := { broker := { choice := .nats } }
    let t : Settings := { s with broker.amqp.host := " ", cache.redis.port := 0 }
    t.validate = .ok () ∧ t.IsComplete := by
  intro s t
  have agrees : s.AgreesInUse t := ⟨rfl, rfl, nofun, fun _ => rfl, rfl, nofun⟩
  have plain : validate { broker := { choice := .nats } } = .ok () := rfl
  have valid : t.validate = .ok () :=
    ((validate_misses_only_broker_ports s).2.2.2.2 t agrees).trans plain
  exact ⟨valid, ((validate_misses_only_broker_ports t).2.1 valid).mpr (by decide)⟩

/-- The port of the chosen broker may be zero, unlike that of the cache. -/
theorem broker_without_port_is_accepted :
    validate { broker := { choice := .amqp, amqp := { port := 0 } } } = .ok () ∧
      validate { broker := { choice := .nats, nats := { port := 0 } } } = .ok () ∧
      validate { cache := { choice := .redis, redis := { port := 0 } } } =
        .error (.missing "cache.redis.port") :=
  ⟨rfl, rfl, rfl⟩

end Settings
end RoomRelay
