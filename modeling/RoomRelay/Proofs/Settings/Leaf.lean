import Mathlib.Data.List.Basic
import RoomRelay.Settings.Overrides
import RoomRelay.Settings.Value

/-!
The fields of settings one by one. `leaves` lists every scalar field with its place in the sections
and the variable of its own. A section is a table of its members by name or a list of them by
position, so several ways lead to a leaf; `Leaf.Reads` relates settings to the value at the end of one
of them.
-/
namespace RoomRelay.Settings

/-- A reading of scalars: not of `null`, not of lists, and of a table only by the name of its single
member. -/
structure Scalar {α : Type} (read : Value → Option α) : Prop where
  null : read .null = none
  list : ∀ items, read (.list items) = none
  table : ∀ {members x}, read (.table members) = some x →
    ∃ name v, members = [(name, v)] ∧ ∀ v', read (.table [(name, v')]) = some x

namespace Scalar

theorem of_none {α : Type} {read : Value → Option α} (null : read .null = none)
    (list : ∀ items, read (.list items) = none) (table : ∀ members, read (.table members) = none) :
    Scalar read where
  null := null
  list := list
  table {members x} found := by
    rw [table] at found
    contradiction

theorem text : Scalar lenientFormat.text := of_none rfl (fun _ => rfl) fun _ => rfl

theorem port : Scalar lenientFormat.port := of_none rfl (fun _ => rfl) fun _ => rfl

theorem count : Scalar lenientFormat.count := of_none rfl (fun _ => rfl) fun _ => rfl

theorem signed : Scalar lenientFormat.signed := of_none rfl (fun _ => rfl) fun _ => rfl

theorem choice {α : Type} (names : List (String × α)) : Scalar (lenientFormat.choice names) where
  null := rfl
  list _ := rfl
  table {members x} found := by
    match members, found with
    | [(name, v)], found => exact ⟨name, v, rfl, fun _ => found⟩

theorem not_empty {α : Type} {read : Value → Option α} (scalar : Scalar read) {x : α} :
    read (.table []) ≠ some x := by
  intro found
  obtain ⟨_, _, empty, -⟩ := scalar.table found
  cases empty

end Scalar

inductive Hop where
  | member (name : String)
  | item (index : Nat)
  deriving DecidableEq, Repr

/-- The ways to a place, each section of which may be a table or a list. -/
def waysTo : List (String × Nat) → List (List Hop)
  | [] => [[]]
  | (name, i) :: place => (waysTo place).flatMap fun way => [.member name :: way, .item i :: way]

/-- A field of the settings with a single value. -/
structure Leaf (S : Type) where
  Kind : Type
  /-- The names of the sections around it and its own, each with its position. -/
  place : List (String × Nat)
  read : Value → Option Kind
  of : S → Kind
  /-- What a variable of its own gives it. -/
  single : Lookup → Option Kind
  scalar : Scalar read

namespace Leaf

def field {S α : Type} {read : Value → Option α} (scalar : Scalar read) (name : String) (i : Nat)
    (of : S → α) (single : Lookup → Option α := fun _ => none) : Leaf S :=
  ⟨α, [(name, i)], read, of, single, scalar⟩

def within {S T : Type} (name : String) (i : Nat) (get : S → T) (leaf : Leaf T) : Leaf S :=
  ⟨leaf.Kind, (name, i) :: leaf.place, leaf.read, fun s => leaf.of (get s), leaf.single, leaf.scalar⟩

def ways {S : Type} (leaf : Leaf S) : List (List Hop) :=
  waysTo leaf.place

end Leaf

def serverLeaves : List (Leaf ServerSettings) :=
  [.field .text "host" 0 (·.host),
   .field .port "port" 1 (·.port) (number? port? · "PORT"),
   .field .count "call_deadline_ms" 2 (·.callDeadlineMs),
   .field (.choice StatusPolicy.names) "status_events" 3 (·.statusEvents)]

def amqpLeaves : List (Leaf AmqpSettings) :=
  [.field .text "host" 0 (·.host) (· "RABBITMQ_HOST"),
   .field .port "port" 1 (·.port),
   .field .text "user" 2 (·.user) (· "RABBITMQ_USER"),
   .field .text "password" 3 (·.password) (· "RABBITMQ_PASS"),
   .field .text "vhost" 4 (·.vhost) (· "RABBITMQ_VHOST"),
   .field .text "exchange" 5 (·.exchange) (· "RABBITMQ_EXCHANGE"),
   .field .count "message_ttl_secs" 6 (·.messageTtlSecs),
   .field .count "ack_timeout_secs" 7 (·.ackTimeoutSecs)]

def natsLeaves : List (Leaf NatsSettings) :=
  [.field .text "host" 0 (·.host) (· "NATS_HOST"),
   .field .port "port" 1 (·.port),
   .field .text "user" 2 (·.user) (· "NATS_USER"),
   .field .text "password" 3 (·.password) (· "NATS_PASS"),
   .field .text "monitor_url" 4 (·.monitorUrl)]

def brokerLeaves : List (Leaf BrokerSettings) :=
  .field (.choice BrokerChoice.names) "type" 0 (·.choice) ::
    (amqpLeaves.map (Leaf.within "amqp" 1 (·.amqp)) ++ natsLeaves.map (Leaf.within "nats" 2 (·.nats)))

def redisLeaves : List (Leaf RedisSettings) :=
  [.field .text "host" 0 (·.host) (· "REDIS_HOST"),
   .field .port "port" 1 (·.port) (number? port? · "REDIS_PORT"),
   .field .text "password" 2 (·.password) (· "REDIS_PASSWORD"),
   .field .signed "db" 3 (·.db) (number? int64? · "REDIS_DB")]

def cacheLeaves : List (Leaf CacheSettings) :=
  .field (.choice CacheChoice.names) "type" 0 (·.choice) ::
    .field .count "ttl_secs" 2 (·.ttlSecs) :: redisLeaves.map (Leaf.within "redis" 1 (·.redis))

def leaves : List (Leaf Settings) :=
  serverLeaves.map (Leaf.within "server" 0 (·.server)) ++
    (brokerLeaves.map (Leaf.within "broker" 1 (·.broker)) ++
      cacheLeaves.map (Leaf.within "cache" 2 (·.cache)))

/-- The leaves determine the settings. -/
theorem eq_of_leaves {a b : Settings} (same : ∀ leaf ∈ leaves, leaf.of a = leaf.of b) : a = b := by
  simp [leaves, serverLeaves, brokerLeaves, amqpLeaves, natsLeaves, cacheLeaves, redisLeaves,
    Leaf.within, Leaf.field] at same
  obtain ⟨⟨_⟩, ⟨_, ⟨_⟩, ⟨_⟩⟩, ⟨_, ⟨_⟩, _⟩⟩ := a
  obtain ⟨⟨_⟩, ⟨_, ⟨_⟩, ⟨_⟩⟩, ⟨_, ⟨_⟩, _⟩⟩ := b
  simp_all

/-- `override` sets a leaf to the value of its variable, if that gives one, and keeps all others. -/
theorem of_override (s : Settings) (lookup : Lookup) :
    ∀ leaf ∈ leaves, leaf.of (s.override lookup) = (leaf.single lookup).getD (leaf.of s) := by
  simp [leaves, serverLeaves, brokerLeaves, amqpLeaves, natsLeaves, cacheLeaves, redisLeaves,
    Leaf.within, Leaf.field, override]

/-! ### What is found at the end of a way -/

/-- What is found at the end of a way; an empty table counts as `absent`. -/
inductive Sight where
  | absent
  | found (v : Value)
  /-- The way leads through something else than what is there. -/
  | blocked

def Value.sight : List Hop → Value → Sight
  | _, .table [] => .absent
  | [], v => .found v
  | .member name :: way, .table members => (members.lookup name).elim .absent (sight way)
  | .item i :: way, .list items => items[i]?.elim .absent (sight way)
  | _ :: _, _ => .blocked

/-- The leaf of settings that were read from `v`: what `v` has there, or the default. -/
structure Leaf.Reads {S : Type} (leaf : Leaf S) (default : S) (v : Value) (s : S) : Prop where
  found : ∀ way ∈ leaf.ways, ∀ w, v.sight way = .found w → leaf.read w = some (leaf.of s)
  absent : (∀ way ∈ leaf.ways, ∀ w, v.sight way ≠ .found w) → leaf.of s = leaf.of default

theorem lookup_zip {names : List String} {items : List Value} {name : String} {i : Nat}
    (position : names.idxOf? name = some i) : (names.zip items).lookup name = items[i]? := by
  induction names generalizing items i with
  | nil => cases position
  | cons n names ih =>
    rw [List.idxOf?_cons] at position
    cases items with
    | nil => simp
    | cons v items =>
      rw [List.zip_cons_cons, List.lookup_cons]
      split at position
      case isTrue same =>
        obtain rfl := Option.some.inj position
        rw [beq_iff_eq] at same
        simp [same]
      case isFalse other =>
        obtain ⟨j, before, rfl⟩ := Option.map_eq_some_iff.mp position
        have other : (name == n) = false :=
          beq_eq_false_iff_ne.mpr fun same => other (beq_iff_eq.mpr same.symm)
        rw [other, List.getElem?_cons_succ]
        exact ih before

theorem members?_cases {names : List String} {v : Value} {m : String → Option Value}
    (members : lenientFormat.members? names v = some m) :
    (∃ ms, v = .table ms ∧ m = fun name => ms.lookup name) ∨
      ∃ items, v = .list items ∧ m = fun name => (names.zip items).lookup name := by
  match v, members with
  | .table ms, rfl => exact .inl ⟨ms, rfl, rfl⟩
  | .list items, rfl => exact .inr ⟨items, rfl, rfl⟩

theorem Leaf.mem_ways_within {S T : Type} {leaf : Leaf T} {name : String} {i : Nat} {get : S → T}
    {way : List Hop} : way ∈ (leaf.within name i get).ways ↔
      ∃ rest ∈ leaf.ways, way = .member name :: rest ∨ way = .item i :: rest := by
  simp [ways, within, waysTo]

namespace Leaf.Reads

/-- A leaf of a section that one of two hops leads to. -/
theorem of_hop {S T : Type} {leaf : Leaf T} {read : Value → Option T} {name : String} {i : Nat}
    {get : S → T} {default s : S} {v : Value} {m : String → Option Value} {hop other : Hop}
    (hops : hop = .member name ∧ other = .item i ∨ hop = .item i ∧ other = .member name)
    (leads : ∀ way, v.sight (hop :: way) = (m name).elim .absent (Value.sight way))
    (shut : ∀ way w, v.sight (other :: way) ≠ .found w)
    (part : Format.member read m name (get default) = some (get s))
    (inner : ∀ w, read w = some (get s) → leaf.Reads (get default) w (get s)) :
    (leaf.within name i get).Reads default v s := by
  have mem_ways (way : List Hop) : way ∈ (leaf.within name i get).ways ↔
      ∃ rest ∈ leaf.ways, way = hop :: rest ∨ way = other :: rest := by
    rw [mem_ways_within]
    rcases hops with ⟨rfl, rfl⟩ | ⟨rfl, rfl⟩
    · rfl
    · simp only [or_comm]
  unfold Format.member at part
  constructor
  · intro way known w found
    obtain ⟨rest, inside, rfl | rfl⟩ := (mem_ways way).mp known
    · rw [leads] at found
      cases there : m name with
      | none =>
        rw [there] at found
        cases found
      | some v =>
        rw [there] at found part
        exact (inner v part).found rest inside w found
    · exact absurd found (shut rest w)
  · intro nowhere
    cases there : m name with
    | none =>
      rw [there] at part
      exact congrArg leaf.of (Option.some.inj part).symm
    | some v =>
      rw [there] at part
      refine (inner v part).absent fun rest inside w found => ?_
      refine nowhere (hop :: rest) ((mem_ways _).mpr ⟨rest, inside, .inl rfl⟩) w ?_
      rw [leads, there]
      exact found

theorem within {S T : Type} {leaf : Leaf T} {read : Value → Option T} {name : String} {i : Nat}
    {names : List String} {get : S → T} {default s : S} {v : Value} {m : String → Option Value}
    (position : names.idxOf? name = some i) (members : lenientFormat.members? names v = some m)
    (part : Format.member read m name (get default) = some (get s))
    (inner : ∀ w, read w = some (get s) → leaf.Reads (get default) w (get s)) :
    (leaf.within name i get).Reads default v s := by
  rcases members?_cases members with ⟨ms, rfl, rfl⟩ | ⟨items, rfl, rfl⟩
  · refine of_hop (.inl ⟨rfl, rfl⟩) (fun way => ?_) (fun way w => ?_) part inner
    · cases ms <;> rfl
    · cases ms <;> exact nofun
  · refine of_hop (.inr ⟨rfl, rfl⟩) (fun way => ?_) (fun way w => nofun) part inner
    rw [lookup_zip position]
    rfl

theorem field {S α : Type} {read : Value → Option α} {scalar : Scalar read} {name : String} {i : Nat}
    {names : List String} {of : S → α} {single : Lookup → Option α} {default s : S} {v : Value}
    {m : String → Option Value} (position : names.idxOf? name = some i)
    (members : lenientFormat.members? names v = some m)
    (value : Format.member read m name (of default) = some (of s)) :
    (Leaf.field scalar name i of single).Reads default v s := by
  -- What is in the section is the leaf of nothing but itself.
  let whole : Leaf α := ⟨α, [], read, id, single, scalar⟩
  have inner : ∀ w, read w = some (of s) → whole.Reads (of default) w (of s) := by
    intro w read
    have here : w.sight [] = .found w := by
      match w, read with
      | .table [], read => exact absurd read scalar.not_empty
      | .table (_ :: _), _ | .null, _ | .bool _, _ | .int _, _ | .real _, _ | .text _, _
      | .list _, _ => rfl
    refine ⟨fun way known v found => ?_, fun nowhere => ?_⟩
    · obtain rfl : way = [] := List.mem_singleton.mp known
      rw [here] at found
      obtain rfl := Sight.found.inj found
      exact read
    · exact absurd here (nowhere [] (List.mem_singleton.mpr rfl) w)
  exact within position members value inner

end Leaf.Reads

theorem server_reads {v : Value} {s : ServerSettings} (read : lenientFormat.server v = some s) :
    ∀ leaf ∈ serverLeaves, leaf.Reads {} v s := by
  simp only [Format.server, Option.bind_eq_bind, Option.bind_eq_some_iff, Option.pure_def] at read
  obtain ⟨m, members, host, hostRead, port, portRead, deadline, deadlineRead, status, statusRead, ⟨⟩⟩ :=
    read
  simp only [serverLeaves, List.forall_mem_cons, List.not_mem_nil, false_implies, implies_true]
  exact ⟨.field rfl members hostRead, .field rfl members portRead, .field rfl members deadlineRead,
    .field rfl members statusRead, trivial⟩

theorem amqp_reads {v : Value} {s : AmqpSettings} (read : lenientFormat.amqp v = some s) :
    ∀ leaf ∈ amqpLeaves, leaf.Reads {} v s := by
  simp only [Format.amqp, Option.bind_eq_bind, Option.bind_eq_some_iff, Option.pure_def] at read
  obtain ⟨m, members, host, hostRead, port, portRead, user, userRead, password, passwordRead, vhost,
    vhostRead, exchange, exchangeRead, ttl, ttlRead, wait, waitRead, ⟨⟩⟩ := read
  simp only [amqpLeaves, List.forall_mem_cons, List.not_mem_nil, false_implies, implies_true]
  exact ⟨.field rfl members hostRead, .field rfl members portRead, .field rfl members userRead,
    .field rfl members passwordRead, .field rfl members vhostRead, .field rfl members exchangeRead,
    .field rfl members ttlRead, .field rfl members waitRead, trivial⟩

theorem nats_reads {v : Value} {s : NatsSettings} (read : lenientFormat.nats v = some s) :
    ∀ leaf ∈ natsLeaves, leaf.Reads {} v s := by
  simp only [Format.nats, Option.bind_eq_bind, Option.bind_eq_some_iff, Option.pure_def] at read
  obtain ⟨m, members, host, hostRead, port, portRead, user, userRead, password, passwordRead, monitor,
    monitorRead, ⟨⟩⟩ := read
  simp only [natsLeaves, List.forall_mem_cons, List.not_mem_nil, false_implies, implies_true]
  exact ⟨.field rfl members hostRead, .field rfl members portRead, .field rfl members userRead,
    .field rfl members passwordRead, .field rfl members monitorRead, trivial⟩

theorem broker_reads {v : Value} {s : BrokerSettings} (read : lenientFormat.broker v = some s) :
    ∀ leaf ∈ brokerLeaves, leaf.Reads {} v s := by
  simp only [Format.broker, Option.bind_eq_bind, Option.bind_eq_some_iff, Option.pure_def] at read
  obtain ⟨m, members, choice, choiceRead, amqp, amqpRead, nats, natsRead, ⟨⟩⟩ := read
  simp only [brokerLeaves, List.forall_mem_cons, List.forall_mem_append, List.forall_mem_map]
  exact ⟨.field rfl members choiceRead,
    fun leaf member => .within rfl members amqpRead fun w read => amqp_reads read leaf member,
    fun leaf member => .within rfl members natsRead fun w read => nats_reads read leaf member⟩

theorem redis_reads {v : Value} {s : RedisSettings} (read : lenientFormat.redis v = some s) :
    ∀ leaf ∈ redisLeaves, leaf.Reads {} v s := by
  simp only [Format.redis, Option.bind_eq_bind, Option.bind_eq_some_iff, Option.pure_def] at read
  obtain ⟨m, members, host, hostRead, port, portRead, password, passwordRead, db, dbRead, ⟨⟩⟩ := read
  simp only [redisLeaves, List.forall_mem_cons, List.not_mem_nil, false_implies, implies_true]
  exact ⟨.field rfl members hostRead, .field rfl members portRead, .field rfl members passwordRead,
    .field rfl members dbRead, trivial⟩

theorem cache_reads {v : Value} {s : CacheSettings} (read : lenientFormat.cache v = some s) :
    ∀ leaf ∈ cacheLeaves, leaf.Reads {} v s := by
  simp only [Format.cache, Option.bind_eq_bind, Option.bind_eq_some_iff, Option.pure_def] at read
  obtain ⟨m, members, choice, choiceRead, redis, redisRead, ttl, ttlRead, ⟨⟩⟩ := read
  simp only [cacheLeaves, List.forall_mem_cons, List.forall_mem_map]
  exact ⟨.field rfl members choiceRead, .field rfl members ttlRead,
    fun leaf member => .within rfl members redisRead fun w read => redis_reads read leaf member⟩

/-- Every leaf of settings read by `lenientFormat` is what is found at its place, or the default. -/
theorem settings_reads {v : Value} {s : Settings} (read : lenientFormat.settings v = some s) :
    ∀ leaf ∈ leaves, leaf.Reads {} v s := by
  simp only [Format.settings, Option.bind_eq_bind, Option.bind_eq_some_iff, Option.pure_def] at read
  obtain ⟨m, members, server, serverRead, broker, brokerRead, cache, cacheRead, ⟨⟩⟩ := read
  simp only [leaves, List.forall_mem_append, List.forall_mem_map]
  exact ⟨fun leaf member => .within rfl members serverRead fun w read => server_reads read leaf member,
    fun leaf member => .within rfl members brokerRead fun w read => broker_reads read leaf member,
    fun leaf member => .within rfl members cacheRead fun w read => cache_reads read leaf member⟩

end RoomRelay.Settings
