import Mathlib.Data.Nat.Digits.Defs
import RoomRelay.Proofs.Settings.Leaf

/-!
`Settings.override` by single variables. Each variable replaces one field of its own, if its text can
be read as a value of that field; `Lookup.over` composes lookups by the variables that can be read.
-/
namespace RoomRelay.Settings

/-! ### Numbers as they are spelled -/

/-- The digits `cs` spell `n`, the least significant one last. -/
structure Digits (cs : List Char) (n : Nat) : Prop where
  present : cs ≠ []
  digits : ∀ c ∈ cs, c.isDigit = true
  value : n = Nat.ofDigits 10 (cs.reverse.map fun c => c.toNat - '0'.toNat)

def SpellsNat (s : String) (n : Nat) : Prop :=
  Digits s.toList n ∨ ∃ cs, s.toList = '+' :: cs ∧ Digits cs n

def SpellsInt (s : String) (i : Int) : Prop :=
  (∃ n : Nat, SpellsNat s n ∧ i = n) ∨ ∃ (cs : List Char) (n : Nat), s.toList = '-' :: cs ∧ Digits cs n ∧ i = -n

theorem digitsValue_eq (cs : List Char) :
    Text.digitsValue cs = Nat.ofDigits 10 (cs.reverse.map fun c => c.toNat - '0'.toNat) := by
  rw [Nat.ofDigits_eq_foldr, List.foldr_map, List.foldr_reverse, Text.digitsValue]
  simp only [Nat.cast_id, Nat.add_comm]

theorem digits?_eq_some_iff {cs : List Char} {n : Nat} : Text.digits? cs = some n ↔ Digits cs n := by
  unfold Text.digits?
  rw [digitsValue_eq]
  constructor
  · intro read
    split at read
    · rename_i digits
      exact ⟨digits.1, List.all_eq_true.mp digits.2, (Option.some.inj read).symm⟩
    · contradiction
  · intro digits
    rw [if_pos ⟨digits.present, List.all_eq_true.mpr digits.digits⟩, digits.value]

theorem Digits.head_isDigit {c : Char} {cs : List Char} {n : Nat} (digits : Digits (c :: cs) n) :
    c.isDigit = true :=
  digits.digits c List.mem_cons_self

theorem natOf?_eq_some_iff {s : String} {n : Nat} : Text.natOf? s = some n ↔ SpellsNat s n := by
  unfold Text.natOf? SpellsNat
  split
  · rename_i cs signed
    rw [signed, digits?_eq_some_iff]
    constructor
    · intro digits
      exact .inr ⟨cs, rfl, digits⟩
    · rintro (digits | ⟨_, ⟨⟩, digits⟩)
      · exact absurd digits.head_isDigit (by decide)
      · exact digits
  · rename_i unsigned
    rw [digits?_eq_some_iff]
    constructor
    · exact .inl
    · rintro (digits | ⟨cs, signed, -⟩)
      · exact digits
      · exact absurd signed (unsigned cs)

theorem intOf?_eq_some_iff {s : String} {i : Int} : Text.intOf? s = some i ↔ SpellsInt s i := by
  unfold Text.intOf? SpellsInt
  split
  · rename_i cs signed
    simp only [Option.bind_eq_bind, Option.pure_def, Option.map_eq_some_iff, Option.bind_eq_some_iff]
    constructor
    · rintro ⟨_, ⟨n, read, ⟨⟩⟩, rfl⟩
      exact .inr ⟨cs, n, signed, digits?_eq_some_iff.mp read, rfl⟩
    · rintro (⟨n, (digits | ⟨_, other, -⟩), -⟩ | ⟨_, n, same, digits, rfl⟩)
      · rw [signed] at digits
        exact absurd digits.head_isDigit (by decide)
      · rw [signed] at other
        cases other
      · rw [signed] at same
        cases same
        exact ⟨n, ⟨n, digits?_eq_some_iff.mpr digits, rfl⟩, rfl⟩
  · rename_i unsigned
    rw [Option.map_eq_some_iff]
    constructor
    · rintro ⟨n, read, rfl⟩
      exact .inl ⟨n, natOf?_eq_some_iff.mp read, rfl⟩
    · rintro (⟨n, spells, rfl⟩ | ⟨cs, n, signed, -⟩)
      · exact ⟨n, natOf?_eq_some_iff.mpr spells, rfl⟩
      · exact absurd signed (unsigned cs)

/-! ### Values of fields as they are spelled -/

def SpellsText (s : String) (text : String) : Prop := s = text

def SpellsPort (s : String) (port : UInt16) : Prop := SpellsNat s port.toNat

def SpellsInt64 (s : String) (n : Int64) : Prop := SpellsInt s n.toInt

theorem port?_eq_some_iff {s : String} {port : UInt16} : port? s = some port ↔ SpellsPort s port := by
  unfold port? SpellsPort
  rw [← natOf?_eq_some_iff, Option.bind_eq_some_iff]
  constructor
  · rintro ⟨n, read, fits⟩
    split at fits
    · rename_i small
      obtain rfl := Option.some.inj fits
      rw [read, Nat.toUInt16_eq, UInt16.toNat_ofNat_of_lt' small]
    · contradiction
  · intro read
    refine ⟨port.toNat, read, ?_⟩
    have small : port.toNat < Word.size16 := port.toNat_lt
    rw [if_pos small, Nat.toUInt16_eq, UInt16.ofNat_toNat]

theorem fits64_iff {i : Int} : Word.fits64 i = true ↔ -2 ^ 63 ≤ i ∧ i < 2 ^ 63 := by
  rw [Word.fits64, Bool.and_eq_true, decide_eq_true_eq, decide_eq_true_eq, Word.least64, Word.greatest64]
  omega

theorem int64?_eq_some_iff {s : String} {n : Int64} : int64? s = some n ↔ SpellsInt64 s n := by
  unfold int64? SpellsInt64
  rw [← intOf?_eq_some_iff, Option.bind_eq_some_iff]
  constructor
  · rintro ⟨i, read, fits⟩
    unfold Word.int64? at fits
    split at fits
    · rename_i inside
      obtain ⟨low, high⟩ := fits64_iff.mp inside
      obtain rfl := Option.some.inj fits
      rw [read, Int64.toInt_ofInt_of_le low high]
    · contradiction
  · intro read
    refine ⟨n.toInt, read, ?_⟩
    rw [Word.int64?, if_pos (fits64_iff.mpr ⟨n.le_toInt, n.toInt_lt⟩), Int64.ofInt_toInt]

/-! ### One variable and its field -/

/-- The effect of a variable on its field: the value that it spells, or the old one if it is not set
or spells none. -/
structure Takes {α : Type} (Spells : String → α → Prop) (given : Option String) (old new : α) :
    Prop where
  spelled : ∀ {raw x}, given = some raw → Spells raw x → new = x
  kept : (∀ raw x, given = some raw → ¬Spells raw x) → new = old

theorem Takes.of_read {α : Type} {read : String → Option α} {Spells : String → α → Prop}
    (read_iff : ∀ {raw x}, read raw = some x ↔ Spells raw x) (given : Option String) (old : α) :
    Takes Spells given old ((given.bind read).getD old) := by
  constructor
  · intro raw x isSet spelled
    rw [isSet, Option.bind_some, read_iff.mpr spelled, Option.getD_some]
  · intro unspelled
    have unread : given.bind read = none := by
      rw [Option.bind_eq_none_iff]
      intro raw isSet
      rw [Option.eq_none_iff_forall_ne_some]
      intro x found
      exact unspelled raw x isSet (read_iff.mp found)
    rw [unread, Option.getD_none]

theorem Takes.text (given : Option String) (old : String) :
    Takes SpellsText given old (given.getD old) := by
  have takes : Takes SpellsText given old ((given.bind some).getD old) :=
    .of_read Option.some_inj given old
  rwa [Option.bind_fun_some] at takes

/-- `t` is `s` with the variables applied, each to a field of its own. -/
structure Overridden (lookup : Lookup) (s t : Settings) : Prop where
  serverPort : Takes SpellsPort (lookup "PORT") s.server.port t.server.port
  amqpHost : Takes SpellsText (lookup "RABBITMQ_HOST") s.broker.amqp.host t.broker.amqp.host
  amqpUser : Takes SpellsText (lookup "RABBITMQ_USER") s.broker.amqp.user t.broker.amqp.user
  amqpPassword :
    Takes SpellsText (lookup "RABBITMQ_PASS") s.broker.amqp.password t.broker.amqp.password
  amqpVhost : Takes SpellsText (lookup "RABBITMQ_VHOST") s.broker.amqp.vhost t.broker.amqp.vhost
  amqpExchange :
    Takes SpellsText (lookup "RABBITMQ_EXCHANGE") s.broker.amqp.exchange t.broker.amqp.exchange
  natsHost : Takes SpellsText (lookup "NATS_HOST") s.broker.nats.host t.broker.nats.host
  natsUser : Takes SpellsText (lookup "NATS_USER") s.broker.nats.user t.broker.nats.user
  natsPassword : Takes SpellsText (lookup "NATS_PASS") s.broker.nats.password t.broker.nats.password
  redisHost : Takes SpellsText (lookup "REDIS_HOST") s.cache.redis.host t.cache.redis.host
  redisPort : Takes SpellsPort (lookup "REDIS_PORT") s.cache.redis.port t.cache.redis.port
  redisPassword :
    Takes SpellsText (lookup "REDIS_PASSWORD") s.cache.redis.password t.cache.redis.password
  redisDb : Takes SpellsInt64 (lookup "REDIS_DB") s.cache.redis.db t.cache.redis.db
  rest :
    { t with
      server.port := s.server.port
      broker.amqp.host := s.broker.amqp.host
      broker.amqp.user := s.broker.amqp.user
      broker.amqp.password := s.broker.amqp.password
      broker.amqp.vhost := s.broker.amqp.vhost
      broker.amqp.exchange := s.broker.amqp.exchange
      broker.nats.host := s.broker.nats.host
      broker.nats.user := s.broker.nats.user
      broker.nats.password := s.broker.nats.password
      cache.redis.host := s.cache.redis.host
      cache.redis.port := s.cache.redis.port
      cache.redis.password := s.cache.redis.password
      cache.redis.db := s.cache.redis.db } = s

theorem overridden_override (s : Settings) (lookup : Lookup) :
    Overridden lookup s (s.override lookup) where
  serverPort := .of_read port?_eq_some_iff _ _
  amqpHost := .text _ _
  amqpUser := .text _ _
  amqpPassword := .text _ _
  amqpVhost := .text _ _
  amqpExchange := .text _ _
  natsHost := .text _ _
  natsUser := .text _ _
  natsPassword := .text _ _
  redisHost := .text _ _
  redisPort := .of_read port?_eq_some_iff _ _
  redisPassword := .text _ _
  redisDb := .of_read int64?_eq_some_iff _ _
  rest := rfl

/-! ### Variables laid over others -/

/-- Whether `raw` has an effect as the variable `name`. -/
def IsUsable (name raw : String) : Prop :=
  if name = "PORT" ∨ name = "REDIS_PORT" then ∃ port, SpellsPort raw port
  else if name = "REDIS_DB" then ∃ n, SpellsInt64 raw n
  else True

instance (raw : String) : Decidable (∃ port, SpellsPort raw port) :=
  decidable_of_iff ((port? raw).isSome = true)
    (Option.isSome_iff_exists.trans (exists_congr fun _ => port?_eq_some_iff))

instance (raw : String) : Decidable (∃ n, SpellsInt64 raw n) :=
  decidable_of_iff ((int64? raw).isSome = true)
    (Option.isSome_iff_exists.trans (exists_congr fun _ => int64?_eq_some_iff))

instance (name raw : String) : Decidable (IsUsable name raw) :=
  inferInstanceAs (Decidable
    (if name = "PORT" ∨ name = "REDIS_PORT" then ∃ port, SpellsPort raw port
    else if name = "REDIS_DB" then ∃ n, SpellsInt64 raw n
    else True))

/-- The usable variables of `upper`, and those of `lower` for all other names. -/
def Lookup.over (upper lower : Lookup) : Lookup := fun name =>
  match upper name with
  | some raw => if IsUsable name raw then some raw else lower name
  | none => lower name

theorem bind_over {α : Type} {read : String → Option α} {name : String}
    (usable : ∀ raw, IsUsable name raw ↔ (read raw).isSome = true) (upper lower : Lookup) :
    (upper.over lower name).bind read = ((upper name).bind read).or ((lower name).bind read) := by
  unfold Lookup.over
  cases upper name with
  | none => rfl
  | some raw =>
    dsimp only [Option.bind_some]
    cases found : read raw with
    | none =>
      have useless : ¬IsUsable name raw := by
        rw [usable, found]
        exact Bool.false_ne_true
      rw [if_neg useless, Option.none_or]
    | some x =>
      have useful : IsUsable name raw := by
        rw [usable, found]
        rfl
      rw [if_pos useful, Option.bind_some, found, Option.some_or]

theorem isUsable_port {name : String} (numeric : name = "PORT" ∨ name = "REDIS_PORT") (raw : String) :
    IsUsable name raw ↔ (port? raw).isSome = true := by
  rw [IsUsable, if_pos numeric, Option.isSome_iff_exists]
  exact exists_congr fun _ => port?_eq_some_iff.symm

theorem isUsable_int64 (raw : String) : IsUsable "REDIS_DB" raw ↔ (int64? raw).isSome = true := by
  rw [IsUsable, if_neg (by decide), if_pos rfl, Option.isSome_iff_exists]
  exact exists_congr fun _ => int64?_eq_some_iff.symm

theorem over_text {name : String}
    (other : name ≠ "PORT" ∧ name ≠ "REDIS_PORT" ∧ name ≠ "REDIS_DB") (upper lower : Lookup) :
    upper.over lower name = (upper name).or (lower name) := by
  have usable : ∀ raw, IsUsable name raw ↔ (some raw).isSome = true := by
    intro raw
    simp [IsUsable, other]
  have bound := bind_over usable upper lower
  rwa [Option.bind_fun_some, Option.bind_fun_some, Option.bind_fun_some] at bound

/-- A leaf of `upper.over lower` is that of `upper`, or else that of `lower`. -/
theorem single_over (upper lower : Lookup) : ∀ leaf ∈ leaves,
    leaf.single (upper.over lower) = (leaf.single upper).or (leaf.single lower) := by
  simp [leaves, serverLeaves, brokerLeaves, amqpLeaves, natsLeaves, cacheLeaves, redisLeaves,
    Leaf.within, Leaf.field, over_text, number?, bind_over (isUsable_port (.inl rfl)),
    bind_over (isUsable_port (.inr rfl)), bind_over isUsable_int64]

/-- `override` acts field by field, each by its own variable. It is idempotent, and overriding twice
is overriding once by `over`. -/
theorem overrides_compose (s : Settings) (first second : Lookup) :
    Overridden first s (s.override first) ∧
      (s.override first).override first = s.override first ∧
      (s.override first).override second = s.override (second.over first) := by
  refine ⟨overridden_override s first, ?again, ?others⟩
  case again =>
    apply eq_of_leaves
    intro leaf member
    rw [of_override _ _ leaf member, of_override _ _ leaf member, ← Option.getD_or, Option.or_self]
  case others =>
    apply eq_of_leaves
    intro leaf member
    rw [of_override _ _ leaf member, of_override _ _ leaf member, of_override _ _ leaf member,
      single_over second first leaf member, Option.getD_or]

end RoomRelay.Settings
