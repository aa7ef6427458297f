import RoomRelay.Proofs.Settings.Merge
import RoomRelay.Settings.Load

/-!
Which source decides a field of loaded settings. Leaf by leaf it is the last source that gives a
value, unless a later one replaces a section around the leaf and so discards what was given before.
-/
namespace RoomRelay.Settings

/-- The value of a leaf: that of its own variable, or else that of the last word on its ways, or else
the default. -/
def Leaf.Decided (leaf : Leaf Settings) (lookup : Lookup) (words : List Hop → Word) (s : Settings) :
    Prop :=
  match leaf.single lookup with
  | some x => leaf.of s = x
  | none =>
    (∀ way ∈ leaf.ways, ∀ v, words way = .gives v → leaf.read v = some (leaf.of s)) ∧
      ((∀ way ∈ leaf.ways, words way = .silent ∨ words way = .discards) → leaf.of s = leaf.of {})

/-- The reasons for which `load` fails. A missing default file is not among them. -/
inductive Sources.Fails (s : Sources) (path : Option String) : Prop
  | malformed {file content : String} (isDefault : file ∈ [serviceFile, defaultFile])
    (found : s.find? file = some content) (malformed : Yaml.parse? content = none)
  | unread {file : String} (isNamed : path = some file ∨ s.lookup fileVariable = some file)
    (unread : s.required? file = none)
  | unfit {tables : List Table} (layers : s.layers? path = some tables)
    (unfit : lenientFormat.settings (.table (tables.foldl Value.layer [])) = none)

def Leaf.names {S : Type} (leaf : Leaf S) : List String :=
  leaf.place.map Prod.fst

def Value.nest : List String → Value → Value
  | [], v => v
  | name :: names, v => .table [(name, v.nest names)]

def Leaf.alone {S : Type} (leaf : Leaf S) (v : Value) : Table :=
  (v.nest leaf.names).members

/-- The value that was given last, even if it was discarded since. -/
def lastGiven (way : List Hop) (sources : List Table) : Option Value :=
  sources.reverse.findSome? fun source =>
    match said way source with
    | .gives v => some v
    | _ => none

/-! ### One leaf -/

theorem Leaf.Reads.decided {leaf : Leaf Settings} {v : Value} {base : Settings}
    {words : List Hop → Word} (reads : leaf.Reads {} v base)
    (agrees : ∀ way, (words way).Agrees leaf.read (v.sight way)) {lookup : Lookup} {s : Settings}
    (overridden : leaf.of s = (leaf.single lookup).getD (leaf.of base)) :
    leaf.Decided lookup words s := by
  unfold Decided
  cases single : leaf.single lookup with
  | some x =>
    rw [single] at overridden
    exact overridden
  | none =>
    rw [single, Option.getD_none] at overridden
    rw [overridden]
    refine ⟨fun way known v said => ?_, fun quiet => reads.absent fun way known w found => ?_⟩
    · obtain ⟨w, found, same⟩ : (Word.gives v).Agrees leaf.read _ := said ▸ agrees way
      exact same _ (reads.found way known w found)
    · have unread : leaf.read w = none := by
        have agrees := agrees way
        rcases quiet way known with said | said <;> rw [said] at agrees <;> exact agrees w found
      rw [reads.found way known w found] at unread
      contradiction

/-! ### Sources with one leaf -/

/-- Whether two ways, in lower case, differ before one of them ends. -/
def apart : List String → List String → Bool
  | a :: as, b :: bs => Text.lower a != b || apart as bs
  | _, _ => false

theorem word_of_apart (v : Value) {names place : List String} (h : apart names place = true) :
    (v.nest names).word (place.map .member) = .silent := by
  induction names generalizing place with
  | nil => cases h
  | cons a names ih =>
    cases place with
    | nil => cases h
    | cons b place =>
      rw [List.map_cons, Value.nest, Value.word_member, List.map_singleton, Word.last, Word.last]
      by_cases here : Text.lower a = b
      · rw [if_pos here, ih (by simpa [apart, here] using h)]
        rfl
      · rw [if_neg here]
        rfl

theorem word_of_same (v : Value) {names : List String} (lower : names.map Text.lower = names) :
    (v.nest names).word (names.map .member) = v.word [] := by
  induction names with
  | nil => rfl
  | cons a names ih =>
    obtain ⟨here, lower⟩ := List.cons.inj lower
    rw [List.map_cons, Value.nest, Value.word_member, List.map_singleton, Word.last, Word.last]
    rw [if_pos here, ih lower]
    rfl

def places : List (List String) := leaves.map Leaf.names

theorem places_apart : ∀ names ∈ places, ∀ place ∈ places, place ≠ names →
    apart names place = true := by
  decide +kernel

theorem places_lower : ∀ names ∈ places, names.map Text.lower = names := by
  decide +kernel

theorem places_open : ∀ names ∈ places,
    names.head?.any (fun name => Step.path name = [.member name]) = true := by
  decide +kernel

/-- `alone` says its value of `leaf` and is silent on all others. -/
theorem said_alone {leaf : Leaf Settings} (known : leaf ∈ leaves) (v : Value) :
    said (leaf.names.map .member) (leaf.alone v) = v.word [] ∧
      ∀ other ∈ leaves, other.names ≠ leaf.names →
        said (other.names.map .member) (leaf.alone v) = .silent := by
  have member : leaf.names ∈ places := List.mem_map_of_mem known
  -- A name at the top spells a path, and that of a section spells just itself.
  have opens (place : List String) (inside : place ∈ places) :
      said (place.map .member) (leaf.alone v) = (v.nest leaf.names).word (place.map .member) := by
    have first := places_open leaf.names member
    have first' := places_open place inside
    rw [Leaf.alone]
    cases names : leaf.names with
    | nil =>
      rw [names] at first
      cases first
    | cons name rest =>
      rw [names] at first
      have path : Step.path name = [.member name] := by simpa using first
      cases place with
      | nil => cases first'
      | cons other place =>
        rw [Value.nest, Value.members, said, List.map_singleton, path, List.map_cons,
          Value.word_member]
        rfl
  constructor
  · rw [opens leaf.names member, word_of_same v (places_lower leaf.names member)]
  · intro other known' differs
    have member' : other.names ∈ places := List.mem_map_of_mem known'
    rw [opens other.names member',
      word_of_apart v (places_apart leaf.names member other.names member' differs)]

/-! ### All of a load -/

namespace Sources
variable {s : Sources} {path : Option String}

theorem optional?_none {file : String} :
    s.optional? file = none ↔ ∃ content, s.find? file = some content ∧ Yaml.parse? content = none := by
  unfold optional?
  cases s.find? file <;> simp

theorem named?_none {name : Option String} :
    s.named? name = none ↔ ∃ file, name = some file ∧ s.required? file = none := by
  unfold named?
  cases name <;> simp

theorem layers?_some {tables : List Table} (layers : s.layers? path = some tables) :
    ∃ service common given chosen, s.optional? serviceFile = some service ∧
      s.optional? defaultFile = some common ∧ s.named? path = some given ∧
      s.named? (s.lookup fileVariable) = some chosen ∧
      tables = [service, common, given, chosen, s.variableTable] := by
  simp only [layers?, Option.bind_eq_bind, Option.bind_eq_some_iff, Option.pure_def] at layers
  obtain ⟨service, hasService, common, hasCommon, given, hasGiven, chosen, hasChosen, same⟩ := layers
  exact ⟨service, common, given, chosen, hasService, hasCommon, hasGiven, hasChosen,
    (Option.some.inj same).symm⟩

theorem fails_of_layers (none : s.layers? path = none) : s.Fails path := by
  cases service : s.optional? serviceFile with
  | none =>
    obtain ⟨content, found, malformed⟩ := optional?_none.mp service
    exact .malformed (by simp) found malformed
  | some =>
    cases common : s.optional? defaultFile with
    | none =>
      obtain ⟨content, found, malformed⟩ := optional?_none.mp common
      exact .malformed (by simp) found malformed
    | some =>
      cases given : s.named? path with
      | none =>
        obtain ⟨file, named, unread⟩ := named?_none.mp given
        exact .unread (.inl named) unread
      | some =>
        cases chosen : s.named? (s.lookup fileVariable) with
        | none =>
          obtain ⟨file, named, unread⟩ := named?_none.mp chosen
          exact .unread (.inr named) unread
        | some =>
          rw [layers?, service, common, given, chosen] at none
          cases none

theorem base?_none_iff : s.base? path = none ↔ s.Fails path := by
  unfold base?
  constructor
  · intro none
    cases layers : s.layers? path with
    | none => exact fails_of_layers layers
    | some tables =>
      rw [layers] at none
      exact .unfit layers none
  · intro fails
    cases layers : s.layers? path with
    | none => rfl
    | some tables =>
      obtain ⟨service, common, given, chosen, hasService, hasCommon, hasGiven, hasChosen, -⟩ :=
        layers?_some layers
      rcases fails with ⟨isDefault, found, malformed⟩ | ⟨isNamed, unread⟩ | ⟨layers', unfit⟩
      · have none := optional?_none.mpr ⟨_, found, malformed⟩
        simp only [List.mem_cons, List.not_mem_nil, or_false] at isDefault
        rcases isDefault with rfl | rfl
        · rw [hasService] at none
          contradiction
        · rw [hasCommon] at none
          contradiction
      · rcases isNamed with named | named
        · rw [named?_none.mpr ⟨_, named, unread⟩] at hasGiven
          contradiction
        · rw [named?_none.mpr ⟨_, named, unread⟩] at hasChosen
          contradiction
      · obtain rfl := Option.some.inj (layers.symm.trans layers')
        exact unfit

end Sources

theorem load_error_iff {s : Sources} {path : Option String} {e : SettingsError} :
    load s path = .error e ↔ e = .load ∧ s.Fails path := by
  rw [← Sources.base?_none_iff, load]
  cases s.base? path <;> simp [eq_comm]

theorem load_ok {s : Sources} {path : Option String} {settings : Settings} {notices : List Notice}
    (loaded : load s path = .ok (settings, notices)) :
    ∃ tables base, s.layers? path = some tables ∧
      lenientFormat.settings (.table (tables.foldl Value.layer [])) = some base ∧
      settings = base.override s.lookup := by
  unfold load at loaded
  split at loaded
  · contradiction
  · rename_i base found
    obtain ⟨tables, layers, read⟩ := Option.bind_eq_some_iff.mp found
    exact ⟨tables, base, layers, read, (congrArg Prod.fst (Except.ok.inj loaded)).symm⟩

/-- Every leaf of loaded settings, and there is nothing else in them, is `Decided` by the last word on
it: of the two default files, the file of `path`, the file of `fileVariable`, the variables with the
prefix and the variable of the leaf, in this order. If no source says anything, or the last word
discards what was said, it has its default. A source that gives one leaf by its names leaves the
others to lower sources. A named file has to exist, and `load` fails exactly if `Sources.Fails`. -/
theorem last_word_wins (s : Sources) (path : Option String) :
    (∀ settings notices, load s path = .ok (settings, notices) →
      ∃ service common given chosen, s.optional? Sources.serviceFile = some service ∧
        s.optional? Sources.defaultFile = some common ∧ s.named? path = some given ∧
        s.named? (s.lookup Sources.fileVariable) = some chosen ∧
        ∀ leaf ∈ leaves, leaf.Decided s.lookup
          (lastWord · [service, common, given, chosen, s.variableTable]) settings) ∧
    (∀ a b : Settings, (∀ leaf ∈ leaves, leaf.of a = leaf.of b) → a = b) ∧
    (∀ leaf ∈ leaves, ∀ v, said (leaf.names.map .member) (leaf.alone v) = v.word [] ∧
      ∀ other ∈ leaves, other.names ≠ leaf.names →
        said (other.names.map .member) (leaf.alone v) = .silent) ∧
    (∀ file, path = some file ∨ s.lookup Sources.fileVariable = some file → s.find? file = none →
      load s path = .error .load) ∧
    ∀ e, load s path = .error e ↔ e = .load ∧ s.Fails path := by
  refine ⟨?_, fun a b => eq_of_leaves, fun leaf known v => said_alone known v, ?_,
    fun e => load_error_iff⟩
  · intro settings notices loaded
    obtain ⟨tables, base, layers, read, rfl⟩ := load_ok loaded
    obtain ⟨service, common, given, chosen, hasService, hasCommon, hasGiven, hasChosen, rfl⟩ :=
      Sources.layers?_some layers
    refine ⟨service, common, given, chosen, hasService, hasCommon, hasGiven, hasChosen, ?_⟩
    intro leaf known
    exact (settings_reads read leaf known).decided (fun way => lastWord_agrees leaf.scalar way _)
      (of_override base s.lookup leaf known)
  · intro file named missing
    refine load_error_iff.mpr ⟨rfl, .unread named ?_⟩
    rw [Sources.required?, missing, Option.bind_none]

/-- Two variables and a named file; and a file that does not exist. -/
theorem last_word_wins_over_file :
    let files := [("given.yaml",
      "server:\n  port: 9100\n  status_events: allow\nbroker:\n  type: nats\ncache:\n  ttl_secs: 60\n")]
    let s : Sources := ⟨fun name => files.lookup name,
      [("HYPERCARDS__CACHE__TTL_SECS", "120"), ("NATS_HOST", "nats-env")]⟩
    let settings : Settings :=
      { server := { port := 9100, statusEvents := .allow }
        broker := { choice := .nats, nats := { host := "nats-env" } }
        cache := { ttlSecs := 120 } }
    (∃ service common given chosen, s.optional? Sources.serviceFile = some service ∧
      s.optional? Sources.defaultFile = some common ∧ s.named? (some "given.yaml") = some given ∧
      s.named? (s.lookup Sources.fileVariable) = some chosen ∧
      ∀ leaf ∈ leaves, leaf.Decided s.lookup
        (lastWord · [service, common, given, chosen, s.variableTable]) settings) ∧
    load s (some "absent.yaml") = .error .load := by
  intro files s settings
  have loaded : load s (some "given.yaml") = .ok (settings, []) := by decide +kernel
  have missing : s.find? "absent.yaml" = none := by decide +kernel
  exact ⟨(last_word_wins s (some "given.yaml")).1 settings [] loaded,
    (last_word_wins s (some "absent.yaml")).2.2.2.1 "absent.yaml" (.inl rfl) missing⟩

/-- The port that only the lower file gives is lost, once because the higher file leaves the section
empty, and once because it gives the section as a list. -/
theorem lower_port_is_forgotten :
    let port (s : Sources) : Option UInt16 := (s.layers? none).bind fun tables =>
      (lastGiven [.member "server", .member "port"] tables).bind lenientFormat.port
    let lower := ("hypercards.yaml", "server:\n  port: 9100\n")
    let emptied : Sources := ⟨fun name => [lower, ("config.yaml", "server:\n")].lookup name,
      [("HYPERCARDS__SERVER__HOST", "h")]⟩
    let listed : Sources := ⟨fun name => [lower, ("config.yaml", "server: [h]\n")].lookup name, []⟩
    (port emptied = some 9100 ∧
      load emptied none = .ok ({ server := { host := "h", port := 8888 } }, [])) ∧
    port listed = some 9100 ∧
      load listed none = .ok ({ server := { host := "h", port := 8888 } }, []) := by
  decide +kernel

end RoomRelay.Settings
