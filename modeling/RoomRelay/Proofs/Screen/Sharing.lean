import Mathlib.Data.List.Basic
import Mathlib.Data.List.Induction
import RoomRelay.Proofs.Entries
import RoomRelay.Proofs.Screen.Showing

/-!
`MemoryCache` under interleaved calls. A look-up reads the clock, looks and evicts; a write reads the
clock and stores. Each of these is one atomic `Move`. `evict` removes an entry only if it has expired
by the look-up's own clock, so no entry stored in between is lost.
-/
namespace RoomRelay

/-- The stages of a look-up that has read the clock. -/
inductive LookUp.Stage where
  | begun
  /-- What it found has ended, and it is about to take that out. -/
  | evicting
  | done (answer : Option (List UInt8))
  deriving DecidableEq, Repr

namespace LookUp.Stage

def ofFound : MemoryCache.Found → Stage
  | .fresh value => done (some value)
  | .stale => evicting
  | .nothing => done none

def answer? : Stage → Option (Option (List UInt8))
  | begun => none
  | evicting => some none
  | done answer => some answer

end LookUp.Stage

structure LookUp where
  key : String
  clock : Nat
  stage : LookUp.Stage := .begun
  deriving DecidableEq, Repr

structure Write where
  key : String
  value : List UInt8
  clock : Nat
  ttl : Nat
  isDone : Bool := false
  deriving DecidableEq, Repr

/-- A `MemoryCache` with the look-ups and writes under way, numbered in the order in which they read
the clock. -/
structure SharedCache where
  now : Nat := 0
  cache : MemoryCache := {}
  lookUps : List LookUp := []
  writes : List Write := []
  deriving DecidableEq, Repr

namespace SharedCache

inductive Move where
  | wait (ms : Nat)
  | begin (key : String)
  | look (i : Nat)
  | evict (i : Nat)
  | prepare (key : String) (value : List UInt8) (ttl : Nat)
  | store (i : Nat)
  deriving DecidableEq, Repr

def advance (s : SharedCache) (i : Nat) (g : LookUp) (stage : LookUp.Stage) : SharedCache :=
  { s with lookUps := s.lookUps.set i { g with stage } }

/-- One atomic move. A move that is not due changes nothing. -/
def step (s : SharedCache) : Move → SharedCache
  | .wait ms => { s with now := s.now + ms }
  | .begin key => { s with lookUps := s.lookUps ++ [{ key, clock := s.now }] }
  | .look i =>
    match s.lookUps[i]? with
    | some g => if g.stage = .begun then s.advance i g (.ofFound (s.cache.look g.key g.clock)) else s
    | none => s
  | .evict i =>
    match s.lookUps[i]? with
    | some g =>
      if g.stage = .evicting then
        { s.advance i g (.done none) with cache := s.cache.evict g.key g.clock }
      else s
    | none => s
  | .prepare key value ttl =>
    { s with writes := s.writes ++ [{ key, value, clock := s.now, ttl }] }
  | .store i =>
    match s.writes[i]? with
    | some w =>
      if w.isDone then s
      else
        { s with
          cache := s.cache.set w.key w.value w.clock w.ttl
          writes := s.writes.set i { w with isDone := true } }
    | none => s

def run (s : SharedCache) (moves : List Move) : SharedCache :=
  moves.foldl step s

def stored? (s : SharedCache) : Move → Option (String × Entry)
  | .store i =>
    match s.writes[i]? with
    | some w => if w.isDone then none else some (w.key, ⟨w.value, w.clock + w.ttl⟩)
    | none => none
  | _ => none

def stores (s : SharedCache) : List Move → List (String × Entry)
  | [] => []
  | move :: moves => (s.stored? move).toList ++ (s.step move).stores moves

/-- The entry that was stored last for `key`, whatever became of it. -/
def latest? (moves : List Move) (key : String) : Option Entry :=
  (stores {} moves).reverse.lookup key

def latestShown (moves : List Move) (key : String) (moment : Nat) : Option (List UInt8) :=
  ((latest? moves key).filter fun e => moment < e.expires).map Entry.value

/-! ### Alone -/

/-- `lookUp` without moves in between is `MemoryCache.get`. -/
theorem lookUp_alone (s : SharedCache) (key : String) :
    let i := s.lookUps.length
    let alone := s.run [.begin key, .look i, .evict i]
    alone.cache = (s.cache.get key s.now).2 ∧
      alone.lookUps = s.lookUps ++ [⟨key, s.now, .done (s.cache.get key s.now).1⟩] := by
  simp only [run, List.foldl_cons, List.foldl_nil, step, advance, MemoryCache.get,
    List.getElem?_concat_length, if_true, List.set_append]
  cases s.cache.look key s.now <;> simp [LookUp.Stage.ofFound]

theorem write_alone (s : SharedCache) (key : String) (value : List UInt8) (ttl : Nat) :
    (s.run [.prepare key value ttl, .store s.writes.length]).cache = s.cache.set key value s.now ttl := by
  simp [run, step]

/-! ### What a move does -/

theorem evict_lookup (m : MemoryCache) (key other : String) (clock : Nat) :
    (m.evict key clock).entries.lookup other =
      if other = key then (m.entries.lookup other).filter fun e => clock < e.expires
      else m.entries.lookup other := by
  unfold MemoryCache.evict
  by_cases same : other = key
  · subst same
    rw [if_pos rfl]
    cases found : m.entries.lookup other with
    | none => exact found
    | some e =>
      rw [Option.filter_some]
      by_cases ended : e.expires ≤ clock
      · simp only [if_pos ended, Nat.not_lt.mpr ended, decide_false, Bool.false_eq_true, if_false,
          Entries.lookup_erase_self]
      · simp only [if_neg ended, Nat.not_le.mp ended, decide_true, if_true, found]
  · rw [if_neg same]
    split
    · split
      · exact Entries.lookup_erase_other _ same
      · rfl
    · rfl

/-- The effects of a move on the entry of `key`. -/
inductive Touches (s : SharedCache) (key : String) (move : Move) (kept : Option Entry) : Prop
  | leaves (unstored : ∀ e, s.stored? move ≠ some (key, e))
      (same : kept = s.cache.entries.lookup key)
  | evicts {i : Nat} {g : LookUp} (isEvict : move = .evict i) (known : s.lookUps[i]? = some g)
      (rest : kept = (s.cache.entries.lookup key).filter fun e => g.clock < e.expires)
  | stores {e : Entry} (stored : s.stored? move = some (key, e)) (anew : kept = some e)

theorem touches (s : SharedCache) (key : String) (move : Move) :
    s.Touches key move ((s.step move).cache.entries.lookup key) := by
  cases move with
  | wait ms => exact .leaves nofun rfl
  | begin other => exact .leaves nofun rfl
  | prepare other value ttl => exact .leaves nofun rfl
  | look i =>
    refine .leaves nofun ?_
    simp only [step]
    split
    · split <;> rfl
    · rfl
  | evict i =>
    simp only [step]
    split
    · rename_i g known
      split
      · by_cases mine : key = g.key
        · exact .evicts rfl known (by rw [evict_lookup, if_pos mine])
        · exact .leaves nofun (by rw [evict_lookup, if_neg mine])
      · exact .leaves nofun rfl
    · exact .leaves nofun rfl
  | store i =>
    have stored : s.stored? (.store i) =
        match s.writes[i]? with
        | some w => if w.isDone then none else some (w.key, ⟨w.value, w.clock + w.ttl⟩)
        | none => none := rfl
    simp only [step]
    split
    · rename_i w known
      rw [known] at stored
      dsimp only at stored
      split
      · rename_i isDone
        rw [if_pos isDone] at stored
        exact .leaves (by rw [stored]; exact nofun) rfl
      · rename_i pending
        rw [if_neg pending] at stored
        simp only [MemoryCache.set, Entries.lookup_insert]
        split
        · rename_i mine
          exact .stores (by rw [stored, mine]) rfl
        · rename_i apart
          refine .leaves (fun e same => ?_) rfl
          rw [stored] at same
          exact apart (Prod.mk.inj (Option.some.inj same)).1.symm
    · rename_i unknown
      rw [unknown] at stored
      exact .leaves (by rw [stored]; exact nofun) rfl

/-- The history of a look-up that is known after a move. -/
inductive LookUpCases (s : SharedCache) (move : Move) (i : Nat) (g : LookUp) : Prop
  | before (known : s.lookUps[i]? = some g)
  | begins (isBegin : move = .begin g.key) (number : i = s.lookUps.length) (clock : g.clock = s.now)
      (stage : g.stage = .begun)
  | looks (isLook : move = .look i) (known : s.lookUps[i]? = some { g with stage := .begun })
      (stage : g.stage = .ofFound (s.cache.look g.key g.clock))
  | evicts (isEvict : move = .evict i) (known : s.lookUps[i]? = some { g with stage := .evicting })
      (stage : g.stage = .done none)

theorem lookUp_cases {s : SharedCache} {move : Move} {i : Nat} {g : LookUp}
    (known : (s.step move).lookUps[i]? = some g) : s.LookUpCases move i g := by
  cases move with
  | wait ms => exact .before known
  | prepare other value ttl => exact .before known
  | begin key =>
    rcases getElem?_snoc known with ⟨-, known⟩ | ⟨number, rfl⟩
    · exact .before known
    · exact .begins rfl number rfl rfl
  | look j =>
    simp only [step] at known
    split at known
    · rename_i h found
      split at known
      · rename_i begun
        rcases getElem?_set_cases known with ⟨rfl, rfl⟩ | ⟨-, known⟩
        · exact .looks rfl (by rw [found, ← begun]) rfl
        · exact .before known
      · exact .before known
    · exact .before known
  | evict j =>
    simp only [step] at known
    split at known
    · rename_i h found
      split at known
      · rename_i evicting
        rcases getElem?_set_cases known with ⟨rfl, rfl⟩ | ⟨-, known⟩
        · exact .evicts rfl (by rw [found, ← evicting]) rfl
        · exact .before known
      · exact .before known
    · exact .before known
  | store j =>
    simp only [step] at known
    split at known
    · split at known <;> exact .before known
    · exact .before known

/-! ### What has happened -/

theorem run_append (s : SharedCache) (before after : List Move) :
    s.run (before ++ after) = (s.run before).run after :=
  List.foldl_append

theorem run_snoc (s : SharedCache) (moves : List Move) (move : Move) :
    s.run (moves ++ [move]) = (s.run moves).step move :=
  s.run_append moves [move]

theorem stores_snoc (s : SharedCache) (moves : List Move) (move : Move) :
    s.stores (moves ++ [move]) = s.stores moves ++ ((s.run moves).stored? move).toList := by
  induction moves generalizing s with
  | nil => simp [stores, run]
  | cons first moves ih => simp [stores, run, ih]

theorem latest?_snoc_stored {moves : List Move} {move : Move} {key : String} {e : Entry}
    (stored : (run {} moves).stored? move = some (key, e)) :
    latest? (moves ++ [move]) key = some e := by
  simp [latest?, stores_snoc, stored]

theorem latest?_snoc_unstored {moves : List Move} {move : Move} {key : String}
    (unstored : ∀ e, (run {} moves).stored? move ≠ some (key, e)) :
    latest? (moves ++ [move]) key = latest? moves key := by
  rw [latest?, stores_snoc]
  cases stored : (run {} moves).stored? move with
  | none => simp [latest?]
  | some put =>
    obtain ⟨other, e⟩ := put
    have apart : key ≠ other := by
      rintro rfl
      exact unstored e stored
    simp [latest?, List.lookup_cons, beq_false_of_ne apart]

theorem now_le_step (s : SharedCache) (move : Move) : s.now ≤ (s.step move).now := by
  cases move with
  | wait ms => exact Nat.le_add_right _ _
  | begin key | prepare key value ttl => exact Nat.le_refl _
  | look i | evict i | store i =>
    simp only [step]
    split
    · split <;> exact Nat.le_refl _
    · exact Nat.le_refl _

theorem now_le_run (s : SharedCache) (moves : List Move) : s.now ≤ (s.run moves).now := by
  induction moves generalizing s with
  | nil => exact Nat.le_refl _
  | cons move moves ih => exact Nat.le_trans (s.now_le_step move) (ih _)

theorem lookUp_began {moves : List Move} {i : Nat} {g : LookUp}
    (known : (run {} moves).lookUps[i]? = some g) :
    ∃ before after, moves = before ++ .begin g.key :: after ∧ (run {} before).lookUps.length = i ∧
      (run {} before).now = g.clock := by
  induction moves using List.reverseRecOn generalizing g with
  | nil => cases known
  | append_singleton moves move ih =>
    have further : ∀ {h : LookUp}, (run {} moves).lookUps[i]? = some h → h.key = g.key →
        h.clock = g.clock → ∃ before after, moves ++ [move] = before ++ .begin g.key :: after ∧
          (run {} before).lookUps.length = i ∧ (run {} before).now = g.clock := by
      intro h known key clock
      obtain ⟨before, after, rfl, number, time⟩ := ih known
      rw [key, clock] at *
      exact ⟨before, after ++ [move], by rw [List.append_assoc, List.cons_append], number, time⟩
    rw [run_snoc] at known
    cases lookUp_cases known with
    | before known => exact further known rfl rfl
    | begins isBegin number clock stage => exact ⟨moves, [], by rw [isBegin], number.symm, clock.symm⟩
    | looks isLook known stage => exact further known rfl rfl
    | evicts isEvict known stage => exact further known rfl rfl

theorem clock_le_now {moves : List Move} {i : Nat} {g : LookUp}
    (known : (run {} moves).lookUps[i]? = some g) : g.clock ≤ (run {} moves).now := by
  obtain ⟨before, after, rfl, -, time⟩ := lookUp_began known
  rw [← time, run_append]
  exact now_le_run _ _

theorem found_shown {m : MemoryCache} {key : String} {clock : Nat} {answer : Option (List UInt8)}
    (answers : (LookUp.Stage.ofFound (m.look key clock)).answer? = some answer) :
    answer = m.entries.shown key clock := by
  unfold MemoryCache.look at answers
  cases found : m.entries.lookup key with
  | none =>
    rw [found] at answers
    rw [Entries.shown_of_missing found]
    exact (Option.some.inj answers).symm
  | some e =>
    rw [found] at answers
    rw [Entries.shown_of_lookup found]
    by_cases fresh : clock < e.expires
    · simp only [if_pos fresh] at answers ⊢
      exact (Option.some.inj answers).symm
    · simp only [if_neg fresh] at answers ⊢
      exact (Option.some.inj answers).symm

theorem lookUp_looked {moves : List Move} {i : Nat} {g : LookUp} {answer : Option (List UInt8)}
    (known : (run {} moves).lookUps[i]? = some g) (answers : g.stage.answer? = some answer) :
    ∃ before after, moves = before ++ .look i :: after ∧
      (run {} before).lookUps[i]? = some { g with stage := .begun } ∧
      answer = (run {} before).cache.entries.shown g.key g.clock := by
  induction moves using List.reverseRecOn generalizing g with
  | nil => cases known
  | append_singleton moves move ih =>
    have further : ∀ {h : LookUp}, (run {} moves).lookUps[i]? = some h →
        h.stage.answer? = some answer → h.key = g.key → h.clock = g.clock →
        ∃ before after, moves ++ [move] = before ++ .look i :: after ∧
          (run {} before).lookUps[i]? = some { g with stage := .begun } ∧
          answer = (run {} before).cache.entries.shown g.key g.clock := by
      intro h known answers key clock
      obtain ⟨before, after, rfl, begun, shown⟩ := ih known answers
      rw [key, clock] at begun shown
      exact ⟨before, after ++ [move], by rw [List.append_assoc, List.cons_append], begun, shown⟩
    rw [run_snoc] at known
    cases lookUp_cases known with
    | before known => exact further known answers rfl rfl
    | begins isBegin number clock stage =>
      rw [stage] at answers
      contradiction
    | looks isLook begun stage =>
      refine ⟨moves, [], by rw [isLook], begun, ?_⟩
      rw [stage] at answers
      exact found_shown answers
    | evicts isEvict evicting stage =>
      rw [stage] at answers
      exact further evicting answers rfl rfl

/-! ### What is kept -/

/-- The invariant of the cache: the entry of a key is the one stored last, or that was evicted after
it had expired. -/
theorem kept_or_ended (moves : List Move) (key : String) :
    (run {} moves).cache.entries.lookup key = latest? moves key ∨
      (run {} moves).cache.entries.lookup key = none ∧
        ∃ e, latest? moves key = some e ∧ e.expires ≤ (run {} moves).now := by
  induction moves using List.reverseRecOn with
  | nil => exact .inl rfl
  | append_singleton moves move ih =>
    have later : (run {} moves).now ≤ (run {} (moves ++ [move])).now := by
      rw [run_snoc]
      exact now_le_step _ move
    have touched := (run {} moves).touches key move
    rw [← run_snoc] at touched
    cases touched with
    | stores stored anew => exact .inl (anew.trans (latest?_snoc_stored stored).symm)
    | leaves unstored same =>
      rw [same, latest?_snoc_unstored unstored]
      refine ih.imp_right fun ⟨gone, e, last, ended⟩ => ⟨gone, e, last, Nat.le_trans ended later⟩
    | @evicts i g isEvict known rest =>
      have unstored : ∀ e, (run {} moves).stored? move ≠ some (key, e) := by
        rw [isEvict]
        exact nofun
      rw [rest, latest?_snoc_unstored unstored]
      rcases ih with same | ⟨gone, e, last, ended⟩
      · rw [same]
        cases last : latest? moves key with
        | none => exact .inl rfl
        | some e =>
          by_cases fresh : g.clock < e.expires
          · exact .inl (by simp [fresh])
          · have ended := Nat.le_trans (Nat.not_lt.mp fresh) (clock_le_now known)
            refine .inr ⟨?_, e, rfl, Nat.le_trans ended later⟩
            rw [Option.filter_some, if_neg (by rwa [decide_eq_true_eq])]
      · rw [gone]
        exact .inr ⟨rfl, e, last, Nat.le_trans ended later⟩

/-- What is shown by an earlier clock was shown by the last stored entry at some moment since. -/
theorem shown_since {moves : List Move} {clock : Nat} (past : clock ≤ (run {} moves).now)
    (key : String) : ∃ moment, clock ≤ moment ∧ moment ≤ (run {} moves).now ∧
      (run {} moves).cache.entries.shown key clock = latestShown moves key moment := by
  rcases kept_or_ended moves key with same | ⟨gone, e, last, ended⟩
  · exact ⟨clock, Nat.le_refl _, past, by rw [Entries.shown, same, latestShown]⟩
  -- The entry was taken out by another look-up, with a later clock.
  · refine ⟨_, past, Nat.le_refl _, ?_⟩
    rw [Entries.shown_of_missing gone, latestShown, last, Option.filter_some, if_neg, Option.map_none]
    rw [decide_eq_true_eq]
    exact Nat.not_lt.mpr ended

/-- For every interleaving of look-ups and writes: a move changes the entry of a key only by storing
another or by evicting one that has expired, so that an entry that has not expired is the one stored
last. Every answer is what the cache showed at the `look`, by the clock read at the `begin`, and hence
the last stored value at some moment between the two. -/
theorem eviction_spares_the_fresh (moves : List Move) :
    let s := run {} moves
    (∀ move key e, s.cache.entries.lookup key = some e →
      (s.step move).cache.entries.lookup key = some e ∨ (∃ e', s.stored? move = some (key, e')) ∨
        (∃ i, move = .evict i) ∧ e.expires ≤ s.now) ∧
    (∀ key, (s.cache.entries.lookup key).filter (fun e => s.now < e.expires) =
      (latest? moves key).filter fun e => s.now < e.expires) ∧
    ∀ i key clock answer, s.lookUps[i]? = some ⟨key, clock, .done answer⟩ →
      ∃ first before after, moves = first ++ .begin key :: (before ++ .look i :: after) ∧
        (run {} first).lookUps.length = i ∧ (run {} first).now = clock ∧
        let past := first ++ .begin key :: before
        answer = (run {} past).cache.entries.shown key clock ∧
        ∃ moment, clock ≤ moment ∧ moment ≤ (run {} past).now ∧
          answer = latestShown past key moment := by
  intro s
  refine ⟨fun move key e kept => ?removals, fun key => ?fresh, fun i key clock answer known => ?answers⟩
  case removals =>
    cases s.touches key move with
    | leaves unstored same => exact .inl (same.trans kept)
    | stores stored anew => exact .inr (.inl ⟨_, stored⟩)
    | @evicts i g isEvict known rest =>
      by_cases fresh : g.clock < e.expires
      · refine .inl (rest.trans ?_)
        rw [kept, Option.filter_some, if_pos (decide_eq_true fresh)]
      · exact .inr (.inr ⟨⟨i, isEvict⟩, Nat.le_trans (Nat.not_lt.mp fresh) (clock_le_now known)⟩)
  case fresh =>
    rcases kept_or_ended moves key with same | ⟨gone, e, last, ended⟩
    · rw [same]
    · rw [gone, last, Option.filter_some, if_neg, Option.filter_none]
      rw [decide_eq_true_eq]
      exact Nat.not_lt.mpr ended
  case answers =>
    obtain ⟨past, after, rfl, begun, shown⟩ := lookUp_looked known rfl
    have since := shown_since (clock_le_now begun) key
    obtain ⟨first, before, rfl, number, time⟩ := lookUp_began begun
    refine ⟨first, before, after, by rw [List.append_assoc, List.cons_append], number, time, shown, ?_⟩
    rw [shown]
    exact since

/-- A look-up finds an expired screen, and another is stored before it evicts: the new one stays, and
the next look-up finds it. -/
theorem eviction_spares_the_fresh_new_screen :
    let gap : List Move := [.prepare "k" [1] 10, .store 0, .wait 10, .begin "k", .look 0,
      .prepare "k" [2] 10, .store 1]
    let moves := gap ++ [.evict 0, .wait 9, .begin "k", .look 1]
    ((run {} gap).step (.evict 0)).cache.entries.lookup "k" = some ⟨[2], 20⟩ ∧
      ((run {} moves).cache.entries.lookup "k").filter (fun e => (run {} moves).now < e.expires) =
        some ⟨[2], 20⟩ ∧
      (run {} moves).lookUps[1]? = some ⟨"k", 19, .done (some [2])⟩ ∧
      ∃ past after, moves = past ++ .look 1 :: after ∧
        ∃ moment, 19 ≤ moment ∧ some [2] = latestShown past "k" moment := by
  intro gap moves
  obtain ⟨removals, -, -⟩ := eviction_spares_the_fresh gap
  obtain ⟨-, fresh, answers⟩ := eviction_spares_the_fresh moves
  refine ⟨?evicting, ?kept, ?answered⟩
  case evicting =>
    have written : (run {} gap).cache.entries.lookup "k" = some ⟨[2], 20⟩ := by decide
    rcases removals (.evict 0) "k" ⟨[2], 20⟩ written with kept | ⟨e, stored⟩ | ⟨-, ended⟩
    · exact kept
    · contradiction
    · exact absurd ended (by decide)
  case kept =>
    rw [fresh]
    decide
  case answered =>
    have answered : (run {} moves).lookUps[1]? = some ⟨"k", 19, .done (some [2])⟩ := by decide
    obtain ⟨first, before, after, parts, -, -, -, moment, since, -, last⟩ :=
      answers 1 "k" 19 (some [2]) answered
    refine ⟨answered, first ++ .begin "k" :: before, after, ?_, moment, since, last⟩
    rw [parts, List.append_assoc, List.cons_append]

end SharedCache
end RoomRelay
