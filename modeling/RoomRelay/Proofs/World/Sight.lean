import Mathlib.Data.List.Induction
import RoomRelay.Proofs.Event.Codec
import RoomRelay.Proofs.Key.Codec
import RoomRelay.Proofs.World.Publishing

/-!
What clients can see. A relay shows its client only what was queued for it, and so only what calls
published in its room. `Sighted` is the invariant of the run with its records.
-/

namespace RoomRelay

/-! ### What a relay shows -/

namespace Relay

variable {published : List (Nat × Event)} {shown : List Item}

/-- The record of an event that another user published in the room of the relay. -/
def Hears (r : Relay) (published : List (Nat × Event)) (record : Wire.Event) : Prop :=
  ∃ x ∈ published, record = .ofDomain x.2 ∧ x.2.inRoom = r.room ∧ x.2.byUser ≠ r.user

/-- What a stream shows: an optional occupancy, and then records that the relay `Hears`. -/
def Shows (r : Relay) (published : List (Nat × Event)) (shown : List Item) : Prop :=
  ∃ welcome rest, shown = welcome ++ rest ∧
    (welcome = [] ∨ ∃ at_ n, welcome = [.ok (.ofDomain (r.event at_ (.occupancy n)))]) ∧
      ∀ record, .ok record ∈ rest → r.Hears published record

def Sees (r : Relay) (published : List (Nat × Event)) (shown : List Item) : Prop :=
  match r.phase with
  | .opening | .subscribing | .joining _ | .withdrawing _ | .abandoning _ | .refused _ | .joined
  | .counting => shown = []
  | .announcing occupancy => shown = [] ∧ ∃ at_ n, occupancy = r.event at_ (.occupancy n)
  | .forwarding e => r.Shows published shown ∧ r.Hears published e
  | _ => r.Shows published shown

theorem shows_nil (r : Relay) (published : List (Nat × Event)) : r.Shows published [] :=
  ⟨[], [], rfl, .inl rfl, nofun⟩

theorem Hears.mono {r : Relay} {more : List (Nat × Event)} {record : Wire.Event}
    (hears : r.Hears published record) : r.Hears (published ++ more) record := by
  obtain ⟨x, member, same⟩ := hears
  exact ⟨x, List.mem_append_left _ member, same⟩

theorem Shows.mono {r : Relay} (shows_ : r.Shows published shown) (more : List (Nat × Event)) :
    r.Shows (published ++ more) shown := by
  obtain ⟨welcome, rest, split, leads, heard⟩ := shows_
  exact ⟨welcome, rest, split, leads, fun record member => (heard record member).mono⟩

theorem Sees.mono {r : Relay} (sees : r.Sees published shown) (more : List (Nat × Event)) :
    r.Sees (published ++ more) shown := by
  unfold Sees at sees ⊢
  split at sees
  case h_10 => exact ⟨sees.1.mono more, sees.2.mono⟩
  case h_11 => exact Shows.mono sees more
  all_goals exact sees

theorem Shows.append {r : Relay} (shows_ : r.Shows published shown) {item : Item}
    (heard : ∀ record, item = .ok record → r.Hears published record) :
    r.Shows published (shown ++ [item]) := by
  obtain ⟨welcome, rest, rfl, leads, before⟩ := shows_
  refine ⟨welcome, rest ++ [item], List.append_assoc .., leads, ?_⟩
  intro record member
  rcases List.mem_append.mp member with old | new
  · exact before record old
  · exact heard record (List.mem_singleton.mp new).symm

theorem Sees.shows {r : Relay} (sees : r.Sees published shown) : r.Shows published shown := by
  unfold Sees at sees
  split at sees
  case h_9 => exact sees.1 ▸ r.shows_nil published
  case h_10 => exact sees.1
  case h_11 => exact sees
  all_goals exact sees ▸ r.shows_nil published

theorem Sees.offered {r : Relay} (sees : r.Sees published shown) {item : Item}
    (offers : r.act = .offer item) : r.Shows published (shown ++ [item]) := by
  unfold act at offers
  split at offers
  case h_9 occupancy phase =>
    rw [Sees, phase] at sees
    obtain ⟨rfl, at_, n, rfl⟩ := sees
    obtain rfl := Act.offer.inj offers
    exact ⟨_, [], rfl, .inr ⟨at_, n, rfl⟩, nofun⟩
  case h_11 e phase =>
    rw [Sees, phase] at sees
    obtain rfl := Act.offer.inj offers
    refine sees.1.append ?_
    rintro record ⟨rfl⟩
    exact sees.2
  case h_15 e phase =>
    rw [Sees, phase] at sees
    obtain rfl := Act.offer.inj offers
    refine Shows.append sees ?_
    intro record same
    cases same
  all_goals cases offers

theorem sees_taken {r : Relay} {item : Item} (offers : r.act = .offer item)
    (shows_ : r.Shows published shown) (now : Int64) :
    (r.resume now .taken).1.Sees published shown := by
  unfold act at offers
  split at offers
  case h_9 phase | h_11 phase | h_15 phase =>
    simp only [resume, phase]
    exact shows_
  all_goals cases offers

theorem sees_hear {r : Relay} {d : Delivery} (listens : r.phase = .listening)
    (shows_ : r.Shows published shown)
    (heard : ∀ record, step r.user d = .forward record → r.Hears published record) :
    (r.hear d).1.Sees published shown := by
  unfold hear
  split
  · rename_i record forwards
    exact ⟨shows_, heard record forwards⟩
  · rw [Sees, listens]
    exact shows_
  · rw [Sees, listens]
    exact shows_
  · exact shows_

theorem Sees.resume {r : Relay} {reply : Reply} (sees : r.Sees published shown)
    (heard : ∀ d record, reply = .delivery d → r.phase = .listening →
      step r.user d = .forward record → r.Hears published record) (now : Int64) :
    (r.resume now reply).1.Sees published shown := by
  have shows_ := sees.shows
  unfold Relay.resume
  split
  case h_16 d listens => exact sees_hear listens shows_ fun record => heard d record rfl listens
  case h_23 why _ =>
    unfold conclude
    split <;> exact shows_
  case h_26 => exact sees
  all_goals
    rename_i phase
    rw [Sees, phase] at sees
    first
      | exact sees
      | exact shows_
      | exact ⟨sees, now, _, rfl⟩

theorem Sees.serve {c c' : Channel} {stopping : Bool} {first : Signal} {r : Relay} {stream : Stream}
    {work : Work} {reply : Reply} (sees : r.Sees published shown)
    (served : c.serve stopping first (.relay r stream) = some (reply, work, c'))
    (heard : ∀ d ∈ (c.feed r.subscription).queue, ∀ record, r.phase = .listening →
      step r.user d = .forward record → r.Hears published record) (now : Int64) :
    (r.resume now reply).1.Sees published (shown ++ (Work.puts? (.relay r stream)).toList) := by
  by_cases offers : ∃ item, r.act = .offer item
  · obtain ⟨item, offers⟩ := offers
    have asks : Work.act (.relay r stream) = .offer item := offers
    simp only [Channel.serve, asks, Work.offer] at served
    obtain ⟨_, answer, same⟩ := Option.map_eq_some_iff.mp served
    cases same
    simp only [Work.puts?, offers]
    rcases stream.offer_cases item with ⟨taken, room⟩ | ⟨gone, full⟩
    · obtain rfl := Option.some.inj (taken.symm.trans answer)
      rw [if_pos room]
      exact sees_taken offers (sees.offered offers) now
    · obtain rfl := gone _ answer
      rw [if_neg (Bool.eq_false_iff.mp full), Option.toList_none, List.append_nil]
      refine sees.resume ?_ now
      rintro d record ⟨⟩
  · have quiet : Work.puts? (.relay r stream) = none := by
      simp only [Work.puts?]
      split
      · exact absurd ⟨_, ‹_›⟩ offers
      · rfl
    rw [quiet, Option.toList_none, List.append_nil]
    refine sees.resume ?_ now
    rintro d record rfl listens forwards
    -- a delivery is a reply to listening only, and then it was first in the queue
    have asks : Work.act (.relay r stream) = .listen r.subscription := by
      rw [Work.act, act, listens]
    simp only [Channel.serve, asks] at served
    obtain ⟨⟨_, _⟩, given, same⟩ := Option.map_eq_some_iff.mp served
    cases same
    cases Signal.hears given with
    | delivery received => exact heard d (Channel.queued_of_receive received) record listens forwards

/-- A listening relay forwards only what it `Hears`. -/
theorem hears_of_queued {svc : Service} {c : Channel} {r : Relay} (kept : r.WellKept c)
    (carries : c.Carries published)
    (known : ∀ x ∈ published, ∃ first : Call, first.Publishes x.2 ∧ first.IsAccepted svc)
    (listens : r.phase = .listening) {d : Delivery} (queued : d ∈ (c.feed r.subscription).queue)
    {record : Wire.Event} (forwards : step r.user d = .forward record) : r.Hears published record := by
  obtain ⟨⟨x, member, delivery⟩, pattern, cancelled, held, selected⟩ := carries _ d queued
  obtain ⟨-, room, -, holds⟩ := kept
  obtain ⟨_, held', -⟩ := holds (by rw [isSubscribed, listens])
  obtain ⟨rfl, -⟩ := held.unique held'
  obtain ⟨first, publishes, accepted⟩ := known x member
  obtain ⟨segment, user, kind, key⟩ := publishes.key accepted
  have topic : d = ⟨(Key.event x.2.inRoom x.2.byUser kind).encode, x.2.encode⟩ := by
    rw [Event.delivery?, key] at delivery
    exact (Option.some.inj delivery).symm
  subst topic
  have safe := Topic.isSafe_of_isSegment segment
  have same := Key.room_of_selects (Topic.isSafe_of_isSegment room) safe user selected
  have plain : (Key.event x.2.inRoom x.2.byUser kind).IsPlain :=
    ⟨Topic.plain_of_isSafe safe, Topic.plain_of_isSafe user⟩
  rw [step, Key.decode_encode plain] at forwards
  simp only at forwards
  split at forwards
  · cases forwards
  · rename_i other
    refine ⟨x, member, ?_, same, other⟩
    rw [decode, Event.encode, Wire.Event.decode?_encode] at forwards
    split at forwards
    · rename_i read
      split at read
      · cases read
      · rename_i found
        split at found
        · obtain rfl := Option.some.inj found
          rw [Wire.toDomain_ofDomain] at read
          obtain rfl := Except.ok.inj read
          exact (Step.forward.inj forwards).symm
        · cases found
    · cases forwards

theorem Sees.abandon {r : Relay} (sees : r.Sees published shown) (opening : r.isOpening = true) :
    r.abandon.Sees published shown := by
  unfold isOpening at opening
  split at opening
  case h_6 => cases opening
  all_goals
    rename_i phase
    rw [Sees, phase] at sees
    exact sees

theorem Sees.run {r : Relay} (sees : r.Sees published shown) (joined : r.phase = .joined) :
    r.run.Sees published shown := by
  rw [Sees, joined] at sees
  exact sees

end Relay

theorem Channel.puts_of_waits {c : Channel} {stopping : Bool} {first : Signal} {work : Work}
    (waits : c.serve stopping first work = none) : work.puts? = none := by
  cases work with
  | sending s => rfl
  | relay r stream =>
    simp only [Work.puts?]
    split
    · rename_i item offers
      have asks : Work.act (.relay r stream) = .offer item := offers
      simp only [serve, asks, Work.offer, Option.map_eq_none_iff] at waits
      rcases stream.offer_cases item with ⟨taken, -⟩ | ⟨-, full⟩
      · rw [taken] at waits
        contradiction
      · rw [if_neg (Bool.eq_false_iff.mp full)]
    · rfl

/-! ### The whole service -/

namespace World

variable {svc : Service} {w : World Channel} {opened : List Call} {published : List (Nat × Event)}
  {shown : Nat → List Item}

/-- The invariant of a run: its accepted calls, what they published, and what was put on each
stream. -/
structure Sighted (svc : Service) (opened : List Call) (published : List (Nat × Event))
    (shown : Nat → List Item) (w : World Channel) : Prop where
  kept : w.Kept
  carries : w.broker.Carries published
  length : opened.length = w.tasks.length
  origin : ∀ (i : Nat) (t : Task), w.tasks[i]? = some t →
    ∃ first, opened[i]? = some first ∧ first.Continues t.work.call
  accepted : ∀ first ∈ opened, first.IsAccepted svc
  known : ∀ x ∈ published, ∃ first, opened[x.1]? = some first ∧ first.Publishes x.2
  sees : ∀ (i : Nat) (r : Relay) (stream : Stream) (u : Option Underway),
    w.tasks[i]? = some ⟨.relay r stream, u⟩ → r.Sees published (shown i)
  unborn : ∀ i, w.tasks.length ≤ i → shown i = []

theorem sighted_fresh (svc : Service) (clock : Int64) :
    Sighted svc [] [] (fun _ => []) (fresh clock) where
  kept := kept_fresh clock
  carries := Channel.carries_empty
  length := rfl
  origin := fun i t found => by cases found
  accepted := fun _ member => absurd member List.not_mem_nil
  known := fun _ member => absurd member List.not_mem_nil
  sees := fun i r stream u found => by cases found
  unborn := fun _ _ => rfl

/-- The broker goes on alone and publishes nothing. -/
theorem Sighted.broker (sighted : Sighted svc opened published shown w) {w' : World Channel}
    (kept : w'.Kept) (tasks : w'.tasks = w.tasks) (carries : w'.broker.Carries published) :
    Sighted svc opened published shown w' where
  kept := kept
  carries := carries
  length := tasks ▸ sighted.length
  origin := tasks ▸ sighted.origin
  accepted := sighted.accepted
  known := sighted.known
  sees := tasks ▸ sighted.sees
  unborn := tasks ▸ sighted.unborn

theorem Sighted.spawn (sighted : Sighted svc opened published shown w) {h : Happening} {call : Call}
    (opens : h.opens? svc = some call) {w' : World Channel} (kept : w'.Kept)
    (broker : w'.broker = w.broker) (tasks : w'.tasks = w.tasks ++ [⟨call.work, none⟩]) :
    Sighted svc (opened ++ [call]) published shown w' := by
  have old : ∀ {i : Nat} {t : Task}, w'.tasks[i]? = some t →
      w.tasks[i]? = some t ∨ (i = opened.length ∧ t = ⟨call.work, none⟩) := by
    intro i t found
    rw [tasks] at found
    rcases getElem?_snoc found with ⟨-, before⟩ | ⟨rfl, new⟩
    · exact .inl before
    · exact .inr ⟨sighted.length.symm, new⟩
  refine ⟨kept, broker ▸ sighted.carries, ?length, ?origin, ?accepted, ?known, ?sees, ?unborn⟩
  case length => rw [List.length_append, tasks, List.length_append, sighted.length]; rfl
  case origin =>
    intro i t found
    rcases old found with before | ⟨rfl, rfl⟩
    · obtain ⟨first, present, continues⟩ := sighted.origin i t before
      refine ⟨first, ?_, continues⟩
      rw [List.getElem?_append_left (List.getElem?_eq_some_iff.mp present).1, present]
    · refine ⟨call, List.getElem?_concat_length, ?_⟩
      rw [Call.call_work]
      exact Call.continues_of_opens opens
  case accepted =>
    intro first member
    rcases List.mem_append.mp member with before | new
    · exact sighted.accepted first before
    · rw [List.mem_singleton.mp new]
      exact Call.isAccepted_of_opens opens
  case known =>
    intro x member
    obtain ⟨first, present, publishes⟩ := sighted.known x member
    refine ⟨first, ?_, publishes⟩
    rw [List.getElem?_append_left (List.getElem?_eq_some_iff.mp present).1, present]
  case sees =>
    intro i r stream u found
    rcases old found with before | ⟨rfl, new⟩
    · exact sighted.sees i r stream u before
    · have none : shown opened.length = [] := sighted.unborn _ (Nat.le_of_eq sighted.length.symm)
      have born : call = .relay r := by
        have same := congrArg Work.call (Task.mk.inj new).1
        rw [Call.call_work] at same
        exact same.symm
      rcases Happening.opens_cases opens with ⟨_, _, _, -, -, -, rfl⟩ | ⟨_, _, _, _, -, -, -, rfl⟩
      · obtain rfl := Call.relay.inj born
        exact none
      · cases born
  case unborn =>
    intro i beyond
    rw [tasks, List.length_append] at beyond
    exact sighted.unborn i (Nat.le_of_add_right_le beyond)

/-- One call goes on, and what it shows is on its own stream. -/
theorem Sighted.set (sighted : Sighted svc opened published shown w) {w' : World Channel} {i : Nat}
    {work work' : Work} (kept : w'.Kept) (found : w.tasks[i]? = some ⟨work, none⟩)
    (tasks : w'.tasks = w.tasks.set i ⟨work', none⟩) {more : List (Nat × Event)}
    (carries : w'.broker.Carries (published ++ more))
    (continues : ∀ first : Call, first.Continues work.call → first.Continues work'.call)
    (known : ∀ x ∈ more, ∃ first, opened[x.1]? = some first ∧ first.Publishes x.2)
    {shown' : Nat → List Item} (others : ∀ j, j ≠ i → shown' j = shown j)
    (own : ∀ r stream, work' = .relay r stream → r.Sees (published ++ more) (shown' i)) :
    Sighted svc opened (published ++ more) shown' w' := by
  have inside : i < w.tasks.length := (List.getElem?_eq_some_iff.mp found).1
  have present : ∀ {j : Nat} {t : Task}, w'.tasks[j]? = some t →
      (j = i ∧ t = ⟨work', none⟩) ∨ (j ≠ i ∧ w.tasks[j]? = some t) := by
    intro j t here
    exact getElem?_set_cases (tasks ▸ here)
  refine ⟨kept, carries, ?length, ?origin, sighted.accepted, ?known, ?sees, ?unborn⟩
  case length => rw [tasks, List.length_set, sighted.length]
  case origin =>
    intro j t here
    rcases present here with ⟨rfl, rfl⟩ | ⟨-, old⟩
    · obtain ⟨first, begun, before⟩ := sighted.origin j _ found
      exact ⟨first, begun, continues first before⟩
    · exact sighted.origin j t old
  case known =>
    intro x member
    rcases List.mem_append.mp member with old | new
    · exact sighted.known x old
    · exact known x new
  case sees =>
    intro j r stream u here
    rcases present here with ⟨rfl, same⟩ | ⟨away, old⟩
    · exact own r stream (Task.mk.inj same).1.symm
    · rw [others j away]
      exact (sighted.sees j r stream u old).mono more
  case unborn =>
    intro j beyond
    rw [tasks, List.length_set] at beyond
    rw [others j (by omega)]
    exact sighted.unborn j beyond

theorem Sighted.named (sighted : Sighted svc opened published shown w) {x : Nat × Event}
    (member : x ∈ published) : ∃ first : Call, first.Publishes x.2 ∧ first.IsAccepted svc := by
  obtain ⟨first, begun, publishes⟩ := sighted.known x member
  exact ⟨first, publishes, sighted.accepted first (List.mem_of_getElem? begun)⟩

theorem Sighted.step (sighted : Sighted svc opened published shown w) {i : Nat} {work : Work}
    (found : w.tasks[i]? = some ⟨work, none⟩) (first : Signal) :
    Sighted svc opened (published ++ (publishes? w (.move (.step i first))).toList)
      (fun j => shown j ++ (puts? j w (.move (.step i first))).toList) (w.move svc (.step i first)) := by
  have about : Move.task? (.step i first) = some i := rfl
  obtain ⟨broker, tasks, -, -⟩ : (w.move svc (.step i first)).Is _ _ _ _ := move_touches about found
  have kept : (w.move svc (.step i first)).Kept := sighted.kept.happen svc (.move (.step i first))
  have call : w.calls[i]? = some work.call := calls_of_task found
  have publishes : publishes? w (.move (.step i first)) =
      (w.broker.published? work.act).map fun e => (i, e) := by
    rw [publishes?, found]
    rfl
  have puts : puts? i w (.move (.step i first)) = work.puts? := by
    rw [puts?, if_pos rfl, found]
    rfl
  rw [publishes]
  refine sighted.set kept found tasks ?carries (fun first before => before.touch _ _ _ _) ?known
    ?others ?own
  case others =>
    intro j away
    simp only [puts?, if_neg (Ne.symm away), Option.toList_none, List.append_nil]
  case known =>
    intro x member
    obtain ⟨e, taken, rfl⟩ := Option.map_eq_some_iff.mp (Option.mem_toList.mp member)
    obtain ⟨session, asks⟩ := Channel.asks_of_published taken
    obtain ⟨first, begun, before⟩ := sighted.origin i _ found
    refine ⟨first, begun, before.publishes ?_ (work.call_act.trans asks)⟩
    intro r same
    exact (sighted.kept.2.2.1 i r (same ▸ call)).2.2.1
  case carries =>
    rw [broker, Work.touch]
    cases served : w.broker.serve w.stopping first work with
    | none => exact sighted.carries.mono _
    | some next =>
      obtain ⟨reply, onward, after⟩ := next
      exact sighted.carries.served sighted.kept.2.1 i (Channel.serve_served served)
  case own =>
    rintro r' stream' same
    rw [puts]
    simp only [Work.touch] at same
    cases served : w.broker.serve w.stopping first work with
    | none =>
      rw [served] at same
      subst same
      rw [Channel.puts_of_waits served, Option.toList_none, List.append_nil]
      exact (sighted.sees i r' stream' none found).mono _
    | some next =>
      obtain ⟨reply, onward, after⟩ := next
      rw [served] at same
      have goes := congrArg Work.call same
      rw [Work.call_resume, Channel.serve_call served] at goes
      cases work with
      | sending s => cases goes
      | relay r stream =>
        obtain rfl := Call.relay.inj goes
        have before := sighted.sees i r stream none found
        refine (before.serve served ?_ w.clock).mono _
        intro d queued record listens forwards
        exact Relay.hears_of_queued (sighted.kept.2.2.1 i r call) sighted.carries
          (fun x member => sighted.named member) listens queued forwards

/-- Apart from its steps, what happens to a call publishes and shows nothing. -/
theorem Sighted.touch (sighted : Sighted svc opened published shown w) {m : Move} {i : Nat} {work : Work}
    (about : m.task? = some i) (found : w.tasks[i]? = some ⟨work, none⟩) (waits : ∀ first, m ≠ .step i first) :
    Sighted svc opened published shown (w.move svc m) := by
  obtain ⟨broker, tasks, -, -⟩ : (w.move svc m).Is _ _ _ _ := move_touches about found
  have kept : (w.move svc m).Kept := sighted.kept.happen svc (.move m)
  have other : ∀ j first, m ≠ .step j first := by
    rintro j first rfl
    obtain rfl := Option.some.inj about
    exact waits first rfl
  have carries : (w.move svc m).broker.Carries (published ++ []) := by
    rw [broker, List.append_nil]
    rcases Work.touch_broker other w.broker w.stopping w.clock work with
      same | ⟨r, -, -, cancelled⟩
    · rw [same]
      exact sighted.carries
    · rw [cancelled]
      refine sighted.carries.shrinks (w.broker.extends_apply (.cancel r.subscription)) ?_
      intro sub d queued
      rwa [Channel.cancel_queue] at queued
  rw [← List.append_nil published]
  refine sighted.set kept found tasks carries (fun first before => before.touch _ _ _ _) ?_
    (fun _ _ => rfl) ?_
  · exact fun x member => absurd member List.not_mem_nil
  · rintro r' stream' same
    rw [List.append_nil]
    cases work with
    | sending s =>
      cases m with
      | step j first => exact absurd rfl (other j first)
      | _ => cases same
    | relay r stream =>
      have before := sighted.sees i r stream none found
      cases m with
      | step j first => exact absurd rfl (other j first)
      | takeUp j capacity hungUp =>
        simp only [Work.touch] at same
        split at same
        · rename_i joined
          cases same
          exact before.run joined
        · cases same
          exact before
      | abandon =>
        simp only [Work.touch] at same
        split at same
        · rename_i opening
          cases same
          exact before.abandon opening
        · cases same
          exact before
      | _ =>
        cases same
        exact before

theorem Sighted.happen (sighted : Sighted svc opened published shown w) (h : Happening) :
    Sighted svc (opened ++ (h.opens? svc).toList) (published ++ (publishes? w h).toList)
      (fun j => shown j ++ (puts? j w h).toList) (w.happen svc h) := by
  have kept : (w.happen svc h).Kept := sighted.kept.happen svc h
  cases h with
  | close =>
    simp only [Happening.opens?, publishes?, puts?, Option.toList_none, List.append_nil]
    refine sighted.broker kept rfl (sighted.carries.shrinks (w.broker.extends_apply .close) ?_)
    intro sub d queued
    exact w.broker.close_feed_queue sub ▸ queued
  | move m =>
    cases about : m.task? with
    | none =>
      have waits : ∀ i first, m ≠ .step i first := by
        rintro i first rfl
        cases about
      have quiet := quiet_unless_step waits w
      simp only [quiet, Option.toList_none, List.append_nil]
      cases opens : (Happening.move m).opens? svc with
      | some call =>
        obtain ⟨broker, tasks, -, -⟩ := move_opens opens w
        exact sighted.spawn opens kept broker tasks
      | none =>
        obtain ⟨broker, tasks, -⟩ := move_refused opens about w
        rw [Option.toList_none, List.append_nil]
        exact sighted.broker kept tasks (broker ▸ sighted.carries)
    | some i =>
      have begins : (Happening.move m).opens? svc = none := by
        cases m <;> first | rfl | cases about
      rw [begins, Option.toList_none, List.append_nil]
      by_cases steps : ∃ first, m = .step i first
      · obtain ⟨first, rfl⟩ := steps
        cases found : w.tasks[i]? with
        | none =>
          simp only [quiet_of_missing found first, Option.toList_none, List.append_nil, World.happen]
          rw [move_missing about found]
          exact sighted
        | some t => exact sighted.step (sighted.kept.task found) first
      · have waits : ∀ j first, m ≠ .step j first := by
          rintro j first rfl
          obtain rfl := Option.some.inj about
          exact steps ⟨first, rfl⟩
        have quiet := quiet_unless_step waits w
        simp only [quiet, Option.toList_none, List.append_nil, World.happen]
        cases found : w.tasks[i]? with
        | none =>
          rw [move_missing about found]
          exact sighted
        | some t => exact sighted.touch about (sighted.kept.task found) (waits i)

theorem opened_snoc (svc : Service) (hs : List Happening) (h : Happening) :
    World.opened svc (hs ++ [h]) = World.opened svc hs ++ (h.opens? svc).toList := by
  rw [World.opened, List.filterMap_append]
  rfl

theorem sighted (svc : Service) (clock : Int64) (hs : List Happening) :
    Sighted svc (World.opened svc hs) (record svc publishes? (fresh clock) hs)
      (fun i => record svc (puts? i) (fresh clock) hs) ((fresh clock).live svc hs) := by
  induction hs using List.reverseRecOn with
  | nil => exact sighted_fresh svc clock
  | append_singleton hs h ih =>
    simp only [opened_snoc, record_snoc, live_snoc]
    exact ih.happen h

/-- Behind an optional occupancy, the client of a relay gets only events that accepted calls of other
users published in its room. With `policy = .reject`, status events are those of relays. -/
theorem clients_see_what_others_published (svc : Service) (clock : Int64) (hs : List Happening) {i : Nat}
    {r : Relay} (accepted : (World.opened svc hs)[i]? = some (.relay r)) :
    ∃ welcome rest, record svc (puts? i) (fresh clock) hs = welcome ++ rest ∧
      (welcome = [] ∨ ∃ at_ n, welcome = [.ok (.ofDomain (r.event at_ (.occupancy n)))]) ∧
      ∀ seen, .ok seen ∈ rest →
        seen.inRoom = r.room ∧ seen.byUser ≠ r.user ∧ seen.users = none ∧
        (∀ d, seen.drawing = some d →
          (d.color = Color.black.code ∨ d.color = Color.white.code) ∧
            ∃ n, commonLength d.xs d.ys d.pressures d.widths = some n) ∧
        ∃ j call e, (World.opened svc hs)[j]? = some call ∧ call.user = seen.byUser ∧
          (j, e) ∈ record svc publishes? (fresh clock) hs ∧ call.Publishes e ∧ seen = .ofDomain e ∧
          (svc.policy = .reject → seen.joined = true ∨ seen.left = true →
            ∃ r', call = .relay r' ∧ r'.room = r.room) := by
  have sighted := sighted svc clock hs
  obtain ⟨t, found⟩ : ∃ t, ((fresh clock).live svc hs).tasks[i]? = some t := by
    refine ⟨_, List.getElem?_eq_getElem ?_⟩
    rw [← sighted.length]
    exact (List.getElem?_eq_some_iff.mp accepted).1
  obtain ⟨first, begun, continues⟩ := sighted.origin i t found
  obtain rfl := Option.some.inj (accepted.symm.trans begun)
  obtain ⟨work, underway⟩ := t
  cases work with
  | sending s =>
    obtain ⟨s', other, -⟩ := continues
    cases other
  | relay r' stream =>
    obtain ⟨_, ⟨⟩, user, room⟩ := continues
    obtain ⟨welcome, rest, split, leads, heard⟩ := (sighted.sees i r' stream underway found).shows
    refine ⟨welcome, rest, split, ?_, ?_⟩
    · simpa only [Relay.event, user, room] using leads
    · intro seen member
      obtain ⟨⟨j, e⟩, published, rfl, inside, other⟩ := heard seen member
      obtain ⟨call, opens, publishes⟩ := sighted.known _ published
      have fit := sighted.accepted call (List.mem_of_getElem? opens)
      have named : (Wire.Event.ofDomain e).byUser = e.byUser ∧
          (Wire.Event.ofDomain e).inRoom = e.inRoom := by
        rw [Wire.Event.ofDomain]
        cases e.payload <;> exact ⟨rfl, rfl⟩
      obtain ⟨unset, drawn⟩ := publishes.shape fit
      rw [named.1, named.2]
      refine ⟨inside.trans room, user ▸ other, unset, drawn, j, call, e, opens, publishes.1.symm,
        published, publishes, rfl, ?_⟩
      intro reserved status
      obtain ⟨relay, same, where_⟩ := publishes.by_relay fit reserved status
      exact ⟨relay, same, where_.trans (inside.trans room)⟩

/-- Ann listens in the attic, to which bob sends a drawing. -/
def sketched : List Happening :=
  let drawing : Wire.Drawing := { xs := [0], ys := [0], pressures := [0], widths := [0], color := 1 }
  [.move (.recvEvents [("x-user", [97, 110, 110])] "attic"),
    .move (.step 0 .client), .move (.step 0 .client), .move (.step 0 .client),
    .move (.takeUp 0 32 false), .move (.step 0 .client), .move (.step 0 .client),
    .move (.sendEvent [("x-user", [98, 111, 98])] ⟨some { drawing := some drawing }, ["attic"]⟩),
    .move (.step 1 .client), .move (.step 1 .client),
    .move (.step 0 .client), .move (.step 0 .client), .move (.step 0 .client)]

theorem clients_see_what_others_published_drawing :
    ∃ seen j call e, record {} (puts? 0) (fresh 0) sketched =
        [.ok { createdAt := 3, byUser := "ann", inRoom := "attic", users := some 1 }, .ok seen] ∧
      seen.byUser = "bob" ∧ (World.opened {} sketched)[j]? = some call ∧ call.user = "bob" ∧
        (j, e) ∈ record {} publishes? (fresh 0) sketched ∧ seen = .ofDomain e := by
  have opens : (World.opened {} sketched)[0]? = some (.relay { user := "ann", room := "attic" }) := rfl
  obtain ⟨seen, shows_, from_bob⟩ : ∃ seen : Wire.Event, record {} (puts? 0) (fresh 0) sketched =
      [.ok { createdAt := 3, byUser := "ann", inRoom := "attic", users := some 1 }, .ok seen] ∧
        seen.byUser = "bob" := by
    refine ⟨?seen, ?shows, ?named⟩
    case seen =>
      exact { createdAt := 5, byUser := "bob", inRoom := "attic",
              drawing := some ⟨[0], [0], [0], [0], 1⟩ }
    case shows => decide +kernel
    case named => rfl
  obtain ⟨welcome, rest, split, leads, others⟩ :=
    clients_see_what_others_published {} 0 sketched opens
  rw [shows_] at split
  have member : .ok seen ∈ rest := by
    rcases leads with rfl | ⟨at_, n, rfl⟩
    · rw [List.nil_append] at split
      rw [← split]
      exact List.mem_cons_of_mem _ List.mem_cons_self
    · rw [List.singleton_append, List.cons.injEq] at split
      rw [← split.2]
      exact List.mem_cons_self
  obtain ⟨-, -, -, -, j, call, e, opened, user, published, -, same, -⟩ := others seen member
  exact ⟨seen, j, call, e, shows_, from_bob, opened, user.trans from_bob, published, same⟩

end World
end RoomRelay
