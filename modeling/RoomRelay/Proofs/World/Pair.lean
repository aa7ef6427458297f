import RoomRelay.Proofs.World.Lockstep
import RoomRelay.Proofs.World.Thinning

/-!
A run and its thinning side by side. While the removed calls are not about a room, each happening
leaves the room `Alike` in both services and shows the same there.
-/

namespace RoomRelay

namespace Happening

/-- The beginning of a call, accepted or not, that is not about `room`. -/
def IsElsewhere (room : String) : Happening → Prop
  | .move (.recvEvents _ other) => other ≠ room
  | .move (.sendEvent _ req) => room ∉ req.rooms
  | _ => False

variable {svc : Service} {h : Happening} {room : String} {call : Call}

theorem IsElsewhere.foreign (elsewhere : h.IsElsewhere room) (opens : h.opens? svc = some call) :
    ¬call.Concerns room := by
  rcases opens_cases opens with ⟨_, other, _, rfl, -, -, rfl⟩ | ⟨_, req, _, _, rfl, -, -, rfl⟩
  · exact elsewhere
  · exact elsewhere

theorem unsubscribed_of_opens (opens : h.opens? svc = some call) :
    ∀ r, call = .relay r → r.isSubscribed = false := by
  rcases opens_cases opens with ⟨_, room, user, -, -, -, rfl⟩ | ⟨_, _, _, _, -, -, -, rfl⟩
  · rintro _ ⟨⟩
    rfl
  · exact fun r same => by cases same

end Happening

/-! ### What a room sees of a run -/

def Subscription.misses (d : Delivery) (s : Subscription) : Bool :=
  !s.feed.cancelled && Topic.selects s.pattern d.topic &&
    !decide (s.feed.queue.length < subscriptionCapacity)

namespace Channel

def on (c : Channel) (room : String) : List Subscription :=
  c.subscriptions.filter fun s => s.pattern == (Key.roomPattern room).encode

def rank (c : Channel) (room : String) (sub : Nat) : Nat :=
  (c.subscriptions.take sub).countP fun s => s.pattern == (Key.roomPattern room).encode

variable {c c' : Channel} {room : String}

theorem on_member (c : Channel) (room : String) : (c.on room).map Subscription.member = c.bus.on room := by
  rw [Bus.on, bus, List.filter_map]
  rfl

theorem rank_bus (c : Channel) (room : String) (sub : Nat) : c.rank room sub = c.bus.rank room sub := by
  rw [Bus.rank, bus, ← List.map_take, List.countP_map]
  rfl

/-- Deliveries with the same reading enter the same queues on the room, and are lost on the same. -/
theorem on_alike (alike : c.bus.Alike room c'.bus) {d d' : Delivery} (read : d.reading = d'.reading)
    (k : Nat) :
    ((c.on room)[k]?).any (Subscription.takes d) = ((c'.on room)[k]?).any (Subscription.takes d') ∧
      ((c.on room)[k]?).any (Subscription.misses d) = ((c'.on room)[k]?).any (Subscription.misses d') := by
  have here := congrArg (fun ms => ms[k]?) alike.on
  simp only [← on_member, List.getElem?_map, Option.map_map] at here
  cases found : (c.on room)[k]? with
  | none =>
    rw [found] at here
    rw [Option.map_eq_none_iff.mp here.symm]
    exact ⟨rfl, rfl⟩
  | some s =>
    rw [found] at here
    obtain ⟨s', found', same⟩ := Option.map_eq_some_iff.mp here.symm
    rw [found']
    exact Member.outline_takes same.symm read

theorem on_away {d : Delivery} (away : ∀ m ∈ c.bus.on room, Topic.selects m.pattern d.topic = false)
    (k : Nat) :
    ((c.on room)[k]?).any (Subscription.takes d) = false ∧
      ((c.on room)[k]?).any (Subscription.misses d) = false := by
  cases found : (c.on room)[k]? with
  | none => exact ⟨rfl, rfl⟩
  | some s =>
    have member : s.member ∈ c.bus.on room := by
      rw [← on_member]
      exact List.mem_map_of_mem (List.mem_of_getElem? found)
    have other : Topic.selects s.pattern d.topic = false := away s.member member
    simp [Subscription.takes, Subscription.misses, other]

end Channel

namespace World

def carries? (w : World Channel) (h : Happening) : Option Delivery :=
  (publishes? w h).bind fun x => x.2.delivery?

/-- The delivery that enters the queue of the `k`-th subscription on `room`. -/
def accepts? (room : String) (k : Nat) (w : World Channel) (h : Happening) : Option Delivery :=
  (w.carries? h).filter fun d => ((w.broker.on room)[k]?).any (Subscription.takes d)

def loses? (room : String) (k : Nat) (w : World Channel) (h : Happening) : Option Delivery :=
  (w.carries? h).filter fun d => ((w.broker.on room)[k]?).any (Subscription.misses d)

def counts? (room : String) (w : World Channel) : Happening → Option Nat
  | .move (.step i _) => (w.tasks[i]?).bind fun t =>
    match t.work.act with
    | .count pattern => if pattern = Key.roomPattern room then some (w.broker.count pattern) else none
    | _ => none
  | _ => none

/-- The item that the client of call `i` reads. -/
def reads? (i : Nat) (w : World Channel) : Happening → Option Item
  | .move (.read j) => if j = i then ((w.stream? j).bind Stream.read).map Prod.fst else none
  | _ => none

/-- The simulation of a run by its thinning: the calls that stay keep their order, those about `room`
are equal up to times and numbers, and the buses are alike on the room. -/
structure Alike (room : String) (gone : List Bool) (calls calls' : List Call)
    (w w' : World Channel) : Prop where
  length : gone.length = calls.length
  length' : calls'.length = gone.count false
  foreign : ∀ (i : Nat) (call : Call), gone[i]? = some true → calls[i]? = some call →
    ¬call.Concerns room
  stays : ∀ (i : Nat) (call : Call), gone[i]? = some false → calls[i]? = some call →
    calls'[place gone i]? = some call
  stopping : w.stopping = w'.stopping
  broker : w.broker.bus.Alike room w'.broker.bus
  safe : w.broker.bus.on room ≠ [] → Topic.isSafe room = true
  works : ∀ (i : Nat) (call : Call) (work work' : Work), gone[i]? = some false →
    calls[i]? = some call → call.Concerns room → w.tasks[i]? = some ⟨work, none⟩ →
      w'.tasks[place gone i]? = some ⟨work', none⟩ → work.Alike room w.broker w'.broker work'

def Unseen (room : String) (w : World Channel) (h : Happening) : Prop :=
  (∀ k, accepts? room k w h = none ∧ loses? room k w h = none) ∧ counts? room w h = none

/-- A happening and what is `left` of it show the same in the room. -/
def SameSight (room : String) (w w' : World Channel) (h : Happening) (left : Option Happening) : Prop :=
  (∀ k, (accepts? room k w h).map Delivery.reading =
      (left.bind (accepts? room k w')).map Delivery.reading ∧
    (loses? room k w h).map Delivery.reading = (left.bind (loses? room k w')).map Delivery.reading) ∧
  counts? room w h = left.bind (counts? room w')

def Unsent (i : Nat) (w : World Channel) (h : Happening) : Prop :=
  puts? i w h = none ∧ reads? i w h = none

def SameStream (i i' : Nat) (w w' : World Channel) (h : Happening) (left : Option Happening) : Prop :=
  (puts? i w h).map Item.timeless = (left.bind (puts? i' w')).map Item.timeless ∧
    (reads? i w h).map Item.timeless = (left.bind (reads? i' w')).map Item.timeless

section Steps

variable {svc : Service} {room : String} {gone : List Bool} {calls calls' : List Call}
  {published published' : List (Nat × Event)} {shown shown' : Nat → List Item}
  {w w' v v' : World Channel}

theorem alike_fresh (room : String) (clock clock' : Int64) :
    Alike room [] [] [] (fresh clock) (fresh clock') where
  length := rfl
  length' := rfl
  foreign := fun i call marked => by cases marked
  stays := fun i call marked => by cases marked
  stopping := rfl
  broker := .refl _
  safe := fun some_ => absurd rfl some_
  works := fun i call work work' marked => by cases marked

theorem Sighted.task (sighted : Sighted svc calls published shown w) {i : Nat} {call : Call}
    (begun : calls[i]? = some call) :
    ∃ work, w.tasks[i]? = some ⟨work, none⟩ ∧ call.Continues work.call := by
  have inside : i < w.tasks.length := by
    rw [← sighted.length]
    exact (List.getElem?_eq_some_iff.mp begun).1
  have found := sighted.kept.task (List.getElem?_eq_getElem inside)
  obtain ⟨first, begun', continues⟩ := sighted.origin i _ found
  obtain rfl := Option.some.inj (begun.symm.trans begun')
  exact ⟨_, found, continues⟩

theorem Alike.kept (alike : Alike room gone calls calls' w w') {i : Nat} {call : Call}
    (begun : calls[i]? = some call) (concerns : call.Concerns room) : gone[i]? = some false := by
  obtain ⟨mark, marked⟩ : ∃ mark, gone[i]? = some mark :=
    ⟨_, List.getElem?_eq_getElem (alike.length ▸ (List.getElem?_eq_some_iff.mp begun).1)⟩
  cases mark with
  | false => exact marked
  | true => exact absurd concerns (alike.foreign i call marked begun)

/-- The simulation after both services went on and left the calls about the room as they were. -/
theorem Alike.onward (alike : Alike room gone calls calls' w w') (stopping : v.stopping = v'.stopping)
    (broker : v.broker.bus.Alike room v'.broker.bus)
    (safe : v.broker.bus.on room ≠ [] → Topic.isSafe room = true) (grows : w.broker.Extends v.broker)
    (grows' : w'.broker.Extends v'.broker)
    (tasks : ∀ (i : Nat) (call : Call), gone[i]? = some false → calls[i]? = some call →
      call.Concerns room →
        v.tasks[i]? = w.tasks[i]? ∧ v'.tasks[place gone i]? = w'.tasks[place gone i]?) :
    Alike room gone calls calls' v v' where
  length := alike.length
  length' := alike.length'
  foreign := alike.foreign
  stays := alike.stays
  stopping := stopping
  broker := broker
  safe := safe
  works := by
    intro i call work work' marked begun concerns found found'
    obtain ⟨same, same'⟩ := tasks i call marked begun concerns
    exact (alike.works i call work work' marked begun concerns (same ▸ found) (same' ▸ found')).extends
      grows grows'

theorem Alike.skip (alike : Alike room gone calls calls' w w') {call : Call}
    (foreign : ¬call.Concerns room)
    (begins : v.Is w.broker (w.tasks ++ [⟨call.work, none⟩]) w.now w.stopping)
    (numbers : calls.length = w.tasks.length) :
    Alike room (gone ++ [true]) (calls ++ [call]) calls' v w' := by
  obtain ⟨broker, tasks, -, stopping⟩ := begins
  have old : ∀ {i : Nat}, (gone ++ [true])[i]? = some false →
      i < gone.length ∧ gone[i]? = some false ∧ place (gone ++ [true]) i = place gone i := by
    intro i marked
    rcases getElem?_snoc marked with ⟨before, marked⟩ | ⟨-, new⟩
    · exact ⟨before, marked, place_append (Nat.le_of_lt before) [true]⟩
    · cases new
  have begun : ∀ {i : Nat} {first : Call}, i < gone.length → (calls ++ [call])[i]? = some first →
      calls[i]? = some first := by
    intro i first before found
    rwa [List.getElem?_append_left (alike.length ▸ before)] at found
  refine ⟨?length, ?length', ?foreign, ?stays, stopping.trans alike.stopping, broker ▸ alike.broker,
    broker ▸ alike.safe, ?works⟩
  case length => rw [List.length_append, List.length_append, alike.length]; rfl
  case length' => rw [List.count_append, alike.length']; rfl
  case foreign =>
    intro i first marked found
    rcases getElem?_snoc found with ⟨before, found⟩ | ⟨-, rfl⟩
    · rw [List.getElem?_append_left (alike.length ▸ before)] at marked
      exact alike.foreign i first marked found
    · exact foreign
  case stays =>
    intro i first marked found
    obtain ⟨before, marked, same⟩ := old marked
    rw [same]
    exact alike.stays i first marked (begun before found)
  case works =>
    intro i first work work' marked found concerns present present'
    obtain ⟨before, marked, same⟩ := old marked
    have inside : i < w.tasks.length := numbers ▸ alike.length ▸ before
    rw [tasks, List.getElem?_append_left inside] at present
    rw [same] at present'
    rw [broker]
    exact alike.works i first work work' marked (begun before found) concerns present present'

theorem Alike.spawn (alike : Alike room gone calls calls' w w') {call : Call}
    (new : ∀ r, call = .relay r → r.isSubscribed = false)
    (begins : v.Is w.broker (w.tasks ++ [⟨call.work, none⟩]) w.now w.stopping)
    (begins' : v'.Is w'.broker (w'.tasks ++ [⟨call.work, none⟩]) w'.now w'.stopping)
    (numbers : calls.length = w.tasks.length) (numbers' : calls'.length = w'.tasks.length) :
    Alike room (gone ++ [false]) (calls ++ [call]) (calls' ++ [call]) v v' := by
  obtain ⟨broker, tasks, -, stopping⟩ := begins
  obtain ⟨broker', tasks', -, stopping'⟩ := begins'
  have last : place (gone ++ [false]) gone.length = calls'.length :=
    (place_last gone [false]).trans alike.length'.symm
  refine ⟨?length, ?length', ?foreign, ?stays, ?stopping, ?broker, broker ▸ alike.safe, ?works⟩
  case length => rw [List.length_append, List.length_append, alike.length]; rfl
  case length' => rw [List.length_append, List.count_append, alike.length']; rfl
  case stopping => rw [stopping, stopping', alike.stopping]
  case broker => rw [broker, broker']; exact alike.broker
  case foreign =>
    intro i first marked found
    rcases getElem?_snoc marked with ⟨before, marked⟩ | ⟨-, new⟩
    · rw [List.getElem?_append_left (alike.length ▸ before)] at found
      exact alike.foreign i first marked found
    · cases new
  case stays =>
    intro i first marked found
    rcases getElem?_snoc marked with ⟨before, marked⟩ | ⟨rfl, -⟩
    · rw [List.getElem?_append_left (alike.length ▸ before)] at found
      have stays := alike.stays i first marked found
      rw [place_append (Nat.le_of_lt before)]
      rwa [List.getElem?_append_left (List.getElem?_eq_some_iff.mp stays).1]
    · rw [alike.length, List.getElem?_concat_length] at found
      rw [last, List.getElem?_concat_length, found]
  case works =>
    intro i first work work' marked found concerns present present'
    rw [broker, broker']
    rcases getElem?_snoc marked with ⟨before, marked⟩ | ⟨rfl, -⟩
    · rw [List.getElem?_append_left (alike.length ▸ before)] at found
      have stays := alike.stays i first marked found
      have inside : i < w.tasks.length := numbers ▸ alike.length ▸ before
      have inside' : place gone i < w'.tasks.length := numbers' ▸ (List.getElem?_eq_some_iff.mp stays).1
      rw [place_append (Nat.le_of_lt before)] at present'
      rw [tasks, List.getElem?_append_left inside] at present
      rw [tasks', List.getElem?_append_left inside'] at present'
      exact alike.works i first work work' marked found concerns present present'
    · rw [tasks, alike.length, numbers, List.getElem?_concat_length] at present
      rw [last, tasks', numbers', List.getElem?_concat_length] at present'
      cases present
      cases present'
      -- a call that has just begun has no subscription of which the place could differ
      refine ⟨rfl, fun r r' same _ subscribed => ?_⟩
      rw [Call.call_work] at same
      rw [new r same] at subscribed
      contradiction

theorem Alike.set (alike : Alike room gone calls calls' w w') {i : Nat} {work work' : Work}
    (marked : gone[i]? = some false) (safe : Topic.isSafe room = true) {next next' : Work}
    {c c' : Channel}
    (found : w.tasks[i]? = some ⟨work, none⟩) (found' : w'.tasks[place gone i]? = some ⟨work', none⟩)
    (goes : v.Is c (w.tasks.set i ⟨next, none⟩) w.now w.stopping)
    (goes' : v'.Is c' (w'.tasks.set (place gone i) ⟨next', none⟩) w'.now w.stopping)
    (grows : w.broker.Extends c) (grows' : w'.broker.Extends c')
    (broker : c.bus.Alike room c'.bus) (works : next.Alike room c c' next') :
    Alike room gone calls calls' v v' := by
  obtain ⟨rfl, tasks, -, stopping⟩ := goes
  obtain ⟨rfl, tasks', -, stopping'⟩ := goes'
  refine ⟨alike.length, alike.length', alike.foreign, alike.stays, ?stopping, broker, fun _ => safe, ?works⟩
  case stopping => rw [stopping, stopping']
  case works =>
    intro j first other other' kept first' concerned present present'
    by_cases here : j = i
    · subst here
      rw [tasks, List.getElem?_set_self (List.getElem?_eq_some_iff.mp found).1] at present
      rw [tasks', List.getElem?_set_self (List.getElem?_eq_some_iff.mp found').1] at present'
      cases present
      cases present'
      exact works
    · rw [tasks, List.getElem?_set_ne (Ne.symm here)] at present
      rw [tasks', List.getElem?_set_ne (place_ne marked kept here).symm] at present'
      exact (alike.works j first other other' kept first' concerned present present').extends grows grows'

/-! #### What shows -/

theorem Unseen.same {h : Happening} {left : Option Happening} (unseen : Unseen room w h)
    (unseen' : ∀ h', left = some h' → Unseen room w' h') : SameSight room w w' h left := by
  obtain ⟨queues, counts⟩ := unseen
  cases left with
  | none => exact ⟨fun k => by simp [queues k], counts⟩
  | some h' =>
    obtain ⟨queues', counts'⟩ := unseen' h' rfl
    exact ⟨fun k => by simp [queues k, queues' k], counts.trans counts'.symm⟩

theorem Unsent.same {i i' : Nat} {h : Happening} {left : Option Happening} (unsent : Unsent i w h)
    (unsent' : ∀ h', left = some h' → Unsent i' w' h') : SameStream i i' w w' h left := by
  obtain ⟨puts, reads⟩ := unsent
  cases left with
  | none => exact ⟨by simp [puts], by simp [reads]⟩
  | some h' =>
    obtain ⟨puts', reads'⟩ := unsent' h' rfl
    exact ⟨by simp [puts, puts'], by simp [reads, reads']⟩

theorem Unseen.skipped {h : Happening} (unseen : Unseen room w h) : SameSight room w w' h none :=
  unseen.same fun _ left => by cases left

theorem Unsent.skipped {i i' : Nat} {h : Happening} (unsent : Unsent i w h) :
    SameStream i i' w w' h none :=
  unsent.same fun _ left => by cases left

theorem unseen_unless_step {m : Move} (waits : ∀ i first, m ≠ .step i first) (w : World Channel) :
    Unseen room w (.move m) := by
  cases m with
  | step i first => exact absurd rfl (waits i first)
  | _ => exact ⟨fun k => ⟨rfl, rfl⟩, rfl⟩

theorem unsent_elsewhere {h : Happening} {i : Nat} (away : ∀ j, h.task? = some j → j ≠ i)
    (w : World Channel) : Unsent i w h := by
  cases h with
  | close => exact ⟨rfl, rfl⟩
  | move m =>
    cases m with
    | step j | read j => exact ⟨by simp [puts?, away j rfl], by simp [reads?, away j rfl]⟩
    | _ => exact ⟨rfl, rfl⟩

theorem unseen_of_missing {m : Move} {i : Nat} (about : m.task? = some i)
    (missing : w.tasks[i]? = none) : Unseen room w (.move m) := by
  by_cases steps : ∃ first, m = .step i first
  · obtain ⟨first, rfl⟩ := steps
    have quiet := (quiet_of_missing missing first).1
    exact ⟨fun k => by simp [accepts?, loses?, carries?, quiet], by simp [counts?, missing]⟩
  · apply unseen_unless_step
    rintro j first rfl
    obtain rfl := Option.some.inj about
    exact steps ⟨first, rfl⟩

theorem carries_step {i : Nat} {work : Work} (found : w.tasks[i]? = some ⟨work, none⟩)
    (first : Signal) : w.carries? (.move (.step i first)) = (w.broker.published? work.act).bind Event.delivery? := by
  rw [carries?, publishes?, found, Option.bind_some]
  cases w.broker.published? work.act <;> rfl

/-- A call that is not about the room shows nothing there. -/
theorem unseen_of_foreign (sighted : Sighted svc calls published shown w)
    (safe : w.broker.bus.on room ≠ [] → Topic.isSafe room = true) {i : Nat} {call : Call}
    (begun : calls[i]? = some call) (foreign : ¬call.Concerns room) {m : Move}
    (about : m.task? = some i) : Unseen room w (.move m) := by
  by_cases steps : ∃ first, m = .step i first
  · obtain ⟨first, rfl⟩ := steps
    obtain ⟨work, found, continues⟩ := sighted.task begun
    have accepted := sighted.accepted call (List.mem_of_getElem? begun)
    have away := Call.isAway continues accepted foreign
      (fun r same => sighted.kept.2.2.1 i r (same ▸ calls_of_task found)) safe
    rw [work.call_act] at away
    have carried : ∀ d, w.carries? (.move (.step i first)) = some d →
        ∀ m ∈ w.broker.bus.on room, Topic.selects m.pattern d.topic = false := by
      intro d carried
      rw [carries_step found] at carried
      obtain ⟨e, taken, delivery⟩ := Option.bind_eq_some_iff.mp carried
      obtain ⟨session, asks⟩ := Channel.asks_of_published taken
      rw [asks] at away
      exact away d delivery
    refine ⟨fun k => ?_, ?_⟩
    · unfold accepts? loses?
      cases known : w.carries? (.move (.step i first)) with
      | none => exact ⟨rfl, rfl⟩
      | some d =>
        obtain ⟨takes, misses⟩ := Channel.on_away (carried d known) k
        exact ⟨by simp [takes], by simp [misses]⟩
    · simp only [counts?, found, Option.bind_some]
      split
      · rename_i pattern asks
        rw [asks] at away
        exact if_neg away
      · rfl
  · apply unseen_unless_step
    rintro j first rfl
    obtain rfl := Option.some.inj about
    exact steps ⟨first, rfl⟩

/-- Paired acts show the same in the room. -/
theorem sameSight_of_paired (alike : w.broker.bus.Alike room w'.broker.bus) (kept : w.Kept)
    (kept' : w'.Kept) {i i' : Nat} {work work' : Work} (found : w.tasks[i]? = some ⟨work, none⟩)
    (found' : w'.tasks[i']? = some ⟨work', none⟩)
    (paired : work.act.Paired room w.broker w'.broker work'.act) (first : Signal) :
    SameSight room w w' (.move (.step i first)) (some (.move (.step i' first))) := by
  have carried := paired.published alike kept.2.1 kept'.2.1
  rw [← carries_step found first, ← carries_step found' first] at carried
  refine ⟨fun k => ?_, ?_⟩
  · simp only [Option.bind_some, accepts?, loses?]
    cases known : w.carries? (.move (.step i first)) with
    | none =>
      rw [known] at carried
      rw [Option.map_eq_none_iff.mp carried.symm]
      exact ⟨rfl, rfl⟩
    | some d =>
      rw [known] at carried
      obtain ⟨d', known', read⟩ := Option.map_eq_some_iff.mp carried.symm
      obtain ⟨takes, misses⟩ := Channel.on_alike alike read.symm k
      simp only [known', Option.filter_some, takes, misses]
      constructor <;> split <;> simp [read]
  · have counts := Channel.count_alike alike kept.2.1 kept'.2.1
    simp only [counts?, found, found', Option.bind_some]
    generalize work.act = act at paired
    generalize work'.act = act' at paired
    cases paired with
    | count => simp only [if_true, counts]
    | _ => rfl

theorem sameStream_of_outline {i i' : Nat} {work work' : Work} (found : w.tasks[i]? = some ⟨work, none⟩)
    (found' : w'.tasks[i']? = some ⟨work', none⟩) (same : work.outline = work'.outline) (m : Move)
    (about : m.task? = some i) :
    SameStream i i' w w' (.move m) (some (.move (m.about i'))) := by
  cases m with
  | step j =>
    obtain rfl := Option.some.inj about
    refine ⟨?_, rfl⟩
    simp only [Move.about, Option.bind_some, puts?, if_true, found, found']
    exact Work.outline_puts same
  | read j =>
    obtain rfl := Option.some.inj about
    refine ⟨rfl, ?_⟩
    simp only [Move.about, Option.bind_some, reads?, if_true, stream?, found, found']
    cases work with
    | sending s =>
      obtain ⟨s', rfl⟩ := Work.sending_of_outline same
      rfl
    | relay r stream =>
      obtain ⟨r', stream', rfl, -, streams⟩ := Work.stream_of_outline same
      have told : ∀ s : Stream, (s.read.map Prod.fst).map Item.timeless = s.outline.read.map Prod.fst := by
        intro s
        rw [s.read_outline]
        cases s.read <;> rfl
      simp only [Option.bind_some, told, streams]
  | _ => exact ⟨rfl, rfl⟩

/-- What is done to a call that is not about the room leaves it `Alike` and the other tasks as they
were. -/
theorem drifts (sighted : Sighted svc calls published shown w)
    (safe : w.broker.bus.on room ≠ [] → Topic.isSafe room = true) {i : Nat} {call : Call}
    (begun : calls[i]? = some call) (foreign : ¬call.Concerns room) {m : Move} (about : m.task? = some i) :
    (w.move svc m).stopping = w.stopping ∧ w.broker.bus.Alike room (w.move svc m).broker.bus ∧
      w.broker.Extends (w.move svc m).broker ∧
        ∀ j, j ≠ i → (w.move svc m).tasks[j]? = w.tasks[j]? := by
  obtain ⟨work, found, continues⟩ := sighted.task begun
  obtain ⟨broker, tasks, -, stopping⟩ : (w.move svc m).Is _ _ _ _ := move_touches about found
  have accepted := sighted.accepted call (List.mem_of_getElem? begun)
  refine ⟨stopping, ?_, ?_, ?_⟩
  · rw [broker]
    exact work.touch_away sighted.kept.2.1 continues accepted foreign
      (fun r same => sighted.kept.2.2.1 i r (same ▸ calls_of_task found)) safe _ _ m
  · rw [broker]
    exact work.touch_extends _ _ _ m
  · intro j away
    rw [tasks, List.getElem?_set_ne away.symm]

/-! #### What goes on -/

/-- One step of the simulation, which shows the same in the room and on the streams of its calls. -/
structure Unison (room : String) (gone : List Bool) (calls calls' : List Call) (w w' v v' : World Channel)
    (h : Happening) (left : Option Happening) : Prop where
  alike : Alike room gone calls calls' v v'
  sight : SameSight room w w' h left
  streams : ∀ (i : Nat) (call : Call), gone[i]? = some false → calls[i]? = some call →
    call.Concerns room → SameStream i (place gone i) w w' h left

section Go

variable {m : Move} {i : Nat}

theorem unsent_of_task (about : m.task? = some i) {j : Nat} (away : j ≠ i) (w : World Channel) :
    Unsent j w (.move m) := by
  refine unsent_elsewhere (fun k same => ?_) w
  obtain rfl := Option.some.inj (about.symm.trans same)
  exact away.symm

theorem sameStream_elsewhere (about : m.task? = some i) {i' : Nat} {j j' : Nat} (away : j ≠ i)
    (away' : j' ≠ i') : SameStream j j' w w' (.move m) (some (.move (m.about i'))) := by
  refine (unsent_of_task about away w).same ?_
  rintro _ ⟨⟩
  exact unsent_of_task (Move.task_about about i') away' w'

theorem Alike.go_missing (alike : Alike room gone calls calls' w w')
    (sighted : Sighted svc calls published shown w) (sighted' : Sighted svc calls' published' shown' w')
    (about : m.task? = some i) (marked : gone[i]? = none) :
    Unison room gone calls calls' w w' (w.move svc m) (w'.move svc (m.about (place gone i))) (.move m)
      (some (.move (m.about (place gone i)))) := by
  have about' := Move.task_about about (place gone i)
  have missing : w.tasks[i]? = none := by
    rw [List.getElem?_eq_none_iff, ← sighted.length, ← alike.length]
    exact List.getElem?_eq_none_iff.mp marked
  have missing' : w'.tasks[place gone i]? = none := by
    rw [place_of_beyond marked, List.getElem?_eq_none_iff]
    exact Nat.le_of_eq (sighted'.length.symm.trans alike.length')
  rw [move_missing about missing, move_missing about' missing']
  refine ⟨alike, ?_, ?_⟩
  · apply (unseen_of_missing about missing).same
    rintro _ ⟨⟩
    exact unseen_of_missing about' missing'
  · intro j call kept begun concerns
    -- its number lies behind those of all calls that stay
    have low := place_lt kept
    rw [← place_of_beyond marked] at low
    refine sameStream_elsewhere about ?_ (Nat.ne_of_lt low)
    rintro rfl
    rw [marked] at kept
    cases kept

theorem Alike.go_gone (alike : Alike room gone calls calls' w w')
    (sighted : Sighted svc calls published shown w) (about : m.task? = some i) {call : Call}
    (marked : gone[i]? = some true) (begun : calls[i]? = some call) :
    Unison room gone calls calls' w w' (w.move svc m) w' (.move m) none := by
  have foreign := alike.foreign i call marked begun
  obtain ⟨stopping, broker, grows, others⟩ := drifts sighted alike.safe begun foreign about
  have apart : ∀ j, gone[j]? = some false → j ≠ i := by
    rintro j kept rfl
    rw [marked] at kept
    cases kept
  refine ⟨?_, (unseen_of_foreign sighted alike.safe begun foreign about).skipped, ?_⟩
  · exact alike.onward (stopping.trans alike.stopping) (broker.symm.trans alike.broker)
      (fun some_ => alike.safe (broker.some_on some_)) grows (.refl _)
      fun j first kept _ _ => ⟨others j (apart j kept), rfl⟩
  · exact fun j first kept _ _ => (unsent_of_task about (apart j kept) w).skipped

theorem Alike.go_foreign (alike : Alike room gone calls calls' w w')
    (sighted : Sighted svc calls published shown w) (sighted' : Sighted svc calls' published' shown' w')
    (about : m.task? = some i) {call : Call} (marked : gone[i]? = some false)
    (begun : calls[i]? = some call) (foreign : ¬call.Concerns room) :
    Unison room gone calls calls' w w' (w.move svc m) (w'.move svc (m.about (place gone i))) (.move m)
      (some (.move (m.about (place gone i)))) := by
  have about' := Move.task_about about (place gone i)
  have begun' := alike.stays i call marked begun
  have safe' : w'.broker.bus.on room ≠ [] → Topic.isSafe room = true :=
    fun some_ => alike.safe (alike.broker.some_on some_)
  obtain ⟨stopping, broker, grows, still⟩ := drifts sighted alike.safe begun foreign about
  obtain ⟨stopping', broker', grows', still'⟩ := drifts sighted' safe' begun' foreign about'
  have apart : ∀ (j : Nat) (first : Call), calls[j]? = some first → first.Concerns room → j ≠ i := by
    rintro j first begun₂ concerns rfl
    obtain rfl := Option.some.inj (begun.symm.trans begun₂)
    exact foreign concerns
  refine ⟨?_, ?_, ?_⟩
  · refine alike.onward ((stopping.trans alike.stopping).trans stopping'.symm)
      ((broker.symm.trans alike.broker).trans broker')
      (fun some_ => alike.safe (broker.some_on some_)) grows grows' ?_
    intro j first kept begun₂ concerns
    have away := apart j first begun₂ concerns
    exact ⟨still j away, still' _ (place_ne marked kept away)⟩
  · apply (unseen_of_foreign sighted alike.safe begun foreign about).same
    rintro _ ⟨⟩
    exact unseen_of_foreign sighted' safe' begun' foreign about'
  · intro j first kept begun₂ concerns
    have away := apart j first begun₂ concerns
    exact sameStream_elsewhere about away (place_ne marked kept away)

theorem Alike.go_own (alike : Alike room gone calls calls' w w')
    (sighted : Sighted svc calls published shown w) (sighted' : Sighted svc calls' published' shown' w')
    (about : m.task? = some i) {call : Call} (marked : gone[i]? = some false)
    (begun : calls[i]? = some call) (concerns : call.Concerns room) :
    Unison room gone calls calls' w w' (w.move svc m) (w'.move svc (m.about (place gone i))) (.move m)
      (some (.move (m.about (place gone i)))) := by
  have about' := Move.task_about about (place gone i)
  obtain ⟨work, found, continues⟩ := sighted.task begun
  obtain ⟨work', found', -⟩ := sighted'.task (alike.stays i call marked begun)
  have works := alike.works i call work work' marked begun concerns found found'
  have here : ∀ r, work.call = .relay r → r.room = room := by
    intro r same
    rw [same] at continues
    obtain ⟨r', rfl, -, room⟩ := continues
    exact room.trans concerns
  have paired := Work.paired works here
    (fun session holds => (sighted.kept.2.2.2 i _ session (calls_of_task found) holds).1)
    (fun session holds => (sighted'.kept.2.2.2 _ _ session (calls_of_task found') holds).1)
  refine ⟨?_, ?_, ?_⟩
  · have goes' : (w'.move svc (m.about (place gone i))).Is _ _ _ _ := move_touches about' found'
    rw [Work.touch_about, ← alike.stopping] at goes'
    obtain ⟨broker, after⟩ := Work.touch_alike alike.broker sighted.kept.2.1 sighted'.kept.2.1 works
      paired w.stopping w.clock w'.clock m
    exact alike.set marked (concerns.safe (sighted.accepted call (List.mem_of_getElem? begun))) found
      found' (move_touches about found) goes' (work.touch_extends _ _ _ m) (work'.touch_extends _ _ _ m)
      broker after
  · -- only steps show in the room, all else is between a call and its client
    by_cases steps : ∃ k first, m = .step k first
    · obtain ⟨k, first, rfl⟩ := steps
      obtain rfl := Option.some.inj about
      exact sameSight_of_paired alike.broker sighted.kept sighted'.kept found found' paired first
    · have waits : ∀ k first, m ≠ .step k first := fun k first same => steps ⟨k, first, same⟩
      apply (unseen_unless_step waits w).same
      rintro _ ⟨⟩
      exact unseen_unless_step (Move.waits_about waits _) w'
  · intro j first kept begun₂ concerns₂
    by_cases own : j = i
    · subst own
      exact sameStream_of_outline found found' works.1 m about
    · exact sameStream_elsewhere about own (place_ne marked kept own)

end Go

theorem Alike.go (alike : Alike room gone calls calls' w w') (sighted : Sighted svc calls published shown w)
    (sighted' : Sighted svc calls' published' shown' w') {m : Move} {i : Nat} (about : m.task? = some i)
    (removed : Bool) :
    let left := Marked.left? ⟨.move m, removed⟩ gone
    Unison room gone calls calls' w w' (w.move svc m) (left.elim w' (w'.happen svc)) (.move m) left := by
  intro left
  have still : left =
      if gone[i]? = some true then none else some (.move (m.about (place gone i))) := by
    simp only [left, Marked.left?, Happening.task?, about, Happening.about]
  rw [still]
  cases marked : gone[i]? with
  | none =>
    rw [if_neg (by simp)]
    exact alike.go_missing sighted sighted' about marked
  | some mark =>
    obtain ⟨call, begun⟩ : ∃ call, calls[i]? = some call :=
      ⟨_, List.getElem?_eq_getElem (alike.length ▸ (List.getElem?_eq_some_iff.mp marked).1)⟩
    cases mark with
    | true =>
      rw [if_pos rfl]
      exact alike.go_gone sighted about marked begun
    | false =>
      rw [if_neg (by simp)]
      by_cases concerns : call.Concerns room
      · exact alike.go_own sighted sighted' about marked begun concerns
      · exact alike.go_foreign sighted sighted' about marked begun concerns

/-! #### What begins -/

section Begin

variable {h : Happening}

theorem unseen_of_begins (begins : h.task? = none) (w : World Channel) : Unseen room w h := by
  cases h with
  | close => exact ⟨fun k => ⟨rfl, rfl⟩, rfl⟩
  | move m =>
    apply unseen_unless_step
    rintro i first rfl
    cases begins

theorem unsent_of_begins (begins : h.task? = none) (i : Nat) (w : World Channel) : Unsent i w h :=
  unsent_elsewhere (fun j same => by cases begins.symm.trans same) w

theorem Alike.begin_both (alike : Alike room gone calls calls' w w')
    (sighted : Sighted svc calls published shown w) (sighted' : Sighted svc calls' published' shown' w')
    (begins : h.task? = none) :
    Alike room (gone ++ RoomRelay.gone svc [⟨h, false⟩]) (calls ++ (h.opens? svc).toList)
      (calls' ++ (h.opens? svc).toList) (w.happen svc h) (w'.happen svc h) := by
  simp only [RoomRelay.gone, List.filterMap_cons, List.filterMap_nil]
  cases h with
  | close =>
    simp only [Happening.opens?, Option.map_none, Option.toList_none, List.append_nil]
    refine alike.onward alike.stopping ?_ ?_ (w.broker.extends_apply .close)
      (w'.broker.extends_apply .close) fun _ _ _ _ _ => ⟨rfl, rfl⟩
    · simp only [World.happen, World.onBroker, Channel.bus_close]
      exact ⟨rfl, alike.broker.on⟩
    · simp only [World.happen, World.onBroker, Channel.bus_close]
      exact alike.safe
  | move m =>
    cases opens : (Happening.move m).opens? svc with
    | none =>
      obtain ⟨broker, tasks, stopping⟩ := move_refused opens begins w
      obtain ⟨broker', tasks', stopping'⟩ := move_refused opens begins w'
      simp only [Option.map_none, Option.toList_none, List.append_nil, World.happen]
      refine alike.onward ?_ ?_ (broker ▸ alike.safe) (broker ▸ .refl _) (broker' ▸ .refl _)
        fun _ _ _ _ _ => ⟨tasks ▸ rfl, tasks' ▸ rfl⟩
      · rw [stopping, stopping', alike.stopping]
      · rw [broker, broker']
        exact alike.broker
    | some call =>
      simp only [Option.map_some, Option.toList_some, World.happen]
      exact alike.spawn (Happening.unsubscribed_of_opens opens) (move_opens opens w) (move_opens opens w')
        sighted.length sighted'.length

theorem Alike.begin_first (alike : Alike room gone calls calls' w w')
    (sighted : Sighted svc calls published shown w) (begins : h.task? = none)
    (elsewhere : h.IsElsewhere room) :
    Alike room (gone ++ RoomRelay.gone svc [⟨h, true⟩]) (calls ++ (h.opens? svc).toList) calls'
      (w.happen svc h) w' := by
  simp only [RoomRelay.gone, List.filterMap_cons, List.filterMap_nil]
  cases h with
  | close => exact elsewhere.elim
  | move m =>
    cases opens : (Happening.move m).opens? svc with
    | none =>
      obtain ⟨broker, tasks, stopping⟩ := move_refused opens begins w
      have goes_on : m.stops = false := by
        cases m <;> first | rfl | exact elsewhere.elim
      rw [goes_on, Bool.or_false] at stopping
      simp only [Option.map_none, Option.toList_none, List.append_nil, World.happen]
      exact alike.onward (stopping.trans alike.stopping) (broker ▸ alike.broker) (broker ▸ alike.safe)
        (broker ▸ .refl _) (.refl _) fun _ _ _ _ _ => ⟨tasks ▸ rfl, rfl⟩
    | some call =>
      simp only [Option.map_some, Option.toList_some, World.happen]
      exact alike.skip (elsewhere.foreign opens) (move_opens opens w) sighted.length

end Begin

/-- The simulation over one happening, of which nothing may be left. -/
theorem Alike.happen (alike : Alike room gone calls calls' w w')
    (sighted : Sighted svc calls published shown w) (sighted' : Sighted svc calls' published' shown' w')
    {x : Marked} (elsewhere : x.removed = true → x.happening.IsElsewhere room) :
    let left := x.left? gone
    Unison room (gone ++ RoomRelay.gone svc [x]) (calls ++ (x.happening.opens? svc).toList)
      (calls' ++ (left.bind (Happening.opens? svc)).toList) w w' (w.happen svc x.happening)
      (left.elim w' (w'.happen svc)) x.happening left := by
  obtain ⟨h, removed⟩ := x
  cases about : h.task? with
  | none =>
    have unseen : ∀ v, Unseen room v h := unseen_of_begins about
    have unsent := unsent_of_begins about
    simp only [Marked.left?, about]
    cases removed with
    | true =>
      rw [if_pos rfl, Option.bind_none, Option.toList_none, List.append_nil]
      exact ⟨alike.begin_first sighted about (elsewhere rfl), (unseen w).skipped,
        fun i _ _ _ _ => (unsent i w).skipped⟩
    | false =>
      rw [if_neg Bool.false_ne_true]
      refine ⟨alike.begin_both sighted sighted' about, (unseen w).same ?_, fun i _ _ _ _ => (unsent i w).same ?_⟩
      · rintro _ ⟨⟩
        exact unseen w'
      · rintro _ ⟨⟩
        exact unsent _ w'
  | some i =>
    cases h with
    | close => cases about
    | move m =>
      have about : m.task? = some i := about
      have waits : ∀ {m : Move} {i : Nat}, m.task? = some i → (Happening.move m).opens? svc = none := by
        intro m i about
        cases m <;> first | rfl | cases about
      have opens_none : (Marked.left? ⟨.move m, removed⟩ gone).bind (Happening.opens? svc) = none := by
        simp only [Marked.left?, Happening.task?, about]
        split
        · rfl
        · exact waits (Move.task_about about _)
      simp only [opens_none, RoomRelay.gone, waits about, List.filterMap_cons, List.filterMap_nil,
        Option.map_none, Option.toList_none, List.append_nil]
      exact alike.go sighted sighted' about removed

end Steps

end World
end RoomRelay
