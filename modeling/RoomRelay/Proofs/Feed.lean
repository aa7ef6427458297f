import Mathlib.Data.List.Basic
import RoomRelay.Feed

/-!
The two halves of a `Feed` under any interleaving of their uses. `Steps` lists what one use can do to
a `Tidy` link; the order of deliveries, the capacity and the end of the feed follow by induction on
the uses.
-/
namespace RoomRelay

/-! ### What each operation does to a feed -/

namespace Feed

theorem offer_of_cancelled {f : Feed} (cancelled : f.cancelled = true) (d : Delivery) :
    f.offer d = (.gone, f) := by
  rw [offer, if_pos cancelled]

theorem offer_of_full {f : Feed} (active : f.cancelled = false) (full : f.isFull = true)
    (d : Delivery) : f.offer d = (.full, f) := by
  rw [offer, if_neg (Bool.eq_false_iff.mp active), if_pos full]

theorem offer_of_room {f : Feed} (active : f.cancelled = false) (room : f.isFull = false)
    (d : Delivery) : f.offer d = (.accepted, { f with queue := f.queue ++ [d] }) := by
  rw [offer, if_neg (Bool.eq_false_iff.mp active), if_neg (Bool.eq_false_iff.mp room)]

theorem length_append_le {f : Feed} (room : f.isFull = false) (d : Delivery) :
    (f.queue ++ [d]).length ≤ subscriptionCapacity := by
  rw [List.length_append, List.length_singleton]
  exact Nat.not_le.mp (of_decide_eq_false room)

theorem send_of_cancelled {f : Feed} (cancelled : f.cancelled = true) (d : Delivery) :
    f.send d = (some false, f) := by
  rw [send, offer_of_cancelled cancelled]

theorem send_of_full {f : Feed} (active : f.cancelled = false) (full : f.isFull = true)
    (d : Delivery) : f.send d = (none, f) := by
  rw [send, offer_of_full active full]

theorem send_of_room {f : Feed} (active : f.cancelled = false) (room : f.isFull = false)
    (d : Delivery) : f.send d = (some true, { f with queue := f.queue ++ [d] }) := by
  rw [send, offer_of_room active room]

theorem send_eq_none_iff (f : Feed) (d : Delivery) : (f.send d).1 = none ↔ (f.offer d).1 = .full := by
  unfold send
  split
  all_goals next offered => simp [offered]

theorem offer_of_active {f : Feed} (active : f.cancelled = false) (d : Delivery) :
    (f.offer d).1 = if f.queue.length < subscriptionCapacity then .accepted else .full := by
  rw [offer, if_neg (Bool.eq_false_iff.mp active)]
  by_cases room : f.queue.length < subscriptionCapacity
  · rw [if_pos room, if_neg]
    exact Bool.eq_false_iff.mp (decide_eq_false (Nat.not_le.mpr room))
  · rw [if_neg room, if_pos]
    exact decide_eq_true (Nat.not_lt.mp room)

theorem recv_of_cancelled {f : Feed} (cancelled : f.cancelled = true) : f.recv = (.over, f) := by
  rw [recv, if_pos cancelled]

theorem recv_of_empty {f : Feed} (active : f.cancelled = false) (empty : f.queue = []) :
    f.recv = (if f.ended then .over else .pending, f) := by
  rw [recv, if_neg (Bool.eq_false_iff.mp active), empty]

theorem recv_of_queued {f : Feed} {d : Delivery} {rest : List Delivery}
    (active : f.cancelled = false) (queued : f.queue = d :: rest) :
    f.recv = (.delivery d, { f with queue := rest }) := by
  rw [recv, if_neg (Bool.eq_false_iff.mp active), queued]

end Feed

/-- A `Feed` with the state of its subscription and the sends that wait for room. -/
structure Link where
  feed : Feed := {}
  /-- What the waiting sends carry, the first in line first. -/
  line : List Delivery := []
  /-- The subscription went away. -/
  dropped : Bool := false

namespace Link

/-- The operations on both halves. A handle can still `cancel` when the subscription is dropped. -/
inductive Use where
  | send (d : Delivery)
  /-- The send in some place of the line is given up. -/
  | giveUp (place : Nat)
  | offer (d : Delivery)
  | recv
  | cancel
  /-- The subscription goes away. -/
  | drop
  /-- The last feeding half goes away, with all that it still wants to send. -/
  | finish
  deriving DecidableEq

inductive Seen where
  | sent (d : Delivery) (went : Bool)
  | waits (d : Delivery)
  | offered (d : Delivery) (answer : Offer)
  | received (answer : Received)
  deriving DecidableEq

def Use.retires : Use → Bool
  | cancel | drop => true
  | _ => false

def isCancelled (l : Link) : Bool := l.feed.cancelled || l.dropped

def refill (l : Link) : List Seen × Link :=
  match l.line with
  | [] => ([], l)
  | d :: line =>
    match l.feed.send d with
    | (some went, feed) => ([.sent d went], { l with feed, line })
    | (none, _) => ([], l)

/-- One use and what is seen of it; a no-op on a half that went away. -/
def step (l : Link) : Use → List Seen × Link
  | .send d =>
    if l.feed.ended then ([], l)
    else
      match l.feed.send d with
      | (some went, feed) => ([.sent d went], { l with feed })
      | (none, feed) => ([.waits d], { l with feed, line := l.line ++ [d] })
  | .giveUp place => ([], { l with line := l.line.eraseIdx place })
  | .offer d =>
    if l.feed.ended then ([], l)
    else ([.offered d (l.feed.offer d).1], { l with feed := (l.feed.offer d).2 })
  | .recv =>
    if l.dropped then ([], l)
    else
      match l.feed.recv with
      | (.delivery d, feed) =>
        (.received (.delivery d) :: (refill { l with feed }).1, (refill { l with feed }).2)
      | (answer, feed) => ([.received answer], { l with feed })
  | .cancel => ([], { l with feed := l.feed.cancel })
  | .drop =>
    if l.dropped then ([], l)
    else (l.line.map fun d => .sent d false, { feed := l.feed.cancel, dropped := true })
  | .finish => ([], { l with feed := l.feed.finish, line := [] })

def run (l : Link) : List Use → List Seen × Link
  | [] => ([], l)
  | u :: uses => ((l.step u).1 ++ ((l.step u).2.run uses).1, ((l.step u).2.run uses).2)

def Seen.accepted? : Seen → Option Delivery
  | sent d true => some d
  | offered d .accepted => some d
  | _ => none

def Seen.received? : Seen → Option Delivery
  | received (.delivery d) => some d
  | _ => none

def accepted (log : List Seen) : List Delivery := log.filterMap Seen.accepted?

def received (log : List Seen) : List Delivery := log.filterMap Seen.received?

def unreceived (log : List Seen) : List Delivery := (accepted log).drop (received log).length

/-! ### What one use changes -/

/-- The queue is within `subscriptionCapacity`, and sends wait only while it is full. -/
structure Tidy (l : Link) : Prop where
  room : l.feed.queue.length ≤ subscriptionCapacity
  waits : l.feed.cancelled = false → l.line ≠ [] → l.feed.isFull = true
  dropped : l.dropped = true → l.feed.cancelled = true
  ended : l.feed.ended = true → l.line = []

variable {l : Link} {u : Use} {uses : List Use}

theorem Tidy.isCancelled_eq (tidy : l.Tidy) : l.isCancelled = l.feed.cancelled := by
  cases dropped : l.dropped with
  | true => rw [isCancelled, tidy.dropped dropped, Bool.true_or]
  | false => rw [isCancelled, dropped, Bool.or_false]

/-- The results of `step` on a link, by case. -/
inductive Steps (l : Link) : Use → List Seen → Link → Prop where
  | unsent {d : Delivery} (ended : l.feed.ended = true) : Steps l (.send d) [] l
  | refused {d : Delivery} (cancelled : l.feed.cancelled = true) :
    Steps l (.send d) [.sent d false] l
  | waits {d : Delivery} (active : l.feed.cancelled = false) (fed : l.feed.ended = false)
    (full : l.feed.isFull = true) : Steps l (.send d) [.waits d] { l with line := l.line ++ [d] }
  | sent {d : Delivery} (active : l.feed.cancelled = false) (fed : l.feed.ended = false)
    (room : l.feed.isFull = false) :
    Steps l (.send d) [.sent d true] { l with feed := { l.feed with queue := l.feed.queue ++ [d] } }
  | givesUp {place : Nat} : Steps l (.giveUp place) [] { l with line := l.line.eraseIdx place }
  | unoffered {d : Delivery} (ended : l.feed.ended = true) : Steps l (.offer d) [] l
  | gone {d : Delivery} (cancelled : l.feed.cancelled = true) : Steps l (.offer d) [.offered d .gone] l
  | full {d : Delivery} (fed : l.feed.ended = false) : Steps l (.offer d) [.offered d .full] l
  | offered {d : Delivery} (active : l.feed.cancelled = false) (fed : l.feed.ended = false)
    (room : l.feed.isFull = false) :
    Steps l (.offer d) [.offered d .accepted]
      { l with feed := { l.feed with queue := l.feed.queue ++ [d] } }
  | absent (dropped : l.dropped = true) : Steps l .recv [] l
  | shut (cancelled : l.feed.cancelled = true) : Steps l .recv [.received .over] l
  | drained (empty : l.feed.queue = []) (ended : l.feed.ended = true) :
    Steps l .recv [.received .over] l
  | pending (fed : l.feed.ended = false) : Steps l .recv [.received .pending] l
  | takes {d : Delivery} {rest : List Delivery} (active : l.feed.cancelled = false)
    (queue : l.feed.queue = d :: rest) (nobody : l.line = []) :
    Steps l .recv [.received (.delivery d)] { l with feed := { l.feed with queue := rest }, line := [] }
  | admits {d d' : Delivery} {rest line : List Delivery} (active : l.feed.cancelled = false)
    (queue : l.feed.queue = d :: rest) (first : l.line = d' :: line) :
    Steps l .recv [.received (.delivery d), .sent d' true]
      { l with feed := { l.feed with queue := rest ++ [d'] }, line }
  | cancels : Steps l .cancel [] { l with feed := l.feed.cancel }
  | away (dropped : l.dropped = true) : Steps l .drop [] l
  | drops : Steps l .drop (l.line.map fun d => .sent d false) { feed := l.feed.cancel, dropped := true }
  | finishes : Steps l .finish [] { l with feed := l.feed.finish, line := [] }

theorem steps_send (l : Link) (d : Delivery) :
    l.Steps (.send d) (l.step (.send d)).1 (l.step (.send d)).2 := by
  cases ended : l.feed.ended with
  | true =>
    rw [step, if_pos ended]
    exact .unsent ended
  | false =>
    rw [step, if_neg (Bool.eq_false_iff.mp ended)]
    cases active : l.feed.cancelled with
    | true =>
      rw [Feed.send_of_cancelled active]
      exact .refused active
    | false =>
      cases full : l.feed.isFull with
      | true =>
        rw [Feed.send_of_full active full]
        exact .waits active ended full
      | false =>
        rw [Feed.send_of_room active full]
        exact .sent active ended full

theorem steps_offer (l : Link) (d : Delivery) :
    l.Steps (.offer d) (l.step (.offer d)).1 (l.step (.offer d)).2 := by
  cases ended : l.feed.ended with
  | true =>
    rw [step, if_pos ended]
    exact .unoffered ended
  | false =>
    rw [step, if_neg (Bool.eq_false_iff.mp ended)]
    cases active : l.feed.cancelled with
    | true =>
      rw [Feed.offer_of_cancelled active]
      exact .gone active
    | false =>
      cases full : l.feed.isFull with
      | true =>
        rw [Feed.offer_of_full active full]
        exact .full ended
      | false =>
        rw [Feed.offer_of_room active full]
        exact .offered active ended full

theorem Tidy.steps_recv (tidy : l.Tidy) : l.Steps .recv (l.step .recv).1 (l.step .recv).2 := by
  cases dropped : l.dropped with
  | true =>
    rw [step, if_pos dropped]
    exact .absent dropped
  | false =>
    rw [step, if_neg (Bool.eq_false_iff.mp dropped)]
    cases active : l.feed.cancelled with
    | true =>
      rw [Feed.recv_of_cancelled active]
      exact .shut active
    | false =>
      cases queue : l.feed.queue with
      | nil =>
        rw [Feed.recv_of_empty active queue]
        cases ended : l.feed.ended with
        | true => exact .drained queue ended
        | false => exact .pending ended
      | cons d rest =>
        rw [Feed.recv_of_queued active queue]
        by_cases nobody : l.line = []
        · simp only [refill, nobody]
          exact .takes active queue nobody
        · obtain ⟨d', line, first⟩ := List.exists_cons_of_ne_nil nobody
          -- What is taken out makes room for the next in line.
          have room : Feed.isFull { l.feed with queue := rest } = false := by
            have bound := tidy.room
            rw [queue, List.length_cons] at bound
            exact decide_eq_false (Nat.not_le.mpr bound)
          have goes := Feed.send_of_room (f := { l.feed with queue := rest }) active room d'
          simp only [refill, first, goes]
          exact .admits active queue first

theorem Tidy.steps (tidy : l.Tidy) (u : Use) : l.Steps u (l.step u).1 (l.step u).2 := by
  cases u with
  | send d => exact steps_send l d
  | giveUp place => exact .givesUp
  | offer d => exact steps_offer l d
  | recv => exact tidy.steps_recv
  | cancel => exact .cancels
  | drop =>
    rw [step]
    split
    case isTrue dropped => exact .away dropped
    case isFalse => exact .drops
  | finish => exact .finishes

variable {l' : Link} {seen : List Seen}

theorem Steps.cancelled (steps : l.Steps u seen l') (tidy : l.Tidy) :
    l'.feed.cancelled = (l.feed.cancelled || u.retires) := by
  cases steps
  case away dropped => rw [tidy.dropped dropped, Bool.true_or]
  case cancels => exact (Bool.or_true _).symm
  case drops => exact (Bool.or_true _).symm
  all_goals exact (Bool.or_false _).symm

theorem Steps.ended (steps : l.Steps u seen l') :
    l'.feed.ended = true ↔ l.feed.ended = true ∨ u = .finish := by
  cases steps
  case finishes => exact ⟨fun _ => .inr rfl, fun _ => rfl⟩
  all_goals simp [Feed.cancel]

theorem Tidy.enters (tidy : l.Tidy) (free : l.feed.isFull = false) (d : Delivery) :
    Tidy { l with feed := { l.feed with queue := l.feed.queue ++ [d] } } := by
  refine ⟨Feed.length_append_le free d, fun active left => ?_, tidy.dropped, tidy.ended⟩
  rw [tidy.waits active left] at free
  exact nomatch free

theorem Steps.tidy (steps : l.Steps u seen l') (tidy : l.Tidy) : l'.Tidy := by
  have enters := tidy.enters
  obtain ⟨room, waits, dropped, ended⟩ := tidy
  cases steps
  case waits active fed full =>
    refine ⟨room, fun _ _ => full, dropped, fun done => ?_⟩
    rw [fed] at done
    exact nomatch done
  case sent free => exact enters free _
  case givesUp place =>
    refine ⟨room, fun active left => waits active ?_, dropped, fun done => ?_⟩
    · rintro nobody
      rw [nobody] at left
      exact left rfl
    · show l.line.eraseIdx place = []
      rw [ended done, List.eraseIdx_nil]
  case offered free => exact enters free _
  case takes d rest active queue nobody =>
    rw [queue] at room
    exact ⟨Nat.le_of_succ_le room, fun _ left => absurd rfl left, dropped, fun _ => rfl⟩
  case admits d d' rest line active queue first =>
    -- One went out and one came in, so it is as full as it was.
    have full := waits active (by rw [first]; exact List.cons_ne_nil _ _)
    have same : (rest ++ [d']).length = l.feed.queue.length := by
      rw [queue, List.length_append, List.length_singleton, List.length_cons]
    refine ⟨?_, fun _ _ => ?_, dropped, fun done => ?_⟩
    · show (rest ++ [d']).length ≤ subscriptionCapacity
      rwa [same]
    · show decide ((rest ++ [d']).length ≥ subscriptionCapacity) = true
      rwa [same]
    · have nobody := ended done
      rw [first] at nobody
      exact nomatch nobody
  case cancels => exact ⟨room, fun active => (nomatch active), fun _ => rfl, ended⟩
  case drops => exact ⟨room, fun active => (nomatch active), fun _ => rfl, fun _ => rfl⟩
  case finishes => exact ⟨room, fun _ left => absurd rfl left, dropped, fun _ => rfl⟩
  all_goals exact ⟨room, waits, dropped, ended⟩

theorem accepted_append (log log' : List Seen) : accepted (log ++ log') = accepted log ++ accepted log' :=
  List.filterMap_append

theorem received_append (log log' : List Seen) : received (log ++ log') = received log ++ received log' :=
  List.filterMap_append

/-- What enters the queue leaves it in the same order. -/
theorem Steps.balance (steps : l.Steps u seen l') :
    l.feed.queue ++ accepted seen = received seen ++ l'.feed.queue := by
  cases steps
  case sent => rfl
  case offered => rfl
  case takes queue nobody =>
    rw [queue]
    exact List.append_nil _
  case admits queue first =>
    rw [queue]
    rfl
  case drops =>
    have quiet : accepted (l.line.map fun d => .sent d false) = [] ∧
        received (l.line.map fun d => .sent d false) = [] := by
      simp [accepted, received, Seen.accepted?, Seen.received?, Function.comp_def]
    rw [quiet.1, quiet.2]
    exact List.append_nil _
  all_goals exact List.append_nil _

/-- A feed that has `ended` and is not retired only drains: `recv` takes the front of the queue, or
answers `over`. -/
theorem Steps.drains (steps : l.Steps u seen l') (tidy : l.Tidy) (ended : l.feed.ended = true)
    (active : l.feed.cancelled = false) (stays : u.retires = false) :
    (u ≠ .recv ∧ seen = [] ∧ l' = l) ∨
    (u = .recv ∧ l.feed.queue = [] ∧ seen = [.received .over] ∧ l' = l) ∨
    ∃ d rest, u = .recv ∧ l.feed.queue = d :: rest ∧ seen = [.received (.delivery d)] ∧
      l' = { l with feed := { l.feed with queue := rest } } := by
  have nobody := tidy.ended ended
  cases steps
  case unsent => exact .inl ⟨nofun, rfl, rfl⟩
  case unoffered => exact .inl ⟨nofun, rfl, rfl⟩
  case givesUp =>
    refine .inl ⟨nofun, rfl, ?_⟩
    rw [nobody, List.eraseIdx_nil, ← nobody]
  case finishes =>
    refine .inl ⟨nofun, rfl, ?_⟩
    rw [Feed.finish, ← ended, ← nobody]
  case drained empty _ => exact .inr (.inl ⟨rfl, empty, rfl, rfl⟩)
  case takes d rest _ queue _ => exact .inr (.inr ⟨d, rest, rfl, queue, rfl, by rw [nobody]⟩)
  case absent gone => exact absurd (tidy.dropped gone) (Bool.eq_false_iff.mp active)
  case admits first => exact absurd (nobody.symm.trans first) (List.cons_ne_nil _ _).symm
  case cancels => exact nomatch stays
  case drops => exact nomatch stays
  case away => exact nomatch stays
  -- All that is left needs somebody who feeds it, or that it was cancelled.
  all_goals simp_all

/-! ### Runs -/

theorem Tidy.run (tidy : l.Tidy) (uses : List Use) : (l.run uses).2.Tidy := by
  induction uses generalizing l with
  | nil => exact tidy
  | cons u uses ih => exact ih ((tidy.steps u).tidy tidy)

theorem Tidy.run_cancelled (tidy : l.Tidy) (uses : List Use) :
    (l.run uses).2.feed.cancelled = (l.feed.cancelled || uses.any Use.retires) := by
  induction uses generalizing l with
  | nil => exact (Bool.or_false _).symm
  | cons u uses ih =>
    have steps := tidy.steps u
    show ((l.step u).2.run uses).2.feed.cancelled = _
    rw [ih (steps.tidy tidy), steps.cancelled tidy, List.any_cons, Bool.or_assoc]

theorem Tidy.run_ended (tidy : l.Tidy) (uses : List Use) :
    (l.run uses).2.feed.ended = true ↔ l.feed.ended = true ∨ Use.finish ∈ uses := by
  induction uses generalizing l with
  | nil => simp [Link.run]
  | cons u uses ih =>
    have steps := tidy.steps u
    show ((l.step u).2.run uses).2.feed.ended = true ↔ _
    rw [ih (steps.tidy tidy), steps.ended, List.mem_cons, or_assoc, eq_comm (a := u)]

theorem Tidy.run_balance (tidy : l.Tidy) (uses : List Use) :
    l.feed.queue ++ accepted (l.run uses).1 = received (l.run uses).1 ++ (l.run uses).2.feed.queue := by
  induction uses generalizing l with
  | nil => simp [Link.run, accepted, received]
  | cons u uses ih =>
    have steps := tidy.steps u
    show l.feed.queue ++ accepted ((l.step u).1 ++ ((l.step u).2.run uses).1) =
      received ((l.step u).1 ++ ((l.step u).2.run uses).1) ++ ((l.step u).2.run uses).2.feed.queue
    rw [accepted_append, received_append, ← List.append_assoc, steps.balance, List.append_assoc,
      ih (steps.tidy tidy), List.append_assoc]

theorem Tidy.run_drains (tidy : l.Tidy) (ended : l.feed.ended = true)
    (active : l.feed.cancelled = false) (uses : List Use) (stays : ∀ u ∈ uses, u.retires = false) :
    (l.run uses).1 = ((l.feed.queue.take (uses.count .recv)).map fun d => .received (.delivery d)) ++
      List.replicate (uses.count .recv - l.feed.queue.length) (.received .over) := by
  induction uses generalizing l with
  | nil => simp [Link.run]
  | cons u uses ih =>
    have steps := tidy.steps u
    have kept := steps.tidy tidy
    show (l.step u).1 ++ ((l.step u).2.run uses).1 = _
    have stays' := fun v mem => stays v (List.mem_cons_of_mem u mem)
    obtain ⟨other, seen, same⟩ | ⟨rfl, empty, seen, same⟩ | ⟨d, rest, rfl, queue, seen, next⟩ :=
      steps.drains tidy ended active (stays u List.mem_cons_self)
    · rw [seen, same, List.count_cons_of_ne other, ih tidy ended active stays']
      rfl
    · rw [seen, same, List.count_cons_self, ih tidy ended active stays', empty]
      simp [List.replicate_succ]
    · rw [next] at kept
      rw [seen, next, List.count_cons_self, ih kept ended active stays', queue, List.length_cons,
        Nat.succ_sub_succ]
      rfl

theorem tidy_new : Tidy {} :=
  ⟨Nat.zero_le _, fun _ waiting => absurd rfl waiting, fun dropped => dropped, fun _ => rfl⟩

theorem unreceived_run (uses : List Use) :
    unreceived (run {} uses).1 = (run {} uses).2.feed.queue := by
  have balance := tidy_new.run_balance uses
  rw [List.nil_append] at balance
  rw [unreceived, balance, List.drop_left]

/-- For every interleaving of the uses of both halves: what was `received` is a prefix of what was
`accepted`, the rest is the queue, and it never exceeds its capacity. Until the link is retired it
takes deliveries as long as there is room, and a `send` waits iff an `offer` finds the queue full;
afterwards it takes and gives nothing. A link that has `ended` gives what is left and then answers
`over`. -/
theorem takes_in_order_until_retired (uses : List Use) :
    let log := (run {} uses).1
    let l := (run {} uses).2
    received log <+: accepted log ∧
    (unreceived log).length ≤ subscriptionCapacity ∧
    (∀ d, (l.feed.send d).1 = none ↔ (l.feed.offer d).1 = .full) ∧
    ((∀ u ∈ uses, u.retires = false) →
      l.isCancelled = false ∧
      (∀ d, (l.feed.offer d).1 =
        if (unreceived log).length < subscriptionCapacity then .accepted else .full) ∧
      (l.line ≠ [] → (unreceived log).length = subscriptionCapacity)) ∧
    ((∃ u ∈ uses, u.retires = true) →
      l.isCancelled = true ∧ l.feed.cancelled = true ∧ l.feed.cancel = l.feed ∧
      l.feed.recv = (.over, l.feed) ∧
      ∀ d, l.feed.offer d = (.gone, l.feed) ∧ l.feed.send d = (some false, l.feed)) ∧
    ((∀ u ∈ uses, u.retires = false) → .finish ∈ uses →
      ∀ more : List Use, (∀ u ∈ more, u.retires = false) →
        (l.run more).1 =
          (((unreceived log).take (more.count .recv)).map fun d => .received (.delivery d)) ++
            List.replicate (more.count .recv - (unreceived log).length) (.received .over)) := by
  have tidy := tidy_new.run uses
  have cancelled : (run {} uses).2.feed.cancelled = uses.any Use.retires :=
    (tidy_new.run_cancelled uses).trans (Bool.false_or _)
  have ended := tidy_new.run_ended uses
  have balance := tidy_new.run_balance uses
  rw [List.nil_append] at balance
  intro log l
  have left : unreceived log = l.feed.queue := unreceived_run uses
  have unretired (stays : ∀ u ∈ uses, u.retires = false) : l.feed.cancelled = false := by
    rw [cancelled, List.any_eq_false]
    exact fun u mem => Bool.eq_false_iff.mp (stays u mem)
  refine ⟨⟨_, balance.symm⟩, left ▸ tidy.room, l.feed.send_eq_none_iff, ?_, ?_, ?_⟩
  · intro stays
    have active := unretired stays
    rw [left]
    refine ⟨tidy.isCancelled_eq.trans active, l.feed.offer_of_active active, fun waiting => ?_⟩
    exact Nat.le_antisymm tidy.room (of_decide_eq_true (tidy.waits active waiting))
  · rintro ⟨u, mem, retires⟩
    have shut : l.feed.cancelled = true := by
      rw [cancelled, List.any_eq_true]
      exact ⟨u, mem, retires⟩
    refine ⟨tidy.isCancelled_eq.trans shut, shut, ?_, Feed.recv_of_cancelled shut, fun d => ?_⟩
    · rw [Feed.cancel, ← shut]
    · exact ⟨Feed.offer_of_cancelled shut d, Feed.send_of_cancelled shut d⟩
  · intro stays finished more stay
    rw [left]
    exact tidy.run_drains (ended.mpr (.inr finished)) (unretired stays) more stay

theorem takes_in_order_until_retired_two :
    let uses : List Use := [.offer ⟨"a", []⟩, .send ⟨"b", []⟩, .recv]
    let rest := [Seen.received (.delivery ⟨"b", []⟩), .received .over]
    ((∀ u ∈ uses ++ [.finish], u.retires = false) ∧ .finish ∈ uses ++ [.finish] ∧
      ((run {} (uses ++ [.finish])).2.run [.recv, .recv]).1 = rest) ∧
    (∃ u ∈ uses ++ [.cancel], u.retires = true) ∧
      (run {} (uses ++ [.cancel])).2.feed.recv.1 = .over := by
  intro uses rest
  have finished := (takes_in_order_until_retired (uses ++ [.finish])).2.2.2.2.2
    (by decide) (by decide) [.recv, .recv] (by decide)
  have retired := (takes_in_order_until_retired (uses ++ [.cancel])).2.2.2.2.1 (by decide)
  refine ⟨⟨by decide, by decide, finished.trans (by decide)⟩, by decide, ?_⟩
  rw [retired.2.2.2.1]

end Link
end RoomRelay
