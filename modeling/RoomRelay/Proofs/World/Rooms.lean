import Mathlib.Data.List.Induction
import RoomRelay.Proofs.World.Pair

/-!
Rooms do not interfere. A run and its thinning by calls that are not about a room show the same in the
room, to its subscriptions, its counts and its clients.
-/

namespace RoomRelay.World

/-- Nothing is put on the stream of a call before it is accepted, nor read from it. -/
theorem unborn (svc : Service) (clock : Int64) {hs : List Happening} {i : Nat}
    (beyond : (World.opened svc hs).length ≤ i) :
    record svc (puts? i) (fresh clock) hs = [] ∧ record svc (reads? i) (fresh clock) hs = [] := by
  induction hs using List.reverseRecOn with
  | nil => exact ⟨rfl, rfl⟩
  | append_singleton hs h ih =>
    rw [opened_snoc, List.length_append] at beyond
    have before : (World.opened svc hs).length ≤ i := Nat.le_of_add_right_le beyond
    obtain ⟨puts, reads⟩ := ih before
    have missing : ((fresh clock).live svc hs).tasks[i]? = none := by
      rw [List.getElem?_eq_none_iff, ← (sighted svc clock hs).length]
      exact before
    have quiet : Unsent i ((fresh clock).live svc hs) h := by
      cases h with
      | close => exact ⟨rfl, rfl⟩
      | move m =>
        cases m with
        | step j | read j =>
          by_cases own : j = i
          · subst own
            simp [Unsent, puts?, reads?, stream?, missing]
          · simp [Unsent, puts?, reads?, own]
        | _ => exact ⟨rfl, rfl⟩
    simp only [record_snoc, puts, reads, quiet.1, quiet.2, Option.toList_none, List.append_nil, and_self]

section Left

variable (svc : Service) (w : World Channel) (hs : List Happening) (left : Option Happening)

theorem live_left :
    w.live svc (hs ++ left.toList) = left.elim (w.live svc hs) ((w.live svc hs).happen svc) := by
  cases left with
  | none => rw [Option.toList_none, List.append_nil]; rfl
  | some h => exact live_snoc w hs h

theorem opened_left :
    World.opened svc (hs ++ left.toList) = World.opened svc hs ++ (left.bind (Happening.opens? svc)).toList := by
  cases left with
  | none => simp only [Option.toList_none, Option.bind_none, List.append_nil]
  | some h => exact opened_snoc svc hs h

theorem record_left {α : Type} (see : World Channel → Happening → Option α) :
    record svc see w (hs ++ left.toList) =
      record svc see w hs ++ (left.bind (see (w.live svc hs))).toList := by
  cases left with
  | none => simp only [Option.toList_none, Option.bind_none, List.append_nil]
  | some h => exact record_snoc see w hs h

end Left

/-- The subscriptions on `room` accept and lose the same in both runs, up to times, and every `count`
is the same. -/
structure SameRecords (svc : Service) (room : String) (w w' : World Channel) (hs hs' : List Happening) :
    Prop where
  accepted : ∀ k, (record svc (accepts? room k) w hs).map Delivery.reading =
    (record svc (accepts? room k) w' hs').map Delivery.reading
  lost : ∀ k, (record svc (loses? room k) w hs).map Delivery.reading =
    (record svc (loses? room k) w' hs').map Delivery.reading
  counted : record svc (counts? room) w hs = record svc (counts? room) w' hs'

structure SameClients (svc : Service) (i i' : Nat) (w w' : World Channel) (hs hs' : List Happening) :
    Prop where
  sent : (record svc (puts? i) w hs).map Item.timeless = (record svc (puts? i') w' hs').map Item.timeless
  read : (record svc (reads? i) w hs).map Item.timeless = (record svc (reads? i') w' hs').map Item.timeless

section Onward

variable {svc : Service} {room : String} {w w' : World Channel} {hs hs' : List Happening} {h : Happening}
  {left : Option Happening}

theorem SameRecords.snoc (same : SameRecords svc room w w' hs hs')
    (sight : SameSight room (w.live svc hs) (w'.live svc hs') h left) :
    SameRecords svc room w w' (hs ++ [h]) (hs' ++ left.toList) := by
  have told : ∀ o : Option Delivery, o.toList.map Delivery.reading = (o.map Delivery.reading).toList := by
    intro o
    cases o <;> rfl
  obtain ⟨queues, counts⟩ := sight
  constructor
  · intro k
    rw [record_snoc, record_left, List.map_append, List.map_append, same.accepted k, told, told, (queues k).1]
  · intro k
    rw [record_snoc, record_left, List.map_append, List.map_append, same.lost k, told, told, (queues k).2]
  · rw [record_snoc, record_left, same.counted, counts]

theorem SameClients.snoc {i i' : Nat} (same : SameClients svc i i' w w' hs hs')
    (streams : SameStream i i' (w.live svc hs) (w'.live svc hs') h left) :
    SameClients svc i i' w w' (hs ++ [h]) (hs' ++ left.toList) := by
  have told : ∀ o : Option Item, o.toList.map Item.timeless = (o.map Item.timeless).toList := by
    intro o
    cases o <;> rfl
  obtain ⟨puts, reads⟩ := streams
  constructor
  · rw [record_snoc, record_left, List.map_append, List.map_append, same.sent, told, told, puts]
  · rw [record_snoc, record_left, List.map_append, List.map_append, same.read, told, told, reads]

end Onward

theorem sameClients_of_unborn (svc : Service) (clock clock' : Int64) {hs hs' : List Happening} {i i' : Nat}
    (beyond : (World.opened svc hs).length ≤ i) (beyond' : (World.opened svc hs').length ≤ i') :
    SameClients svc i i' (fresh clock) (fresh clock') hs hs' := by
  obtain ⟨puts, reads⟩ := unborn svc clock beyond
  obtain ⟨puts', reads'⟩ := unborn svc clock' beyond'
  constructor
  · rw [puts, puts']
  · rw [reads, reads']

theorem alike (svc : Service) (clock clock' : Int64) {room : String} {run : List Marked}
    (elsewhere : ∀ x ∈ run, x.removed = true → x.happening.IsElsewhere room) :
    let hs := run.map Marked.happening
    let hs' := thin svc [] run
    Alike room (gone svc run) (World.opened svc hs) (World.opened svc hs') ((fresh clock).live svc hs)
        ((fresh clock').live svc hs') ∧
      SameRecords svc room (fresh clock) (fresh clock') hs hs' ∧
      ∀ (i : Nat) (call : Call), (gone svc run)[i]? = some false → (World.opened svc hs)[i]? = some call →
        call.Concerns room →
          SameClients svc i (place (gone svc run) i) (fresh clock) (fresh clock') hs hs' := by
  -- on the run from its end, where the happening meets the two services that the rest left alike
  induction run using List.reverseRecOn with
  | nil =>
    exact ⟨alike_fresh room clock clock', ⟨fun k => rfl, fun k => rfl, rfl⟩, fun i call marked => by cases marked⟩
  | append_singleton run x ih =>
    obtain ⟨before, records, clients⟩ :=
      ih fun y member => elsewhere y (List.mem_append_left _ member)
    obtain ⟨after, sight, streams⟩ := before.happen (sighted svc clock _) (sighted svc clock' _)
      (elsewhere x (List.mem_append_right _ List.mem_cons_self))
    simp only [List.map_append, List.map_cons, List.map_nil, thin_snoc, List.nil_append, gone_append]
    refine ⟨?_, records.snoc sight, ?_⟩
    · rw [opened_snoc, opened_left, live_snoc, live_left]
      exact after
    · intro i call marked begun concerns
      rw [opened_snoc] at begun
      refine SameClients.snoc ?_ (streams i call marked begun concerns)
      by_cases old : i < (gone svc run).length
      · rw [List.getElem?_append_left old] at marked
        rw [List.getElem?_append_left (before.length ▸ old)] at begun
        rw [place_append (Nat.le_of_lt old)]
        exact clients i call marked begun concerns
      · -- the call begins just now, so there is nothing on its stream in either service
        have new : (gone svc run).length ≤ i := Nat.le_of_not_lt old
        apply sameClients_of_unborn svc clock clock'
        · rwa [← before.length]
        · rw [before.length']
          exact place_of_new new _

/-- Rooms do not interfere. Thin a run by any calls that are not about `room`, with all that was done
to them: the subscriptions on `room` are as many, of the same users in the same order, and have
`SameRecords`. Each relay in the room is still there, with its place among them, and its client has
`SameClients`. -/
theorem rooms_do_not_interfere (svc : Service) (clock clock' : Int64) {room : String} {run : List Marked}
    (elsewhere : ∀ x ∈ run, x.removed = true → x.happening.IsElsewhere room) :
    let hs := run.map Marked.happening
    let hs' := thin svc [] run
    let w := (fresh clock).live svc hs
    let w' := (fresh clock').live svc hs'
    SameRecords svc room (fresh clock) (fresh clock') hs hs' ∧
      (w.broker.on room).map Subscription.subscriber = (w'.broker.on room).map Subscription.subscriber ∧
      w.broker.count (Key.roomPattern room) = w'.broker.count (Key.roomPattern room) ∧
      ∀ i r, w.relay? i = some r → r.room = room →
        let i' := place (gone svc run) i
        ∃ r', w'.relay? i' = some r' ∧ r.outline = r'.outline ∧
          (r.isSubscribed = true →
            w.broker.rank room r.subscription = w'.broker.rank room r'.subscription) ∧
          SameClients svc i i' (fresh clock) (fresh clock') hs hs' := by
  intro hs hs' w w'
  obtain ⟨same, records, clients⟩ := alike svc clock clock' elsewhere
  have known : Sighted svc _ _ _ w := sighted svc clock hs
  have known' : Sighted svc _ _ _ w' := sighted svc clock' hs'
  refine ⟨records, ?_, Channel.count_alike same.broker known.kept.2.1 known'.kept.2.1, ?_⟩
  · have subscribers : ∀ c : Channel,
        (c.on room).map Subscription.subscriber = ((c.bus.on room).map Member.outline).map Member.Outline.subscriber := by
      intro c
      rw [← Channel.on_member, List.map_map, List.map_map]
      rfl
    rw [subscribers, subscribers, same.broker.on]
  · intro i r found inside
    have calls := relay?_eq_some.mp found
    rw [World.calls, List.getElem?_map] at calls
    obtain ⟨t, present, here⟩ := Option.map_eq_some_iff.mp calls
    have waiting := known.kept.task present
    obtain ⟨call, begun, continues⟩ := known.origin i _ present
    have concerns : call.Concerns room := by
      rw [here] at continues
      obtain ⟨r', rfl, -, rooms⟩ := continues
      exact rooms.symm.trans inside
    have stays := same.kept begun concerns
    obtain ⟨work', present', -⟩ := known'.task (same.stays i call stays begun)
    obtain ⟨outlines, places⟩ := same.works i call t.work work' stays begun concerns waiting present'
    obtain ⟨r', here', relays⟩ := Work.relay_of_outline outlines here
    refine ⟨r', ?_, relays, ?_, clients i call stays begun concerns⟩
    · rw [relay?_eq_some, ← here']
      exact calls_of_task present'
    · intro subscribed
      obtain ⟨rank, -⟩ := places r r' here here' subscribed
      rw [Channel.rank_bus, Channel.rank_bus]
      exact rank

/-- Bob listens in the cellar, ann in the attic, and carl sends a drawing to the attic. -/
def neighbours : List Marked :=
  let drawing : Wire.Drawing := { xs := [0], ys := [0], pressures := [0], widths := [0], color := 1 }
  let stays := [.move (.recvEvents [("x-user", [97, 110, 110])] "attic"),
    .move (.step 1 .client), .move (.step 0 .client), .move (.step 1 .client),
    .move (.step 0 .client), .move (.step 1 .client), .move (.step 0 .client),
    .move (.takeUp 1 32 false), .move (.step 1 .client), .move (.step 1 .client), .move (.read 1),
    .move (.sendEvent [("x-user", [99, 97, 114, 108])] ⟨some { drawing := some drawing }, ["attic"]⟩),
    .move (.step 2 .client), .move (.step 2 .client),
    .move (.step 1 .client), .move (.step 1 .client), .move (.step 1 .client), .move (.read 1)]
  ⟨.move (.recvEvents [("x-user", [98, 111, 98])] "cellar"), true⟩ :: stays.map fun h => ⟨h, false⟩

theorem rooms_do_not_interfere_neighbours :
    let hs := neighbours.map Marked.happening
    let hs' := thin {} [] neighbours
    hs'.length + 4 = hs.length ∧ SameRecords {} "attic" (fresh 0) (fresh 100) hs hs' ∧
      SameClients {} 1 0 (fresh 0) (fresh 100) hs hs' ∧
        (record {} (reads? 1) (fresh 0) hs).length = 2 := by
  intro hs hs'
  have elsewhere : ∀ x ∈ neighbours, x.removed = true → x.happening.IsElsewhere "attic" := by
    simp [neighbours, Happening.IsElsewhere]
  obtain ⟨records, -, -, clients⟩ := rooms_do_not_interfere {} 0 100 elsewhere
  obtain ⟨r, found, inside⟩ : ∃ r, ((fresh 0).live {} hs).relay? 1 = some r ∧ r.room = "attic" := by
    apply Option.map_eq_some_iff.mp
    decide +kernel
  obtain ⟨r', -, -, -, same⟩ := clients 1 r found inside
  exact ⟨by decide +kernel, records, same, by decide +kernel⟩


end RoomRelay.World
