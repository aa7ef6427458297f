import RoomRelay.Proofs.Relay.Passage
import RoomRelay.Proofs.World.Leases
import RoomRelay.Proofs.World.Sight

/-!
Clients cannot spoil each other's streams. Whatever is queued was published by an accepted call, so
its topic and its payload can be decoded; and a feed ends only after a `cancel`, which is the relay's
own, or when the broker is closed.
-/

namespace RoomRelay

/-! ### One relay -/

namespace Relay

def cutOff : Failure := .broker (.subscribe "subscription ended")

/-- The `Ending` of a relay that no longer streams. -/
def outcome? (r : Relay) : Option Ending :=
  match r.phase with
  | .cancelling why | .leaving why _ | .closing why | .ended why => some why
  | .reporting e => some (.failed e)
  | _ => none

theorem outcome_conclude (r : Relay) (why : Ending) : (r.conclude why).1.outcome? = some why := by
  unfold conclude
  split <;> rfl

theorem fails_by_hearing {r : Relay} {now : Int64} {reply : Reply} {e : Failure}
    (fails : (r.resume now reply).1.outcome? = some (.failed e)) :
    r.outcome? = some (.failed e) ∨
      (r.phase = .listening ∧ reply = .feedOver ∧ e = cutOff) ∨
        ∃ d, reply = .delivery d ∧ step r.user d = .fail e := by
  unfold resume at fails
  split at fails
  case h_16 d listens =>
    unfold hear at fails
    split at fails
    case h_4 why taken =>
      cases fails
      exact .inr (.inr ⟨d, rfl, taken⟩)
    case h_1 => cases fails
    case h_2 | h_3 =>
      rw [outcome?, listens] at fails
      cases fails
  case h_17 listens =>
    cases fails
    exact .inr (.inl ⟨listens, rfl, rfl⟩)
  case h_23 why closes =>
    rw [outcome_conclude] at fails
    rw [outcome?, closes]
    exact .inl fails
  case h_26 => exact .inl fails
  -- the others enter no ending, or keep theirs
  all_goals
    rename_i phase
    cases fails
  all_goals exact .inl (by rw [outcome?, phase])

theorem skips_by_hearing (r : Relay) (now : Int64) (reply : Reply) :
    (r.resume now reply).1.skipped = r.skipped ∨
      ∃ d, reply = .delivery d ∧ step r.user d = .skip := by
  unfold resume
  split
  case h_16 d listens =>
    unfold hear
    split
    case h_3 taken => exact .inr ⟨d, rfl, taken⟩
    all_goals exact .inl rfl
  case h_23 why closes =>
    unfold conclude
    split <;> exact .inl rfl
  all_goals exact .inl rfl

/-- Nothing was skipped, and the relay failed at most because its subscription ended. -/
def Unspoilt (hs : List Happening) (r : Relay) : Prop :=
  r.skipped = 0 ∧ ∀ e, r.outcome? = some (.failed e) →
    e = cutOff ∧ (.close ∈ hs ∨ ∃ i, .move (.forsake i) ∈ hs)

theorem Unspoilt.mono {hs : List Happening} {r : Relay} (unspoilt : r.Unspoilt hs) (h : Happening) :
    r.Unspoilt (hs ++ [h]) := by
  obtain ⟨none, fails⟩ := unspoilt
  refine ⟨none, fun e ends => ?_⟩
  obtain ⟨same, closed | ⟨i, forsaken⟩⟩ := fails e ends
  · exact ⟨same, .inl (List.mem_append_left _ closed)⟩
  · exact ⟨same, .inr ⟨i, List.mem_append_left _ forsaken⟩⟩

theorem Unspoilt.resume {hs : List Happening} {r : Relay} {reply : Reply} (unspoilt : r.Unspoilt hs)
    (readable : ∀ d, reply = .delivery d → step r.user d ≠ .skip ∧ ∀ e, step r.user d ≠ .fail e)
    (cut : r.phase = .listening → reply = .feedOver → .close ∈ hs ∨ ∃ i, .move (.forsake i) ∈ hs)
    (now : Int64) : (r.resume now reply).1.Unspoilt hs := by
  obtain ⟨none, fails⟩ := unspoilt
  refine ⟨?_, ?_⟩
  · rcases r.skips_by_hearing now reply with same | ⟨d, heard, skips⟩
    · exact same.trans none
    · exact absurd skips (readable d heard).1
  · intro e ends
    rcases fails_by_hearing ends with old | ⟨listens, gone, rfl⟩ | ⟨d, heard, failed⟩
    · exact fails e old
    · exact ⟨rfl, cut listens gone⟩
    · exact absurd failed ((readable d heard).2 e)

end Relay

/-! ### The broker's replies -/

namespace Channel

variable {c c' : Channel} {stopping : Bool} {first : Signal} {work shown : Work}

theorem queued_of_serve {d : Delivery}
    (served : c.serve stopping first work = some (.delivery d, shown, c')) :
    ∃ sub, d ∈ (c.feed sub).queue := by
  unfold serve at served
  split at served
  case h_7 item _ =>
    obtain ⟨reply, answer, same⟩ := Option.map_eq_some_iff.mp served
    cases same
    cases work with
    | sending s => cases answer
    | relay r stream =>
      rcases stream.offer_cases item with ⟨taken, -⟩ | ⟨gone, -⟩
      · cases taken.symm.trans answer
      · cases gone _ answer
  case h_8 sub _ =>
    obtain ⟨⟨_, _⟩, heard, same⟩ := Option.map_eq_some_iff.mp served
    cases same
    cases Signal.hears heard with
    | delivery received => exact ⟨sub, queued_of_receive received⟩
  case h_3 => split at served <;> cases served
  all_goals cases served

theorem over_of_serve {sub : Nat} (listens : work.act = .listen sub)
    (served : c.serve stopping first work = some (.feedOver, shown, c')) :
    (c.receive sub).1 = .over := by
  simp only [serve, listens] at served
  obtain ⟨⟨_, _⟩, heard, same⟩ := Option.map_eq_some_iff.mp served
  cases same
  cases Signal.hears heard with
  | feedOver received => exact received

theorem Sound.closed_of_over (sound : c.Sound) {sub : Nat} (active : (c.feed sub).cancelled = false)
    (gone : (c.receive sub).1 = .over) : c.closed = true := by
  obtain ⟨s, found, feed⟩ := get_of_active active
  obtain ⟨exact, -, reason⟩ := sound s (List.mem_of_getElem? found)
  rw [Channel.receive, feed] at gone
  rw [feed] at active
  have ended : s.feed.ended = true := by
    unfold Feed.recv at gone
    rw [if_neg (Bool.eq_false_iff.mp active)] at gone
    split at gone
    · cases gone
    · simp only at gone
      split at gone
      · assumption
      · cases gone
  rcases reason (exact.mp ended) with cancelled | closed
  · rw [active] at cancelled
    contradiction
  · exact closed

end Channel

/-! ### Runs -/

def Work.branch? (c : Channel) (stopping : Bool) (first : Signal) (work : Work) : Option Relay.Step :=
  match work, c.serve stopping first work with
  | .relay r _, some (.delivery d, _, _) => some (Relay.step r.user d)
  | _, _ => none

theorem Work.queued_of_branch {c : Channel} {stopping : Bool} {first : Signal} {work : Work}
    {branch : Relay.Step} (taken : work.branch? c stopping first = some branch) :
    ∃ reader sub d, d ∈ (c.feed sub).queue ∧ branch = Relay.step reader d := by
  unfold branch? at taken
  split at taken
  · rename_i served
    obtain ⟨sub, queued⟩ := Channel.queued_of_serve served
    exact ⟨_, sub, _, queued, (Option.some.inj taken).symm⟩
  · cases taken

namespace World

variable {svc : Service} {w : World Channel}

def branches? (w : World Channel) : Happening → Option (Nat × Relay.Step)
  | .move (.step i first) =>
    (w.tasks[i]?).bind fun t =>
      (t.work.branch? w.broker w.stopping first).map fun branch => (i, branch)
  | _ => none

/-- `Relay.step` can read whatever is queued. -/
theorem Sighted.readable {opened : List Call} {published : List (Nat × Event)}
    {shown : Nat → List Item} (sighted : Sighted svc opened published shown w)
    (short : ∀ x ∈ published, x.2.encode.length < Word.size64) {sub : Nat} {d : Delivery}
    (queued : d ∈ (w.broker.feed sub).queue) (reader : String) :
    Relay.step reader d ≠ .skip ∧ ∀ e, Relay.step reader d ≠ .fail e := by
  obtain ⟨⟨x, member, delivery⟩, -⟩ := sighted.carries sub d queued
  obtain ⟨first, publishes, accepted⟩ := sighted.named member
  obtain ⟨segment, safe, kind, key⟩ := publishes.key accepted
  obtain rfl : ⟨(Key.event x.2.inRoom x.2.byUser kind).encode, x.2.encode⟩ = d := by
    rw [Event.delivery?, key] at delivery
    exact Option.some.inj delivery
  have room := Topic.plain_of_isSafe (Topic.isSafe_of_isSegment segment)
  rw [Relay.step_published room (Topic.plain_of_isSafe safe) (short x member) reader]
  split <;> simp

theorem short_before {clock : Int64} {before after : List Happening}
    (short : ∀ x ∈ record svc publishes? (fresh clock) (before ++ after),
      x.2.encode.length < Word.size64) :
    ∀ x ∈ record svc publishes? (fresh clock) before, x.2.encode.length < Word.size64 := by
  rw [record_append] at short
  exact fun x member => short x (List.mem_append_left _ member)

theorem unspoilt (svc : Service) (clock : Int64) {hs : List Happening}
    (short : ∀ x ∈ record svc publishes? (fresh clock) hs, x.2.encode.length < Word.size64) :
    ∀ (i : Nat) (r : Relay), ((fresh clock).live svc hs).calls[i]? = some (.relay r) →
      r.Unspoilt hs := by
  induction hs using List.reverseRecOn with
  | nil => exact fun i r found => by cases found
  | append_singleton hs h ih =>
    have short' := short_before short
    have kept : ((fresh clock).live svc hs).Kept := (kept_fresh clock).live hs
    rw [live_snoc]
    refine (happened svc kept h).relays (ih short') ?starts (fun r before => before.mono h) ?runs ?drops
      ?resumes
    case starts => exact fun user room => ⟨rfl, nofun⟩
    case runs => exact fun r waits before => ⟨before.1, nofun⟩
    case drops => exact fun r opening before => ⟨before.1, nofun⟩
    case resumes =>
      intro i first r stream reply shown found served before
      refine (before.mono h).resume ?_ ?_ _
      · rintro d rfl
        obtain ⟨sub, queued⟩ := Channel.queued_of_serve served
        exact (sighted svc clock hs).readable short' queued r.user
      · rintro listens rfl
        have asks : Work.act (.relay r stream) = .listen r.subscription := by
          rw [Work.act, Relay.act, listens]
        by_cases stays : ∀ j, .move (.forsake j) ∉ hs
        · have active := (leases svc clock stays).active (calls_of_task found)
            (by rw [Relay.isSubscribed, listens]) (by rw [Relay.hasParted, listens])
          have shut := kept.2.1.closed_of_over active (Channel.over_of_serve asks served)
          exact .inl (List.mem_append_left _ (close_of_closed shut))
        · obtain ⟨j, forsaken⟩ := not_forall.mp stays
          exact .inr ⟨j, List.mem_append_left _ (not_not.mp forsaken)⟩

/-- A status on a stream is that of a relay which failed. -/
theorem reporting_of_puts {h : Happening} {i : Nat} {status : Status}
    (puts : puts? i w h = some (.error status)) :
    ∃ r e, w.calls[i]? = some (.relay r) ∧ r.outcome? = some (.failed e) ∧ status = e.status := by
  unfold puts? at puts
  split at puts
  · rename_i j _
    split at puts
    · subst j
      obtain ⟨t, found, offers⟩ := Option.bind_eq_some_iff.mp puts
      have present := calls_of_task found
      cases work : t.work with
      | sending s =>
        rw [work] at offers
        cases offers
      | relay r stream =>
        rw [work] at offers present
        simp only [Work.puts?] at offers
        split at offers
        · rename_i item act
          split at offers
          · cases offers
            unfold Relay.act at act
            split at act
            case h_15 e phase =>
              cases act
              exact ⟨r, e, present, by rw [Relay.outcome?, phase], rfl⟩
            all_goals cases act
          · cases offers
        · cases offers
    · cases puts
  · cases puts

/-- No relay fails at a delivery or skips one, whatever clients send. A stream carries a status only
once the broker is closed, in runs without `forsake`. The bound `2 ^ 64` holds for all byte sequences
in memory. -/
theorem clients_cannot_spoil_streams (svc : Service) (clock : Int64) (hs : List Happening)
    (short : ∀ x ∈ record svc publishes? (fresh clock) hs, x.2.encode.length < Word.size64) :
    (∀ x ∈ record svc branches? (fresh clock) hs, x.2 ≠ .skip ∧ ∀ e, x.2 ≠ .fail e) ∧
      (∀ i r, ((fresh clock).live svc hs).relay? i = some r → r.skipped = 0) ∧
      ∀ i status,
        (∃ r, ((fresh clock).live svc hs).relay? i = some r ∧ r.error = some status) ∨
            .error status ∈ record svc (puts? i) (fresh clock) hs →
          status.code = .unavailable ∧ ((∀ j, .move (.forsake j) ∉ hs) → .close ∈ hs) := by
  have kept := unspoilt svc clock short
  refine ⟨?_, fun i r found => (kept i r (relay?_eq_some.mp found)).1, ?_⟩
  · intro x member
    obtain ⟨before, h, after, rfl, seen⟩ := mem_record member
    unfold branches? at seen
    split at seen
    · obtain ⟨t, -, some⟩ := Option.bind_eq_some_iff.mp seen
      obtain ⟨branch, taken, rfl⟩ := Option.map_eq_some_iff.mp some
      obtain ⟨reader, sub, d, queued, rfl⟩ := Work.queued_of_branch taken
      exact (sighted svc clock before).readable (short_before short) queued reader
    · cases seen
  · rintro i status (⟨r, found, failed⟩ | member)
    · have ends : ∃ e, r.outcome? = some (.failed e) ∧ status = e.status := by
        unfold Relay.error at failed
        split at failed
        · rename_i e phase
          exact ⟨e, by rw [Relay.outcome?, phase], (Option.some.inj failed).symm⟩
        · cases failed
      obtain ⟨e, ends, rfl⟩ := ends
      obtain ⟨rfl, reason⟩ := (kept i r (relay?_eq_some.mp found)).2 e ends
      exact ⟨rfl, fun stays => reason.resolve_right fun ⟨j, forsaken⟩ => stays j forsaken⟩
    · obtain ⟨before, h, after, rfl, puts⟩ := mem_record member
      obtain ⟨r, e, found, ends, rfl⟩ := reporting_of_puts puts
      obtain ⟨rfl, reason⟩ := (unspoilt svc clock (short_before short) i r found).2 e ends
      refine ⟨rfl, fun stays => ?_⟩
      rcases reason with closed | ⟨j, forsaken⟩
      · exact List.mem_append_left _ closed
      · exact absurd (List.mem_append_left _ forsaken) (stays j)

/-- The broker is closed while ann listens. -/
def shutDown : List Happening :=
  sketched ++ [.close, .move (.step 0 .client), .move (.step 0 .client), .move (.step 0 .client),
    .move (.step 0 .client), .move (.step 0 .client)]

theorem clients_cannot_spoil_streams_shut_down :
    ∃ status, .error status ∈ record {} (puts? 0) (fresh 0) shutDown ∧ status.code = .unavailable ∧
      (record {} branches? (fresh 0) shutDown).length = 2 ∧
        ∀ x ∈ record {} branches? (fresh 0) shutDown, x.2 ≠ .skip := by
  have short : ∀ x ∈ record {} publishes? (fresh 0) shutDown, x.2.encode.length < Word.size64 := by
    decide +kernel
  have shown : .error ⟨.unavailable, "Event broker temporarily unavailable"⟩ ∈
      record {} (puts? 0) (fresh 0) shutDown := by decide +kernel
  obtain ⟨branches, -, ends⟩ := clients_cannot_spoil_streams {} 0 shutDown short
  exact ⟨_, shown, (ends 0 _ (.inr shown)).1, by decide +kernel, fun x member => (branches x member).1⟩

end World
end RoomRelay
