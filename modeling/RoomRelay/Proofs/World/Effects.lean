import Mathlib.Data.List.Induction
import RoomRelay.Proofs.World.Happenings

/-!
`Happened` states once what one happening does to the broker and the calls. Only a step that is served
reaches the broker or a client's stream.
-/

namespace RoomRelay.World

def Idles (w : World Channel) (h : Happening) : Prop :=
  ∀ i first t, h = .move (.step i first) → w.tasks[i]? = some t →
    w.broker.serve w.stopping first t.work = none

inductive Happened (svc : Service) (w w' : World Channel) : Happening → Prop where
  | idle {h : Happening} (idles : w.Idles h) (broker : w'.broker = w.broker)
    (calls : w'.calls = w.calls) : Happened svc w w' h
  | closes (broker : w'.broker = w.broker.close) (calls : w'.calls = w.calls) :
    Happened svc w w' .close
  | begins {h : Happening} {call : Call} (opens : h.opens? svc = some call)
    (broker : w'.broker = w.broker) (calls : w'.calls = w.calls ++ [call]) : Happened svc w w' h
  | serves {i : Nat} {first : Signal} {work shown : Work} {reply : Reply}
    (found : w.tasks[i]? = some ⟨work, none⟩)
    (served : w.broker.serve w.stopping first work = some (reply, shown, w'.broker))
    (calls : w'.calls = w.calls.set i (work.call.resume w.clock reply)) :
    Happened svc w w' (.move (.step i first))
  | takenUp {i capacity : Nat} {hungUp : Bool} {r : Relay} (found : w.calls[i]? = some (.relay r))
    (waits : r.phase = .joined) (broker : w'.broker = w.broker)
    (calls : w'.calls = w.calls.set i (.relay r.run)) :
    Happened svc w w' (.move (.takeUp i capacity hungUp))
  | forsaken {i : Nat} {r : Relay} (found : w.calls[i]? = some (.relay r))
    (broker : w'.broker = w.broker.cancel r.subscription) (calls : w'.calls = w.calls) :
    Happened svc w w' (.move (.forsake i))
  | abandoned {i : Nat} {s : Sending} (found : w.calls[i]? = some (.sending s))
    (broker : w'.broker = w.broker) (calls : w'.calls = w.calls.set i (.sending s.abandon)) :
    Happened svc w w' (.move (.abandon i))
  | deserted {i : Nat} {r : Relay} (found : w.calls[i]? = some (.relay r)) (opening : r.isOpening = true)
    (broker : w'.broker = r.letGo w.broker) (calls : w'.calls = w.calls.set i (.relay r.abandon)) :
    Happened svc w w' (.move (.abandon i))

variable {svc : Service} {w w' : World Channel}

theorem idles_unless_step {h : Happening} (waits : ∀ i first, h ≠ .move (.step i first)) : w.Idles h :=
  fun i first _ same => absurd same (waits i first)

theorem idles_of_task {m : Move} (waits : ∀ i first, m ≠ .step i first) : w.Idles (.move m) :=
  idles_unless_step fun i first same => waits i first (Happening.move.inj same)

theorem calls_of_tasks {i : Nat} {t : Task} (tasks : w'.tasks = w.tasks.set i t) :
    w'.calls = w.calls.set i t.work.call := by
  rw [calls, tasks, List.map_set]
  rfl

theorem happened_touch {m : Move} {i : Nat} {work : Work} (about : m.task? = some i)
    (found : w.tasks[i]? = some ⟨work, none⟩) : Happened svc w (w.move svc m) (.move m) := by
  obtain ⟨broker, tasks, -, -⟩ : (w.move svc m).Is _ _ _ _ := move_touches about found
  have calls := calls_of_tasks tasks
  have present : w.calls[i]? = some work.call := calls_of_task found
  have kept := set_found present
  cases m with
  | step j first =>
    obtain rfl := Option.some.inj about
    simp only [Work.touch] at broker calls
    cases served : w.broker.serve w.stopping first work with
    | none =>
      rw [served] at broker calls
      refine .idle ?_ broker (calls.trans kept)
      rintro k _ t ⟨⟩ there
      obtain rfl := Option.some.inj (found.symm.trans there)
      exact served
    | some next =>
      obtain ⟨reply, shown, after⟩ := next
      rw [served] at broker calls
      rw [Work.call_resume, Channel.serve_call served] at calls
      have onward : (w.move svc (.step j first)).broker = after := broker
      rw [← onward] at served
      exact .serves found served calls
  | takeUp j capacity hungUp =>
    obtain rfl := Option.some.inj about
    cases work with
    | sending s => exact .idle (idles_of_task (by simp)) broker (calls.trans kept)
    | relay r stream =>
      simp only [Work.touch] at broker calls
      split at broker
      · rename_i joined
        rw [if_pos joined] at calls
        exact .takenUp present joined broker calls
      · rename_i early
        rw [if_neg early] at calls
        exact .idle (idles_of_task (by simp)) broker (calls.trans kept)
  | forsake j =>
    obtain rfl := Option.some.inj about
    cases work with
    | sending s => exact .idle (idles_of_task (by simp)) broker (calls.trans kept)
    | relay r stream =>
      simp only [Work.touch] at broker
      split at broker
      · exact .forsaken present broker (calls.trans kept)
      · exact .idle (idles_of_task (by simp)) broker (calls.trans kept)
  | abandon j =>
    obtain rfl := Option.some.inj about
    cases work with
    | sending s => exact .abandoned present broker calls
    | relay r stream =>
      simp only [Work.touch] at broker calls
      split at broker
      · rename_i opening
        rw [if_pos opening] at calls
        exact .deserted present opening broker calls
      · rename_i other
        rw [if_neg other] at calls
        exact .idle (idles_of_task (by simp)) broker (calls.trans kept)
  | read j | hangUp j =>
    cases work <;> exact .idle (idles_of_task (by simp)) broker (calls.trans kept)
  | _ => cases about

theorem happened (svc : Service) (kept : w.Kept) (h : Happening) : Happened svc w (w.happen svc h) h := by
  cases h with
  | close => exact .closes rfl rfl
  | move m =>
    cases about : m.task? with
    | none =>
      have waits : ∀ i first, Happening.move m ≠ .move (.step i first) := by
        rintro i first ⟨⟩
        cases about
      cases opens : (Happening.move m).opens? svc with
      | some call =>
        obtain ⟨broker, tasks, -, -⟩ := move_opens opens w
        refine .begins opens broker ?_
        rw [calls, World.happen, tasks, List.map_append, List.map_singleton, Call.call_work]
        rfl
      | none =>
        obtain ⟨broker, tasks, -⟩ := move_refused opens about w
        exact .idle (idles_unless_step waits) broker (congrArg (List.map _) tasks)
    | some i =>
      cases found : w.tasks[i]? with
      | some t => exact happened_touch about (kept.task found)
      | none =>
        rw [World.happen, move_missing about found]
        refine .idle ?_ rfl rfl
        rintro j _ t ⟨⟩ there
        obtain rfl := Option.some.inj about
        rw [found] at there
        contradiction

/-- What holds of every relay after a happening, by what can become of one. -/
theorem Happened.relays {h : Happening} (happened : Happened svc w w' h) {P Q : Relay → Prop}
    (before : ∀ (i : Nat) (r : Relay), w.calls[i]? = some (.relay r) → P r)
    (starts : ∀ user room, Q { user, room }) (stays : ∀ r, P r → Q r)
    (runs : ∀ r, r.phase = .joined → P r → Q r.run)
    (drops : ∀ r, r.isOpening = true → P r → Q r.abandon)
    (resumes : ∀ (i : Nat) (first : Signal) (r : Relay) (stream : Stream) (reply : Reply) (shown : Work),
      w.tasks[i]? = some ⟨.relay r stream, none⟩ →
        w.broker.serve w.stopping first (.relay r stream) = some (reply, shown, w'.broker) → P r →
          Q (r.resume w.clock reply).1) :
    ∀ (i : Nat) (r : Relay), w'.calls[i]? = some (.relay r) → Q r := by
  intro j r present
  cases happened with
  | idle idles broker calls => exact stays r (before j r (calls ▸ present))
  | closes broker calls => exact stays r (before j r (calls ▸ present))
  | begins opens broker calls =>
    rcases relay_of_append calls present with old | rfl
    · exact stays r (before j r old)
    · rcases Happening.opens_cases opens with ⟨_, room, user, -, -, -, born⟩ | ⟨_, _, _, _, -, -, -, born⟩
      · rw [Call.relay.inj born]
        exact starts user room
      · cases born
  | @serves i first work shown reply found served calls =>
    rcases relay_of_set calls present with ⟨rfl, same⟩ | ⟨-, old⟩
    · cases work with
      | sending s => cases same
      | relay r' stream =>
        obtain rfl := Call.relay.inj same
        exact resumes j first r' stream reply shown found served (before j r' (calls_of_task found))
    · exact stays r (before j r old)
  | @takenUp i _ _ r' found waits broker calls =>
    rcases relay_of_set calls present with ⟨rfl, same⟩ | ⟨-, old⟩
    · obtain rfl := Call.relay.inj same
      exact runs r' waits (before j r' found)
    · exact stays r (before j r old)
  | forsaken found broker calls => exact stays r (before j r (calls ▸ present))
  | abandoned found broker calls =>
    rcases relay_of_set calls present with ⟨-, same⟩ | ⟨-, old⟩
    · cases same
    · exact stays r (before j r old)
  | @deserted i r' found opening broker calls =>
    rcases relay_of_set calls present with ⟨rfl, same⟩ | ⟨-, old⟩
    · obtain rfl := Call.relay.inj same
      exact drops r' opening (before j r' found)
    · exact stays r (before j r old)

theorem closed_happen (kept : w.Kept) {h : Happening} :
    (w.happen svc h).broker.closed = true ↔ w.broker.closed = true ∨ h = .close := by
  cases h with
  | close => exact ⟨fun _ => .inr rfl, fun _ => rfl⟩
  | move m =>
    rw [World.happen, (moved svc kept.1 m).keeps_closed]
    simp

/-- Only `close` closes the broker. -/
theorem close_of_closed {clock : Int64} {hs : List Happening}
    (shut : ((fresh clock).live svc hs).broker.closed = true) : .close ∈ hs := by
  induction hs using List.reverseRecOn with
  | nil => cases shut
  | append_singleton hs h ih =>
    rw [live_snoc] at shut
    rcases (closed_happen ((kept_fresh clock).live hs)).mp shut with before | rfl
    · exact List.mem_append_left _ (ih before)
    · exact List.mem_append_right _ List.mem_cons_self

/-! ### What is seen of it -/

theorem record_append {α : Type} (see : World Channel → Happening → Option α) (w : World Channel)
    (hs more : List Happening) :
    record svc see w (hs ++ more) = record svc see w hs ++ record svc see (w.live svc hs) more := by
  induction hs generalizing w with
  | nil => rfl
  | cons h hs ih => rw [List.cons_append, record, ih, record, List.append_assoc]; rfl

/-- What is in a `record` was seen of one happening, in the world that it met. -/
theorem mem_record {α : Type} {see : World Channel → Happening → Option α} {w : World Channel}
    {hs : List Happening} {x : α} (member : x ∈ record svc see w hs) :
    ∃ before h after, hs = before ++ h :: after ∧ see (w.live svc before) h = some x := by
  induction hs generalizing w with
  | nil => cases member
  | cons h hs ih =>
    rcases List.mem_append.mp member with here | later
    · exact ⟨[], h, hs, rfl, Option.mem_toList.mp here⟩
    · obtain ⟨before, h', after, rfl, seen⟩ := ih later
      exact ⟨h :: before, h', after, rfl, seen⟩

theorem Idles.publishes {h : Happening} (idles : w.Idles h) : publishes? w h = none := by
  by_cases steps : ∃ i first, h = .move (.step i first)
  · obtain ⟨i, first, rfl⟩ := steps
    cases found : w.tasks[i]? with
    | none => exact (quiet_of_missing found first).1
    | some t =>
      have waits := idles i first t rfl found
      have mute : w.broker.published? t.work.act = none := by
        unfold Channel.published?
        split
        · rename_i session e asks
          simp only [Channel.serve, asks] at waits
          split at waits <;> cases waits
        · rfl
      rw [publishes?, found, Option.bind_some, mute, Option.map_none]
  · unfold publishes?
    split
    · exact absurd ⟨_, _, rfl⟩ steps
    · rfl

end RoomRelay.World
