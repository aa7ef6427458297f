import RoomRelay.Proofs.World.Moves

/-!
The effect of one step of a task, over any broker and with or without publishes that take time.
-/

namespace RoomRelay

/-- What a broker makes of an act, with its reply. A publish may have begun in an earlier step. -/
inductive Broker.Serves {β : Type} [Broker β] (b : β) : Act → Reply → β → Prop where
  | openSession : Serves b .openSession (.session (openSession b).1) (openSession b).2
  | subscribe (session : Nat) (pattern : Key) (subscriber : String) :
    Serves b (.subscribe session pattern subscriber)
      (.subscription (subscribe b session pattern subscriber).1)
      (subscribe b session pattern subscriber).2
  | publish (act : Act) (plan : PublishPlan) (session : Nat) (key : Key) (payload : List UInt8) :
    Serves b act (.published (publish b plan session key payload).1)
      (publish b plan session key payload).2.1
  | unroutable (act : Act) (e : BrokerError) : Serves b act (.published (.error e)) b
  | count (pattern : Key) : Serves b (.count pattern) (.counted (count b pattern).1) (count b pattern).2
  | cancel (sub : Nat) : Serves b (.cancel sub) .done (cancel b sub)
  | closeSession (session : Nat) : Serves b (.closeSession session) .done (closeSession b session)
  | offer (item : Item) (reply : Reply) : Serves b (.offer item) reply b
  | listen (sub : Nat) (reply : Reply) : Serves b (.listen sub) reply b
  | receive (sub : Nat) (reply : Reply) : Serves b (.listen sub) reply (receive b sub).2

namespace World

variable {β : Type} [Broker β]

/-- The effects of a step: the task begins a publish, or is served and resumes with the reply. -/
inductive Advances (w : World β) (j : Nat) (w' : World β) : Prop where
  | begins {work : Work} {u : Underway} (found : w.tasks[j]? = some ⟨work, none⟩)
    (now : w'.now = w.now) (broker : w'.broker = w.broker)
    (tasks : w'.tasks = w.tasks.set j ⟨work, some u⟩)
  | goes {t t' : Task} {reply : Reply} (found : w.tasks[j]? = some t) (now : w'.now = w.now)
    (served : Broker.Serves w.broker t.work.act reply w'.broker) (tasks : w'.tasks = w.tasks.set j t')
    (call : t'.work.call = t.work.call.resume w.clock reply)

theorem advances_reply {w w' : World β} {j : Nat} {t : Task} {shown : Work} {reply : Reply}
    (found : w.tasks[j]? = some t)
    (same : w'.now = w.now ∧ w'.clock = w.clock ∧ w'.tasks = w.tasks) (call : shown.call = t.work.call)
    (served : Broker.Serves w.broker t.work.act reply w'.broker) :
    w.Advances j (w'.reply j shown reply) := by
  obtain ⟨now, clock, tasks⟩ := same
  have set : (w'.reply j shown reply).tasks = w.tasks.set j ⟨(shown.resume w.clock reply).1, none⟩ := by
    rw [← tasks, ← clock]
    rfl
  refine .goes found now served set ?_
  rw [Work.call_resume, call]

theorem step_advances {w w' : World β} {j : Nat} {first : Signal} (step : w.step j first = some w') :
    w.Advances j w' := by
  unfold World.step at step
  split at step
  · contradiction
  · rename_i found
    split at step
    · obtain rfl := Option.some.inj step
      exact advances_reply found ⟨rfl, rfl, rfl⟩ rfl (.publish ..)
    · contradiction
  · rename_i work found
    split at step
    case h_1 asks =>
      obtain rfl := Option.some.inj step
      exact advances_reply found ⟨rfl, rfl, rfl⟩ rfl (asks ▸ .openSession)
    case h_2 asks =>
      obtain rfl := Option.some.inj step
      exact advances_reply found ⟨rfl, rfl, rfl⟩ rfl (asks ▸ .subscribe ..)
    case h_3 =>
      split at step
      · obtain rfl := Option.some.inj step
        exact advances_reply found ⟨rfl, rfl, rfl⟩ rfl (.unroutable ..)
      · split at step
        · obtain rfl := Option.some.inj step
          exact advances_reply found ⟨rfl, rfl, rfl⟩ rfl (.publish ..)
        · obtain rfl := Option.some.inj step
          exact .begins found rfl rfl rfl
    case h_4 pattern asks =>
      obtain rfl := Option.some.inj step
      exact advances_reply found ⟨rfl, rfl, rfl⟩ rfl (asks ▸ .count pattern)
    case h_5 sub asks =>
      obtain rfl := Option.some.inj step
      exact advances_reply found ⟨rfl, rfl, rfl⟩ rfl (asks ▸ .cancel sub)
    case h_6 session asks =>
      obtain rfl := Option.some.inj step
      exact advances_reply found ⟨rfl, rfl, rfl⟩ rfl (asks ▸ .closeSession session)
    case h_7 item asks =>
      have kept := work.call_offer item
      generalize work.offer item = given at step kept
      obtain ⟨r, -, rfl⟩ := Option.map_eq_some_iff.mp step
      exact advances_reply found ⟨rfl, rfl, rfl⟩ kept (asks ▸ .offer item r)
    case h_8 sub asks =>
      obtain ⟨⟨r, broker⟩, heard, rfl⟩ := Option.map_eq_some_iff.mp step
      refine advances_reply found ⟨rfl, rfl, rfl⟩ rfl ?_
      rw [asks]
      cases Signal.hears heard with
      | peerGone | stopping => exact .listen sub _
      | delivery | feedOver => exact .receive sub _
    case h_9 => contradiction

theorem step_frame {w w' : World β} {j : Nat} {first : Signal} (step : w.step j first = some w') :
    w'.now = w.now ∧ ∃ t, w'.tasks = w.tasks.set j t := by
  cases step_advances step with
  | begins _ now _ tasks => exact ⟨now, _, tasks⟩
  | goes _ now _ tasks => exact ⟨now, _, tasks⟩

end World
end RoomRelay
