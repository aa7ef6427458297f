import Mathlib.Data.List.Basic
import Mathlib.Data.List.Induction
import RoomRelay.Broker.Amqp
import RoomRelay.Proofs.Confirm
import RoomRelay.Proofs.Entries

/-!
Sessions of `Amqp` under any other operations. Each session has a channel of its own, and while its
tracker is not `poisoned` it numbers the messages as the server counts them. `Session.Tells` is the
invariant of one session; `Publishes` and `Opens` are the outcomes of the two operations that concern
it.
-/
namespace RoomRelay.Amqp

/-! ### What leaves sessions and messages alone -/

def Command.isMessageOn (ch : Nat) : Command → Bool
  | .publish other .. => other == ch
  | _ => false

def messagesOn (a : Amqp) (ch : Nat) : Nat :=
  a.commands.countP (Command.isMessageOn ch)

/-- `b` is `a` up to channels opened and closed: the sessions and all `messagesOn` are the same. -/
structure Quiet (a b : Amqp) : Prop where
  sessions : b.sessions = a.sessions
  messages : ∀ ch, b.messagesOn ch = a.messagesOn ch
  channels : a.channels.length ≤ b.channels.length

def Command.queueTtl? : Command → Option Int64
  | .queueDeclare _ _ _ _ _ _ messageTtl => some messageTtl
  | _ => none

structure Command.IsManagement (s : AmqpSettings) (c : Command) : Prop where
  silent : ∀ ch, c.isMessageOn ch = false
  timed : ∀ ttl, c.queueTtl? = some ttl → ttl = s.messageTtlMs.toInt64

theorem Command.IsManagement.untimed {s : AmqpSettings} {c : Command}
    (silent : ∀ ch, c.isMessageOn ch = false) (untimed : c.queueTtl? = none) : c.IsManagement s := by
  refine ⟨silent, fun ttl told => ?_⟩
  rw [untimed] at told
  contradiction

/-- From `a` to `b` only `IsManagement` commands were sent, and no session changed. -/
structure Manages (a b : Amqp) : Prop where
  settings : b.settings = a.settings
  sessions : b.sessions = a.sessions
  channels : a.channels.length ≤ b.channels.length
  commands : ∃ sent, b.commands = a.commands ++ sent ∧ ∀ c ∈ sent, c.IsManagement a.settings

namespace Manages

variable {a b : Amqp}

theorem refl (a : Amqp) : Manages a a :=
  ⟨rfl, rfl, Nat.le_refl _, [], (List.append_nil _).symm, List.forall_mem_nil _⟩

theorem trans {c : Amqp} (first : Manages a b) (second : Manages b c) : Manages a c := by
  obtain ⟨sent, commands, all⟩ := first.commands
  obtain ⟨sent', commands', all'⟩ := second.commands
  rw [first.settings] at all'
  exact ⟨second.settings.trans first.settings, second.sessions.trans first.sessions,
    Nat.le_trans first.channels second.channels, sent ++ sent',
    by rw [commands', commands, List.append_assoc], List.forall_mem_append.mpr ⟨all, all'⟩⟩

theorem quiet (manages : Manages a b) : Quiet a b := by
  obtain ⟨sent, commands, all⟩ := manages.commands
  refine ⟨manages.sessions, fun ch => ?_, manages.channels⟩
  rw [messagesOn, commands, List.countP_append, messagesOn, Nat.add_eq_left, List.countP_eq_zero]
  intro c member
  rw [(all c member).silent ch]
  exact Bool.false_ne_true

theorem of_commands (settings : b.settings = a.settings) (sessions : b.sessions = a.sessions)
    (channels : b.channels.length = a.channels.length) (commands : b.commands = a.commands) :
    Manages a b :=
  ⟨settings, sessions, Nat.le_of_eq channels.symm, [], by rw [commands, List.append_nil],
    List.forall_mem_nil _⟩

theorem send {c : Command} (management : c.IsManagement a.settings) : Manages a (a.send c) :=
  ⟨rfl, rfl, Nat.le_refl _, [c], rfl, List.forall_mem_singleton.mpr management⟩

theorem endChannel (ch : Nat) : Manages a (a.endChannel ch) :=
  of_commands rfl rfl List.length_set rfl

theorem disconnect : Manages a a.disconnect :=
  of_commands rfl rfl (List.length_map _) rfl

theorem settle : Manages a a.settle :=
  of_commands rfl rfl rfl rfl

theorem request (ch : Nat) (step : Step) {c : Command} (management : c.IsManagement a.settings) :
    Manages a (a.request ch step c).2 := by
  unfold Amqp.request
  split
  · exact refl a
  · split
    · exact (send management).trans (endChannel ch)
    · exact send management

theorem requested {ch : Nat} {step : Step} {c : Command} {ok : Bool}
    (asked : a.request ch step c = (ok, b)) (management : c.IsManagement a.settings) :
    Manages a b := by
  have manages := request ch step management
  rwa [asked] at manages

theorem closeChannel (ch : Nat) (text : String) : Manages a (a.closeChannel ch text) := by
  unfold Amqp.closeChannel
  split
  · exact (send (.untimed (fun _ => rfl) rfl)).trans (endChannel ch)
  · exact refl a

theorem reconnect (again : a.reconnect = some b) : Manages a b := by
  unfold Amqp.reconnect at again
  split at again
  · obtain rfl := Option.some.inj again
    exact refl a
  · obtain ⟨login, -, rfl⟩ := Option.map_eq_some_iff.mp again
    have started : Manages a (a.send (.start "PLAIN" login.user login.password)) :=
      send (.untimed (fun _ => rfl) rfl)
    exact (started.trans (send (.untimed (fun _ => rfl) rfl))).trans (of_commands rfl rfl rfl rfl)

theorem openChannel : Manages a a.openChannel.2 := by
  unfold Amqp.openChannel
  split
  · exact refl a
  · rename_i b connected
    split at connected
    · contradiction
    · have grown : Manages b { b with channels := b.channels ++ [true] } :=
        ⟨rfl, rfl, by rw [List.length_append]; exact Nat.le_add_right _ _, [],
          (List.append_nil _).symm, List.forall_mem_nil _⟩
      exact ((reconnect connected).trans grown).trans (request _ _ (.untimed (fun _ => rfl) rfl))

theorem acknowledge (i : Nat) (c : Consumer) : Manages a (a.acknowledge i c) := by
  refine ⟨rfl, rfl, Nat.le_refl _, _, rfl, fun command member => ?_⟩
  obtain ⟨k, -, rfl⟩ := List.mem_map.mp member
  exact .untimed (fun _ => rfl) rfl

theorem setPump (sub : Nat) (p : Pump) : Manages a (a.setPump sub p) := by
  unfold Amqp.setPump
  split
  · exact acknowledge sub _
  · exact refl a

theorem serverDeliver (sub : Nat) (d : Delivery) : Manages a (a.serverDeliver sub d) := by
  unfold Amqp.serverDeliver
  split
  · exact refl a
  · exact setPump sub _

theorem serverCancel (sub : Nat) : Manages a (a.serverCancel sub) := by
  unfold Amqp.serverCancel
  split
  · exact (setPump sub _).trans (of_commands rfl rfl rfl rfl)
  · exact refl a

theorem serverCloseChannel (sub : Nat) : Manages a (a.serverCloseChannel sub) := by
  unfold Amqp.serverCloseChannel
  split
  · exact endChannel _
  · exact refl a

theorem subscribe (session : Nat) (pattern : Key) (subscriber : String) :
    Manages a (a.subscribe session pattern subscriber).2 := by
  unfold Amqp.subscribe
  split
  · exact refl a
  · split
    · exact refl a
    · dsimp only
      split
      · exact disconnect
      · split
        · rename_i declared
          exact requested declared ⟨fun _ => rfl, fun _ told => (Option.some.inj told).symm⟩
        · rename_i declared
          have sofar := requested declared ⟨fun _ => rfl, fun _ told => (Option.some.inj told).symm⟩
          split
          · rename_i bound
            exact sofar.trans (requested bound (.untimed (fun _ => rfl) rfl))
          · rename_i bound
            have sofar := sofar.trans (requested bound (.untimed (fun _ => rfl) rfl))
            split
            · rename_i started
              exact sofar.trans (requested started (.untimed (fun _ => rfl) rfl))
            · rename_i started
              exact (sofar.trans (requested started (.untimed (fun _ => rfl) rfl))).trans
                (of_commands rfl rfl rfl rfl)

theorem connect (settings : AmqpSettings) (script : Script) :
    Manages { settings, script, commands := List.replicate script.refuseConnections .refused }
      (Amqp.connect settings script).2 := by
  let start : Amqp :=
    { settings, script, commands := List.replicate script.refuseConnections .refused }
  have manages : Manages start start.openChannel.2 := openChannel
  unfold Amqp.connect
  dsimp only
  split
  · rename_i e b failed
    rwa [failed] at manages
  · rename_i ch b opened
    rw [opened] at manages
    have asked := manages.trans (request ch .exchangeDeclare
      (c := .exchangeDeclare ch settings.exchange "topic" false true false false)
      (.untimed (fun _ => rfl) rfl))
    split
    · exact manages.trans disconnect
    · split
      · exact asked.trans (closeChannel ch _)
      · exact asked

end Manages

/-! ### Operations -/

inductive Op where
  | openSession
  | publish (session : Nat) (key : Key) (payload : List UInt8)
  | closeSession (session : Nat)
  | dropSession (session : Nat)
  | subscribe (session : Nat) (pattern : Key) (subscriber : String)
  | receive (sub : Nat)
  | cancel (sub : Nat)
  | settle
  /-- No more channels are opened. -/
  | close
  | serverDeliver (sub : Nat) (d : Delivery)
  | serverCancel (sub : Nat)
  | serverCloseChannel (sub : Nat)
  deriving DecidableEq, Repr

def apply (a : Amqp) : Op → Amqp
  | .openSession => a.openSession.2
  | .publish session key payload => (a.publish session key payload).2.1
  | .closeSession session => Broker.closeSession a session
  | .dropSession session => Broker.dropSession a session
  | .subscribe session pattern subscriber => (a.subscribe session pattern subscriber).2
  | .receive sub => (a.receive sub).2
  | .cancel sub => a.cancel sub
  | .settle => a.settle
  | .close => Broker.close a
  | .serverDeliver sub d => a.serverDeliver sub d
  | .serverCancel sub => a.serverCancel sub
  | .serverCloseChannel sub => a.serverCloseChannel sub

def run (a : Amqp) (ops : List Op) : Amqp :=
  ops.foldl apply a

def Op.isManagement : Op → Bool
  | .openSession | .publish .. | .closeSession _ | .dropSession _ => false
  | _ => true

theorem Manages.apply {a : Amqp} {op : Op} (management : op.isManagement = true) :
    Manages a (a.apply op) := by
  cases op with
  | openSession | publish _ _ _ | closeSession _ | dropSession _ => contradiction
  | subscribe session pattern subscriber => exact .subscribe session pattern subscriber
  | receive sub | cancel sub => exact .setPump sub _
  | settle => exact .settle
  | close => exact .of_commands rfl rfl rfl rfl
  | serverDeliver sub d => exact .serverDeliver sub d
  | serverCancel sub => exact .serverCancel sub
  | serverCloseChannel sub => exact .serverCloseChannel sub

/-! ### How a publish ends -/

/-- The errors of `publish` on a session that is `closed` or whose tracker is `poisoned`. -/
def isRefused (r : Except BrokerError Unit) : Bool :=
  r = .error (.publish "session is closed") ∨ r = .error ConfirmTracker.outOfSync

def isUnsent (r : Except BrokerError Unit) : Bool :=
  r = .error (.publish "Failed to publish")

def isSent (r : Except BrokerError Unit) : Bool :=
  !isRefused r && !isUnsent r

/-- The errors of `publish` that leave the tracker `poisoned`. -/
def isLost : Except BrokerError Unit → Bool
  | .error (.publish reason) =>
    reason = "Publish confirmation failed" ∨ reason = "channel is not in confirm mode"
  | .error (.unconfirmed _) => true
  | _ => false

/-- The results of a message that was sent with the delivery tag `tag`. -/
structure EndsSent (tag : Nat) (r : Except BrokerError Unit) : Prop where
  sent : isSent r = true
  numbered : ∀ t, r = .error (.rejected t) ∨ r = .error (.unconfirmed t) → t = tag
  ordered : ∀ expected got, r ≠ .error (.outOfSequence expected got)

theorem endsSent_ok (tag : Nat) : EndsSent tag (.ok ()) :=
  ⟨by decide, by simp, by simp⟩

theorem endsSent_rejected (tag : Nat) : EndsSent tag (.error (.rejected tag)) :=
  ⟨by simp [isSent, isRefused, isUnsent, ConfirmTracker.outOfSync], by simp, by simp⟩

theorem endsSent_unconfirmed (tag : Nat) : EndsSent tag (.error (.unconfirmed tag)) :=
  ⟨by simp [isSent, isRefused, isUnsent, ConfirmTracker.outOfSync], by simp, by simp⟩

theorem endsSent_failed {reason : String} (lost : isLost (.error (.publish reason)) = true)
    (tag : Nat) : EndsSent tag (.error (.publish reason)) := by
  refine ⟨?_, by simp, by simp⟩
  rcases of_decide_eq_true lost with rfl | rfl <;> decide

/-- `confirmation tag` never carries another tag, so `settle` poisons the tracker just for an `isLost`
result. -/
theorem confirmation_answers {wait tag : Nat} {settlement : Settlement} {r : Except BrokerError Nat}
    (answers : ConfirmTracker.Answers wait tag (confirmation tag settlement) r) :
    EndsSent tag (r.map fun _ => ()) ∧
      ConfirmTracker.isFatal wait tag (confirmation tag settlement) = isLost (r.map fun _ => ()) := by
  have late : ∀ {after : Nat} {v : Verdict}, wait < after →
      ConfirmTracker.isFatal wait tag (some (after, v)) = true := by
    intro after v beyond
    cases v <;> simp [ConfirmTracker.isFatal, beyond]
  generalize heard : confirmation tag settlement = c at answers
  cases answers with
  | acked timely => exact ⟨endsSent_ok tag, by simp [ConfirmTracker.isFatal, timely, Except.map, isLost]⟩
  | nacked timely =>
    exact ⟨endsSent_rejected tag, by simp [ConfirmTracker.isFatal, timely, Except.map, isLost]⟩
  | failed timely e =>
    have lost : ∃ reason, e = .publish reason ∧ isLost (.error (.publish reason)) = true := by
      cases settlement <;> simp [confirmation] at heard <;> exact ⟨_, heard.2.symm, by decide⟩
    obtain ⟨reason, rfl, lost⟩ := lost
    exact ⟨endsSent_failed lost tag, lost.symm⟩
  | foreign timely other ack =>
    cases settlement <;> simp [confirmation] at heard <;> exact absurd heard.2.1.symm other
  | late beyond v => exact ⟨endsSent_unconfirmed tag, late beyond⟩
  | never => exact ⟨endsSent_unconfirmed tag, rfl⟩

/-! ### What a publish does -/

inductive Publishes (a : Amqp) (session : Nat) (message : Delivery) :
    Except BrokerError Unit → Amqp → Prop
  | refused {r : Except BrokerError Unit} (refused : isRefused r = true)
      (unfit : ∀ s, a.sessions[session]? = some s → s.closed = true ∨ s.tracker.poisoned = true) :
    Publishes a session message r a
  | unsent {s : Session} {b : Amqp} (known : a.sessions[session]? = some s)
      (fit : s.closed = false ∧ s.tracker.poisoned = false) (quiet : Quiet a b)
      (commands : b.commands = a.commands) :
    Publishes a session message (.error (.publish "Failed to publish")) b
  /-- The session expects a confirmation of the next number. -/
  | sent {s : Session} {b : Amqp} {r : Except BrokerError Unit}
      (known : a.sessions[session]? = some s)
      (fit : s.closed = false ∧ s.tracker.poisoned = false)
      (ends : EndsSent s.tracker.nextTag r)
      (settled : b.sessions = a.sessions.set session
        { s with tracker := ⟨s.tracker.wait, s.tracker.nextTag + 1, isLost r⟩ })
      (channels : b.channels.length = a.channels.length)
      (reaches : b.commands = a.commands ++
          [.publish s.channel a.settings.exchange false false a.properties message] ∨
        (isLost r = true ∧ b.commands = a.commands)) :
    Publishes a session message r b

theorem publish_refused (a : Amqp) (session : Nat) (key : Key) (payload : List UInt8)
    (unfit : ∀ s, a.sessions[session]? = some s → s.closed = true ∨ s.tracker.poisoned = true) :
    ∃ r, isRefused r = true ∧ a.publish session key payload = (r, a, []) := by
  have closed : isRefused (.error (.publish "session is closed")) = true := by decide
  unfold publish
  split
  · exact ⟨_, closed, rfl⟩
  · rename_i s known
    split
    · exact ⟨_, closed, rfl⟩
    · rename_i notClosed
      have poisoned := (unfit s known).resolve_left notClosed
      rw [ConfirmTracker.check, if_pos poisoned]
      exact ⟨_, by decide, rfl⟩

theorem publish_fit {a : Amqp} {session : Nat} {s : Session} (known : a.sessions[session]? = some s)
    (fit : s.closed = false ∧ s.tracker.poisoned = false) (key : Key) (payload : List UInt8) :
    a.publish session key payload =
      if !a.isChannelOpen s.channel then (.error (.publish "Failed to publish"), a, [])
      else if a.nextSettlement = .unsent then
        (.error (.publish "Failed to publish"), { a with settled := a.settled + 1 }, [])
      else if maxName < key.encode.utf8ByteSize then a.failNext session s
      else a.settleNext session s ⟨key.encode, payload⟩ := by
  unfold publish
  rw [known]
  simp only [fit.1, fit.2, ConfirmTracker.check, Bool.false_eq_true, if_false]

theorem settle_confirmation {t : ConfirmTracker} (inStep : t.poisoned = false)
    (settlement : Settlement) :
    let settled := t.settle (confirmation t.nextTag settlement)
    EndsSent t.nextTag (settled.result.map fun _ => ()) ∧
      ConfirmTracker.isFatal t.wait t.nextTag (confirmation t.nextTag settlement) =
        isLost (settled.result.map fun _ => ()) ∧
      settled.tracker = ⟨t.wait, t.nextTag + 1, isLost (settled.result.map fun _ => ())⟩ := by
  intro settled
  obtain ⟨answers, tracker⟩ := ConfirmTracker.settle_inStep inStep (confirmation t.nextTag settlement)
  obtain ⟨ends, fatal⟩ := confirmation_answers answers
  exact ⟨ends, fatal, by rw [tracker, fatal]⟩

theorem settleNext_state (a : Amqp) (session : Nat) (s : Session) (message : Delivery) :
    let b := (a.settleNext session s message).2.1
    b.sessions = a.sessions.set session
        { s with
          tracker := (s.tracker.settle (confirmation s.tracker.nextTag a.nextSettlement)).tracker } ∧
      b.channels.length = a.channels.length ∧
      b.commands = a.commands ++
        [.publish s.channel a.settings.exchange false false a.properties message] := by
  unfold settleNext
  dsimp only [settle]
  split
  · exact ⟨rfl, List.length_set, rfl⟩
  · exact ⟨rfl, rfl, rfl⟩

theorem publishes (a : Amqp) (session : Nat) (key : Key) (payload : List UInt8) :
    Publishes a session ⟨key.encode, payload⟩ (a.publish session key payload).1
      (a.publish session key payload).2.1 := by
  by_cases unfit : ∀ s, a.sessions[session]? = some s → s.closed = true ∨ s.tracker.poisoned = true
  · obtain ⟨r, refused, same⟩ := a.publish_refused session key payload unfit
    rw [same]
    exact .refused refused unfit
  · push Not at unfit
    obtain ⟨s, known, closed, poisoned⟩ := unfit
    have fit : s.closed = false ∧ s.tracker.poisoned = false :=
      ⟨Bool.eq_false_iff.mpr closed, Bool.eq_false_iff.mpr poisoned⟩
    rw [publish_fit known fit]
    split
    · exact .unsent known fit (Manages.refl a).quiet rfl
    · split
      · exact .unsent known fit ⟨rfl, fun _ => rfl, Nat.le_refl _⟩ rfl
      · split
        · obtain ⟨ends, lost, tracker⟩ := settle_confirmation fit.2 .close
          have sessions : (a.failNext session s).2.1.sessions = a.sessions.set session
            { s with tracker := (s.tracker.settle (confirmation s.tracker.nextTag .close)).tracker } := rfl
          rw [tracker] at sessions
          exact .sent known fit ends sessions (List.length_map _) (.inr ⟨lost.symm, rfl⟩)
        · obtain ⟨ends, -, tracker⟩ := settle_confirmation fit.2 a.nextSettlement
          obtain ⟨sessions, channels, commands⟩ := a.settleNext_state session s ⟨key.encode, payload⟩
          rw [tracker] at sessions
          exact .sent known fit ends sessions channels (.inl commands)

/-! ### Sessions side by side -/

theorem openChannel_fresh {a b : Amqp} {ch : Nat} (opened : a.openChannel = (.ok ch, b)) :
    a.channels.length < ch ∧ ch ≤ b.channels.length := by
  unfold openChannel at opened
  split at opened
  · simp at opened
  · rename_i c connected
    split at connected
    · contradiction
    · have before := (Manages.reconnect connected).channels
      have after := (Manages.request (a := { c with channels := c.channels ++ [true] })
        (c.channels.length + 1) .channelOpen (c := .channelOpen (c.channels.length + 1))
        (.untimed (fun _ => rfl) rfl)).channels
      rw [List.length_append, List.length_singleton] at after
      dsimp only at opened
      generalize Amqp.request _ _ _ _ = answer at opened after
      obtain ⟨ok, c'⟩ := answer
      cases ok with
      | false => simp at opened
      | true =>
        obtain ⟨number, rfl⟩ := Prod.mk.inj opened
        obtain rfl := Except.ok.inj number
        exact ⟨Nat.lt_succ_of_le before, after⟩

structure Opens (a : Amqp) (session : Nat) (s : Session) (b : Amqp) : Prop where
  number : session = a.sessions.length
  sessions : b.sessions = a.sessions ++ [s]
  messages : ∀ ch, b.messagesOn ch = a.messagesOn ch
  fresh : a.channels.length < s.channel ∧ s.channel ≤ b.channels.length
  fit : s.closed = false ∧ s.tracker.poisoned = false
  first : s.tracker.nextTag = 1

theorem opens (a : Amqp) :
    (∃ e, a.openSession.1 = .error e ∧ Manages a a.openSession.2) ∨
      ∃ session s, a.openSession.1 = .ok session ∧ Opens a session s a.openSession.2 := by
  have manages := Manages.openChannel (a := a)
  unfold openSession
  split
  · rename_i e b failed
    rw [failed] at manages
    exact .inl ⟨e, rfl, manages⟩
  · rename_i ch b opened
    rw [opened] at manages
    obtain ⟨new, within⟩ := openChannel_fresh opened
    have asked := Manages.request (a := b) ch .confirmSelect (c := .confirmSelect ch)
      (.untimed (fun _ => rfl) rfl)
    have all := manages.trans asked
    dsimp only
    split
    · let c := (b.request ch .confirmSelect (.confirmSelect ch)).2
      let s : Session :=
        { channel := ch, tracker := { wait := c.settings.ackTimeoutSecs.toNat * 1000 } }
      have appended : c.sessions ++ [s] = a.sessions ++ [s] := by rw [all.sessions]
      exact .inr ⟨_, s, rfl, congrArg List.length all.sessions, appended, all.quiet.messages,
        ⟨new, Nat.le_trans within asked.channels⟩, ⟨rfl, rfl⟩, rfl⟩
    · exact .inl ⟨_, rfl, all⟩

theorem opens_of_ok {a : Amqp} {session : Nat} (opened : a.openSession.1 = .ok session) :
    ∃ s, Opens a session s a.openSession.2 := by
  rcases a.opens with ⟨e, failed, -⟩ | ⟨_, s, ok, opens⟩
  · rw [opened] at failed
    contradiction
  · obtain rfl := Except.ok.inj (opened.symm.trans ok)
    exact ⟨s, opens⟩

theorem messagesOn_sent {a b : Amqp} {ch : Nat} {exchange : String} {mandatory immediate : Bool}
    {properties : Properties} {message : Delivery}
    (commands : b.commands =
      a.commands ++ [.publish ch exchange mandatory immediate properties message]) (other : Nat) :
    b.messagesOn other = a.messagesOn other + if ch = other then 1 else 0 := by
  rw [messagesOn, commands, List.countP_append, List.countP_singleton, messagesOn]
  simp [Command.isMessageOn]

theorem endSession_cases (a : Amqp) (session : Nat) (text : String) :
    ((∀ s, a.sessions[session]? = some s → s.closed = true) ∧ a.endSession session text = a) ∨
      ∃ s, a.sessions[session]? = some s ∧ s.closed = false ∧
        Manages { a with sessions := a.sessions.set session { s with closed := true } }
          (a.endSession session text) := by
  unfold endSession
  split
  · rename_i missing
    refine .inl ⟨fun s known => ?_, rfl⟩
    rw [missing] at known
    contradiction
  · rename_i s known
    split
    · rename_i closed
      refine .inl ⟨fun t other => ?_, rfl⟩
      obtain rfl := Option.some.inj (other.symm.trans known)
      exact closed
    · rename_i notClosed
      exact .inr ⟨s, known, Bool.eq_false_iff.mpr notClosed, .closeChannel s.channel text⟩

/-- Sessions have distinct channels, and a channel that was never opened carries no messages. -/
structure Sound (a : Amqp) : Prop where
  opened : ∀ (i : Nat) (s : Session), a.sessions[i]? = some s → s.channel ≤ a.channels.length
  apart : ∀ (i j : Nat) (s t : Session), a.sessions[i]? = some s → a.sessions[j]? = some t →
    s.channel = t.channel → i = j
  silent : ∀ ch, a.channels.length < ch → a.messagesOn ch = 0

namespace Sound

variable {a b : Amqp}

theorem quiet (sound : a.Sound) (quiet : Quiet a b) : b.Sound := by
  refine ⟨fun i s known => ?_, ?_, fun ch beyond => ?_⟩
  · rw [quiet.sessions] at known
    exact Nat.le_trans (sound.opened i s known) quiet.channels
  · rw [quiet.sessions]
    exact sound.apart
  · rw [quiet.messages]
    exact sound.silent ch (Nat.lt_of_le_of_lt quiet.channels beyond)

theorem opens {session : Nat} {s : Session} (sound : a.Sound) (opens : Opens a session s b) :
    b.Sound := by
  obtain ⟨-, sessions, messages, ⟨new, within⟩, -, -⟩ := opens
  have grown := Nat.le_of_lt (Nat.lt_of_lt_of_le new within)
  refine ⟨fun i t known => ?_, fun i j t u first second same => ?_, fun ch beyond => ?_⟩
  · rw [sessions] at known
    rcases getElem?_snoc known with ⟨-, before⟩ | ⟨-, rfl⟩
    · exact Nat.le_trans (sound.opened i t before) grown
    · exact within
  · rw [sessions] at first second
    rcases getElem?_snoc first with ⟨-, early⟩ | ⟨last, rfl⟩ <;>
      rcases getElem?_snoc second with ⟨-, early'⟩ | ⟨last', rfl⟩
    · exact sound.apart i j t u early early' same
    -- The channel of the new session is above all that were opened before.
    · have below := sound.opened i t early
      omega
    · have below := sound.opened j u early'
      omega
    · rw [last, last']
  · rw [messages]
    exact sound.silent ch (Nat.lt_of_le_of_lt grown beyond)

theorem set {i : Nat} {s s' : Session} (sound : a.Sound) (known : a.sessions[i]? = some s)
    (sessions : b.sessions = a.sessions.set i s') (channel : s'.channel = s.channel)
    (channels : b.channels.length = a.channels.length)
    (messages : ∀ ch, ch ≠ s.channel → b.messagesOn ch = a.messagesOn ch) : b.Sound := by
  have back : ∀ (j : Nat) (t : Session), b.sessions[j]? = some t →
      ∃ t', a.sessions[j]? = some t' ∧ t.channel = t'.channel := by
    intro j t found
    rw [sessions] at found
    rcases getElem?_set_cases found with ⟨rfl, rfl⟩ | ⟨-, found⟩
    · exact ⟨s, known, channel⟩
    · exact ⟨t, found, rfl⟩
  refine ⟨fun j t found => ?_, fun j k t u first second same => ?_, fun ch beyond => ?_⟩
  · obtain ⟨t', found, at_⟩ := back j t found
    rw [at_, channels]
    exact sound.opened j t' found
  · obtain ⟨t', first, at_⟩ := back j t first
    obtain ⟨u', second, at_'⟩ := back k u second
    exact sound.apart j k t' u' first second (by rw [← at_, ← at_', same])
  · rw [channels] at beyond
    have below := sound.opened i s known
    rw [messages ch (by omega)]
    exact sound.silent ch beyond

theorem publishes {session : Nat} {message : Delivery} {r : Except BrokerError Unit}
    (sound : a.Sound) (published : Publishes a session message r b) : b.Sound := by
  cases published with
  | refused refused unfit => exact sound
  | unsent known fit quiet commands => exact sound.quiet quiet
  | @sent s _ _ known fit ends settled channels reaches =>
    refine sound.set known settled rfl channels fun ch other => ?_
    rcases reaches with commands | ⟨-, commands⟩
    · rw [messagesOn_sent commands, if_neg other.symm, Nat.add_zero]
    · rw [messagesOn, commands, messagesOn]

theorem endSession (sound : a.Sound) (session : Nat) (text : String) :
    (a.endSession session text).Sound := by
  rcases a.endSession_cases session text with ⟨-, same⟩ | ⟨s, known, -, manages⟩
  · rw [same]
    exact sound
  · have closed : Sound { a with sessions := a.sessions.set session { s with closed := true } } :=
      sound.set known rfl rfl rfl fun _ _ => rfl
    exact closed.quiet manages.quiet

theorem connect (settings : AmqpSettings) (script : Script) :
    (Amqp.connect settings script).2.Sound := by
  let start : Amqp :=
    { settings, script, commands := List.replicate script.refuseConnections .refused }
  have sound : start.Sound := by
    refine ⟨fun i s known => by simp [start] at known, fun i j s t known => by simp [start] at known,
      fun ch _ => ?_⟩
    simp [start, messagesOn, List.countP_replicate, Command.isMessageOn]
  exact sound.quiet (Manages.connect settings script).quiet

theorem apply (sound : a.Sound) (op : Op) : (a.apply op).Sound := by
  cases op with
  | openSession =>
    rcases a.opens with ⟨e, -, manages⟩ | ⟨session, s, -, opens⟩
    · exact sound.quiet manages.quiet
    · exact sound.opens opens
  | publish session key payload => exact sound.publishes (a.publishes session key payload)
  | closeSession session => exact sound.endSession session _
  | dropSession session => exact sound.endSession session _
  | subscribe _ _ _ | receive _ | cancel _ | settle | close | serverDeliver _ _ | serverCancel _
  | serverCloseChannel _ => exact sound.quiet (Manages.apply rfl).quiet

theorem run (sound : a.Sound) (ops : List Op) : (a.run ops).Sound := by
  induction ops generalizing a with
  | nil => exact sound
  | cons op ops ih => exact ih (sound.apply op)

end Sound

/-! ### One session among all operations -/

def Op.leaves (session : Nat) : Op → Bool
  | .closeSession other => other == session
  | .dropSession other => other == session
  | _ => false

def ending? (a : Amqp) (session : Nat) : Op → Option (Except BrokerError Unit)
  | .publish other key payload =>
    if other = session then some (a.publish session key payload).1 else none
  | _ => none

/-- The results of the publishes on `session` in the run of `ops`, in order. -/
def endings (session : Nat) : Amqp → List Op → List (Except BrokerError Unit)
  | _, [] => []
  | a, op :: ops => (a.ending? session op).toList ++ endings session (a.apply op) ops

/-- The invariant of a session: `left` is whether it was left, and `past` are its `endings` so far.
Until its tracker is `poisoned`, the server's `messagesOn` its channel is the number of messages
sent. -/
structure Session.Tells (s : Session) (a : Amqp) (left : Bool)
    (past : List (Except BrokerError Unit)) : Prop where
  closed : s.closed = left
  poisoned : s.tracker.poisoned = past.any isLost
  number : s.tracker.nextTag = past.countP isSent + 1
  counted : s.tracker.poisoned = false → a.messagesOn s.channel = past.countP isSent

theorem unmarked_of_refused {r : Except BrokerError Unit} (refused : isRefused r = true) :
    isSent r = false ∧ isLost r = false := by
  refine ⟨by rw [isSent, refused]; rfl, ?_⟩
  rcases of_decide_eq_true refused with rfl | rfl <;> decide

namespace Session.Tells

variable {a b : Amqp} {session : Nat} {s : Session} {left : Bool}
  {past : List (Except BrokerError Unit)}

theorem mono (tells : s.Tells a left past)
    (messages : b.messagesOn s.channel = a.messagesOn s.channel) : s.Tells b left past :=
  ⟨tells.closed, tells.poisoned, tells.number, fun inStep => messages.trans (tells.counted inStep)⟩

theorem publish (tells : s.Tells a left past) (known : a.sessions[session]? = some s)
    {message : Delivery} {r : Except BrokerError Unit} (published : Publishes a session message r b) :
    ∃ s', b.sessions[session]? = some s' ∧ s'.Tells b left (past ++ [r]) := by
  have same : ∀ {t}, a.sessions[session]? = some t → t = s := fun other =>
    Option.some.inj (other.symm.trans known)
  cases published with
  | refused refused unfit =>
    obtain ⟨unsent, found⟩ := unmarked_of_refused refused
    refine ⟨s, known, tells.closed, ?_, ?_, ?_⟩
    · simp [tells.poisoned, found]
    · simp [tells.number, unsent]
    · simpa [unsent] using tells.counted
  | unsent known' fit quiet commands =>
    refine ⟨s, by rw [quiet.sessions, known], tells.closed, ?_, ?_, ?_⟩
    · simp [tells.poisoned, isLost]
    · simp [tells.number, isSent, isUnsent]
    · simpa [isSent, isUnsent, quiet.messages] using tells.counted
  | @sent t _ _ known' fit ends settled channels reaches =>
    obtain rfl := same known'
    have inside := (List.getElem?_eq_some_iff.mp known).1
    refine ⟨{ t with tracker := ⟨t.tracker.wait, t.tracker.nextTag + 1, isLost r⟩ },
      by rw [settled, List.getElem?_set_self inside], tells.closed, ?_, ?_, fun found => ?_⟩
    · simp [← tells.poisoned, fit.2]
    · simp [tells.number, ends.sent]
    -- A message that took its number without getting there is lost, and nothing is told of the count.
    · rcases reaches with commands | ⟨lost, -⟩
      · rw [messagesOn_sent commands, if_pos rfl, tells.counted fit.2]
        simp [ends.sent]
      · rw [lost] at found
        contradiction

/-- Publishes of other sessions are on other channels. -/
theorem publish_other (tells : s.Tells a left past) (sound : a.Sound)
    (known : a.sessions[session]? = some s) {other : Nat} (apart : other ≠ session)
    {message : Delivery} {r : Except BrokerError Unit} (published : Publishes a other message r b) :
    b.sessions[session]? = some s ∧ s.Tells b left past := by
  cases published with
  | refused refused unfit => exact ⟨known, tells⟩
  | unsent known' fit quiet commands =>
    exact ⟨by rw [quiet.sessions, known], tells.mono (quiet.messages _)⟩
  | @sent t _ _ known' fit ends settled channels reaches =>
    refine ⟨by rw [settled, List.getElem?_set_ne apart, known], tells.mono ?_⟩
    rcases reaches with commands | ⟨-, commands⟩
    · have channel : t.channel ≠ s.channel := fun same =>
        apart (sound.apart other session t s known' known same)
      rw [messagesOn_sent commands, if_neg channel, Nat.add_zero]
    · rw [messagesOn, commands, messagesOn]

theorem endSession_other (tells : s.Tells a left past) (known : a.sessions[session]? = some s)
    {other : Nat} (apart : other ≠ session) (text : String) :
    (a.endSession other text).sessions[session]? = some s ∧
      s.Tells (a.endSession other text) left past := by
  rcases a.endSession_cases other text with ⟨-, same⟩ | ⟨t, -, -, manages⟩
  · rw [same]
    exact ⟨known, tells⟩
  · refine ⟨?_, tells.mono (manages.quiet.messages _)⟩
    rw [manages.sessions, List.getElem?_set_ne apart, known]

theorem endSession_self (tells : s.Tells a left past) (known : a.sessions[session]? = some s)
    (text : String) :
    ∃ s', (a.endSession session text).sessions[session]? = some s' ∧
      s'.Tells (a.endSession session text) true past := by
  rcases a.endSession_cases session text with ⟨closed, same⟩ | ⟨t, known', -, manages⟩
  · rw [same]
    exact ⟨s, known, closed s known, tells.poisoned, tells.number, tells.counted⟩
  · obtain rfl := Option.some.inj (known'.symm.trans known)
    have inside := (List.getElem?_eq_some_iff.mp known).1
    refine ⟨{ t with closed := true }, ?_, rfl, tells.poisoned, tells.number, fun inStep => ?_⟩
    · rw [manages.sessions, List.getElem?_set_self inside]
    · exact (manages.quiet.messages _).trans (tells.counted inStep)

theorem ended (tells : s.Tells a left past) (known : a.sessions[session]? = some s) (other : Nat)
    (text : String) :
    ∃ s', (a.endSession other text).sessions[session]? = some s' ∧
      s'.Tells (a.endSession other text) (left || other == session) past := by
  by_cases same : other = session
  · subst same
    rw [beq_self_eq_true, Bool.or_true]
    exact tells.endSession_self known text
  · rw [beq_eq_false_iff_ne.mpr same, Bool.or_false]
    exact ⟨s, tells.endSession_other known same text⟩

/-- The invariant is kept by every operation, on whichever session. -/
theorem apply (tells : s.Tells a left past) (sound : a.Sound) (known : a.sessions[session]? = some s)
    (op : Op) :
    ∃ s', (a.apply op).sessions[session]? = some s' ∧
      s'.Tells (a.apply op) (left || op.leaves session) (past ++ (a.ending? session op).toList) := by
  have still : ∀ {b : Amqp}, Manages a b →
      ∃ s', b.sessions[session]? = some s' ∧ s'.Tells b (left || false) (past ++ []) := by
    intro b manages
    rw [Bool.or_false, List.append_nil]
    exact ⟨s, by rw [manages.sessions, known], tells.mono (manages.quiet.messages _)⟩
  cases op with
  | openSession =>
    rcases a.opens with ⟨e, -, manages⟩ | ⟨other, t, -, opens⟩
    · exact still manages
    · have inside := (List.getElem?_eq_some_iff.mp known).1
      refine ⟨s, ?_, ?_⟩
      · rw [Amqp.apply, opens.sessions, List.getElem?_append_left inside, known]
      · simp only [Op.leaves, ending?, Bool.or_false, Option.toList_none, List.append_nil]
        exact tells.mono (opens.messages _)
  | publish other key payload =>
    have published := a.publishes other key payload
    simp only [Op.leaves, Bool.or_false, ending?]
    by_cases same : other = session
    · subst same
      rw [if_pos rfl]
      exact tells.publish known published
    · rw [if_neg same, Option.toList_none, List.append_nil]
      exact ⟨s, tells.publish_other sound known same published⟩
  | closeSession other =>
    simp only [ending?, Option.toList_none, List.append_nil]
    exact tells.ended known other _
  | dropSession other =>
    simp only [ending?, Option.toList_none, List.append_nil]
    exact tells.ended known other _
  | subscribe _ _ _ | receive _ | cancel _ | settle | close | serverDeliver _ _ | serverCancel _
  | serverCloseChannel _ => exact still (.apply rfl)

theorem run (tells : s.Tells a left past) (sound : a.Sound) (known : a.sessions[session]? = some s)
    (ops : List Op) :
    ∃ s', (a.run ops).sessions[session]? = some s' ∧
      s'.Tells (a.run ops) (left || ops.any (Op.leaves session)) (past ++ endings session a ops) := by
  induction ops generalizing a s left past with
  | nil =>
    rw [endings, List.append_nil, List.any_nil, Bool.or_false]
    exact ⟨s, known, tells⟩
  | cons op ops ih =>
    obtain ⟨s', known', tells'⟩ := tells.apply sound known op
    rw [endings, List.any_cons, ← Bool.or_assoc, ← List.append_assoc]
    exact ih tells' (sound.apply op) known'

theorem opens (sound : a.Sound) (opens : Opens a session s b) : s.Tells b false [] := by
  refine ⟨opens.fit.1, opens.fit.2, opens.first, fun _ => ?_⟩
  rw [opens.messages]
  exact sound.silent s.channel opens.fresh.1

end Session.Tells

/-- The next `publish` on a session, in terms of its `past`. -/
theorem Session.Tells.next {a b : Amqp} {session : Nat} {s : Session} {left : Bool}
    {past : List (Except BrokerError Unit)} (tells : s.Tells a left past)
    (known : a.sessions[session]? = some s) {message : Delivery} {r : Except BrokerError Unit}
    (published : Publishes a session message r b) :
    (isRefused r = true ↔ left = true ∨ ∃ r ∈ past, isLost r = true) ∧
      (isRefused r = true → b = a) ∧
      (isUnsent r = true → b.sessions = a.sessions ∧ b.commands = a.commands) ∧
      s.tracker.nextTag = past.countP isSent + 1 ∧
      (isSent r = true → EndsSent s.tracker.nextTag r ∧
        (b.commands = a.commands ++ [.publish s.channel a.settings.exchange false false a.properties
            message] ∧ b.messagesOn s.channel = s.tracker.nextTag ∨
          isLost r = true ∧ b.commands = a.commands)) ∧
      ∀ expected got, r ≠ .error (.outOfSequence expected got) := by
  have unfit_iff : s.closed = true ∨ s.tracker.poisoned = true ↔
      left = true ∨ ∃ r ∈ past, isLost r = true := by
    rw [tells.closed, tells.poisoned, List.any_eq_true]
  rw [← unfit_iff]
  cases published with
  | refused refused unfit =>
    obtain ⟨unsent, -⟩ := unmarked_of_refused refused
    refine ⟨⟨fun _ => unfit s known, fun _ => refused⟩, fun _ => rfl, fun _ => ⟨rfl, rfl⟩,
      tells.number, fun sent => ?_, fun expected got same => ?_⟩
    · rw [unsent] at sent
      contradiction
    · rw [same] at refused
      simp [isRefused, ConfirmTracker.outOfSync] at refused
  | unsent known' fit quiet commands =>
    obtain rfl := Option.some.inj (known'.symm.trans known)
    have taken : isRefused (.error (.publish "Failed to publish")) = false := by decide
    have unsent : isSent (.error (.publish "Failed to publish")) = false := by decide
    rw [taken, unsent, fit.1, fit.2]
    exact ⟨by simp, nofun, fun _ => ⟨quiet.sessions, commands⟩, tells.number, nofun, nofun⟩
  | sent known' fit ends settled channels reaches =>
    obtain rfl := Option.some.inj (known'.symm.trans known)
    have taken : isRefused r = false ∧ isUnsent r = false := by simpa [isSent] using ends.sent
    rw [taken.1, taken.2, fit.1, fit.2]
    refine ⟨by simp, nofun, nofun, tells.number, fun _ => ⟨ends, ?_⟩, ends.ordered⟩
    rcases reaches with commands | lost
    · refine .inl ⟨commands, ?_⟩
      rw [messagesOn_sent commands, if_pos rfl, tells.counted fit.2, tells.number]
    · exact .inr lost

/-- For every session, and any operations before and after its `openSession`: `publish` is refused iff
the session was left or a message on it was lost, and then changes nothing. Any other message is
handed to the channel; if it can be sent, its tag is one more than the messages sent before, which is
what the server counts on its arrival. No result names another tag, and `outOfSequence` never
occurs. -/
theorem sends_while_reliable (settings : AmqpSettings) (script : Script) (before : List Op)
    {session : Nat} (opened : ((connect settings script).2.run before).openSession.1 = .ok session)
    (ops : List Op) (key : Key) (payload : List UInt8) :
    let start := ((connect settings script).2.run before).openSession.2
    let a := start.run ops
    let past := endings session start ops
    let r := (a.publish session key payload).1
    let b := (a.publish session key payload).2.1
    ∃ s, a.sessions[session]? = some s ∧
      (isRefused r = true ↔ (∃ op ∈ ops, op.leaves session = true) ∨ ∃ r ∈ past, isLost r = true) ∧
      (isRefused r = true → b = a) ∧
      (isUnsent r = true → b.sessions = a.sessions ∧ b.commands = a.commands) ∧
      s.tracker.nextTag = past.countP isSent + 1 ∧
      (isSent r = true → EndsSent s.tracker.nextTag r ∧
        (b.commands = a.commands ++ [.publish s.channel a.settings.exchange false false a.properties
            ⟨key.encode, payload⟩] ∧ b.messagesOn s.channel = s.tracker.nextTag ∨
          isLost r = true ∧ b.commands = a.commands)) ∧
      ∀ expected got, r ≠ .error (.outOfSequence expected got) := by
  intro start a past r b
  have sound := (Sound.connect settings script).run before
  obtain ⟨first, opens⟩ := opens_of_ok opened
  have known : start.sessions[session]? = some first := by
    rw [opens.sessions, opens.number, List.getElem?_concat_length]
  obtain ⟨s, known, tells⟩ := (Session.Tells.opens sound opens).run (sound.opens opens) known ops
  rw [Bool.false_or, List.nil_append] at tells
  have published : Publishes a session ⟨key.encode, payload⟩ r b := a.publishes session key payload
  have next := tells.next known published
  rw [List.any_eq_true] at next
  exact ⟨s, known, next⟩

/-- A `nack` and a message that could not be sent leave the session usable. The fourth message is the
third on the channel and is never confirmed, so the fifth is refused. -/
theorem sends_while_reliable_silence :
    let script : Script := { settlements := [.nack, .unsent, .ack, .silence] }
    let a := (connect {} script).2.openSession.2
    let draw : Op := .publish 0 (.event "attic" "ann" .drawing) [1]
    (∀ r ∈ endings 0 a [draw, draw, draw], isLost r = false) ∧
      isRefused ((a.run [draw, draw, draw]).publish 0 (.event "attic" "ann" .drawing) [1]).1 = false ∧
      ((a.run [draw, draw, draw]).publish 0 (.event "attic" "ann" .drawing) [1]).1 =
        .error (.unconfirmed 3) ∧
      isRefused ((a.run [draw, draw, draw, draw]).publish 0 (.event "attic" "ann" .drawing) [1]).1 =
        true := by
  intro script a draw
  have opened : ((connect {} script).2.run []).openSession.1 = .ok 0 := by decide +kernel
  have fine : ∀ r ∈ endings 0 a [draw, draw, draw], isLost r = false := by decide +kernel
  have lost : ∃ r ∈ endings 0 a [draw, draw, draw, draw], isLost r = true := by decide +kernel
  have stays : ¬∃ op ∈ [draw, draw, draw], op.leaves 0 = true := by decide
  obtain ⟨_, -, fourth, -⟩ :=
    sends_while_reliable {} script [] opened [draw, draw, draw] (.event "attic" "ann" .drawing) [1]
  obtain ⟨_, -, fifth, -⟩ := sends_while_reliable {} script [] opened [draw, draw, draw, draw]
    (.event "attic" "ann" .drawing) [1]
  refine ⟨fine, Bool.eq_false_iff.mpr fun refused => ?_, by decide +kernel, fifth.mpr (.inr lost)⟩
  rcases fourth.mp refused with left | ⟨r, member, found⟩
  · exact stays left
  · exact Bool.false_ne_true ((fine r member).symm.trans found)

end RoomRelay.Amqp
