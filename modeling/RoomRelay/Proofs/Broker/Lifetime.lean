import Mathlib.Algebra.Group.Nat.Defs
import RoomRelay.Backend
import RoomRelay.Proofs.Broker.Amqp
import RoomRelay.Proofs.Settings.Demands

/-!
The lifetime of messages behind `Amqp`. Every message carries `messageTtlMs` as text, and every queue
is declared with it as a signed number. Settings count in seconds, and `validate` does not bound them
from above.
-/
namespace RoomRelay

/-! ### What settings must say -/

namespace Settings

theorem lifetime_positive {s : Settings} (chosen : s.broker.choice = .amqp)
    (valid : s.validate = .ok ()) : 0 < s.broker.amqp.messageTtlSecs.toNat := by
  have demanded : .positive s.broker.amqp.messageTtlSecs "broker.amqp.message_ttl_secs" ∈ s.demands := by
    simp [demands, BrokerSettings.demands, chosen, AmqpSettings.demands]
  have met := validate_eq_ok_iff.mp valid _ demanded
  exact Nat.pos_of_ne_zero fun zero => bne_iff_ne.mp met (UInt64.toNat_inj.mp zero)

end Settings

/-! ### Milliseconds in 64 bits -/

namespace AmqpSettings

variable (s : AmqpSettings)

theorem messageTtlMs_toNat : s.messageTtlMs.toNat = s.messageTtlSecs.toNat * 1000 % 2 ^ 64 := by
  rw [messageTtlMs, UInt64.toNat_mul]
  rfl

/-- A lifetime that is not over at once may be so in milliseconds. -/
example : ({ messageTtlSecs := 2305843009213693952 } : AmqpSettings).messageTtlMs = 0 := by decide

/-- The text of `messageTtlMs` is exact iff the milliseconds are below `2 ^ 64`. -/
theorem messageTtlMs_text :
    toString s.messageTtlMs = toString (s.messageTtlSecs.toNat * 1000 % 2 ^ 64) ∧
      (toString s.messageTtlMs = toString (s.messageTtlSecs.toNat * 1000) ↔
        s.messageTtlSecs.toNat * 1000 < 2 ^ 64) := by
  have text : toString s.messageTtlMs = toString (s.messageTtlSecs.toNat * 1000 % 2 ^ 64) := by
    rw [← messageTtlMs_toNat]
    rfl
  refine ⟨text, ?_⟩
  rw [text, ← Nat.mod_eq_iff_lt (by decide)]
  refine ⟨fun same => ?_, congrArg toString⟩
  have digits := congrArg (Nat.ofDigitChars 10 · 0) (String.ofList_injective same)
  simpa only [Nat.ofDigitChars_ten_toDigits] using digits

/-- As a signed number, `messageTtlMs` is exact and positive iff the milliseconds are below
`2 ^ 63`. -/
theorem messageTtlMs_signed (positive : 0 < s.messageTtlSecs.toNat) :
    s.messageTtlMs.toInt64.toInt = Int.bmod (s.messageTtlSecs.toNat * 1000 : Nat) (2 ^ 64) ∧
      (0 < s.messageTtlMs.toInt64.toInt ∧
          s.messageTtlMs.toInt64.toInt = (s.messageTtlSecs.toNat * 1000 : Nat) ↔
        s.messageTtlSecs.toNat * 1000 < 2 ^ 63) := by
  have signed :
      s.messageTtlMs.toInt64.toInt = Int.bmod (s.messageTtlSecs.toNat * 1000 : Nat) (2 ^ 64) := by
    have balanced : s.messageTtlMs.toInt64.toInt = Int.bmod s.messageTtlMs.toNat (2 ^ 64) :=
      BitVec.toInt_eq_toNat_bmod _
    rw [balanced, messageTtlMs_toNat, Int.natCast_emod]
    exact Int.emod_bmod ..
  refine ⟨signed, ?_⟩
  rw [signed]
  generalize total : s.messageTtlSecs.toNat * 1000 = ms
  constructor
  case mp =>
    rintro ⟨-, same⟩
    have below : Int.bmod ms (2 ^ 64) < (((2 ^ 64 : Nat) : Int) + 1) / 2 := Int.bmod_lt (by decide)
    omega
  case mpr =>
    intro fits
    have same : Int.bmod ms (2 ^ 64) = ms := Int.bmod_eq_of_le_mul_two (by omega) (by omega)
    rw [same]
    omega

end AmqpSettings

namespace Amqp

/-! ### What is sent -/

def Command.expiration? : Command → Option String
  | .publish _ _ _ _ properties _ => some properties.expiration
  | _ => none

structure Command.IsTimed (s : AmqpSettings) (c : Command) : Prop where
  message : ∀ text, c.expiration? = some text → text = toString s.messageTtlMs
  queue : ∀ ttl, c.queueTtl? = some ttl → ttl = s.messageTtlMs.toInt64

theorem Command.IsManagement.isTimed {s : AmqpSettings} {c : Command} (management : c.IsManagement s) :
    c.IsTimed s := by
  refine ⟨fun text told => ?_, management.timed⟩
  cases c with
  | publish ch exchange mandatory immediate properties message =>
    have silent := management.silent ch
    rw [isMessageOn, beq_self_eq_true] at silent
    contradiction
  | _ => contradiction

structure Timed (s : AmqpSettings) (a : Amqp) : Prop where
  settings : a.settings = s
  commands : ∀ c ∈ a.commands, c.IsTimed s

namespace Timed

variable {s : AmqpSettings} {a b : Amqp}

theorem append (timed : a.Timed s) (settings : b.settings = a.settings) {sent : List Command}
    (commands : b.commands = a.commands ++ sent) (all : ∀ c ∈ sent, c.IsTimed s) : b.Timed s := by
  refine ⟨settings.trans timed.settings, ?_⟩
  rw [commands, List.forall_mem_append]
  exact ⟨timed.commands, all⟩

theorem manages (timed : a.Timed s) (manages : Manages a b) : b.Timed s := by
  obtain ⟨sent, commands, all⟩ := manages.commands
  rw [timed.settings] at all
  exact timed.append manages.settings commands fun c member => (all c member).isTimed

theorem connect (s : AmqpSettings) (script : Script) : (Amqp.connect s script).2.Timed s := by
  have timed : Timed s
      { settings := s, script, commands := List.replicate script.refuseConnections .refused } := by
    refine ⟨rfl, fun c member => ?_⟩
    rw [List.eq_of_mem_replicate member]
    exact ⟨nofun, nofun⟩
  exact timed.manages (.connect s script)

theorem openSession (timed : a.Timed s) : a.openSession.2.Timed s := by
  have sofar := timed.manages .openChannel
  unfold Amqp.openSession
  split
  · rename_i e b failed
    rwa [failed] at sofar
  · rename_i ch b opened
    rw [opened] at sofar
    have asked : (b.request ch .confirmSelect (.confirmSelect ch)).2.Timed s :=
      sofar.manages (.request _ _ (.untimed (fun _ => rfl) rfl))
    dsimp only
    split
    · exact ⟨asked.settings, asked.commands⟩
    · exact asked

theorem endSession (timed : a.Timed s) (session : Nat) (text : String) :
    (a.endSession session text).Timed s := by
  rcases a.endSession_cases session text with ⟨-, same⟩ | ⟨known, -, -, manages⟩
  · rw [same]
    exact timed
  · have left : Timed s { a with sessions := a.sessions.set session { known with closed := true } } :=
      ⟨timed.settings, timed.commands⟩
    exact left.manages manages

theorem settleNext (timed : a.Timed s) (session : Nat) (sender : Session) (message : Delivery) :
    (a.settleNext session sender message).2.1.Timed s := by
  obtain ⟨-, -, commands⟩ := a.settleNext_state session sender message
  have settings : (a.settleNext session sender message).2.1.settings = a.settings := by
    unfold Amqp.settleNext
    dsimp only [Amqp.settle]
    split <;> rfl
  refine timed.append settings commands (List.forall_mem_singleton.mpr ⟨fun text told => ?_, nofun⟩)
  obtain rfl := Option.some.inj told
  rw [Amqp.properties, timed.settings]

theorem publish (timed : a.Timed s) (session : Nat) (key : Key) (payload : List UInt8) :
    (a.publish session key payload).2.1.Timed s := by
  unfold Amqp.publish
  split
  · exact timed
  · split
    · exact timed
    · split
      · exact timed
      · split
        · exact timed
        · split
          · exact ⟨timed.settings, timed.commands⟩
          · split
            · exact ⟨timed.settings, timed.commands⟩
            · exact timed.settleNext ..

theorem apply (timed : a.Timed s) (op : Op) : (a.apply op).Timed s := by
  cases op with
  | openSession => exact timed.openSession
  | publish session key payload => exact timed.publish session key payload
  | closeSession session | dropSession session => exact timed.endSession session _
  | subscribe _ _ _ | receive _ | cancel _ | settle | close | serverDeliver _ _ | serverCancel _
  | serverCloseChannel _ => exact timed.manages (.apply rfl)

theorem run (timed : a.Timed s) (ops : List Op) : (a.run ops).Timed s := by
  induction ops generalizing a with
  | nil => exact timed
  | cons op ops ih => exact ih (timed.apply op)

end Timed

theorem connect_chosen {s : BrokerSettings} (chosen : s.choice = .amqp) (scripts : BrokerScripts) :
    (Backend.connect s scripts).2 = .amqp (connect s.amqp scripts.amqp).2 := by
  rw [Backend.connect, chosen]

/-- Whatever is done with the broker of valid settings, every message and every queue gets the
configured lifetime modulo `2 ^ 64`. The `expiration` of a message is right iff the milliseconds are
below `2 ^ 64`, and the signed `x-message-ttl` of a queue iff they are below `2 ^ 63`. -/
theorem lifetimes_while_they_fit (s : Settings) (chosen : s.broker.choice = .amqp)
    (valid : s.validate = .ok ()) (scripts : BrokerScripts) :
    let ms := s.broker.amqp.messageTtlSecs.toNat * 1000
    ∃ start, (Backend.connect s.broker scripts).2 = .amqp start ∧
      ∀ ops, ∀ c ∈ (start.run ops).commands,
        (∀ text ∈ c.expiration?,
          text = toString (ms % 2 ^ 64) ∧ (text = toString ms ↔ ms < 2 ^ 64)) ∧
        ∀ ttl ∈ c.queueTtl?,
          ttl.toInt = Int.bmod ms (2 ^ 64) ∧ (0 < ttl.toInt ∧ ttl.toInt = ms ↔ ms < 2 ^ 63) := by
  intro ms
  refine ⟨_, connect_chosen chosen scripts, ?_⟩
  intro ops c member
  have timed := ((Timed.connect s.broker.amqp scripts.amqp).run ops).commands c member
  refine ⟨fun text told => ?_, fun ttl told => ?_⟩
  · rw [timed.message text told]
    exact s.broker.amqp.messageTtlMs_text
  · rw [timed.queue ttl told]
    exact s.broker.amqp.messageTtlMs_signed (Settings.lifetime_positive chosen valid)

/-- The longest lifetime that a queue can have, in whole seconds. -/
theorem lifetimes_while_they_fit_longest :
    let s : Settings :=
      { broker := { choice := .amqp, amqp := { messageTtlSecs := 9223372036854775 } } }
    let a := (connect s.broker.amqp {}).2.run [.openSession,
      .publish 0 (.event "attic" "ann" .drawing) [1], .subscribe 0 (.roomPattern "attic") "ben"]
    (∃ c ∈ a.commands, c.expiration? = some "9223372036854775000") ∧
      ∃ c ∈ a.commands, ∃ ttl, c.queueTtl? = some ttl ∧ ttl.toInt = 9223372036854775000 := by
  intro s a
  obtain ⟨start, connected, lives⟩ := lifetimes_while_they_fit s rfl (by decide) {}
  rw [connect_chosen rfl] at connected
  obtain rfl := Backend.amqp.inj connected
  have total : s.broker.amqp.messageTtlSecs.toNat * 1000 = 9223372036854775000 := by decide
  rw [total] at lives
  have published : ∃ c ∈ a.commands, c.expiration?.isSome := by decide +kernel
  have declared : ∃ c ∈ a.commands, c.queueTtl?.isSome := by decide +kernel
  constructor
  · obtain ⟨c, member, told⟩ := published
    obtain ⟨text, told⟩ := Option.isSome_iff_exists.mp told
    obtain ⟨-, right⟩ := (lives _ c member).1 text told
    have written : toString 9223372036854775000 = "9223372036854775000" := by decide +kernel
    exact ⟨c, member, by rw [told, right.mpr (by decide), written]⟩
  · obtain ⟨c, member, told⟩ := declared
    obtain ⟨ttl, told⟩ := Option.isSome_iff_exists.mp told
    obtain ⟨-, right⟩ := (lives _ c member).2 ttl told
    exact ⟨c, member, ttl, told, (right.mpr (by decide)).2⟩

/-- One second more is still accepted by `validate`, and makes the `x-message-ttl` negative. -/
theorem lifetimes_turn_negative :
    ¬∀ s : Settings, s.broker.choice = .amqp → s.validate = .ok () → ∀ scripts start,
      (Backend.connect s.broker scripts).2 = .amqp start → ∀ ops, ∀ c ∈ (start.run ops).commands,
        (∀ text ∈ c.expiration?, text = toString (s.broker.amqp.messageTtlSecs.toNat * 1000)) ∧
        ∀ ttl ∈ c.queueTtl?,
          0 < ttl.toInt ∧ ttl.toInt = (s.broker.amqp.messageTtlSecs.toNat * 1000 : Nat) := by
  intro kept
  let s : Settings :=
    { broker := { choice := .amqp, amqp := { messageTtlSecs := 9223372036854776 } } }
  have valid : s.validate = .ok () := by decide
  have told := kept s rfl valid {} _ (connect_chosen rfl {})
    [.openSession, .subscribe 0 (.roomPattern "attic") "ben"]
  have declared : ∃ c ∈ ((connect s.broker.amqp {}).2.run
      [.openSession, .subscribe 0 (.roomPattern "attic") "ben"]).commands,
      c.queueTtl? = some (-9223372036854775616) := by decide +kernel
  obtain ⟨c, member, negative⟩ := declared
  have positive := ((told c member).2 _ negative).1
  revert positive
  decide

end Amqp
end RoomRelay
