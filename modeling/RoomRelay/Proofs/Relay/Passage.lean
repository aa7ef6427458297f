import RoomRelay.Proofs.Event.Codec
import RoomRelay.Proofs.Event.Wire
import RoomRelay.Proofs.Key.Codec
import RoomRelay.World
import RoomRelay.Broker.Channel

/-!
An event from `publishEvent` to `Relay.step`: the bytes are decoded to the same event, which is
forwarded, or excluded if it is the reader's own.
-/
namespace RoomRelay

namespace Event

theorem key?_of_kind {e : Event} {kind : Kind} (kinded : e.payload.kind? = some kind) :
    e.key? = some (.event e.inRoom e.byUser kind) := by
  rw [key?, kinded]
  rfl

theorem message_of_kind {e : Event} {kind : Kind} (kinded : e.payload.kind? = some kind) :
    e.message = .ok (.event e.inRoom e.byUser kind, e.encode) := by
  rw [message, key?_of_kind kinded]

theorem message_of_occupancy {e : Event} {count : UInt32} (counted : e.payload = .occupancy count) :
    e.message = .error .unroutable := by
  simp only [message, key?, counted, Payload.kind?, Option.map_none]

theorem kinded_of_published {e : Event} (published : ∀ count, e.payload ≠ .occupancy count) :
    ∃ kind, e.payload.kind? = some kind := by
  cases made : e.payload with
  | drawing d => exact ⟨.drawing, rfl⟩
  | userJoined => exact ⟨.userJoined, rfl⟩
  | userLeft => exact ⟨.userLeft, rfl⟩
  | occupancy count => exact absurd made (published count)

end Event

namespace Relay

theorem decode_encode {e : Event} (short : e.encode.length < Word.size64) :
    decode e.encode = .ok (.ofDomain e) := by
  have read : Wire.Event.decode? e.encode = some (.ofDomain e) := by
    have fit : (Wire.Event.ofDomain e).fits = true := Wire.Event.fits_of_length short
    rw [Event.encode, Wire.Event.decode?_encode, if_pos fit]
  simp only [decode, read, Wire.toDomain_ofDomain]

/-- `step` forwards the record of a published event, or excludes it if the event is the reader's
own. -/
theorem step_published {e : Event} {kind : Kind} (room : Topic.separator ∉ e.inRoom.toList)
    (user : Topic.separator ∉ e.byUser.toList) (short : e.encode.length < Word.size64)
    (reader : String) :
    step reader ⟨(Key.event e.inRoom e.byUser kind).encode, e.encode⟩ =
      if e.byUser = reader then .exclude else .forward (.ofDomain e) := by
  have key : Key.decode (Key.event e.inRoom e.byUser kind).encode =
      .ok (.event e.inRoom e.byUser kind) := Key.decode_encode ⟨room, user⟩
  simp only [step, key, decode_encode short]
  rfl

variable {β : Type} [Broker β]

/-- `publishEvent` hands a session the topic and the bytes of the event, and `step` reads the event
back from these. An occupancy is `unroutable` and changes nothing. The bound `2 ^ 64` holds for all
byte sequences in memory. -/
theorem published_events_come_through (w : World β) (session : Nat) (e : Event) :
    (∀ count, e.payload = .occupancy count →
      w.publishEvent session e = (.error .unroutable, w)) ∧
    ((∀ count, e.payload ≠ .occupancy count) →
      ∃ kind, e.payload.kind? = some kind ∧
        w.publishEvent session e =
          w.publish session (.event e.inRoom e.byUser kind) e.encode ∧
        (Topic.separator ∉ e.inRoom.toList → Topic.separator ∉ e.byUser.toList →
          e.encode.length < Word.size64 → ∀ reader,
            step reader ⟨(Key.event e.inRoom e.byUser kind).encode, e.encode⟩ =
              if e.byUser = reader then .exclude else .forward (.ofDomain e))) ∧
    (Wire.Event.ofDomain e).toDomain = .ok e := by
  refine ⟨?_, ?_, Wire.toDomain_ofDomain e⟩
  · intro count counted
    rw [World.publishEvent, Event.message_of_occupancy counted]
  · intro published
    obtain ⟨kind, kinded⟩ := Event.kinded_of_published published
    refine ⟨kind, kinded, ?_, fun room user short reader => step_published room user short reader⟩
    rw [World.publishEvent, Event.message_of_kind kinded]

/-- Arrays of different lengths with a NaN and a negative zero, drawn before the epoch. -/
def smudge : Event :=
  ⟨-1, "Zoë", "*", .drawing ⟨[0x7fc00001], [], [0x80000000, 1], [0], .white⟩⟩

theorem published_events_come_through_smudge :
    step "Ann" ⟨"hc.wb.1.evt.*.Zoë.drawing", smudge.encode⟩ = .forward (.ofDomain smudge) ∧
      step "Zoë" ⟨"hc.wb.1.evt.*.Zoë.drawing", smudge.encode⟩ = .exclude := by
  have drawn : ∀ count, smudge.payload ≠ .occupancy count := nofun
  have short : smudge.encode.length < Word.size64 := by decide +kernel
  obtain ⟨kind, kinded, -, read⟩ :=
    (published_events_come_through ({ broker := {}, clock := 0 } : World Channel) 0 smudge).2.1 drawn
  obtain rfl : kind = .drawing := (Option.some.inj kinded).symm
  have topic : "hc.wb.1.evt.*.Zoë.drawing" = (Key.event smudge.inRoom smudge.byUser .drawing).encode := by
    decide +kernel
  have reads := read (by decide) (by decide) short
  rw [topic, reads "Ann", reads "Zoë"]
  decide +kernel

end Relay
end RoomRelay
