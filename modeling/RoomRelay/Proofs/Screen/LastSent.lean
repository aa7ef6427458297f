import Mathlib.Data.List.Basic
import Mathlib.Data.List.Induction
import RoomRelay.Proofs.Screen.Showing

/-!
`recvScreen` shows the screen that `sendScreen` accepted last for the room (`latest?`), until it
expires. Calls for other rooms, look-ups and refused screens have no effect on it.
-/

namespace RoomRelay

theorem screenKey_injective {room room' : String} (same : screenKey room = screenKey room') :
    room = room' := by
  have letters := congrArg String.toList same
  rw [screenKey, screenKey, String.toList_append, String.toList_append] at letters
  exact String.toList_inj.mp (List.append_cancel_left letters)

inductive ScreenCall where
  | send (headers : Headers) (room : String) (png : List UInt8)
  | recv (room : String)

namespace ScreenCall

def isAccepted (headers : Headers) (room : String) (png : List UInt8) : Bool :=
  headers.identity.isOk && Topic.isSegment room && !png.isEmpty

/-- The time and the screen of a call that stores one for `room`. -/
def stored? (room : String) : Nat × ScreenCall → Option (Nat × List UInt8)
  | (now, send headers r png) => if r = room ∧ isAccepted headers r png then some (now, png) else none
  | (_, recv _) => none

/-- The screen that was stored last for `room`, unless it has expired. -/
def latest? (ttl : Nat) (room : String) (calls : List (Nat × ScreenCall)) (now : Nat) :
    Option (List UInt8) :=
  ((calls.filterMap (stored? room)).getLast?.filter fun sent => now < sent.1 + ttl).map Prod.snd

theorem latest?_snoc_none {room : String} {call : Nat × ScreenCall} (nothing : stored? room call = none)
    (ttl : Nat) (calls : List (Nat × ScreenCall)) (now : Nat) :
    latest? ttl room (calls ++ [call]) now = latest? ttl room calls now := by
  rw [latest?, List.filterMap_append, List.filterMap_cons_none nothing, List.filterMap_nil,
    List.append_nil, latest?]

theorem latest?_snoc_some {room : String} {call : Nat × ScreenCall} {at_ : Nat} {png : List UInt8}
    (something : stored? room call = some (at_, png)) (ttl : Nat) (calls : List (Nat × ScreenCall))
    (now : Nat) :
    latest? ttl room (calls ++ [call]) now = if now < at_ + ttl then some png else none := by
  rw [latest?, List.filterMap_append, List.filterMap_cons_some something, List.filterMap_nil,
    List.getLast?_concat, Option.filter_some]
  by_cases fresh : now < at_ + ttl <;> simp [fresh]

/-- `latest?` depends only on the calls that store for the room. -/
theorem latest?_filter {room : String} {calls : List (Nat × ScreenCall)}
    {kept : Nat × ScreenCall → Bool}
    (keeps : ∀ call ∈ calls, (stored? room call).isSome = true → kept call = true) (ttl now : Nat) :
    latest? ttl room (calls.filter kept) now = latest? ttl room calls now := by
  rw [latest?, latest?, List.filterMap_filter]
  congr 3
  apply List.filterMap_congr
  intro call member
  cases brought : stored? room call with
  | none => exact ite_self none
  | some sent => rw [if_pos (keeps call member (by rw [brought]; rfl))]

end ScreenCall

namespace ScreenService

open ScreenCall

variable {κ : Type} [ScreenCache κ]

def apply (s : ScreenService) (cache : κ) : Nat × ScreenCall → κ
  | (now, .send headers room png) => (s.sendScreen cache now headers room png).2
  | (now, .recv room) => (recvScreen cache now room).2

def after (s : ScreenService) (cache : κ) (calls : List (Nat × ScreenCall)) : κ :=
  calls.foldl s.apply cache

theorem checkSend_ok_iff (s : ScreenService) (now : Nat) (headers : Headers) (room : String)
    (png : List UInt8) :
    s.checkSend now headers room png = .ok () ↔ isAccepted headers room png = true := by
  unfold checkSend isAccepted checkRoom Scope.prepare Scope.requireUser
  cases headers.identity with
  | error e => simp [Except.map, Except.isOk, Except.toBool]
  | ok user =>
    by_cases segment : Topic.isSegment room = true <;>
      cases png <;> simp [Except.map, Except.isOk, Except.toBool, segment]

theorem recvScreen_memory {room : String} (segment : Topic.isSegment room = true) (m : MemoryCache)
    (now : Nat) :
    recvScreen m now room =
      (.ok ((m.entries.shown (screenKey room) now).getD []), (m.get (screenKey room) now).2) := by
  simp only [recvScreen, checkRoom, segment, if_true, ScreenCache.get, Prod.map_fst, Prod.map_snd,
    m.get_answer]
  rfl

theorem recvScreen_refused {room : String} (other : Topic.isSegment room = false) (cache : κ)
    (now : Nat) : recvScreen cache now room = (.error (.badRequest .badRoom), cache) := by
  simp only [recvScreen, checkRoom, other, Bool.false_eq_true, if_false]

theorem sendScreen_memory (s : ScreenService) (m : MemoryCache) (now : Nat) (headers : Headers)
    (room : String) (png : List UInt8) :
    s.sendScreen m now headers room png =
      (s.checkSend now headers room png,
        if isAccepted headers room png then m.set (screenKey room) png now s.ttl else m) := by
  unfold sendScreen
  cases checked : s.checkSend now headers room png with
  | error e =>
    have refused : isAccepted headers room png = false := by
      rw [← Bool.not_eq_true, ← s.checkSend_ok_iff now, checked]
      exact nofun
    simp only [refused, Bool.false_eq_true, if_false]
  | ok done =>
    simp only [(s.checkSend_ok_iff now headers room png).mp checked, if_true]
    rfl

/-- After any calls the memory shows `latest?` for each room. -/
theorem shown_after (s : ScreenService) (room : String) {calls : List (Nat × ScreenCall)} {now : Nat}
    (earlier : ∀ call ∈ calls, call.1 ≤ now) :
    (s.after ({} : MemoryCache) calls).entries.shown (screenKey room) now =
      latest? s.ttl room calls now := by
  induction calls using List.reverseRecOn with
  | nil => rfl
  | append_singleton calls call ih =>
    obtain ⟨before, here⟩ := List.forall_mem_append.mp earlier
    have sofar := ih before
    rw [after, List.foldl_append, List.foldl_cons, List.foldl_nil]
    obtain ⟨time, call⟩ := call
    cases call with
    | recv other =>
      rw [latest?_snoc_none rfl, ← sofar, apply]
      cases segment : Topic.isSegment other with
      | false => rw [recvScreen_refused segment, after]
      | true =>
        rw [recvScreen_memory segment]
        exact MemoryCache.get_shown _ _ _ (here _ List.mem_cons_self)
    | send headers other png =>
      rw [apply, sendScreen_memory]
      cases accepted : isAccepted headers other png with
      | false =>
        have nothing : stored? room (time, .send headers other png) = none := by simp [stored?, accepted]
        rw [latest?_snoc_none nothing, ← sofar, if_neg Bool.false_ne_true, after]
      | true =>
        rw [if_pos rfl, MemoryCache.set_shown]
        by_cases same : other = room
        · subst same
          have something : stored? other (time, .send headers other png) = some (time, png) := by
            simp [stored?, accepted]
          rw [latest?_snoc_some something, if_pos rfl]
        · have nothing : stored? room (time, .send headers other png) = none := by simp [stored?, same]
          rw [latest?_snoc_none nothing, ← sofar, if_neg fun key => same (screenKey_injective key).symm,
            after]

/-- After any calls `recvScreen` answers the screen that was accepted last for the room, unless that
has expired. Whether a screen is accepted depends on no other call, and calls that store nothing for
the room can be left out. -/
theorem last_sent_screen_is_shown (s : ScreenService) {calls : List (Nat × ScreenCall)} {now : Nat}
    (earlier : ∀ call ∈ calls, call.1 ≤ now) :
    let m := s.after ({} : MemoryCache) calls
    (∀ headers room png, (s.sendScreen m now headers room png).1 = s.checkSend now headers room png ∧
      ((s.sendScreen m now headers room png).1 = .ok () ↔ isAccepted headers room png = true)) ∧
    ∀ room, Topic.isSegment room = true →
      (recvScreen m now room).1 = .ok ((latest? s.ttl room calls now).getD []) ∧
      ∀ kept : Nat × ScreenCall → Bool,
        (∀ call ∈ calls, (stored? room call).isSome = true → kept call = true) →
        (recvScreen (s.after ({} : MemoryCache) (calls.filter kept)) now room).1 =
          (recvScreen m now room).1 := by
  intro m
  refine ⟨fun headers room png => ?answers, fun room segment => ⟨?shows, fun kept keeps => ?alone⟩⟩
  case answers =>
    rw [sendScreen_memory]
    exact ⟨rfl, s.checkSend_ok_iff now headers room png⟩
  case shows => rw [recvScreen_memory segment, s.shown_after room earlier]
  case alone =>
    have earlier' : ∀ call ∈ calls.filter kept, call.1 ≤ now :=
      fun call member => earlier call (List.mem_of_mem_filter member)
    rw [recvScreen_memory segment, recvScreen_memory segment, s.shown_after room earlier',
      s.shown_after room earlier, latest?_filter keeps]

/-- The second screen of the attic is shown for its whole second, whatever else is sent, and not a
millisecond longer. -/
theorem last_sent_screen_is_shown_attic :
    let ann : Headers := [("x-user", [97, 110, 110])]
    let s : ScreenService := { ttl := 1000 }
    let calls : List (Nat × ScreenCall) :=
      [(0, .send ann "attic" [1]), (500, .send ann "attic" [2]), (600, .send [] "attic" [3]),
        (700, .recv "attic"), (800, .send ann "cellar" [4])]
    (recvScreen (s.after ({} : MemoryCache) calls) 1499 "attic").1 = .ok [2] ∧
      (recvScreen (s.after ({} : MemoryCache) calls) 1500 "attic").1 = .ok [] := by
  intro ann s calls
  have before : ∀ call ∈ calls, call.1 ≤ 1499 := by decide
  have later : ∀ call ∈ calls, call.1 ≤ 1500 := by decide
  have segment : Topic.isSegment "attic" = true := by decide
  have shown := ((last_sent_screen_is_shown s before).2 "attic" segment).1
  have gone := ((last_sent_screen_is_shown s later).2 "attic" segment).1
  have latest : latest? s.ttl "attic" calls 1499 = some [2] := by decide +kernel
  have none_left : latest? s.ttl "attic" calls 1500 = none := by decide +kernel
  rw [latest] at shown
  rw [none_left] at gone
  exact ⟨shown, gone⟩

end ScreenService
end RoomRelay
