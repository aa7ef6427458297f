import RoomRelay.Proofs.Key.Codec
import RoomRelay.Proofs.Validation.Rules
import RoomRelay.Text.Utf8

/-!
`Headers.identity` byte by byte. Its checks of the header's value amount to `IsNameByte` for every
byte, and a name of such bytes passes every later check of a name.
-/

namespace RoomRelay

/-! ### Bytes and their letters -/

def reservedBytes : List UInt8 := [0x2E, 0x2F, 0x2A, 0x3E, 0x23]

/-- Visible ASCII without the `reservedBytes`. -/
def IsNameByte (b : UInt8) : Prop := 0x21 ≤ b ∧ b ≤ 0x7E ∧ b ∉ reservedBytes

def IsBlankByte (b : UInt8) : Prop := b = 0x09 ∨ b = 0x20

def IsTextByte (b : UInt8) : Prop := IsBlankByte b ∨ 0x21 ≤ b ∧ b ≤ 0x7E

def letter (b : UInt8) : Char := Char.ofNat b.toNat

section
variable (b : UInt8)

instance : Decidable (IsNameByte b) := inferInstanceAs (Decidable (_ ∧ _))

instance : Decidable (IsBlankByte b) := inferInstanceAs (Decidable (_ ∨ _))

instance : Decidable (IsTextByte b) := inferInstanceAs (Decidable (_ ∨ _))

end

theorem forall_byte_iff {p : UInt8 → Prop} : (∀ n : Fin 256, p (UInt8.ofNat n)) ↔ ∀ b, p b := by
  refine ⟨fun all b => ?_, fun all n => all _⟩
  have here := all ⟨b.toNat, b.toNat_lt⟩
  rwa [UInt8.ofNat_toNat] at here

section

-- Only here: a statement about the bytes of a list is not to be decided by trying all bytes.
local instance decidableForallByte {p : UInt8 → Prop} [DecidablePred p] : Decidable (∀ b, p b) :=
  decidable_of_iff _ forall_byte_iff

theorem isPrintable_iff : ∀ b, isPrintable b = true ↔ IsTextByte b := by decide +kernel

theorem isBlankChar_letter : ∀ b, IsTextByte b →
    (Text.isBlankChar (letter b) = true ↔ IsBlankByte b) := by decide +kernel

theorem reserved_letter : ∀ b, Topic.reserved.contains (letter b) = true ↔ b ∈ reservedBytes := by
  decide +kernel

theorem utf8_letter : ∀ b, IsTextByte b → String.utf8EncodeChar (letter b) = [b] := by decide +kernel

theorem isNameByte_iff : ∀ b, IsNameByte b ↔ IsTextByte b ∧ ¬IsBlankByte b ∧ b ∉ reservedBytes := by
  decide +kernel

end

/-! ### Values -/

theorem toList_asciiText (value : List UInt8) : (asciiText value).toList = value.map letter :=
  String.toList_ofList

theorem asciiText_isEmpty {value : List UInt8} : (asciiText value).isEmpty = true ↔ value = [] := by
  rw [String.isEmpty_iff, ← String.toList_inj, toList_asciiText]
  simp

/-- `asciiText` keeps the bytes. -/
theorem utf8_asciiText {value : List UInt8} (text : ∀ b ∈ value, IsTextByte b) :
    Text.utf8 (asciiText value) = value := by
  have letters : (value.map letter).flatMap String.utf8EncodeChar = value := by
    induction value with
    | nil => rfl
    | cons b value ih =>
      obtain ⟨here, later⟩ := List.forall_mem_cons.mp text
      rw [List.map_cons, List.flatMap_cons, utf8_letter b here, ih later, List.singleton_append]
  have bytes : (asciiText value).toUTF8 = value.toByteArray := congrArg List.toByteArray letters
  rw [Text.utf8, bytes, List.data_toByteArray]

theorem Text.utf8_injective {s t : String} (same : Text.utf8 s = Text.utf8 t) : s = t := by
  rw [Text.utf8, Text.utf8] at same
  exact String.toByteArray_inj.mp (ByteArray.ext (Array.toList_inj.mp same))

theorem isSafe_asciiText {value : List UInt8} (text : ∀ b ∈ value, IsTextByte b) :
    Topic.isSafe (asciiText value) = true ↔ ∀ b ∈ value, IsNameByte b := by
  rw [Topic.isSafe, toList_asciiText, List.all_map, List.all_eq_true]
  refine forall₂_congr fun b member => ?_
  rw [isNameByte_iff, ← isBlankChar_letter b (text b member), ← reserved_letter]
  simp [text b member, and_comm]

theorem hasBlankEdge_asciiText {value : List UInt8} (text : ∀ b ∈ value, IsTextByte b) :
    Text.hasBlankEdge (asciiText value) = true ↔
      ∃ b, (b ∈ value.head? ∨ b ∈ value.getLast?) ∧ IsBlankByte b := by
  have edge : ∀ b ∈ value, Text.isBlankChar (letter b) = true ↔ IsBlankByte b := fun b member =>
    isBlankChar_letter b (text b member)
  rw [Text.hasBlankEdge, toList_asciiText, List.head?_map, List.getLast?_map]
  simp only [Option.any_map, Bool.or_eq_true, Option.any_eq_true, or_and_right,
    exists_or]
  refine or_congr (exists_congr fun b => ?_) (exists_congr fun b => ?_)
  · exact and_congr_right fun first => edge b (List.mem_of_head? first)
  · exact and_congr_right fun last => edge b (List.mem_of_getLast? last)

/-! ### Headers that name their caller -/

namespace Headers

/-- `identityHeader` has the single value `user`, all of it name bytes. -/
def Names (h : Headers) (user : String) : Prop :=
  ∃ value, h.values identityHeader = [value] ∧ value ≠ [] ∧ (∀ b ∈ value, IsNameByte b) ∧
    Text.utf8 user = value

/-- The errors of `identity`, each with its headers. -/
inductive Unnamed (h : Headers) : Forbidden → Prop where
  | missing (none : h.values identityHeader = []) : Unnamed h .missing
  | repeated {value value' : List UInt8} {more : List (List UInt8)}
    (several : h.values identityHeader = value :: value' :: more) : Unnamed h .repeated
  | notPrintable {value : List UInt8} {b : UInt8} (one : h.values identityHeader = [value])
    (member : b ∈ value) (other : ¬IsTextByte b) : Unnamed h .notPrintable
  | empty (one : h.values identityHeader = [[]]) : Unnamed h .empty
  | padded {value : List UInt8} {b : UInt8} (one : h.values identityHeader = [value])
    (text : ∀ b ∈ value, IsTextByte b) (edge : b ∈ value.head? ∨ b ∈ value.getLast?)
    (blank : IsBlankByte b) : Unnamed h .padded
  | reserved {value : List UInt8} {b : UInt8} (one : h.values identityHeader = [value])
    (text : ∀ b ∈ value, IsTextByte b)
    (edges : ∀ b, b ∈ value.head? ∨ b ∈ value.getLast? → ¬IsBlankByte b) (member : b ∈ value)
    (bad : IsBlankByte b ∨ b ∈ reservedBytes) : Unnamed h .reserved

variable {h : Headers}

theorem identity_of_one {value : List UInt8} (one : h.values identityHeader = [value]) :
    h.identity = identityOf value := by
  rw [identity, one]

theorem identityOf_text {value : List UInt8} (text : ∀ b ∈ value, IsTextByte b) :
    identityOf value =
      if (asciiText value).isEmpty then .error .empty
      else if Text.hasBlankEdge (asciiText value) then .error .padded
      else if Topic.isSafe (asciiText value) then .ok (asciiText value) else .error .reserved := by
  have printable : value.all isPrintable = true :=
    List.all_eq_true.mpr fun b member => (isPrintable_iff b).mpr (text b member)
  cases safe : Topic.isSafe (asciiText value) <;> simp [identityOf, printable, safe]

theorem identityOf_name {value : List UInt8} (some : value ≠ []) (name : ∀ b ∈ value, IsNameByte b) :
    identityOf value = .ok (asciiText value) := by
  have text : ∀ b ∈ value, IsTextByte b := fun b member => ((isNameByte_iff b).mp (name b member)).1
  have unpadded : ¬Text.hasBlankEdge (asciiText value) = true := by
    rw [hasBlankEdge_asciiText text]
    rintro ⟨b, edge, blank⟩
    have member : b ∈ value := edge.elim List.mem_of_head? List.mem_of_getLast?
    exact ((isNameByte_iff b).mp (name b member)).2.1 blank
  rw [identityOf_text text, if_neg (mt asciiText_isEmpty.mp some), if_neg unpadded,
    if_pos ((isSafe_asciiText text).mpr name)]

theorem identity_of_names {user : String} (names : h.Names user) : h.identity = .ok user := by
  obtain ⟨value, one, some, name, same⟩ := names
  have text : ∀ b ∈ value, IsTextByte b := fun b member => ((isNameByte_iff b).mp (name b member)).1
  rw [identity_of_one one, identityOf_name some name,
    Text.utf8_injective ((utf8_asciiText text).trans same.symm)]

theorem identity_of_unnamed {why : Forbidden} (unnamed : h.Unnamed why) : h.identity = .error why := by
  cases unnamed with
  | missing none => rw [identity, none]
  | repeated several => rw [identity, several]
  | @notPrintable value b one member other =>
    have found : value.all isPrintable = false :=
      List.all_eq_false.mpr ⟨b, member, fun printable => other ((isPrintable_iff b).mp printable)⟩
    rw [identity_of_one one, identityOf, found]
    rfl
  | empty one =>
    rw [identity_of_one one]
    rfl
  | @padded value b one text edge blank =>
    have some : value ≠ [] := by
      rintro rfl
      simp at edge
    rw [identity_of_one one, identityOf_text text, if_neg (mt asciiText_isEmpty.mp some),
      if_pos ((hasBlankEdge_asciiText text).mpr ⟨b, edge, blank⟩)]
  | @reserved value b one text edges member bad =>
    have unpadded : ¬Text.hasBlankEdge (asciiText value) = true := by
      rw [hasBlankEdge_asciiText text]
      rintro ⟨b, edge, blank⟩
      exact edges b edge blank
    have unsafe_ : ¬Topic.isSafe (asciiText value) = true := by
      rw [isSafe_asciiText text]
      intro name
      obtain ⟨-, visible, unreserved⟩ := (isNameByte_iff b).mp (name b member)
      exact bad.elim visible unreserved
    rw [identity_of_one one, identityOf_text text,
      if_neg (mt asciiText_isEmpty.mp (List.ne_nil_of_mem member)), if_neg unpadded, if_neg unsafe_]

theorem named_or_unnamed (h : Headers) : (∃ user, h.Names user) ∨ ∃ why, h.Unnamed why := by
  match one : h.values identityHeader with
  | [] => exact .inr ⟨_, .missing one⟩
  | value :: value' :: more => exact .inr ⟨_, .repeated one⟩
  | [[]] => exact .inr ⟨_, .empty one⟩
  | [b :: bs] =>
    by_cases text : ∀ b' ∈ b :: bs, IsTextByte b'
    case neg =>
      push Not at text
      obtain ⟨b', member, other⟩ := text
      exact .inr ⟨_, .notPrintable one member other⟩
    by_cases edges : ∀ b', b' ∈ (b :: bs).head? ∨ b' ∈ (b :: bs).getLast? → ¬IsBlankByte b'
    case neg =>
      push Not at edges
      obtain ⟨b', edge, blank⟩ := edges
      exact .inr ⟨_, .padded one text edge blank⟩
    by_cases name : ∀ b' ∈ b :: bs, IsNameByte b'
    case neg =>
      push Not at name
      obtain ⟨b', member, other⟩ := name
      refine .inr ⟨_, .reserved one text edges member ?_⟩
      by_contra neither
      obtain ⟨visible, unreserved⟩ := not_or.mp neither
      exact other ((isNameByte_iff b').mpr ⟨text b' member, visible, unreserved⟩)
    exact .inl ⟨asciiText (b :: bs), b :: bs, one, List.cons_ne_nil _ _, name, utf8_asciiText text⟩

theorem identity_eq_ok_iff {user : String} : h.identity = .ok user ↔ h.Names user := by
  refine ⟨fun known => ?_, identity_of_names⟩
  rcases h.named_or_unnamed with ⟨other, names⟩ | ⟨why, unnamed⟩
  · rw [identity_of_names names] at known
    rwa [← Except.ok.inj known]
  · rw [identity_of_unnamed unnamed] at known
    contradiction

theorem identity_eq_error_iff {why : Forbidden} : h.identity = .error why ↔ h.Unnamed why := by
  refine ⟨fun unknown => ?_, identity_of_unnamed⟩
  rcases h.named_or_unnamed with ⟨user, names⟩ | ⟨other, unnamed⟩
  · rw [identity_of_names names] at unknown
    contradiction
  · rw [identity_of_unnamed unnamed] at unknown
    rwa [← Except.error.inj unknown]

end Headers

/-! ### Scopes -/

namespace Scope

inductive Granted (headers : Headers) (options : ScopeOptions) (now limit : Nat) : Scope → Prop where
  | anonymous (allowed : options.allowAnonymous = true) : Granted headers options now limit ⟨none, none⟩
  | unlimited {user : String} (required : options.allowAnonymous = false) (names : headers.Names user)
    (suppressed : options.suppressDeadline = true) : Granted headers options now limit ⟨some user, none⟩
  | limited {user : String} (required : options.allowAnonymous = false) (names : headers.Names user)
    (kept : options.suppressDeadline = false) :
    Granted headers options now limit ⟨some user, some (now + limit)⟩

variable {headers : Headers} {options : ScopeOptions} {now limit : Nat} {scope : Scope}

theorem prepare_required (required : options.allowAnonymous = false) (now limit : Nat) :
    prepare headers options now limit = headers.identity.map fun user =>
      ⟨some user, if options.suppressDeadline then none else some (now + limit)⟩ := by
  rw [prepare, required, if_neg Bool.false_ne_true]

theorem prepare_eq_ok_iff :
    prepare headers options now limit = .ok scope ↔ Granted headers options now limit scope := by
  cases required : options.allowAnonymous with
  | true =>
    rw [prepare, if_pos required]
    constructor
    · rintro ⟨rfl⟩
      exact .anonymous required
    · rintro (_ | ⟨required', _, _⟩ | ⟨required', _, _⟩)
      · rfl
      all_goals exact nomatch required.symm.trans required'
  | false =>
    rw [prepare_required required]
    constructor
    · intro prepared
      obtain ⟨user, known, rfl⟩ : ∃ user, headers.identity = .ok user ∧ _ = scope := by
        cases known : headers.identity with
        | error why =>
          rw [known] at prepared
          contradiction
        | ok user =>
          rw [known] at prepared
          exact ⟨user, rfl, Except.ok.inj prepared⟩
      have names := Headers.identity_eq_ok_iff.mp known
      cases kept : options.suppressDeadline with
      | true => exact .unlimited required names kept
      | false => exact .limited required names kept
    · rintro (allowed | ⟨_, names, suppressed⟩ | ⟨_, names, kept⟩)
      · exact nomatch allowed.symm.trans required
      · rw [Headers.identity_of_names names, suppressed]
        rfl
      · rw [Headers.identity_of_names names, kept]
        rfl

theorem prepare_eq_error_iff {why : Forbidden} :
    prepare headers options now limit = .error why ↔
      options.allowAnonymous = false ∧ headers.Unnamed why := by
  rw [← Headers.identity_eq_error_iff]
  cases required : options.allowAnonymous with
  | true => simp [prepare, required]
  | false =>
    rw [prepare_required required]
    cases headers.identity <;> simp [Except.map]

/-- `prepare` grants a scope iff the options allow anonymous callers or the headers `Names` the
caller; otherwise its error is the `Unnamed` reason. A user that it grants passes `checkSegment`, is
never an `unsafeCaller`, and is decoded from every key with a room that passes as well. -/
theorem prepare_is_exact (headers : Headers) (options : ScopeOptions) (now limit : Nat) :
    (∀ scope, prepare headers options now limit = .ok scope ↔ Granted headers options now limit scope) ∧
    (∀ why, prepare headers options now limit = .error why ↔
      options.allowAnonymous = false ∧ headers.Unnamed why) ∧
    ∀ scope user, prepare headers options now limit = .ok scope → scope.user = some user →
      Key.checkSegment user = .ok () ∧
      (∀ (req : SendRequest) policy, req.validate user policy ≠ .error .unsafeCaller) ∧
      ∀ room kind, Key.checkSegment room = .ok () →
        Key.decode (Key.event room user kind).encode = .ok (Key.event room user kind) := by
  refine ⟨fun scope => prepare_eq_ok_iff, fun why => prepare_eq_error_iff, ?gates⟩
  intro scope user prepared known
  have segment := Headers.identity_segment (prepare_identity prepared known)
  refine ⟨if_pos segment, ?validated, ?read⟩
  case validated =>
    intro req policy refused
    have checked : req.Checked user policy 14 (req.validate user policy) := SendRequest.validate_checked
    rw [refused] at checked
    exact checked.1 segment
  case read =>
    intro room kind checked
    have roomSegment : Topic.isSegment room = true := by
      by_contra other
      rw [Key.checkSegment, if_neg other] at checked
      contradiction
    exact Key.decode_encode ⟨Topic.plain_of_isSafe (Topic.isSafe_of_isSegment roomSegment),
      Topic.plain_of_isSafe (Topic.isSafe_of_isSegment segment)⟩

/-- A name of visible characters up to `~` is granted as it stands. -/
theorem prepare_is_exact_tilde :
    let headers : Headers := [("x-user", [0x21, 0x30, 0x7E])]
    let scope : Scope := ⟨some "!0~", some 507⟩
    prepare headers {} 7 500 = .ok scope ∧ scope.user = some "!0~" ∧
      Key.checkSegment "!0~" = .ok () ∧ Key.checkSegment "attic" = .ok () ∧
      Key.decode (Key.event "attic" "!0~" .drawing).encode = .ok (Key.event "attic" "!0~" .drawing) := by
  intro headers scope
  obtain ⟨granted, -, gates⟩ := prepare_is_exact headers {} 7 500
  have names : headers.Names "!0~" :=
    ⟨[0x21, 0x30, 0x7E], by decide, by decide, by decide +kernel, by decide +kernel⟩
  have prepared := (granted scope).mpr (.limited rfl names rfl)
  have room : Key.checkSegment "attic" = .ok () := by decide
  obtain ⟨segment, -, read⟩ := gates scope "!0~" prepared rfl
  exact ⟨prepared, rfl, segment, room, read "attic" .drawing room⟩

end Scope
end RoomRelay
