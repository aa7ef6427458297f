import Mathlib.Data.List.Basic
import RoomRelay.Settings

/-!
The addresses `AmqpSettings.uri` and `RedisSettings.url`. Their parts are not escaped, so a separator
within a part moves the boundary. `IsLegible` settings are those that come back when every part is
ended as early as possible: on these the addresses are injective, and all other settings share theirs
with legible ones.
-/
namespace RoomRelay

/-! ### Texts cut at a character -/

namespace Text

variable {c : Char} {xs ys xs' ys' : List Char}

theorem cut_first (same : xs ++ c :: ys = xs' ++ c :: ys') (plain : c ∉ xs) (plain' : c ∉ xs') :
    xs = xs' ∧ ys = ys' := by
  induction xs generalizing xs' with
  | nil =>
    cases xs' with
    | nil => exact ⟨rfl, (List.cons.inj same).2⟩
    | cons x' xs' => exact absurd ((List.cons.inj same).1 ▸ List.mem_cons_self) plain'
  | cons x xs ih =>
    cases xs' with
    | nil => exact absurd ((List.cons.inj same).1 ▸ List.mem_cons_self) plain
    | cons x' xs' =>
      obtain ⟨head, tail⟩ := List.cons.inj same
      obtain ⟨front, back⟩ := ih tail (fun inside => plain (List.mem_cons_of_mem _ inside))
        (fun inside => plain' (List.mem_cons_of_mem _ inside))
      exact ⟨by rw [head, front], back⟩

theorem cut_last (same : xs ++ c :: ys = xs' ++ c :: ys') (plain : c ∉ ys) (plain' : c ∉ ys') :
    xs = xs' ∧ ys = ys' := by
  have turned : ys.reverse ++ c :: xs.reverse = ys'.reverse ++ c :: xs'.reverse := by
    simpa using congrArg List.reverse same
  have cut := cut_first turned (by simpa using plain) (by simpa using plain')
  simpa [and_comm] using cut

end Text

/-! ### Numbers in addresses -/

theorem notMem_digits {c : Char} {n : Nat} (sign : c.isDigit = false) : c ∉ Nat.toDigits 10 n := by
  intro inside
  have digit := Nat.isDigit_of_mem_toDigits (by decide) (by decide) inside
  rw [sign] at digit
  contradiction

theorem digits_injective {m n : Nat} (same : Nat.toDigits 10 m = Nat.toDigits 10 n) : m = n := by
  have numbers := congrArg (Nat.ofDigitChars 10 · 0) same
  simpa only [Nat.ofDigitChars_ten_toDigits] using numbers

def portText (port : UInt16) : List Char := (toString port).toList

theorem portText_eq (port : UInt16) : portText port = Nat.toDigits 10 port.toNat := by
  have number : toString port = port.toNat.repr := rfl
  rw [portText, number, Nat.toList_repr]

theorem notMem_portText {c : Char} (sign : c.isDigit = false) (port : UInt16) : c ∉ portText port := by
  rw [portText_eq]
  exact notMem_digits sign

theorem portText_injective {p q : UInt16} (same : portText p = portText q) : p = q := by
  rw [portText_eq, portText_eq] at same
  exact UInt16.toNat_inj.mp (digits_injective same)

def signedText : Int → List Char
  | .ofNat n => Nat.toDigits 10 n
  | .negSucc n => '-' :: Nat.toDigits 10 (n + 1)

theorem toList_toString_db (db : Int64) : (toString db).toList = signedText db.toInt := by
  have number : toString db = db.toInt.repr := rfl
  rw [number]
  cases db.toInt with
  | ofNat n => exact Nat.toList_repr
  | negSucc n =>
    have text : (Int.negSucc n).repr = "-" ++ (n + 1).repr := rfl
    rw [text, String.toList_append, Nat.toList_repr]
    rfl

theorem notMem_signedText {c : Char} (sign : c.isDigit = false) (other : c ≠ '-') (n : Int) :
    c ∉ signedText n := by
  cases n with
  | ofNat n => exact notMem_digits sign
  | negSucc n => exact List.not_mem_cons_of_ne_of_not_mem other (notMem_digits sign)

theorem signedText_injective {m n : Int} (same : signedText m = signedText n) : m = n := by
  have unsigned {i : Nat} {cs : List Char} (text : Nat.toDigits 10 i = '-' :: cs) : False :=
    notMem_digits (by decide) (text ▸ List.mem_cons_self)
  cases m with
  | ofNat i =>
    cases n with
    | ofNat j => rw [digits_injective same]
    | negSucc j => exact (unsigned same).elim
  | negSucc i =>
    cases n with
    | ofNat j => exact (unsigned same.symm).elim
    | negSucc j => rw [Nat.succ.inj (digits_injective (List.cons.inj same).2)]

namespace AmqpSettings

def path (s : AmqpSettings) : List Char :=
  if s.vhost = "" then [] else '/' :: s.vhost.toList

def place (s : AmqpSettings) : List Char :=
  s.host.toList ++ ':' :: (portText s.port ++ s.path)

theorem toList_uri (s : AmqpSettings) : s.uri.toList =
    "amqp://".toList ++ (s.user.toList ++ ':' :: (s.password.toList ++ '@' :: s.place)) := by
  have path : (if s.vhost = "" then "" else "/" ++ s.vhost : String).toList = s.path := by
    unfold AmqpSettings.path
    split
    · rfl
    · exact String.toList_append
  have text (t : String) : toString t = t := rfl
  unfold uri
  simp only [text, String.toList_append, path, place, portText, List.append_assoc]
  rfl

/-- The end of a host in front of a virtual host: a port and a slash. -/
def portMark (port : UInt16) : List Char := ':' :: (portText port ++ ['/'])

/-- No part contains the separator that ends it. -/
structure IsLegible (s : AmqpSettings) : Prop where
  user : ':' ∉ s.user.toList
  password : '@' ∉ s.password.toList
  host : ∀ port, ¬portMark port <:+: s.host.toList

structure AddressedAlike (s t : AmqpSettings) : Prop where
  user : s.user = t.user
  password : s.password = t.password
  host : s.host = t.host
  port : s.port = t.port
  vhost : s.vhost = t.vhost

/-- A sufficient condition for `IsLegible` by single characters. -/
theorem isLegible_of_plain {s : AmqpSettings} (user : ':' ∉ s.user.toList)
    (password : '@' ∉ s.password.toList) (host : '/' ∉ s.host.toList) : s.IsLegible := by
  refine ⟨user, password, fun port inside => host ?_⟩
  exact inside.subset (List.mem_cons_of_mem _ (List.mem_append_right _ List.mem_cons_self))

variable {s t : AmqpSettings}

theorem path_injective (same : s.path = t.path) : s.vhost = t.vhost := by
  unfold path at same
  split at same <;> split at same
  · simp_all
  · contradiction
  · contradiction
  · exact String.toList_inj.mp (List.cons.inj same).2

theorem slash_of_mem_path {c : Char} {cs : List Char} (some : s.path = c :: cs) : c = '/' := by
  unfold path at some
  split at some
  · contradiction
  · exact (List.cons.inj some).1.symm

/-- In equal addresses a host cannot go on beyond the end of the other, unless it contains the port as
well. -/
theorem host_ends {more rest : List Char} (host : ¬portMark s.port <:+: t.host.toList)
    (longer : t.host.toList = s.host.toList ++ more)
    (same : ':' :: (portText s.port ++ s.path) = more ++ ':' :: rest) : more = [] := by
  cases more with
  | nil => rfl
  | cons c more =>
    obtain ⟨rfl, tail⟩ := List.cons.inj same
    exfalso
    rcases List.append_eq_append_iff.mp tail with ⟨between, rfl, path⟩ | ⟨between, port, path⟩
    · cases between with
      | nil => exact absurd (slash_of_mem_path path) (by decide)
      | cons d between =>
        obtain rfl := slash_of_mem_path path
        refine host ⟨s.host.toList, between, ?_⟩
        rw [longer, portMark]
        simp
    · cases between with
      | nil => exact absurd (slash_of_mem_path path.symm) (by decide)
      | cons d between =>
        obtain ⟨rfl, -⟩ := List.cons.inj path
        have inside : ':' ∈ portText s.port := by
          rw [port]
          exact List.mem_append_right _ List.mem_cons_self
        exact notMem_portText (by decide) s.port inside

theorem port_ends (same : portText s.port ++ s.path = portText t.port ++ t.path) :
    s.port = t.port ∧ s.vhost = t.vhost := by
  have slashless (port : UInt16) : '/' ∉ portText port := notMem_portText (by decide) port
  suffices portText s.port = portText t.port ∧ s.path = t.path from
    ⟨portText_injective this.1, path_injective this.2⟩
  cases path : s.path with
  | nil =>
    cases path' : t.path with
    | nil => simpa [path, path'] using same
    | cons c cs =>
      obtain rfl := slash_of_mem_path path'
      rw [path, path', List.append_nil] at same
      exact absurd (same ▸ List.mem_append_right _ List.mem_cons_self) (slashless s.port)
  | cons c cs =>
    obtain rfl := slash_of_mem_path path
    cases path' : t.path with
    | nil =>
      rw [path, path', List.append_nil] at same
      exact absurd (same ▸ List.mem_append_right _ List.mem_cons_self) (slashless t.port)
    | cons c' cs' =>
      obtain rfl := slash_of_mem_path path'
      rw [path, path'] at same
      obtain ⟨port, rest⟩ := Text.cut_first same (slashless s.port) (slashless t.port)
      exact ⟨port, by rw [rest]⟩

theorem place_injective (legible : s.IsLegible) (legible' : t.IsLegible) (same : s.place = t.place) :
    s.host = t.host ∧ s.port = t.port ∧ s.vhost = t.vhost := by
  have hosts : s.host.toList = t.host.toList := by
    rcases List.append_eq_append_iff.mp same with ⟨more, longer, rest⟩ | ⟨more, longer, rest⟩
    · rw [longer, host_ends (legible'.host s.port) longer rest, List.append_nil]
    · rw [longer, host_ends (legible.host t.port) longer rest, List.append_nil]
  rw [place, place, hosts] at same
  have rest := (List.cons.inj (List.append_cancel_left same)).2
  exact ⟨String.toList_inj.mp hosts, port_ends rest⟩

theorem addressedAlike_of_uri (legible : s.IsLegible) (legible' : t.IsLegible) (same : s.uri = t.uri) :
    s.AddressedAlike t := by
  have letters := congrArg String.toList same
  rw [toList_uri, toList_uri] at letters
  obtain ⟨user, behind⟩ := Text.cut_first (List.append_cancel_left letters) legible.user legible'.user
  obtain ⟨password, place⟩ := Text.cut_first behind legible.password legible'.password
  obtain ⟨host, port, vhost⟩ := place_injective legible legible' place
  exact ⟨String.toList_inj.mp user, String.toList_inj.mp password, host, port, vhost⟩

theorem AddressedAlike.isLegible (same : s.AddressedAlike t) (legible : t.IsLegible) : s.IsLegible := by
  obtain ⟨user, password, host⟩ := legible
  exact ⟨same.user ▸ user, same.password ▸ password, same.host ▸ host⟩

/-! ### The legible reading of an address -/

/-- The user can be cut at its first colon, with the rest as part of the password. -/
theorem exists_user_ends (s : AmqpSettings) :
    ∃ t : AmqpSettings, t.uri = s.uri ∧ ':' ∉ t.user.toList := by
  by_cases colon : ':' ∈ s.user.toList
  case neg => exact ⟨s, rfl, colon⟩
  obtain ⟨user, rest, split, plain⟩ := List.eq_append_cons_of_mem colon
  refine ⟨{ s with
    user := String.ofList user
    password := String.ofList (rest ++ ':' :: s.password.toList) }, ?_, ?_⟩
  · apply String.toList_inj.mp
    rw [toList_uri, toList_uri, split]
    simp [place, path]
  · rwa [String.toList_ofList]

/-- The password can be cut at its first at sign, with the rest as part of the host. -/
theorem exists_password_ends (s : AmqpSettings) :
    ∃ t : AmqpSettings, t.uri = s.uri ∧ t.user = s.user ∧ '@' ∉ t.password.toList := by
  by_cases sign : '@' ∈ s.password.toList
  case neg => exact ⟨s, rfl, rfl, sign⟩
  obtain ⟨password, rest, split, plain⟩ := List.eq_append_cons_of_mem sign
  refine ⟨{ s with
    password := String.ofList password
    host := String.ofList (rest ++ '@' :: s.host.toList) }, ?_, rfl, ?_⟩
  · apply String.toList_inj.mp
    rw [toList_uri, toList_uri, split]
    simp [place, path]
  · rwa [String.toList_ofList]

/-- The host can be cut at a port and a slash, with the rest as part of the virtual host. The cut may
have to be repeated, and each makes the host shorter. -/
theorem exists_host_ends (s : AmqpSettings) :
    ∃ t : AmqpSettings, t.uri = s.uri ∧ t.user = s.user ∧ t.password = s.password ∧
      ∀ port, ¬portMark port <:+: t.host.toList := by
  by_cases marked : ∃ port, portMark port <:+: s.host.toList
  case neg => exact ⟨s, rfl, rfl, rfl, not_exists.mp marked⟩
  obtain ⟨port, front, back, split⟩ := marked
  let cut : AmqpSettings := { s with
    host := String.ofList front
    port := port
    vhost := String.ofList (back ++ ':' :: (portText s.port ++ s.path)) }
  have path : cut.path = '/' :: (back ++ ':' :: (portText s.port ++ s.path)) := by
    have some : cut.vhost ≠ "" := by simp [cut, ← String.toList_inj]
    rw [AmqpSettings.path, if_neg some, String.toList_ofList]
  have shorter : front.length < s.host.toList.length := by
    rw [← split]
    simp [portMark]
  obtain ⟨t, uri, user, password, host⟩ := exists_host_ends cut
  refine ⟨t, uri.trans ?_, user, password, host⟩
  apply String.toList_inj.mp
  rw [toList_uri, toList_uri, place, place, path, ← split]
  simp [cut, portMark]
termination_by s.host.toList.length

theorem exists_legible (s : AmqpSettings) : ∃ t : AmqpSettings, t.IsLegible ∧ t.uri = s.uri := by
  obtain ⟨r, uri, user⟩ := s.exists_user_ends
  obtain ⟨q, uri', user', password⟩ := r.exists_password_ends
  obtain ⟨t, uri'', user'', password', host⟩ := q.exists_host_ends
  refine ⟨t, ⟨?_, ?_, host⟩, uri''.trans (uri'.trans uri)⟩
  · rwa [user'', user']
  · rwa [password']

end AmqpSettings

/-! ### Redis -/

namespace RedisSettings

def login (s : RedisSettings) : List Char :=
  if s.password = "" then [] else ':' :: (s.password.toList ++ ['@'])

theorem toList_url (s : RedisSettings) : s.url.toList =
    "redis://".toList ++ ((s.login ++ s.host.toList) ++
      ':' :: (portText s.port ++ '/' :: signedText s.db.toInt)) := by
  have login : (if s.password = "" then "" else ":" ++ s.password ++ "@" : String).toList = s.login := by
    unfold RedisSettings.login
    split
    · rfl
    · simp
  have text (t : String) : toString t = t := rfl
  unfold url
  simp only [text, String.toList_append, toList_toString_db, login, portText, List.append_assoc]
  rfl

/-- Whether `cs` begins like the `login` of a password. -/
def LeadsWithPassword (cs : List Char) : Prop :=
  ∃ password rest, password ≠ [] ∧ '@' ∉ password ∧ cs = ':' :: (password ++ '@' :: rest)

/-- The password does not contain the separator that ends it, and without one the host does not begin
like a `login`. -/
structure IsLegible (s : RedisSettings) : Prop where
  password : '@' ∉ s.password.toList
  host : s.password = "" → ¬LeadsWithPassword s.host.toList

structure AddressedAlike (s t : RedisSettings) : Prop where
  password : s.password = t.password
  host : s.host = t.host
  port : s.port = t.port
  db : s.db = t.db

theorem isLegible_of_plain {s : RedisSettings} (password : '@' ∉ s.password.toList)
    (host : '@' ∉ s.host.toList) : s.IsLegible := by
  refine ⟨password, fun _ leads => host ?_⟩
  obtain ⟨name, rest, -, -, split⟩ := leads
  rw [split]
  exact List.mem_cons_of_mem _ (List.mem_append_right _ List.mem_cons_self)

variable {s t : RedisSettings}

/-- The port and the database are determined by the `url`, whatever is in the other parts. -/
theorem numbers_of_url (same : s.url = t.url) :
    s.login ++ s.host.toList = t.login ++ t.host.toList ∧ s.port = t.port ∧ s.db = t.db := by
  have slashless (n : Int) : '/' ∉ signedText n := notMem_signedText (by decide) (by decide) n
  have plain (s : RedisSettings) : ':' ∉ portText s.port ++ '/' :: signedText s.db.toInt := by
    simp [notMem_portText, notMem_signedText, Char.isDigit]
  have letters := congrArg String.toList same
  rw [toList_url, toList_url] at letters
  obtain ⟨front, numbers⟩ := Text.cut_last (List.append_cancel_left letters) (plain s) (plain t)
  obtain ⟨port, db⟩ := Text.cut_last numbers (slashless _) (slashless _)
  exact ⟨front, portText_injective port, Int64.toInt_inj.mp (signedText_injective db)⟩

theorem login_of_empty (empty : s.password = "") : s.login = [] := if_pos empty

theorem login_of_some (some : s.password ≠ "") : s.login = ':' :: (s.password.toList ++ ['@']) :=
  if_neg some

theorem leads_of_login (empty : s.password = "") (some : t.password ≠ "")
    (plain : '@' ∉ t.password.toList)
    (front : s.login ++ s.host.toList = t.login ++ t.host.toList) : LeadsWithPassword s.host.toList := by
  rw [login_of_empty empty, login_of_some some, List.nil_append] at front
  refine ⟨t.password.toList, t.host.toList, ?_, plain, ?_⟩
  · exact fun none => some (String.toList_eq_nil_iff.mp none)
  · simpa using front

theorem addressedAlike_of_url (legible : s.IsLegible) (legible' : t.IsLegible) (same : s.url = t.url) :
    s.AddressedAlike t := by
  obtain ⟨front, port, db⟩ := numbers_of_url same
  suffices s.password = t.password ∧ s.host = t.host from ⟨this.1, this.2, port, db⟩
  by_cases empty : s.password = ""
  · by_cases empty' : t.password = ""
    · rw [login_of_empty empty, login_of_empty empty'] at front
      exact ⟨empty.trans empty'.symm, String.toList_inj.mp front⟩
    · exact absurd (leads_of_login empty empty' legible'.password front) (legible.host empty)
  · by_cases empty' : t.password = ""
    · exact absurd (leads_of_login empty' empty legible.password front.symm) (legible'.host empty')
    · rw [login_of_some empty, login_of_some empty'] at front
      simp only [List.cons_append, List.append_assoc, List.nil_append, List.cons.injEq, true_and] at front
      obtain ⟨password, host⟩ := Text.cut_first front legible.password legible'.password
      exact ⟨String.toList_inj.mp password, String.toList_inj.mp host⟩

theorem AddressedAlike.isLegible (same : s.AddressedAlike t) (legible : t.IsLegible) : s.IsLegible := by
  obtain ⟨password, host⟩ := legible
  exact ⟨same.password ▸ password, same.password ▸ same.host ▸ host⟩

theorem exists_legible (s : RedisSettings) : ∃ t : RedisSettings, t.IsLegible ∧ t.url = s.url := by
  have urls (password host : String)
      (front : ({ s with password := password, host := host } : RedisSettings).login ++ host.toList =
        s.login ++ s.host.toList) :
      ({ s with password := password, host := host } : RedisSettings).url = s.url := by
    apply String.toList_inj.mp
    rw [toList_url, toList_url, front]
  by_cases leads : LeadsWithPassword (s.login ++ s.host.toList)
  · obtain ⟨password, rest, some, plain, split⟩ := leads
    have named : String.ofList password ≠ "" := by simpa [← String.toList_inj] using some
    refine ⟨_, ⟨?_, fun empty => absurd empty named⟩,
      urls (String.ofList password) (String.ofList rest) ?_⟩
    · rwa [String.toList_ofList]
    · rw [login_of_some named, split]
      simp
  · refine ⟨_, ⟨?_, fun _ => ?_⟩, urls "" (String.ofList (s.login ++ s.host.toList)) ?_⟩
    · simp
    · rwa [String.toList_ofList]
    · rw [login_of_empty rfl, String.toList_ofList, List.nil_append]

end RedisSettings

namespace Settings

/-- `uri` and `url` are injective on legible settings, and all other settings share theirs with
different, legible ones. The port and the database of a `url` are determined in any case. -/
theorem addresses_tell_legible_settings_apart (s : AmqpSettings) (r : RedisSettings) :
    (s.IsLegible → ∀ t : AmqpSettings, t.IsLegible → s.uri = t.uri → s.AddressedAlike t) ∧
    (¬s.IsLegible → ∃ t : AmqpSettings, t.IsLegible ∧ s.uri = t.uri ∧ ¬s.AddressedAlike t) ∧
    (r.IsLegible → ∀ q : RedisSettings, q.IsLegible → r.url = q.url → r.AddressedAlike q) ∧
    (¬r.IsLegible → ∃ q : RedisSettings, q.IsLegible ∧ r.url = q.url ∧ ¬r.AddressedAlike q) ∧
    (∀ q : RedisSettings, r.url = q.url → r.port = q.port ∧ r.db = q.db) := by
  refine ⟨?amqp, ?amqp_else, ?redis, ?redis_else, ?numbers⟩
  case amqp =>
    exact fun legible _ legible' same => AmqpSettings.addressedAlike_of_uri legible legible' same
  case redis =>
    exact fun legible _ legible' same => RedisSettings.addressedAlike_of_url legible legible' same
  case numbers => exact fun _ same => (RedisSettings.numbers_of_url same).2
  case amqp_else =>
    intro blurred
    obtain ⟨t, legible, same⟩ := s.exists_legible
    exact ⟨t, legible, same.symm, fun alike => blurred (alike.isLegible legible)⟩
  case redis_else =>
    intro blurred
    obtain ⟨q, legible, same⟩ := r.exists_legible
    exact ⟨q, legible, same.symm, fun alike => blurred (alike.isLegible legible)⟩

/-- Separators are harmless behind the part that they end: a password may hold colons and slashes. -/
theorem addresses_tell_legible_settings_apart_slash :
    let s : AmqpSettings := { password := "b:c/d" }
    let t : AmqpSettings := { password := "b:c", vhost := "d" }
    let r : RedisSettings := { password := "x:y/z" }
    s.uri ≠ t.uri ∧ ∀ q : RedisSettings, q.IsLegible → r.url = q.url → q.password = "x:y/z" := by
  intro s t r
  obtain ⟨amqp, -, redis, -, -⟩ := addresses_tell_legible_settings_apart s r
  have legible : s.IsLegible := AmqpSettings.isLegible_of_plain (by decide) (by decide) (by decide)
  have legible' : t.IsLegible := AmqpSettings.isLegible_of_plain (by decide) (by decide) (by decide)
  refine ⟨fun same => ?_, fun q readable same => ?_⟩
  · have alike : "b:c/d" = "b:c" := (amqp legible t legible' same).password
    exact absurd alike (by decide)
  · have named : r.IsLegible := RedisSettings.isLegible_of_plain (by decide) (by decide)
    exact (redis named q readable same).password.symm

/-- Nothing is escaped: a colon in the user begins the password, and an at sign in a password of Redis
begins the host. -/
theorem separators_are_not_escaped :
    let s : AmqpSettings := { user := "a:b", password := "c" }
    let t : AmqpSettings := { user := "a", password := "b:c" }
    let r : RedisSettings := { password := "x@y", host := "h" }
    let q : RedisSettings := { password := "x", host := "y@h" }
    (s.user ≠ t.user ∧ s.uri = t.uri ∧ s.login? = some ⟨"a", "b:c", "/"⟩) ∧
      r.password ≠ q.password ∧ r.url = q.url := by
  decide +kernel

end Settings
end RoomRelay
