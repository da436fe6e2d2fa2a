import ServiceProbe.Http.Request
import ServiceProbe.Proofs.Base64
import ServiceProbe.Proofs.Search
import ServiceProbe.Proofs.Utf8
/-!
Credentials on their way to a peer. What is sent of a name and a password is Base64 in its standard form,
and whoever reads it has both again, as long as no colon in the name is taken for the one between them.
-/
namespace ServiceProbe

namespace Base64

/-- The characters that stand for six bits. -/
def IsDigit (c : Char) : Prop := c.isAlphanum = true ∨ c = '+' ∨ c = '/'

instance : DecidablePred IsDigit := fun c =>
  inferInstanceAs (Decidable (c.isAlphanum = true ∨ c = '+' ∨ c = '/'))

/-- How many signs fill up the last group where so many bytes are written. -/
def padding (count : Nat) : Nat := (3 - count % 3) % 3

/-- Four characters for every three bytes that were begun: digits, and behind them the padding. -/
structure Padded (count : Nat) (text digits : Text) : Prop where
  parts : text = digits ++ List.replicate (padding count) '='
  plain : ∀ c ∈ digits, IsDigit c
  length : text.length = 4 * ((count + 2) / 3)

theorem digit_isDigit : ∀ n < 64, IsDigit (digit n) := by
  decide

/-- A whole group in front leaves the padding as it is. -/
theorem Padded.behind {count : Nat} {text digits : Text} (padded : Padded count text digits)
    (group : Text) (whole : group.length = 4) (plain : ∀ c ∈ group, IsDigit c) :
    Padded (count + 3) (group ++ text) (group ++ digits) where
  parts := by
    rw [padded.parts, List.append_assoc, padding, padding, Nat.add_mod_right]
  plain := List.forall_mem_append.mpr ⟨plain, padded.plain⟩
  length := by
    rw [List.length_append, whole, padded.length]
    omega

theorem encode_padded (bytes : Bytes) :
    ∃ digits, Padded bytes.length (encode bytes) digits := by
  induction bytes using encode.induct with
  | case1 => exact ⟨[], rfl, by simp, rfl⟩
  | case2 a =>
    have bound := a.toNat_lt
    have first := digit_isDigit (a.toNat / 4) (by omega)
    have second := digit_isDigit (a.toNat % 4 * 16) (by omega)
    exact ⟨[_, _], rfl, by simp [first, second], by simp [encode]⟩
  | case3 a b =>
    have bounds := And.intro a.toNat_lt b.toNat_lt
    have first := digit_isDigit ((a.toNat * 256 + b.toNat) / 1024) (by omega)
    have second := digit_isDigit ((a.toNat * 256 + b.toNat) / 16 % 64) (by omega)
    have third := digit_isDigit ((a.toNat * 256 + b.toNat) % 16 * 4) (by omega)
    exact ⟨[_, _, _], rfl, by simp [first, second, third], by simp [encode]⟩
  | case4 a b c rest ih =>
    have bounds := And.intro a.toNat_lt (And.intro b.toNat_lt c.toNat_lt)
    obtain ⟨digits, padded⟩ := ih
    have first := digit_isDigit (((a.toNat * 256 + b.toNat) * 256 + c.toNat) / 262144) (by omega)
    have others (n : Nat) := digit_isDigit (n % 64) (Nat.mod_lt n (by decide))
    exact ⟨_, padded.behind [_, _, _, _] rfl (by simp [first, others])⟩

end Base64

namespace Http.Request

/-- The credentials of Basic authentication are Base64 in its standard form. Read again, it is the text of
the name, a colon and the password, and the first colon parts them unless the name has one. -/
theorem basicAuth_is_read_back (username password : Text) :
    let credentials := username ++ ':' :: password
    ∃ token digits,
      basicAuth username password = "Basic " ++ token ∧
      Base64.Padded (Utf8.encode credentials).length token digits ∧
      Base64.decode token = Utf8.encode credentials ∧
      Utf8.decode (Base64.decode token) = .ok credentials ∧
      (':' ∉ username → Text.cut ':' credentials = (username, some password)) := by
  intro credentials
  have back := Base64.decode_encode (Utf8.encode credentials)
  obtain ⟨digits, padded⟩ := Base64.encode_padded (Utf8.encode credentials)
  refine ⟨_, digits, rfl, padded, back, ?_, fun plain => Text.cut_append plain password⟩
  rw [back, Utf8.decode_encode]

/-- A name with three bytes for each of its characters, and a password with a colon. -/
theorem basicAuth_of_wide_name :
    let username : Text := "日本"
    let password : Text := "a:b"
    let credentials := username ++ ':' :: password
    ':' ∉ username ∧
      ∃ token digits,
        basicAuth username password = "Basic " ++ token ∧ token = "5pel5pysOmE6Yg==" ∧
        Base64.Padded 10 token digits ∧ Utf8.decode (Base64.decode token) = .ok credentials ∧
        Text.cut ':' credentials = (username, some password) := by
  intro username password credentials
  have plain : ':' ∉ username := by decide
  obtain ⟨token, digits, sent, padded, _, read, parted⟩ := basicAuth_is_read_back username password
  have written : basicAuth username password = "Basic " ++ ("5pel5pysOmE6Yg==" : Text) := by decide
  have same : token = "5pel5pysOmE6Yg==" := List.append_cancel_left (sent.symm.trans written)
  exact ⟨plain, token, digits, sent, same, padded, read, parted plain⟩

end Http.Request
end ServiceProbe
