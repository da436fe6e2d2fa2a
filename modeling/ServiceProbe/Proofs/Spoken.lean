import ServiceProbe.Http.Request
import ServiceProbe.Proofs.CodePoint
/-!
What is written of a request. Its path and, if it has a user with a name, its credentials are: a request is
written if and only if no surrogate stands in them, and then it is written as a request of characters that
says the same.
-/
namespace ServiceProbe.Http.Request

variable {α : Type} [Letter α] {request : Request α} {plain : Request}

/-- The user of a request, if it has a name, with a password that may be empty. -/
def credentials? (request : Request α) : Option (List α) :=
  match request.username with
  | none => none
  | some [] => none
  | some username => some (username ++ Letter.ofChar ':' :: request.password.getD [])

def authorizationLine (credentials : Text) : Text :=
  "Authorization: Basic " ++ Base64.encode (Utf8.encode credentials)

theorem authorization_eq (request : Request) :
    request.authorization? = request.credentials?.map authorizationLine := by
  rw [authorization?, credentials?]
  match request.username with
  | none => rfl
  | some [] => rfl
  | some (_ :: _) => rfl

/-- No surrogate stands in what is written. -/
structure Writable (request : Request α) : Prop where
  path : Letter.Spoken request.path
  credentials : ∀ credentials ∈ request.credentials?, Letter.Spoken credentials

/-- A request of characters says what another one says. -/
structure Tells (request : Request α) (plain : Request) : Prop where
  host : plain.host = request.host
  port : plain.port = request.port
  tls : plain.tls = request.tls
  timeout : plain.timeout = request.timeout
  path : request.path = plain.path.map Letter.ofChar
  credentials : request.credentials? = plain.credentials?.map (List.map Letter.ofChar)

/-! Credentials. -/

theorem nobody_or_user (request : Request α) :
    (request.spokenCredentials = .ok none ∧ request.credentials? = none) ∨
      ∃ username, username ≠ [] ∧
        request.spokenCredentials = (do
          let name ← Letter.characters 0 username
          let secret ← Letter.characters (username.length + 1) (request.password.getD [])
          return some (name, secret)) ∧
        request.credentials? = some (username ++ Letter.ofChar ':' :: request.password.getD []) := by
  rw [spokenCredentials, credentials?]
  match request.username with
  | none => exact Or.inl ⟨rfl, rfl⟩
  | some [] => exact Or.inl ⟨rfl, rfl⟩
  | some (a :: rest) => exact Or.inr ⟨a :: rest, by simp, rfl, rfl⟩

theorem spokenCredentials_ok {credentials : Option (Text × Text)}
    (taken : request.spokenCredentials = .ok credentials) :
    (∀ pair ∈ credentials, pair.1 ≠ []) ∧
      request.credentials? =
        credentials.map fun pair => (pair.1 ++ ':' :: pair.2).map Letter.ofChar := by
  rcases request.nobody_or_user with ⟨nobody, none⟩ | ⟨username, named, user, some⟩
  · rw [nobody] at taken
    cases taken
    exact ⟨by simp, none⟩
  · rw [user] at taken
    obtain ⟨name, first, taken⟩ := Outcome.bind_ok taken
    obtain ⟨secret, second, taken⟩ := Outcome.bind_ok taken
    cases taken
    rw [Letter.characters_eq_ok_iff] at first second
    subst first
    exact ⟨by simpa using named, by simp [some, second]⟩

theorem spokenCredentials_succeeds : Outcome.Succeeds request.spokenCredentials ↔
    ∀ credentials ∈ request.credentials?, Letter.Spoken credentials := by
  rcases request.nobody_or_user with ⟨nobody, none⟩ | ⟨username, named, user, some⟩
  · simp [nobody, none]
  · rw [user, some]
    simp only [Option.mem_def, Option.some.injEq, forall_eq']
    -- Behind the name stands a colon, which is a character in any case.
    have colon : Letter.isSurrogate (Letter.ofChar ':' : α) = false :=
      Letter.isSurrogate_eq_false_iff.mpr ⟨':', rfl⟩
    rw [Letter.spoken_append, Letter.spoken_cons, and_iff_right colon,
      Outcome.succeeds_bind fun _ _ => Outcome.succeeds_last fun _ _ => Outcome.succeeds_pure _,
      Letter.characters_succeeds, Letter.characters_succeeds]

/-! The request. -/

theorem spoken_succeeds : Outcome.Succeeds request.spoken ↔ request.Writable := by
  rw [spoken, Outcome.succeeds_bind fun _ _ => Outcome.succeeds_last fun _ _ => Outcome.succeeds_pure _,
    spokenCredentials_succeeds, Letter.characters_succeeds]
  exact ⟨fun ⟨credentials, path⟩ => ⟨path, credentials⟩, fun writable => ⟨writable.2, writable.1⟩⟩

theorem spoken_tells (told : request.spoken = .ok plain) : request.Tells plain := by
  obtain ⟨credentials, taken, told⟩ := Outcome.bind_ok told
  obtain ⟨path, read, told⟩ := Outcome.bind_ok told
  obtain ⟨named, same⟩ := spokenCredentials_ok taken
  cases told
  constructor
  case path => exact Letter.characters_eq_ok_iff.mp read
  case credentials =>
    rw [same]
    match credentials with
    | none => rfl
    | some ([], secret) => exact absurd rfl (named _ rfl)
    | some (c :: name, secret) => rfl
  all_goals rfl

/-- What is sent for a request is written of its characters. -/
theorem payload_ok {payload : Bytes} (written : request.payload = .ok payload) :
    ∃ plain : Request, request.Tells plain ∧ plain.render = payload := by
  rw [Request.payload] at written
  cases told : request.spoken with
  | error failure =>
    rw [told] at written
    cases written
  | ok plain =>
    rw [told] at written
    exact ⟨plain, spoken_tells told, Except.ok.inj written⟩

theorem payload_error {fault : Fault} (unwritten : request.payload = .error fault) :
    ∃ failure, fault = .unencodable failure := by
  rw [Request.payload] at unwritten
  cases told : request.spoken with
  | error failure =>
    rw [told] at unwritten
    cases unwritten
    exact ⟨failure, rfl⟩
  | ok plain =>
    rw [told] at unwritten
    cases unwritten

theorem payload_succeeds : Outcome.Succeeds request.payload ↔ request.Writable := by
  rw [← spoken_succeeds, Request.payload]
  cases request.spoken with
  | error failure => exact iff_of_false (Outcome.not_succeeds_error _) (Outcome.not_succeeds_error _)
  | ok plain => exact iff_of_true (Outcome.succeeds_ok _) (Outcome.succeeds_ok _)

/-! Requests of characters. -/

theorem Tells.render_eq {request : Request} (tells : request.Tells plain) :
    plain.render = request.render := by
  have path := tells.path
  have credentials := tells.credentials
  rw [Letter.map_ofChar] at path
  have same : request.credentials? = plain.credentials? := by
    rw [credentials]
    cases plain.credentials? <;> simp
  rw [render, render, lines, lines, authorization_eq, authorization_eq, hostHeader, hostHeader, same, path,
    tells.host, tells.port, tells.tls]

theorem writable_text (request : Request) : request.Writable where
  path := Letter.characters_succeeds.mp ⟨_, Letter.characters_text 0 _⟩
  credentials _ _ := Letter.characters_succeeds.mp ⟨_, Letter.characters_text 0 _⟩

/-- Of characters alone every request can be written. -/
theorem payload_text (request : Request) : request.payload = .ok request.render := by
  obtain ⟨payload, written⟩ := payload_succeeds.mpr request.writable_text
  obtain ⟨plain, tells, same⟩ := payload_ok written
  rw [written, ← same, tells.render_eq]

end ServiceProbe.Http.Request
