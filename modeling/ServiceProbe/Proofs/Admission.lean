import ServiceProbe.Proofs.CodePoint
import ServiceProbe.Proofs.Refusal
/-!
What a request is that was built. Whatever a draft says, the fields of its request passed their checks.
-/
namespace ServiceProbe.Http

variable {α : Type} [Letter α] [DecidableEq α]

/-- A request whose fields passed their checks. -/
structure Request.Sound (request : Request α) : Prop where
  named : request.host ≠ []
  host : Draft.holdsLineBreak request.host = false
  port : 1 ≤ request.port ∧ request.port ≤ 65535
  path : Draft.holdsLineBreak request.path = false
  absolute : Draft.isAbsolute request.path = true
  timeout : request.timeout.isPositive = true
  username : ∀ text ∈ request.username, Draft.holdsLineBreak text = false
  password : ∀ text ∈ request.password, Draft.holdsLineBreak text = false

/-- A path is one word. -/
theorem Request.Sound.word {request : Request α} (sound : request.Sound) :
    Letter.ofChar ' ' ∉ request.path := by
  have absolute := sound.absolute
  rw [Draft.isAbsolute, Bool.and_eq_true] at absolute
  simpa using absolute.2

theorem Given.read_ok {α β : Type} {given : Given α} {whenVoid : Reason}
    {accept : α → Except Reason β} {accepted : β} (taken : given.read whenVoid accept = .ok accepted) :
    ∃ content, given = .value content ∧ accept content = .ok accepted := by
  cases given with
  | absent | void => cases taken
  | value content => exact ⟨content, rfl, taken⟩

namespace Draft

omit [DecidableEq α] in
theorem acceptHost_ok {host : List α} {accepted : Text} (taken : acceptHost host = .ok accepted) :
    accepted ≠ [] ∧ holdsLineBreak accepted = false := by
  rw [acceptHost] at taken
  split at taken
  · cases taken
  · next host _ =>
    by_cases named : host.isEmpty
    · simp [named] at taken
    by_cases broken : holdsLineBreak host
    · simp [named, broken] at taken
    · simp only [named, broken, Bool.false_eq_true, ↓reduceIte, Except.ok.injEq] at taken
      subst taken
      exact ⟨by simpa using named, by simpa using broken⟩

theorem portReason_none {port : Int} (possible : portReason? port = none) :
    1 ≤ port ∧ port ≤ 65535 := by
  rw [portReason?] at possible
  split at possible
  · cases possible
  split at possible
  · cases possible
  · constructor <;> omega

theorem acceptPort_ok {number : Number} {port : Int} (taken : acceptPort number = .ok port) :
    1 ≤ port ∧ port ≤ 65535 := by
  obtain ⟨whole, _, taken⟩ := Outcome.bind_ok taken
  cases refused : portReason? whole with
  | some reason =>
    rw [refused] at taken
    cases taken
  | none =>
    rw [refused] at taken
    cases taken
    exact portReason_none refused

theorem acceptPath_ok {path accepted : List α} (taken : acceptPath path = .ok accepted) :
    holdsLineBreak accepted = false ∧ isAbsolute accepted = true := by
  rw [acceptPath] at taken
  by_cases broken : holdsLineBreak path
  · simp [broken] at taken
  by_cases absolute : isAbsolute path
  · simp only [broken, absolute, Bool.false_eq_true, ↓reduceIte, Except.ok.injEq] at taken
    subst taken
    exact ⟨by simpa using broken, absolute⟩
  · simp [broken, absolute] at taken

theorem acceptTimeout_ok {number : Number} {timeout : Double}
    (taken : acceptTimeout number = .ok timeout) : timeout.isPositive = true := by
  rw [acceptTimeout] at taken
  split at taken
  · cases taken
  · next double _ =>
    by_cases positive : double.isPositive
    · simp only [timeoutReason?, positive, ↓reduceIte, Except.ok.injEq] at taken
      exact taken ▸ positive
    · simp [timeoutReason?, positive] at taken

theorem acceptCredential_ok {credential accepted : Option (List α)}
    (taken : acceptCredential credential = .ok accepted) :
    ∀ text ∈ accepted, holdsLineBreak text = false := by
  cases credential with
  | none =>
    cases taken
    simp
  | some text =>
    by_cases broken : holdsLineBreak text
    · simp [acceptCredential, broken] at taken
    · simp only [acceptCredential, broken, Bool.false_eq_true, ↓reduceIte, Except.ok.injEq] at taken
      subst taken
      simpa using broken

theorem sound_of_build {draft : Draft α} {request : Request α} (built : draft.build = .ok request) :
    request.Sound := by
  obtain ⟨host, port, path, _, timeout, username, password⟩ := fields_of_build built
  obtain ⟨_, _, host⟩ := Given.read_ok host
  obtain ⟨_, _, port⟩ := Given.read_ok port
  obtain ⟨_, _, path⟩ := Given.read_ok path
  obtain ⟨_, _, timeout⟩ := Given.read_ok timeout
  constructor
  case named => exact (acceptHost_ok host).1
  case host => exact (acceptHost_ok host).2
  case port => exact acceptPort_ok port
  case path => exact (acceptPath_ok path).1
  case absolute => exact (acceptPath_ok path).2
  case timeout => exact acceptTimeout_ok timeout
  case username => exact acceptCredential_ok username
  case password => exact acceptCredential_ok password

end Draft

end ServiceProbe.Http
