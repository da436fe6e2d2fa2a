import ServiceProbe.Proofs.LineFeed
import ServiceProbe.Probe.Run
/-!
Line feeds in what is told of refused options, of refused requests and of password stores. Refused
options are told on one line. A refused request is told on several, and a password store shows its
path as it is.
-/
namespace ServiceProbe

theorem Utf8.Failure.newline_not_mem_message (failure : Utf8.Failure) :
    '\n' ∉ failure.message := by
  have reason : '\n' ∉ failure.flaw.reason := by cases failure.flaw <;> decide
  unfold Utf8.Failure.message
  dsimp only
  split <;> simp [reason, Text.newline_not_mem_toDigits]

theorem OutOfRange.newline_not_mem_message (cause : OutOfRange) : '\n' ∉ cause.message := by
  cases cause with
  | tooManyDigits count =>
    unfold message
    simp only [List.mem_append, not_or]
    exact ⟨⟨⟨⟨Text.newline_not_mem_literal (by decide), Text.newline_not_mem_ofNat _⟩,
      Text.newline_not_mem_literal (by decide)⟩, Text.newline_not_mem_ofNat _⟩,
      Text.newline_not_mem_literal (by decide)⟩
  | _ =>
    unfold message
    exact Text.newline_not_mem_literal (by decide)

/-! Refused options. -/

namespace Reason

theorem newline_not_mem_alternatives {words : List Text} (plain : ∀ word ∈ words, '\n' ∉ word) :
    '\n' ∉ alternatives words := by
  have comma : '\n' ∉ [',', ' '] := by decide
  have reversed : ∀ word ∈ words.reverse, '\n' ∉ word :=
    fun word member => plain word (List.mem_reverse.mp member)
  unfold alternatives
  split
  · simp
  · next word only => exact reversed word (by simp [only])
  · next last others _ several =>
    have joined : '\n' ∉ List.intercalate [',', ' '] others.reverse := by
      rw [Text.mem_intercalate comma]
      rintro ⟨word, member, broken⟩
      refine reversed word ?_ broken
      rw [several]
      exact List.mem_cons_of_mem _ (List.mem_reverse.mp member)
    have lastPlain : '\n' ∉ last := reversed last (by simp [several])
    simp [joined, lastPlain]

/-- Of all that a reason tells, only the words to choose from are not fixed. -/
theorem newline_not_mem_message {reason : Reason}
    (plain : ∀ words, reason = .noneOf words → ∀ word ∈ words, '\n' ∉ word) :
    '\n' ∉ reason.message := by
  cases reason with
  | noneOf words =>
    have quoted : ∀ word ∈ words.map quotedWord, '\n' ∉ word := by
      intro word member
      obtain ⟨word, known, rfl⟩ := List.mem_map.mp member
      simpa [quotedWord] using plain words rfl word known
    unfold message
    simp [newline_not_mem_alternatives quoted]
  | _ =>
    unfold message
    exact Text.newline_not_mem_literal (by decide)

end Reason

namespace Probe

theorem Subject.newline_not_mem_name (subject : Subject) : '\n' ∉ subject.name := by
  cases subject <;> decide

theorem Field.newline_not_mem_name (field : Field) : '\n' ∉ field.name := by
  cases field <;> decide

namespace Options

/-- A rejection is about a field of the options. The words to choose from are the subjects. -/
theorem rejections_known {options : Options} {subjects : List Text} {rejection : Rejection}
    (refused : rejection ∈ options.rejections subjects) :
    (∃ field : Field, rejection.field = field.name) ∧
      ∀ words, rejection.reason = .noneOf words → words = subjects := by
  obtain ⟨field, _, found⟩ := List.mem_filterMap.mp refused
  obtain ⟨reason, given, rfl⟩ := Option.map_eq_some_iff.mp found
  refine ⟨⟨field, rfl⟩, ?_⟩
  rintro words rfl
  -- Words to choose from are told of a subject that was left void, and of nothing else.
  split at given
  · cases field <;> simp [voidReason] at given
    exact given.symm
  · cases field <;>
      simp [valueReason?, hostnameReason?, Http.Draft.portReason?, Http.Draft.timeoutReason?] at given
    split at given <;> simp at given

end Options

/-- Refused options are told on one line. -/
theorem newline_not_mem_invalidText (offer : Offer) (options : Options) :
    '\n' ∉ invalidText (offer.rejections options) := by
  have semicolon : '\n' ∉ ("; " : Text) := by decide
  unfold invalidText
  rw [Text.mem_intercalate semicolon]
  rintro ⟨text, member, broken⟩
  obtain ⟨rejection, refused, rfl⟩ := List.mem_map.mp member
  obtain ⟨⟨field, called⟩, subjects⟩ := Options.rejections_known refused
  have reason : '\n' ∉ rejection.reason.message := by
    apply Reason.newline_not_mem_message
    intro words same word known
    rw [subjects words same] at known
    obtain ⟨subject, _, rfl⟩ := List.mem_map.mp known
    exact subject.newline_not_mem_name
  unfold Rejection.invalidText Rejection.text at broken
  simp [called, field.newline_not_mem_name, reason] at broken

end Probe

/-! Refused requests. -/

theorem Rejection.newline_mem_report {model : Text} {rejections : List Rejection}
    (refused : rejections ≠ []) : '\n' ∈ report model rejections := by
  obtain ⟨first, rest, rfl⟩ := List.exists_cons_of_ne_nil refused
  unfold report entry
  simp

namespace Http.Draft

theorem accepted_of_rejection?_none {β : Type} {field : Text} {outcome : Except Reason β}
    (fit : rejection? field outcome = none) : ∃ a, outcome = .ok a := by
  cases outcome with
  | error reason => cases fit
  | ok a => exact ⟨a, rfl⟩

variable {α : Type} [Letter α] [DecidableEq α] {draft : Draft α}

theorem build_of_rejections_nil (fit : draft.rejections = []) :
    ∃ request, draft.build = .ok request := by
  simp only [rejections, List.filterMap_eq_nil_iff, List.forall_mem_cons, id] at fit
  obtain ⟨host, port, path, tls, timeout, username, password, -⟩ := fit
  obtain ⟨host, hostFit⟩ := accepted_of_rejection?_none host
  obtain ⟨port, portFit⟩ := accepted_of_rejection?_none port
  obtain ⟨path, pathFit⟩ := accepted_of_rejection?_none path
  obtain ⟨tls, tlsFit⟩ := accepted_of_rejection?_none tls
  obtain ⟨timeout, timeoutFit⟩ := accepted_of_rejection?_none timeout
  obtain ⟨username, usernameFit⟩ := accepted_of_rejection?_none username
  obtain ⟨password, passwordFit⟩ := accepted_of_rejection?_none password
  refine ⟨{ host, port, path, tls, timeout, username, password }, ?_⟩
  unfold build
  rw [hostFit, portFit, pathFit, tlsFit, timeoutFit, usernameFit, passwordFit]
  rfl

/-- A request that is built says what its fields say. -/
theorem fields_of_build {request : Request α} (built : draft.build = .ok request) :
    draft.host? = .ok request.host ∧ draft.port? = .ok request.port ∧
      draft.path? = .ok request.path ∧ draft.tls? = .ok request.tls ∧
      draft.timeout? = .ok request.timeout ∧ draft.username? = .ok request.username ∧
      draft.password? = .ok request.password := by
  unfold build Except.mapError at built
  dsimp only at built
  split at built
  · cases built
  · next taken =>
    cases built
    obtain ⟨host, hostFit, taken⟩ := Outcome.bind_ok taken
    obtain ⟨port, portFit, taken⟩ := Outcome.bind_ok taken
    obtain ⟨path, pathFit, taken⟩ := Outcome.bind_ok taken
    obtain ⟨tls, tlsFit, taken⟩ := Outcome.bind_ok taken
    obtain ⟨timeout, timeoutFit, taken⟩ := Outcome.bind_ok taken
    obtain ⟨username, usernameFit, taken⟩ := Outcome.bind_ok taken
    obtain ⟨password, passwordFit, taken⟩ := Outcome.bind_ok taken
    cases taken
    exact ⟨hostFit, portFit, pathFit, tlsFit, timeoutFit, usernameFit, passwordFit⟩

/-- A draft that is not built is refused over some field. -/
theorem build_error {fault : Fault} (refused : draft.build = .error fault) :
    fault = .rejected modelName draft.rejections ∧ draft.rejections ≠ [] := by
  constructor
  · unfold build Except.mapError at refused
    dsimp only at refused
    split at refused
    · cases refused
      rfl
    · cases refused
  · intro fit
    obtain ⟨request, built⟩ := build_of_rejections_nil fit
    rw [built] at refused
    cases refused

end Http.Draft

/-! Password stores. -/

/-- What is shown of a password store as it is. -/
def StoreFailure.named : StoreFailure → List Text
  | .unreadable path _ => [path]
  | .malformedLine path _ => [path]
  | .unknownId path id => [path, id]

/-- Whether a fault that keeps a request from being sent is told on more than one line. -/
def Fault.Breaks : Fault → Prop
  | .rejected _ _ => True
  | .store cause => ∃ text ∈ cause.named, '\n' ∈ text
  | _ => False

theorem Fault.newline_mem_store {cause : StoreFailure}
    (plain : ∀ path trouble, cause = .unreadable path trouble → '\n' ∉ trouble.message) :
    '\n' ∈ (Fault.store cause).message ↔ (Fault.store cause).Breaks := by
  unfold Fault.message Fault.Breaks StoreFailure.message StoreFailure.named
  cases cause with
  | unreadable path trouble => simp [plain path trouble rfl]
  | malformedLine path line => simp
  | unknownId path id => simp [or_comm]

theorem Files.Obstacle.newline_not_mem_trouble (obstacle : Files.Obstacle) (path : Path) :
    '\n' ∉ (obstacle.trouble path).message := by
  have text : '\n' ∉ obstacle.text := by cases obstacle <;> decide
  unfold Files.Obstacle.trouble Network.Trouble.message Network.Trouble.numbered
  dsimp only
  simp [text]

namespace PasswordStore

theorem load_fault {files : Files} {path : Path} {fault : Fault}
    (refused : load files path = .error fault) : '\n' ∈ fault.message ↔ fault.Breaks := by
  unfold load at refused
  split at refused
  · cases refused
    exact iff_of_false (by decide) id
  split at refused
  · next obstacle _ =>
    cases refused
    refine Fault.newline_mem_store ?_
    rintro _ _ ⟨⟩
    exact obstacle.newline_not_mem_trouble path
  split at refused
  · next failure _ =>
    cases refused
    exact iff_of_false failure.newline_not_mem_message id
  split at refused
  · cases refused
    exact Fault.newline_mem_store (by simp)
  · cases refused

theorem lookup_fault {files : Files} {path : Path} {id : Text} {fault : Fault}
    (refused : lookup files path id = .error fault) : '\n' ∈ fault.message ↔ fault.Breaks := by
  unfold lookup at refused
  rcases Outcome.bind_error refused with unloaded | ⟨store, _, absent⟩
  · exact load_fault unloaded
  · split at absent
    · cases absent
    · cases absent
      exact Fault.newline_mem_store (by simp)

end PasswordStore

namespace Probe.Options

theorem resolvePassword_fault {options : Options} {files : Files} {fault : Fault}
    (refused : options.resolvePassword files = .error fault) :
    '\n' ∈ fault.message ↔ fault.Breaks := by
  unfold resolvePassword at refused
  split at refused
  · cases refused
  split at refused
  · cases refused
    refine iff_of_false ?_ id
    unfold Fault.message Fault.referenceMessage
    simp
  · exact PasswordStore.lookup_fault (Outcome.map_error refused)

/-- What keeps a request from being sent is told on one line, unless the request is refused or a
password store with a line feed in its path or its id is at fault. -/
theorem request_fault {options : Options} {files : Files} {path : Text} {fault : Fault}
    (refused : options.request files path = .error fault) :
    '\n' ∈ fault.message ↔ fault.Breaks := by
  have unbuilt {draft : Http.Draft} (refused : draft.build = .error fault) :
      '\n' ∈ fault.message ↔ fault.Breaks := by
    obtain ⟨rfl, some⟩ := Http.Draft.build_error refused
    exact iff_of_true (Rejection.newline_mem_report some) trivial
  unfold request at refused
  dsimp only at refused
  split at refused
  · rcases Outcome.bind_error refused with unresolved | ⟨password, _, refused⟩
    · exact resolvePassword_fault unresolved
    · exact unbuilt refused
  · exact unbuilt refused

end Probe.Options
end ServiceProbe
