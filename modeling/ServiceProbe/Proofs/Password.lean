import ServiceProbe.Proofs.Admission
import ServiceProbe.Proofs.Alike
import ServiceProbe.Proofs.Attached
/-!
What a run tells of the password that it is given. A password that can be sent is in the authorization
line of the request and nowhere else.
-/
namespace ServiceProbe

/-! A request takes a password without a line break as it is, and nothing else depends on it. -/

namespace Http.Draft

theorem build_password (draft : Draft) {password : Option Text}
    (accepted : acceptCredential password = .ok password) :
    build { draft with password } =
      (build { draft with password := none }).map ({ · with password }) := by
  have taken : password? { draft with password } = .ok password := accepted
  have rejected : rejections { draft with password } =
      rejections { draft with password := none } := by
    unfold rejections
    rw [taken]
    rfl
  unfold build
  rw [taken, rejected]
  have none_taken : password? { draft with password := none } = .ok none := rfl
  rw [none_taken]
  simp only [host?, port?, path?, tls?, timeout?, username?]
  -- The first field that is refused decides, and the password is the last one.
  rcases draft.host.read .noText acceptHost with reason | host
  · rfl
  rcases draft.port.read .noInteger acceptPort with reason | port
  · rfl
  rcases draft.path.read .noText acceptPath with reason | path
  · rfl
  rcases draft.tls.read .noTruth .ok with reason | tls
  · rfl
  rcases draft.timeout.read .noNumber acceptTimeout with reason | timeout
  · rfl
  rcases acceptCredential draft.username with reason | username
  · rfl
  · rfl

end Http.Draft

/-- What two drafts come to that differ in the password: the same fault, or requests that differ in the
password. -/
inductive Http.Alike : Except Fault Http.Request → Except Fault Http.Request → Prop
  | refused (fault : Fault) : Alike (.error fault) (.error fault)
  | built (request : Http.Request) (solid : ' ' ∉ request.path) (first second : Option Text) :
    Alike (.ok { request with password := first }) (.ok { request with password := second })

theorem Http.alike_refl {outcome : Except Fault Http.Request}
    (solid : ∀ request, outcome = .ok request → ' ' ∉ request.path) : Http.Alike outcome outcome := by
  cases outcome with
  | error fault => exact .refused fault
  | ok request => exact .built request (solid request rfl) request.password request.password

namespace Probe

/-- A password that a request can carry. The mark that ends the options is none. -/
structure Sendable (password : Text) : Prop where
  value : password ≠ CommandLine.endMark
  oneLine : Http.Draft.holdsLineBreak password = false

theorem Sendable.accepted {password : Text} (sendable : Sendable password) :
    Http.Draft.acceptCredential (some password) = .ok (some password) := by
  simp [Http.Draft.acceptCredential, sendable.oneLine]

/-- The first word of a command line that gives a password. -/
def passwordWord (password : Text) : Text := "--password=" ++ password

namespace Options

/-- Options that are the same but for the password. -/
inductive Alike (first second : Text) : Options → Options → Prop
  | same (options : Options) : Alike first second options options
  | password (options : Options) :
    Alike first second { options with password := some first }
      { options with password := some second }

variable {first second : Text} {one other : Options}

theorem apply_alike (alike : one.Alike first second other) (setting : Setting) :
    (one.apply setting).Alike first second (other.apply setting) := by
  cases alike with
  | same => exact .same _
  | password options =>
    by_cases later : ∃ text, setting = .password text
    · -- A later password replaces the one that was given before.
      obtain ⟨text, rfl⟩ := later
      exact .same _
    · have kept (text : Option Text) : { options with password := text }.apply setting =
          { options.apply setting with password := text } := by
        cases setting with
        | password text => exact absurd ⟨text, rfl⟩ later
        | _ => rfl
      rw [kept (some first), kept (some second)]
      exact .password _

theorem ofSettings_alike (alike : one.Alike first second other) (settings : List Setting) :
    (one.ofSettings settings).Alike first second (other.ofSettings settings) := by
  induction settings generalizing one other with
  | nil => exact alike
  | cons setting rest ih => exact ih (apply_alike alike setting)

theorem fitFor_alike (alike : one.Alike first second other) (capability : Capability) :
    (one.fitFor capability).Alike first second (other.fitFor capability) := by
  cases alike with
  | same => exact .same _
  | password options =>
    have password (text : Option Text) : Options.fitFor { options with password := text } capability =
        { options.fitFor capability with password := text } := by
      unfold Options.fitFor
      dsimp only
      split <;> rfl
    rw [password (some first), password (some second)]
    exact .password _

theorem rejections_alike (alike : one.Alike first second other) (subjects : List Text) :
    one.rejections subjects = other.rejections subjects := by
  cases alike with
  | same => rfl
  | password options =>
    unfold rejections
    congr 1

variable (files : Files) (path : Text)

/-- The request that options come to, once the password is known. -/
def draft (options : Options) (path : Text) (password : Option Text) : Http.Draft where
  host := .value options.hostname
  port := .value (.int options.port)
  path := .value path
  tls := .value options.tls
  timeout := .value (.real options.timeout)
  username := options.user?
  password := password

/-- The password that a request needs: none where there is no user. -/
def neededPassword (options : Options) (files : Files) : Except Fault (Option Text) :=
  if options.user?.isSome then options.resolvePassword files else .ok none

theorem request_eq (options : Options) :
    options.request files path =
      (options.neededPassword files >>= fun password => (options.draft path password).build) := by
  unfold request neededPassword
  dsimp only
  split <;> rfl

theorem path_of_request {options : Options} {request : Http.Request}
    (built : options.request files path = .ok request) : ' ' ∉ request.path := by
  rw [request_eq] at built
  obtain ⟨password, _, built⟩ := Outcome.bind_ok built
  exact (Http.Draft.sound_of_build built).word

/-- The password of the options is needed unless there is no user or a reference goes before it. -/
theorem neededPassword_password (options : Options) :
    (∀ password, neededPassword { options with password } files = options.neededPassword files) ∨
      ∀ password, neededPassword { options with password } files = .ok password := by
  have user (password : Option Text) : user? { options with password } = options.user? := rfl
  unfold neededPassword resolvePassword
  simp only [user]
  by_cases wanted : options.user?.isSome
  · cases options.reference with
    | some reference => exact .inl fun password => rfl
    | none => exact .inr fun password => by rw [if_pos wanted]
  · exact .inl fun password => by rw [if_neg wanted, if_neg wanted]

theorem request_password (options : Options) :
    (∀ password, request { options with password } files path = options.request files path) ∨
      ∀ password, request { options with password } files path =
        (options.draft path password).build := by
  simp only [request_eq]
  rcases neededPassword_password files options with unread | read
  · exact .inl fun password => by rw [unread]; rfl
  · exact .inr fun password => by rw [read]; rfl

/-- Options that are alike come to requests that are. -/
theorem request_alike (alike : one.Alike first second other) (sendable : Sendable first)
    (sendable' : Sendable second) :
    Http.Alike (one.request files path) (other.request files path) := by
  have solid {options : Options} (request : Http.Request)
      (built : options.request files path = .ok request) : ' ' ∉ request.path :=
    path_of_request files path built
  cases alike with
  | same => exact Http.alike_refl solid
  | password options =>
    rcases request_password files path options with unread | read
    · rw [unread (some first), unread (some second)]
      exact Http.alike_refl solid
    · have built (password : Text) (sendable : Sendable password) :
          request { options with password := some password } files path =
            (options.draft path none).build.map ({ · with password := some password }) := by
        rw [read]
        exact Http.Draft.build_password (options.draft path (some password)) sendable.accepted
      rw [built first sendable, built second sendable']
      cases result : (options.draft path none).build with
      | error fault => exact .refused fault
      | ok request => exact .built request (Http.Draft.sound_of_build result).word _ _

end Options

/-! What a command line comes to that begins with a password. -/

namespace Offer

/-- The same stop, or options that differ in the password. -/
inductive Alike (first second : Text) :
    Except CommandLine.Stop Options → Except CommandLine.Stop Options → Prop
  | stopped (stop : CommandLine.Stop) : Alike first second (.error stop) (.error stop)
  | accepted {one other : Options} (alike : one.Alike first second other) :
    Alike first second (.ok one) (.ok other)

theorem isSameText_long {default : Option Text} (long : ∀ text ∈ default, 1 < text.length)
    (text : Text) : isSameText default text = false := by
  unfold isSameText
  by_cases same : default = some text
  · have tooLong : ¬ text.length ≤ 1 := Nat.not_le.mpr (long text same)
    simp [tooLong]
  · simp [same]

theorem findNamed_password (offer : Offer) :
    CommandLine.findNamed? offer.options "--password" =
      some (password offer.defaults.password) := rfl

theorem parse_alike (offer : Offer)
    (plain : ∀ opt ∈ offer.options, ∀ name ∈ opt.names, '=' ∉ name)
    (long : ∀ text ∈ offer.defaults.password, 1 < text.length) {first second : Text}
    (sendable : Sendable first) (sendable' : Sendable second) (words : List Text) :
    Alike first second (offer.parse (passwordWord first :: words))
      (offer.parse (passwordWord second :: words)) := by
  have read (text : Text) (sendable : Sendable text) :
      CommandLine.parse offer.options (passwordWord text :: words) =
        (CommandLine.parseBehind offer.options
          (CommandLine.Progress.startedWith (Offer.password offer.defaults.password)) words).map
            (.password text :: ·) := by
    have given : CommandLine.Progress.readValue (Offer.password offer.defaults.password) text =
        .ok (some (.password text)) := by
      simp [CommandLine.Progress.readValue, Offer.password, Offer.text, sendable.value]
    have own : (Offer.password offer.defaults.password).isDefault text = false :=
      isSameText_long long text
    exact CommandLine.parse_attached (findNamed_password offer) rfl plain given own words
  unfold parse
  rw [read first sendable, read second sendable']
  cases CommandLine.parseBehind offer.options
      (CommandLine.Progress.startedWith (Offer.password offer.defaults.password)) words with
  | error stop => exact .stopped stop
  | ok settings =>
    refine .accepted (Options.ofSettings_alike ?_ settings)
    exact Options.Alike.password (offer.defaults.fill .password)

end Offer

section Runs

variable {probe : Probe} {files : Files} {transport : Transport} {first second : Text}
  {one other : Options}
  (checks : ∀ {one other : Options}, one.Alike first second other →
    (probe.check files transport one).Alike (probe.check files transport other))

include checks

theorem attempt_alike (alike : one.Alike first second other) :
    (probe.attempt files transport one).Alike (probe.attempt files transport other) := by
  have journals : (prepare probe.offer.program transport one).journal =
      (prepare probe.offer.program transport other).journal := by
    cases alike with
    | same => rfl
    | password options =>
      unfold prepare Fallback.toPlain
      dsimp only
      split <;> rfl
  exact Run.alike_bind_ok (journals ▸ Journal.alike_refl _) (prepare_outcome _ _ _)
    (prepare_outcome _ _ _) (checks (Options.fitFor_alike alike transport.tls))

theorem checked_alike (alike : one.Alike first second other) :
    (probe.checked files transport one).Alike (probe.checked files transport other) := by
  have handled : probe.ofFault other = probe.ofFault one := by
    cases alike <;> rfl
  show ((probe.attempt files transport one).orElse (probe.ofFault one)).Alike
    ((probe.attempt files transport other).orElse (probe.ofFault other))
  rw [handled]
  exact Run.alike_orElse (attempt_alike checks alike)

theorem runWith_alike (alike : one.Alike first second other) :
    (probe.runWith files transport one).Alike (probe.runWith files transport other) := by
  have loud : other.verbosity = one.verbosity := by
    cases alike <;> rfl
  unfold runWith
  rw [loud]
  exact Run.alike_bind (Run.alike_refl _) fun _ =>
    Run.alike_bind (checked_alike checks alike) fun _ => Run.alike_refl _

theorem run_alike {words words' : List Text}
    (parsed : Offer.Alike first second (probe.offer.parse words) (probe.offer.parse words'))
    (debug : words.contains debugWord = words'.contains debugWord) :
    (probe.run files transport words).Alike (probe.run files transport words') := by
  have rejected : probe.onRejection words' = probe.onRejection words := by
    funext fault
    unfold onRejection
    rw [debug]
  unfold run Offer.read
  rw [rejected]
  generalize probe.offer.parse words = left, probe.offer.parse words' = right at parsed ⊢
  cases parsed with
  | stopped stop => exact Run.alike_refl _
  | @accepted one other alike =>
    dsimp only
    rw [Offer.rejections, Offer.rejections, Options.rejections_alike alike]
    cases other.rejections (probe.offer.subjects.map Subject.name) with
    | nil => exact Run.alike_bind (Run.alike_refl _) fun _ => runWith_alike checks alike
    | cons first rest => exact Run.alike_refl _

end Runs

end Probe

namespace Service

variable {service : Service} {first second : Text} {one other : Probe.Options}

/-- No service looks at the password, neither for the path nor for its verdict. -/
theorem asks_alike (known : service ∈ all) (alike : one.Alike first second other) :
    service.path other = service.path one ∧ service.judge other = service.judge one := by
  cases alike with
  | same => exact ⟨rfl, rfl⟩
  | password options =>
    rcases mem_all.mp known with rfl | rfl | rfl | rfl | rfl | rfl | rfl <;> exact ⟨rfl, rfl⟩

theorem check_alike (known : service ∈ all) (sendable : Probe.Sendable first)
    (sendable' : Probe.Sendable second) (tls : Capability) (replies : Transport.Replies)
    (files : Files) (alike : one.Alike first second other) :
    (service.check files (.scripted tls replies) one).Alike
      (service.check files (.scripted tls replies) other) := by
  obtain ⟨path, judge⟩ := asks_alike known alike
  have requests := Probe.Options.request_alike files (service.path one) alike sendable sendable'
  unfold check
  rw [path, judge]
  generalize one.request files (service.path one) = left,
    other.request files (service.path one) = right at requests ⊢
  cases requests with
  | refused fault => exact Run.alike_refl _
  | built request solid a b =>
    rw [Run.ofExcept_ok_bind, Run.ofExcept_ok_bind]
    exact Run.alike_bind (Http.get_alike tls replies solid a b) fun _ => Run.alike_refl _

theorem names_plain (known : service ∈ all) :
    ∀ opt ∈ service.offer.options, ∀ name ∈ opt.names, '=' ∉ name := by
  revert service
  decide

theorem default_long (known : service ∈ all) :
    ∀ text ∈ service.offer.defaults.password, 1 < text.length := by
  revert service
  decide

/-- Two runs that are given passwords that can be sent come to the same end and say the same. Of what
they send only the authorization line may differ. -/
theorem run_hides_password (known : service ∈ all) (sendable : Probe.Sendable first)
    (sendable' : Probe.Sendable second) (tls : Capability) (replies : Transport.Replies)
    (files : Files) (words : List Text) :
    let run (password : Text) :=
      service.probe.run files (.scripted tls replies) (Probe.passwordWord password :: words)
    (run first).outcome = (run second).outcome ∧
      (run first).journal.output = (run second).journal.output ∧
      (∀ settings, (run first).journal.errorText settings =
        (run second).journal.errorText settings) ∧
      List.Forall₂ Wire.Alike (run first).journal.exchanges (run second).journal.exchanges := by
  intro run
  have noDebug (password : Text) :
      (Probe.passwordWord password :: words).contains Probe.debugWord =
        words.contains Probe.debugWord := by
    have other : Probe.debugWord ≠ Probe.passwordWord password := by
      intro same
      cases same
    rw [List.contains_cons, beq_false_of_ne other, Bool.false_or]
  have alike : (run first).Alike (run second) :=
    Probe.run_alike (check_alike known sendable sendable' tls replies files)
      (Probe.Offer.parse_alike service.offer (names_plain known) (default_long known) sendable
        sendable' words)
      ((noDebug first).trans (noDebug second).symm)
  exact ⟨alike.outcome, Journal.output_of_alike alike.journal,
    Journal.errorText_of_alike alike.journal, Journal.exchanges_of_alike alike.journal⟩

/-- An empty password is told apart from another one by the peer alone. -/
theorem rabbitMq_hides_password :
    let words : List Text := ["-H", "mq", "-vv"]
    let run (password : Text) := rabbitMq.probe.run [] (.scripted { available := true } {})
      (Probe.passwordWord password :: words)
    rabbitMq ∈ all ∧ Probe.Sendable [] ∧ Probe.Sendable "s3cret" ∧
      (run []).outcome = .ok (.returned 2) ∧ (run "s3cret").outcome = .ok (.returned 2) ∧
      (run []).journal.output = (run "s3cret").journal.output ∧
      List.Forall₂ Wire.Alike (run []).journal.exchanges (run "s3cret").journal.exchanges ∧
      (run []).journal.exchanges ≠ (run "s3cret").journal.exchanges := by
  intro words run
  have known : rabbitMq ∈ all := by simp [all, named]
  have empty : Probe.Sendable [] := ⟨by decide, by decide⟩
  have other : Probe.Sendable "s3cret" := ⟨by decide, by decide⟩
  obtain ⟨same, output, _, exchanges⟩ :=
    run_hides_password known empty other { available := true } {} [] words
  have critical : (run []).outcome = .ok (.returned 2) := by rfl
  exact ⟨known, empty, other, critical, same ▸ critical, output, exchanges, by decide +kernel⟩

/-- A request refuses a password with a line break, and the refusal shows it. -/
theorem grafana_shows_password :
    let words : List Text := ["-H", "h", "-u", "u"]
    let raw := Utf8.encode "HTTP/1.1 200 OK\r\n\r\n\x7b\"database\":\"ok\"\x7d"
    let run (password : Text) := grafana.probe.run [] (.scripted { available := true }
      { otherwise := some (.bytes raw) }) (Probe.passwordWord password :: words)
    grafana ∈ all ∧ (run "x").outcome.toOption = some (.returned 0) ∧
      (run "x").journal.output = "OK: Database: ok\n".toList ∧
      (run "a\nb").outcome.toOption = some (.returned 3) ∧
      (run "a\nb").journal.output = ("UNKNOWN: Grafana check failed: 1 validation error for " ++
        "HTTPRequest\npassword\n  Value error, must not contain line breaks " ++
        "[type=value_error, input_value='a\\nb', input_type=str]\n").toList := by
  intro words raw run
  have known : grafana ∈ all := by simp [all, named]
  refine ⟨known, by decide +kernel, ?_, by decide +kernel, ?_⟩
  · rw [String.toList_ofList]
    decide +kernel
  · rw [String.toList_append, String.toList_append, String.toList_ofList, String.toList_ofList,
      String.toList_ofList]
    decide +kernel

end Service
end ServiceProbe
