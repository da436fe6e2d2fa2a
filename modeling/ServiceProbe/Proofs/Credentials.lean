import ServiceProbe.Proofs.Fallback
import ServiceProbe.Proofs.Head
import ServiceProbe.Proofs.StoreEntry
/-!
What a run hands over to the peer: the peer itself, and the name and the password of a user. A stored
password goes before a given one, a given one before the usual one, and without a user no password is
looked for.
-/
namespace ServiceProbe

/-! What a command line says of a field. -/

namespace Probe

namespace Setting

def username? : Setting → Option Text
  | .username text => some text
  | _ => none

def password? : Setting → Option Text
  | .password text => some text
  | _ => none

def reference? : Setting → Option Text
  | .reference text => some text
  | _ => none

end Setting

/-- What the last of some settings tells that tells anything. -/
def lastSaid (tells : Setting → Option Text) (settings : List Setting) : Option Text :=
  (settings.filterMap tells).getLast?

theorem lastSaid_cons (tells : Setting → Option Text) (setting : Setting) (rest : List Setting) :
    lastSaid tells (setting :: rest) = (lastSaid tells rest).or (tells setting) := by
  unfold lastSaid
  cases said : tells setting with
  | none => rw [List.filterMap_cons_none said, Option.or_none]
  | some text =>
    rw [List.filterMap_cons_some said, List.getLast?_cons]
    cases (rest.filterMap tells).getLast? <;> rfl

namespace Options

/-- A field that each setting either tells anew or leaves alone has what was told last. -/
theorem ofSettings_lastSaid (field : Options → Option Text) (tells : Setting → Option Text)
    (step : ∀ options setting, field (options.apply setting) = (tells setting).or (field options))
    (defaults : Options) (settings : List Setting) :
    field (defaults.ofSettings settings) = (lastSaid tells settings).or (field defaults) := by
  induction settings generalizing defaults with
  | nil => rfl
  | cons setting rest ih =>
    rw [lastSaid_cons, Option.or_assoc, ← step]
    exact ih (defaults.apply setting)

variable (defaults : Options) (settings : List Setting)

theorem ofSettings_username : (defaults.ofSettings settings).username =
    (lastSaid Setting.username? settings).or defaults.username :=
  ofSettings_lastSaid username Setting.username? (fun _ setting => by cases setting <;> rfl)
    defaults settings

theorem ofSettings_password : (defaults.ofSettings settings).password =
    (lastSaid Setting.password? settings).or defaults.password :=
  ofSettings_lastSaid password Setting.password? (fun _ setting => by cases setting <;> rfl)
    defaults settings

theorem ofSettings_reference : (defaults.ofSettings settings).reference =
    (lastSaid Setting.reference? settings).or defaults.reference :=
  ofSettings_lastSaid reference Setting.reference? (fun _ setting => by cases setting <;> rfl)
    defaults settings

end Options
end Probe

/-! Where a password comes from. -/

/-- A reference leads to an entry of a store that can be read. -/
def PasswordStore.Refers (files : Files) (reference password : Text) : Prop :=
  ∃ id path store, splitReference? reference = some (id, path) ∧ load files path = .ok store ∧
    store.find? id = some password

theorem PasswordStore.lookup_eq_ok_iff {files : Files} {path : Path} {id password : Text} :
    lookup files path id = .ok password ↔
      ∃ store, load files path = .ok store ∧ store.find? id = some password := by
  constructor
  · intro found
    obtain ⟨store, loaded, entry⟩ := Outcome.bind_ok found
    refine ⟨store, loaded, ?_⟩
    split at entry
    · next held =>
      cases entry
      exact held
    · cases entry
  · rintro ⟨store, loaded, entry⟩
    simp [lookup, loaded, entry, bind, Except.bind, pure, Except.pure]

/-- Of a store that can be read as text the last entry counts, if no line is malformed. -/
theorem PasswordStore.refers_iff_tells {files : Files} {path : Path} {reference id content password : Text}
    (parts : splitReference? reference = some (id, path)) (holds : Holds files path content) :
    Refers files reference password ↔
      (∀ line ∈ Text.lines content, ¬Malformed line) ∧ Tells id password (Text.lines content) := by
  rw [← lookup_iff_tells holds, lookup_eq_ok_iff]
  constructor
  · rintro ⟨_, _, store, parts', loaded, entry⟩
    cases parts.symm.trans parts'
    exact ⟨store, loaded, entry⟩
  · rintro ⟨store, loaded, entry⟩
    exact ⟨id, path, store, parts, loaded, entry⟩

namespace Probe

/-- Where the password of a user comes from, from what goes first to what goes last. -/
inductive Supplies (files : Files) (defaults : Options) (settings : List Setting) : Text → Prop
  | stored {reference password : Text} (said : lastSaid Setting.reference? settings = some reference)
    (entry : PasswordStore.Refers files reference password) : Supplies files defaults settings password
  | given {password : Text} (unsaid : lastSaid Setting.reference? settings = none)
    (said : lastSaid Setting.password? settings = some password) :
    Supplies files defaults settings password
  | usual {password : Text} (unsaid : lastSaid Setting.reference? settings = none)
    (noneGiven : lastSaid Setting.password? settings = none)
    (kept : defaults.password = some password) : Supplies files defaults settings password
  | empty (unsaid : lastSaid Setting.reference? settings = none)
    (noneGiven : lastSaid Setting.password? settings = none) (noneKept : defaults.password = none) :
    Supplies files defaults settings []

namespace Options

variable {options : Options} {files : Files}

theorem resolvePassword_of_none (unsaid : options.reference = none) :
    options.resolvePassword files = .ok options.password := by
  rw [resolvePassword, unsaid]

theorem resolvePassword_eq_ok_iff {reference : Text} (said : options.reference = some reference)
    {password : Option Text} : options.resolvePassword files = .ok password ↔
      ∃ text, password = some text ∧ PasswordStore.Refers files reference text := by
  rw [resolvePassword, said]
  dsimp only
  constructor
  · intro resolved
    split at resolved
    · cases resolved
    · next id path parts =>
      obtain ⟨text, found, rfl⟩ := Outcome.map_ok resolved
      obtain ⟨store, loaded, entry⟩ := PasswordStore.lookup_eq_ok_iff.mp found
      exact ⟨text, rfl, id, path, store, parts, loaded, entry⟩
  · rintro ⟨text, rfl, id, path, store, parts, loaded, entry⟩
    have found := PasswordStore.lookup_eq_ok_iff.mpr ⟨store, loaded, entry⟩
    rw [parts]
    dsimp only
    rw [found]
    rfl

/-- A password that is found is supplied, and a missing one is empty. -/
theorem supplies_of_resolvePassword {defaults : Options} {settings : List Setting}
    (noReference : defaults.reference = none) {password : Option Text}
    (resolved : (defaults.ofSettings settings).resolvePassword files = .ok password) :
    Supplies files defaults settings (password.getD []) := by
  have reference := ofSettings_reference defaults settings
  rw [noReference, Option.or_none] at reference
  cases said : lastSaid Setting.reference? settings with
  | some text =>
    rw [said] at reference
    obtain ⟨stored, rfl, entry⟩ := (resolvePassword_eq_ok_iff reference).mp resolved
    exact .stored said entry
  | none =>
    rw [said] at reference
    rw [resolvePassword_of_none reference, ofSettings_password] at resolved
    cases resolved
    cases given : lastSaid Setting.password? settings with
    | some text => exact .given said given
    | none =>
      cases kept : defaults.password with
      | some text => exact .usual said given kept
      | none => exact .empty said given kept

end Options
end Probe

/-! A request takes its fields from the options as they are. -/

namespace Http.Draft

theorem acceptHost_eq {host accepted : Text} (taken : acceptHost host = .ok accepted) :
    accepted = host := by
  rw [acceptHost, Letter.characters_text] at taken
  dsimp only at taken
  split at taken
  · cases taken
  split at taken
  · cases taken
  · exact (Except.ok.inj taken).symm

theorem acceptPort_eq {port accepted : Int} (taken : acceptPort (.int port) = .ok accepted) :
    accepted = port := by
  rw [acceptPort] at taken
  obtain ⟨whole, read, taken⟩ := Outcome.bind_ok taken
  cases read
  split at taken
  · exact (Except.ok.inj taken).symm
  · cases taken

theorem acceptPath_eq {path accepted : Text} (taken : acceptPath path = .ok accepted) :
    accepted = path := by
  rw [acceptPath] at taken
  split at taken
  · cases taken
  split at taken
  · exact (Except.ok.inj taken).symm
  · cases taken

theorem acceptTimeout_eq {timeout accepted : Double}
    (taken : acceptTimeout (.real timeout) = .ok accepted) : accepted = timeout := by
  have double : Number.toDouble (.real timeout) = .ok timeout := rfl
  rw [acceptTimeout, double] at taken
  dsimp only at taken
  split at taken
  · exact (Except.ok.inj taken).symm
  · cases taken

theorem acceptCredential_eq {credential accepted : Option Text}
    (taken : acceptCredential credential = .ok accepted) : accepted = credential := by
  cases credential with
  | none => exact (Except.ok.inj taken).symm
  | some text =>
    rw [acceptCredential] at taken
    split at taken
    · cases taken
    · exact (Except.ok.inj taken).symm

end Http.Draft

namespace Probe.Options

/-- The request that options ask for, once the password is known. -/
def asking (options : Options) (path : Text) (password : Option Text) : Http.Request where
  host := options.hostname
  port := options.port
  path := path
  tls := options.tls
  timeout := options.timeout
  username := options.user?
  password := password

variable {options : Options} {files : Files} {path : Text} {request : Http.Request}

theorem asking_of_request (built : options.request files path = .ok request) :
    ∃ password, options.neededPassword files = .ok password ∧
      request = options.asking path password ∧ request.Sound := by
  rw [request_eq] at built
  obtain ⟨password, needed, built⟩ := Outcome.bind_ok built
  refine ⟨password, needed, ?_, Http.Draft.sound_of_build built⟩
  obtain ⟨host, port, place, tls, timeout, username, secret⟩ := Http.Draft.fields_of_build built
  cases request
  rw [asking, Http.Request.mk.injEq]
  exact ⟨Http.Draft.acceptHost_eq host, Http.Draft.acceptPort_eq port,
    Http.Draft.acceptPath_eq place, (Except.ok.inj tls).symm, Http.Draft.acceptTimeout_eq timeout,
    Http.Draft.acceptCredential_eq username, Http.Draft.acceptCredential_eq secret⟩

end Probe.Options

/-! The authorization that a payload carries. -/

theorem Text.after_otherHead {pattern text : Text} (some : pattern ≠ [])
    (other : text.head? ≠ pattern.head?) : Text.after? pattern text = none := by
  cases pattern with
  | nil => exact absurd rfl some
  | cons p pattern =>
    cases text with
    | nil => rfl
    | cons c rest =>
      have apart : p ≠ c := by
        rintro rfl
        exact other rfl
      simp [Text.after?, apart]

namespace Http

/-- What the lines of a payload have behind the name of the field. -/
def authorizationsOf (payload : Bytes) : List Text :=
  (linesOf payload).filterMap fun line =>
    Text.after? "Authorization: " (Utf8.decodeLossy line)

/-- The name and the password of an authorization of the basic kind, with a colon between them. -/
def credentialsIn? (authorization : Text) : Option Bytes :=
  (Text.after? "Basic " authorization).map Base64.decode

def Request.basicText (credentials : Text) : Text :=
  "Basic " ++ Base64.encode (Utf8.encode credentials)

theorem credentialsIn_basicText (credentials : Text) :
    credentialsIn? (Request.basicText credentials) = some (Utf8.encode credentials) := by
  show (Text.after? "Basic " ("Basic " ++ Base64.encode (Utf8.encode credentials))).map
    Base64.decode = _
  rw [Text.after_append, Option.map_some, Base64.decode_encode]

theorem Request.authorizationLine_eq (credentials : Text) :
    authorizationLine credentials = ("Authorization: " : Text) ++ basicText credentials := by
  have name : ("Authorization: Basic " : Text) = ("Authorization: " : Text) ++ ("Basic " : Text) := by
    simp
  calc authorizationLine credentials
    _ = ("Authorization: " ++ "Basic ") ++ Base64.encode (Utf8.encode credentials) :=
      congrArg (· ++ Base64.encode (Utf8.encode credentials)) name
    _ = "Authorization: " ++ basicText credentials := List.append_assoc _ _ _

/-- No line of another field begins like an authorization. -/
theorem Request.after_otherLine {line : Text} {c : Char} (first : line.head? = some c)
    (other : c ≠ 'A') : Text.after? "Authorization: " line = none := by
  refine Text.after_otherHead ?_ ?_
  · simp
  · simpa [first] using other

/-- A request has an authorization if there is a user, and no other line that reads like one. -/
theorem authorizationsOf_render {request : Request} (sound : request.Sound) :
    authorizationsOf request.render = (request.credentials?.map Request.basicText).toList := by
  have ends : Text.after? "Authorization: " (Utf8.decodeLossy []) = none :=
    Text.after_otherHead (by simp) (by simp [Utf8.decodeLossy])
  have read : authorizationsOf request.render =
      request.lines.filterMap (Text.after? "Authorization: ") := by
    rw [authorizationsOf, Request.linesOf_render (Request.lines_solid sound.solid), List.filterMap_append,
      List.filterMap_map]
    simp only [Function.comp_def, Utf8.decodeLossy_encode, List.filterMap_cons, ends,
      List.filterMap_nil, List.append_nil]
  have others : [request.requestLine, "Host: " ++ request.hostHeader, "Connection: close",
      "User-Agent: " ++ Request.userAgent, "Accept: application/json, text/plain, */*"].filterMap
        (Text.after? "Authorization: ") = [] := by
    rw [List.filterMap_eq_nil_iff]
    intro line member
    simp only [List.mem_cons, List.not_mem_nil, or_false] at member
    -- Each line but the last begins with a letter of its own.
    rcases member with rfl | rfl | rfl | rfl | rfl
    · exact Request.after_otherLine (show _ = some 'G' by simp [Request.requestLine]) (by decide)
    · exact Request.after_otherLine (show _ = some 'H' by simp) (by decide)
    · exact Request.after_otherLine (show _ = some 'C' by simp) (by decide)
    · exact Request.after_otherLine (show _ = some 'U' by simp) (by decide)
    · decide +kernel
  rw [read, Request.lines_eq, Request.fieldLines]
  cases request.credentials? with
  | none => exact others
  | some credentials =>
    have behind : [Request.authorizationLine credentials].filterMap
        (Text.after? "Authorization: ") = [Request.basicText credentials] := by
      rw [Request.authorizationLine_eq, List.filterMap_cons_some (Text.after_append _ _)]
      rfl
    rw [← List.cons_append, List.filterMap_append, others]
    exact behind

end Http

/-! The user of a run. -/

namespace Probe.Options

variable {options : Options} {files : Files} {path : Text}

theorem user_eq_none (nobody : options.username.getD [] = []) : options.user? = none := by
  rw [user?]
  cases named : options.username with
  | none => rfl
  | some name =>
    rw [named] at nobody
    exact Option.filter_some_neg (by simpa using nobody)

theorem user_eq_some (somebody : options.username.getD [] ≠ []) :
    options.user? = some (options.username.getD []) := by
  rw [user?]
  cases named : options.username with
  | none => exact absurd (by rw [named]; rfl) somebody
  | some name =>
    rw [named] at somebody
    exact Option.filter_some_pos (by simpa using somebody)

/-- Without a user no file is looked at. -/
theorem request_of_nobody (nobody : options.user? = none) (files others : Files) (path : Text) :
    options.request files path = options.request others path := by
  rw [request_eq, request_eq, neededPassword, neededPassword, nobody]
  rfl

theorem neededPassword_of_somebody (somebody : options.username.getD [] ≠ []) :
    options.neededPassword files = options.resolvePassword files := by
  rw [neededPassword, user_eq_some somebody]
  rfl

theorem credentials_asking (password : Option Text) :
    (options.asking path password).credentials? =
      options.user?.map (· ++ ':' :: password.getD []) := by
  rw [Http.Request.credentials?, asking]
  cases named : options.user? with
  | none => rfl
  | some name =>
    cases name with
    | nil =>
      rw [user?, Option.filter_eq_some_iff] at named
      exact absurd named.2 (by simp)
    | cons c name => rfl

/-- What is sent has no authorization without a user. -/
theorem authorizations_of_nobody {password : Option Text}
    (sound : (options.asking path password).Sound) (nobody : options.username.getD [] = []) :
    Http.authorizationsOf (options.asking path password).wire.payload = [] := by
  show Http.authorizationsOf (options.asking path password).render = []
  rw [Http.authorizationsOf_render sound, credentials_asking, user_eq_none nobody]
  rfl

theorem authorizations_of_somebody {password : Option Text}
    (sound : (options.asking path password).Sound) (somebody : options.username.getD [] ≠ []) :
    Http.authorizationsOf (options.asking path password).wire.payload =
      [Http.Request.basicText (options.username.getD [] ++ ':' :: password.getD [])] := by
  show Http.authorizationsOf (options.asking path password).render = _
  rw [Http.authorizationsOf_render sound, credentials_asking, user_eq_some somebody]
  rfl

end Probe.Options

namespace Service

open Probe (Supplies lastSaid)

variable {service : Service} {options : Probe.Options} {words : List Text} {tls : Capability}
  {replies : Transport.Replies} {files : Files}

theorem no_usual_reference (known : service ∈ all) : service.offer.defaults.reference = none := by
  revert service
  decide

section Runs

variable (accepted : service.offer.parse words = .ok options)
  (fit : service.offer.rejections options = []) (available : tls.available = true)

include accepted fit available

/-- A run without a user is the same whatever the files hold. -/
theorem run_of_nobody (nobody : options.user? = none) (files others : Files) :
    service.probe.run files (.scripted tls replies) words =
      service.probe.run others (.scripted tls replies) words := by
  have plain : (options.tls && !(Transport.scripted tls replies).tls.available) = false := by
    simp [Transport.scripted, available]
  have checks : service.probe.check files (.scripted tls replies) options =
      service.probe.check others (.scripted tls replies) options := by
    show service.check files _ options = service.check others _ options
    unfold check
    rw [Probe.Options.request_of_nobody nobody files others]
  have begun (files : Files) : service.probe.run files (.scripted tls replies) words =
      service.probe.runWith files (.scripted tls replies) options :=
    Probe.run_accepted accepted fit
  rw [begun, begun, Probe.runWith_eq_behind, Probe.runWith_eq_behind, Probe.checked_fit plain,
    Probe.checked_fit plain, checks]

variable (noDebug : options.debug = false)

include noDebug

/-- A run that sends anything sends its request, and a run that sends nothing is over with the state
unknown. -/
theorem run_sends :
    let run := service.probe.run files (.scripted tls replies) words
    (run.journal.exchanges = [] ∧ run.outcome = .ok (.returned 3)) ∨
      ∃ password, options.neededPassword files = .ok password ∧
        (options.asking (service.path options) password).Sound ∧
        run.journal.exchanges = [(options.asking (service.path options) password).wire] := by
  intro run
  have asked : options.fitFor tls = options := by simp [Probe.Options.fitFor, available]
  have checks : run.journal.exchanges =
        (service.check files (.scripted tls replies) options).journal.exchanges ∧
      Probe.Returns run (service.probe.resultOf
        (service.check files (.scripted tls replies) options).outcome) := by
    rw [← asked]
    exact run_checks accepted fit noDebug
  cases built : options.request files (service.path options) with
  | error fault =>
    rw [check_refused built] at checks
    exact Or.inl ⟨checks.1, checks.2.outcome⟩
  | ok request =>
    obtain ⟨password, needed, rfl, sound⟩ := Probe.Options.asking_of_request built
    refine Or.inr ⟨password, needed, sound, ?_⟩
    rw [checks.1, (check_scripted built).1]
    simp [Http.Request.fitFor, available]

end Runs

/-- A run makes at most one exchange, with the peer of its options. The request names a user if there is
one, with the password that goes first; a password that a reference does not lead to keeps the run from
asking, and without a user no store is read. -/
theorem run_sends_what_was_said (known : service ∈ all) {settings : List Probe.Setting}
    (read : CommandLine.parse service.offer.options words = .ok settings)
    (fit : service.offer.rejections (service.offer.defaults.ofSettings settings) = [])
    (noDebug : (service.offer.defaults.ofSettings settings).debug = false)
    (available : tls.available = true) (replies : Transport.Replies) (files : Files) :
    let defaults := service.offer.defaults
    let options := defaults.ofSettings settings
    let user := ((lastSaid Probe.Setting.username? settings).or defaults.username).getD []
    let run (files : Files) := service.probe.run files (.scripted tls replies) words
    let sent := (run files).journal.exchanges
    sent.length ≤ 1 ∧ (sent = [] → (run files).outcome = .ok (.returned 3)) ∧
      (∀ wire ∈ sent,
        wire.host = options.hostname ∧ wire.port = options.port ∧
          wire.timeout = .real options.timeout ∧ wire.tls = options.tls ∧
          (user = [] → Http.authorizationsOf wire.payload = []) ∧
          (user ≠ [] → ∃ authorization password,
            Http.authorizationsOf wire.payload = [authorization] ∧
              Http.credentialsIn? authorization = some (Utf8.encode (user ++ ':' :: password)) ∧
              Supplies files defaults settings password)) ∧
      (∀ reference, user ≠ [] → lastSaid Probe.Setting.reference? settings = some reference →
        (∀ password, ¬PasswordStore.Refers files reference password) →
          sent = [] ∧ (run files).outcome = .ok (.returned 3)) ∧
      (user = [] → ∀ others, run others = run files) := by
  intro defaults options user run sent
  have accepted : service.offer.parse words = .ok options := by
    rw [Probe.Offer.parse, read]
    rfl
  have username : options.username.getD [] = user := by
    rw [Probe.Options.ofSettings_username]
  have noReference := no_usual_reference known
  have ways : (sent = [] ∧ (run files).outcome = .ok (.returned 3)) ∨ ∃ password,
      options.neededPassword files = .ok password ∧
        (options.asking (service.path options) password).Sound ∧
        sent = [(options.asking (service.path options) password).wire] :=
    run_sends accepted fit available noDebug
  rw [← username]
  -- Without a user the store is out of reach, whether or not anything is sent.
  have alone (nobody : options.username.getD [] = []) (others : Files) : run others = run files :=
    run_of_nobody accepted fit available (Probe.Options.user_eq_none nobody) others files
  rcases ways with ⟨unasked, unknown⟩ | ⟨password, needed, sound, one⟩
  · rw [unasked]
    exact ⟨by simp, fun _ => unknown, by simp, fun _ _ _ _ => ⟨rfl, unknown⟩, alone⟩
  · rw [one]
    refine ⟨le_refl 1, by simp, ?_, ?_, alone⟩
    · intro wire member
      obtain rfl := List.mem_singleton.mp member
      refine ⟨rfl, rfl, rfl, rfl, Probe.Options.authorizations_of_nobody sound, ?_⟩
      intro somebody
      refine ⟨_, _, Probe.Options.authorizations_of_somebody sound somebody,
        Http.credentialsIn_basicText _, ?_⟩
      rw [Probe.Options.neededPassword_of_somebody somebody] at needed
      exact Probe.Options.supplies_of_resolvePassword noReference needed
    · -- A request was sent, so the reference did lead to an entry.
      intro reference somebody said dangles
      have given : options.reference = some reference := by
        rw [Probe.Options.ofSettings_reference, said]
        rfl
      rw [Probe.Options.neededPassword_of_somebody somebody] at needed
      obtain ⟨text, _, entry⟩ := (Probe.Options.resolvePassword_eq_ok_iff given).mp needed
      exact absurd entry (dangles text)

/-- Of two entries of a store in the system the later one is sent, in place of the usual password of the
broker, and where there is no store nothing is sent. -/
theorem rabbitMq_sends_stored_password :
    let reference : Text := "id:/etc/netmon/passwords"
    let words : List Text := ["-H", "mq", "-u", "ops", "--password-reference", reference]
    let settings : List Probe.Setting := [.hostname "mq", .username "ops", .reference reference]
    let rows : List PasswordStore.Row := [.entry "id" "one", .entry "id" "two"]
    let files :=
      Files.holding (.ofText "/etc/netmon/passwords") (Utf8.encode (PasswordStore.write rows))
    let run (files : Files) :=
      rabbitMq.probe.run files (.scripted { available := true } {}) words
    rabbitMq ∈ all ∧ CommandLine.parse rabbitMq.offer.options words = .ok settings ∧
      rabbitMq.offer.rejections (rabbitMq.offer.defaults.ofSettings settings) = [] ∧
      (rabbitMq.offer.defaults.ofSettings settings).debug = false ∧
      PasswordStore.Refers files reference "two" ∧
      (∃ wire ∈ (run files).journal.exchanges, wire.host = "mq" ∧ wire.port = 15672 ∧
        ∃ authorization password, Http.authorizationsOf wire.payload = [authorization] ∧
          Http.credentialsIn? authorization = some (Utf8.encode ("ops" ++ ':' :: password)) ∧
          Supplies files rabbitMq.offer.defaults settings password) ∧
      (run files).journal.exchanges.map (fun wire => Http.authorizationsOf wire.payload) =
        [["Basic b3BzOnR3bw==".toList]] ∧
      (run []).journal.exchanges = [] ∧ (run []).outcome = .ok (.returned 3) := by
  intro reference words settings rows files run
  have known : rabbitMq ∈ all := by simp [all, named]
  have read : CommandLine.parse rabbitMq.offer.options words = .ok settings := by rfl
  have fit : rabbitMq.offer.rejections (rabbitMq.offer.defaults.ofSettings settings) = [] := by
    decide
  have available : Capability.available { available := true } = true := rfl
  have named : ((lastSaid Probe.Setting.username? settings).or
      rabbitMq.offer.defaults.username).getD [] ≠ [] := by decide
  obtain ⟨_, _, sends, _, _⟩ := run_sends_what_was_said known read fit rfl available {} files
  obtain ⟨_, _, _, dangling, _⟩ := run_sends_what_was_said known read fit rfl available {} []
  obtain ⟨wire, sent⟩ : ∃ wire, wire ∈ (run files).journal.exchanges :=
    List.exists_mem_of_ne_nil _ (by decide +kernel)
  obtain ⟨host, port, _, _, _, authorized⟩ := sends wire sent
  have noEntry (password : Text) : ¬PasswordStore.Refers [] reference password := by
    rintro ⟨id, path, store, parts, loaded, _⟩
    cases parts
    cases loaded
  have unasked := dangling reference named rfl noEntry
  have leads : Files.Leads (.ofText "/etc/netmon/passwords") :=
    ⟨by decide, by decide, by decide, by decide⟩
  have sound : ∀ row ∈ rows, row.Sound := by decide
  have one : ∀ row ∈ rows, row.OneLine := by decide
  have told : PasswordStore.Tells "id" "two" (Text.lines (PasswordStore.write rows)) :=
    @PasswordStore.write_tells [.entry "id" "one"] [] "id" "two" sound one (by simp)
  have stored : PasswordStore.Refers files reference "two" :=
    (PasswordStore.refers_iff_tells rfl (PasswordStore.holds_holding (by decide) leads _)).mpr
      ⟨PasswordStore.write_fits sound one, told⟩
  exact ⟨known, read, fit, rfl, stored, ⟨wire, sent, host, port, authorized named⟩, by decide +kernel,
    unasked⟩

end Service
end ServiceProbe
