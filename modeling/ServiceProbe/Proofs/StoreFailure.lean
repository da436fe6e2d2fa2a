import ServiceProbe.Proofs.Credentials
import ServiceProbe.Proofs.StoreEntry
/-!
What is told of a store that does not give a password: which store it is, which id was asked for, why the
system did not read it, or which line is the first that is no entry. Stores that fail alike are told of
alike. Only of a store that is not text is more told: a byte of it.
-/
namespace ServiceProbe

namespace PasswordStore

/-- Why a store cannot be loaded. -/
inductive Unloadable (files : Files) (path : Path) : Fault → Prop
  | nul (odd : '\x00' ∈ path.text) : Unloadable files path .nulInPath
  | unreadable {obstacle : Files.Obstacle} (plain : '\x00' ∉ path.text)
    (stopped : files.read path = .error obstacle) :
    Unloadable files path (.store (.unreadable path.text (obstacle.trouble path)))
  | undecodable {bytes : Bytes} {failure : Utf8.Failure} (plain : '\x00' ∉ path.text)
    (read : files.read path = .ok bytes) (flawed : Utf8.decode bytes = .error failure) :
    Unloadable files path (.undecodable failure)
  | malformed {content : Text} {number : Nat} (holds : Holds files path content)
    (breaks : BreaksAt number (Text.lines content)) :
    Unloadable files path (.store (.malformedLine path.text number))

/-- Why a store gives no password for an id. -/
inductive Unanswered (files : Files) (path : Path) (id : Text) : Fault → Prop
  | unloadable {fault : Fault} (why : Unloadable files path fault) : Unanswered files path id fault
  | unknown {content : Text} (holds : Holds files path content)
    (fit : ∀ line ∈ Text.lines content, ¬Malformed line) (lacks : Lacks (Text.lines content) id) :
    Unanswered files path id (.store (.unknownId path.text id))

section Store

variable {files : Files} {path : Path} {id : Text} {fault : Fault}

theorem load_of_unloadable (why : Unloadable files path fault) : load files path = .error fault := by
  cases why with
  | nul odd => rw [load, if_pos (by simpa using odd)]
  | unreadable plain stopped => rw [load, if_neg (by simpa using plain), stopped]
  | undecodable plain read flawed =>
    rw [load, if_neg (by simpa using plain), read]
    dsimp only
    rw [flawed]
  | malformed holds breaks => exact load_of_breaks holds breaks

/-- A store that is text can be loaded unless a line is malformed. -/
theorem load_of_fit {content : Text} (holds : Holds files path content)
    (fit : ∀ line ∈ Text.lines content, ¬Malformed line) : Outcome.Succeeds (load files path) := by
  obtain ⟨store, read⟩ := ofLines_succeeds [] 1 fit
  rw [load_of_holds holds, parse, read]
  exact ⟨store, rfl⟩

theorem unloadable_or_fit (files : Files) (path : Path) : (∃ fault, Unloadable files path fault) ∨
    ∃ content, Holds files path content ∧ ∀ line ∈ Text.lines content, ¬Malformed line := by
  by_cases odd : '\x00' ∈ path.text
  · exact Or.inl ⟨_, .nul odd⟩
  cases read : files.read path with
  | error obstacle => exact Or.inl ⟨_, .unreadable odd read⟩
  | ok bytes =>
    cases decoded : Utf8.decode bytes with
    | error failure => exact Or.inl ⟨_, .undecodable odd read decoded⟩
    | ok content =>
      have holds : Holds files path content := ⟨odd, bytes, read, decoded⟩
      rcases fit_or_breaks (Text.lines content) with fit | ⟨number, breaks⟩
      · exact Or.inr ⟨content, holds, fit⟩
      · exact Or.inl ⟨_, .malformed holds breaks⟩

theorem load_error_iff : load files path = .error fault ↔ Unloadable files path fault := by
  constructor
  · intro failed
    -- The reasons are complete: a store without any of them is loaded.
    rcases unloadable_or_fit files path with ⟨other, why⟩ | ⟨content, holds, fit⟩
    · rw [load_of_unloadable why] at failed
      cases failed
      exact why
    · obtain ⟨store, loaded⟩ := load_of_fit holds fit
      rw [loaded] at failed
      cases failed
  · exact load_of_unloadable

theorem lookup_of_unanswered (why : Unanswered files path id fault) :
    lookup files path id = .error fault := by
  cases why with
  | unloadable why =>
    rw [lookup, load_of_unloadable why]
    rfl
  | unknown holds fit lacks => exact (lookup_of_holds holds fit id).2 lacks

theorem lookup_error_iff : lookup files path id = .error fault ↔ Unanswered files path id fault := by
  constructor
  · intro failed
    rcases unloadable_or_fit files path with ⟨other, why⟩ | ⟨content, holds, fit⟩
    · have why : Unanswered files path id other := .unloadable why
      rw [lookup_of_unanswered why] at failed
      cases failed
      exact why
    · obtain ⟨tells, lacking⟩ := lookup_of_holds holds fit id
      rcases lacks_or_tells id (Text.lines content) with lacks | ⟨password, told⟩
      · rw [lacking lacks] at failed
        cases failed
        exact .unknown holds fit lacks
      · rw [tells password told] at failed
        cases failed
  · exact lookup_of_unanswered

end Store

/-- Two systems of files with a store that fails for the same reason, whatever else is in it. -/
inductive FailAlike (files others : Files) (path : Path) (id : Text) : Fault → Prop
  | unreadable {obstacle : Files.Obstacle} (plain : '\x00' ∉ path.text)
    (stopped : files.read path = .error obstacle) (stopped' : others.read path = .error obstacle) :
    FailAlike files others path id (.store (.unreadable path.text (obstacle.trouble path)))
  | malformed {content content' : Text} {number : Nat} (holds : Holds files path content)
    (holds' : Holds others path content') (breaks : BreaksAt number (Text.lines content))
    (breaks' : BreaksAt number (Text.lines content')) :
    FailAlike files others path id (.store (.malformedLine path.text number))
  | unknown {content content' : Text} (holds : Holds files path content)
    (holds' : Holds others path content') (fit : ∀ line ∈ Text.lines content, ¬Malformed line)
    (fit' : ∀ line ∈ Text.lines content', ¬Malformed line) (lacks : Lacks (Text.lines content) id)
    (lacks' : Lacks (Text.lines content') id) :
    FailAlike files others path id (.store (.unknownId path.text id))

namespace FailAlike

variable {files others : Files} {path : Path} {id : Text} {fault : Fault}

theorem general (alike : FailAlike files others path id fault) : fault.family? = some .general := by
  cases alike <;> rfl

theorem unanswered (alike : FailAlike files others path id fault) :
    Unanswered files path id fault ∧ Unanswered others path id fault := by
  cases alike with
  | unreadable plain stopped stopped' =>
    exact ⟨.unloadable (.unreadable plain stopped), .unloadable (.unreadable plain stopped')⟩
  | malformed holds holds' breaks breaks' =>
    exact ⟨.unloadable (.malformed holds breaks), .unloadable (.malformed holds' breaks')⟩
  | unknown holds holds' fit fit' lacks lacks' =>
    exact ⟨.unknown holds fit lacks, .unknown holds' fit' lacks'⟩

end FailAlike

/-- Nothing but an odd path and a content that is no text fails outside of monitoring. -/
theorem Unanswered.kinds {files : Files} {path : Path} {id : Text} {fault : Fault}
    (why : Unanswered files path id fault) : fault.family? = some .general ∨
      (fault = .nulInPath ∧ '\x00' ∈ path.text) ∨
      ∃ bytes failure, files.read path = .ok bytes ∧ Utf8.decode bytes = .error failure ∧
        fault = .undecodable failure := by
  cases why with
  | unloadable why =>
    cases why with
    | nul odd => exact Or.inr (Or.inl ⟨rfl, odd⟩)
    | unreadable => exact Or.inl rfl
    | undecodable _ read flawed => exact Or.inr (Or.inr ⟨_, _, read, flawed, rfl⟩)
    | malformed => exact Or.inl rfl
  | unknown => exact Or.inl rfl

end PasswordStore

/-! Runs that look for a password in a store. -/

namespace Probe

theorem Options.neededPassword_fitFor (options : Options) (capability : Capability) (files : Files) :
    (options.fitFor capability).neededPassword files = options.neededPassword files := by
  unfold fitFor
  split <;> rfl

variable {probe : Probe} {files others : Files} {transport : Transport} {options : Options}

theorem attempt_eq : probe.attempt files transport options =
    let prepared := prepare probe.offer.program transport options
    let check := probe.check files transport (options.fitFor transport.tls)
    ⟨prepared.journal ++ check.journal, check.outcome⟩ :=
  Run.bind_ok (prepare_outcome _ _ _) _

theorem runWith_congr
    (same : probe.check files transport (options.fitFor transport.tls) =
      probe.check others transport (options.fitFor transport.tls)) :
    probe.runWith files transport options = probe.runWith others transport options := by
  have attempts : probe.attempt files transport options = probe.attempt others transport options := by
    rw [attempt_eq, attempt_eq, same]
  have checks : probe.checked files transport options = probe.checked others transport options :=
    congrArg (Run.orElse · (probe.ofFault options)) attempts
  unfold runWith
  rw [checks]

/-- A fault of monitoring is told of in debug mode too. -/
theorem ofFault_handled (probe : Probe) {fault : Fault} (handled : fault.isBailOut = true ∨ options.debug = false) :
    (probe.ofFault options fault).outcome = .ok (probe.faultResult fault) ∧
      (probe.ofFault options fault).journal.exchanges = [] := by
  unfold ofFault faultResult
  by_cases bailOut : fault.isBailOut = true
  · rw [if_pos bailOut, if_pos bailOut]
    exact ⟨rfl, rfl⟩
  · have noDebug : options.debug = false := handled.resolve_left bailOut
    rw [if_neg bailOut, if_neg bailOut, if_neg (by simp [noDebug])]
    exact ⟨rfl, rfl⟩

/-- Of a check that fails before it does anything no more is seen than what is told of it. -/
theorem runWith_of_idle {fault : Fault}
    (idle : probe.check files transport (options.fitFor transport.tls) = ⟨[], .error fault⟩)
    (handled : fault.isBailOut = true ∨ options.debug = false) :
    (probe.runWith files transport options).journal.exchanges = [] ∧
      Returns (probe.runWith files transport options) (probe.faultResult fault) := by
  obtain ⟨told, unasked⟩ := ofFault_handled probe handled
  have checked : probe.checked files transport options =
      ⟨(prepare probe.offer.program transport options).journal ++
        (probe.ofFault options fault).journal, .ok (probe.faultResult fault)⟩ := by
    have attempted : probe.checked files transport options =
        (probe.attempt files transport options).orElse (probe.ofFault options) := rfl
    rw [attempted, attempt_eq, idle, Run.orElse_error rfl, told]
    simp
  have found : (probe.checked files transport options).outcome = .ok (probe.faultResult fault) := by
    rw [checked]
  have silent : (prepare probe.offer.program transport options).journal.outputs = [] :=
    prepare_silent probe.offer.program transport options
  have silent' : (probe.ofFault options fault).journal.outputs = [] :=
    ofFault_silent probe options fault
  -- The journal of the whole run from those of its parts.
  have parts (before behind : Journal) :
      let journal : Journal := Entry.setUpLog options.verbosity :: (before ++ behind) ++
        [.output (reportText (probe.faultResult fault))]
      journal.exchanges = before.exchanges ++ behind.exchanges ∧
        journal.outputs = before.outputs ++ behind.outputs ++
          [reportText (probe.faultResult fault)] := by
    simp [Journal.exchanges, Journal.outputs]
  rw [runWith_eq found, checked]
  refine ⟨?_, ?_, rfl⟩
  · rw [(parts _ _).1, prepare_exchanges, unasked]
    rfl
  · rw [(parts _ _).2, silent, silent']
    rfl

end Probe

namespace Service

open PasswordStore (FailAlike Unanswered Unloadable)

/-- A command line that asks for a password of a store. -/
structure Refers (service : Service) (words : List Text) (options : Probe.Options) (path : Path)
    (id : Text) : Prop where
  accepted : service.offer.parse words = .ok options
  fit : service.offer.rejections options = []
  user : options.user?.isSome = true
  leads : ∃ reference, options.reference = some reference ∧
    PasswordStore.splitReference? reference = some (id, path)

section Refers

variable {service : Service} {words : List Text} {options : Probe.Options} {path : Path} {id : Text}
  {transport : Transport} {files others : Files} {fault : Fault}

theorem Refers.neededPassword (refers : service.Refers words options path id) (files : Files) :
    options.neededPassword files = some <$> PasswordStore.lookup files path id := by
  obtain ⟨reference, said, parts⟩ := refers.leads
  rw [Probe.Options.neededPassword, if_pos refers.user, Probe.Options.resolvePassword, said]
  dsimp only
  rw [parts]

theorem check_congr
    (same : options.neededPassword files = options.neededPassword others) :
    service.check files transport options = service.check others transport options := by
  unfold check
  rw [Probe.Options.request_eq, Probe.Options.request_eq, same]

theorem Refers.run_congr (refers : service.Refers words options path id)
    (same : PasswordStore.lookup files path id = PasswordStore.lookup others path id) :
    service.probe.run files transport words = service.probe.run others transport words := by
  have begun (files : Files) : service.probe.run files transport words =
      service.probe.runWith files transport options :=
    Probe.run_accepted refers.accepted refers.fit
  rw [begun, begun]
  apply Probe.runWith_congr
  apply check_congr
  rw [Probe.Options.neededPassword_fitFor, Probe.Options.neededPassword_fitFor,
    refers.neededPassword, refers.neededPassword, same]

theorem Refers.run_fails (refers : service.Refers words options path id)
    (failed : PasswordStore.lookup files path id = .error fault)
    (handled : fault.isBailOut = true ∨ options.debug = false) :
    (service.probe.run files transport words).journal.exchanges = [] ∧
      Probe.Returns (service.probe.run files transport words) (service.probe.faultResult fault) := by
  have begun : service.probe.run files transport words =
      service.probe.runWith files transport options :=
    Probe.run_accepted refers.accepted refers.fit
  rw [begun]
  refine Probe.runWith_of_idle (check_refused ?_ transport) handled
  rw [Probe.Options.request_eq, Probe.Options.neededPassword_fitFor, refers.neededPassword, failed]
  rfl

end Refers

/-- A store that gives no password is told of by its path, the id, the obstacle of the system and the
number of the first malformed line, so that stores that fail alike make the same run; nothing is asked for
without the password. A path with a NUL and a content that is no text fail in a way of their own, and what
is told of such a content is its first flaw. -/
theorem run_tells_nothing_of_store (files : Files) :
    (∀ path fault, PasswordStore.load files path = .error fault ↔ Unloadable files path fault) ∧
    (∀ path id fault,
      PasswordStore.lookup files path id = .error fault ↔ Unanswered files path id fault) ∧
    (∀ path id fault, Unanswered files path id fault → fault.family? = some .general ∨
      (fault = .nulInPath ∧ '\x00' ∈ path.text) ∨
      ∃ bytes failure, files.read path = .ok bytes ∧ Utf8.decode bytes = .error failure ∧
        fault = .undecodable failure) ∧
    (∀ others path id fault, FailAlike files others path id fault → fault.family? = some .general ∧
      PasswordStore.lookup files path id = .error fault ∧
      PasswordStore.lookup others path id = .error fault) ∧
    ∀ (service : Service) (transport : Transport) (words : List Text) (options : Probe.Options)
      (path : Path) (id : Text), service.Refers words options path id →
      let run (files : Files) := service.probe.run files transport words
      (∀ others fault, FailAlike files others path id fault → run others = run files ∧
        (run files).journal.exchanges = [] ∧
        Probe.Returns (run files) (Probe.unknown fault.message)) ∧
      ∀ fault, Unanswered files path id fault → fault.isBailOut = true ∨ options.debug = false →
        (run files).journal.exchanges = [] ∧
          Probe.Returns (run files) (service.probe.faultResult fault) := by
  refine ⟨fun _ _ => PasswordStore.load_error_iff, fun _ _ _ => PasswordStore.lookup_error_iff,
    fun _ _ _ why => why.kinds, ?_, ?_⟩
  · intro others path id fault alike
    obtain ⟨why, why'⟩ := alike.unanswered
    exact ⟨alike.general, PasswordStore.lookup_of_unanswered why,
      PasswordStore.lookup_of_unanswered why'⟩
  · intro service transport words options path id refers run
    constructor
    · intro others fault alike
      obtain ⟨why, why'⟩ := alike.unanswered
      have failed := PasswordStore.lookup_of_unanswered why
      have failed' := PasswordStore.lookup_of_unanswered why'
      have bailOut : fault.isBailOut = true := by simp [Fault.isBailOut, alike.general]
      have told : service.probe.faultResult fault = Probe.unknown fault.message := by
        rw [Probe.faultResult, if_pos bailOut]
      rw [← told]
      exact ⟨refers.run_congr (failed'.trans failed.symm), refers.run_fails failed (Or.inl bailOut)⟩
    · intro fault why handled
      exact refers.run_fails (PasswordStore.lookup_of_unanswered why) handled

/-- The broker's probe looks up an id in a store. -/
theorem rabbitMq_refers : ∃ options : Probe.Options, options.debug = false ∧
    rabbitMq.Refers ["-H", "mq", "--password-reference", "id:store"] options ⟨[], ["store"]⟩ "id" := by
  let settings : List Probe.Setting := [.hostname "mq", .reference "id:store"]
  have read : CommandLine.parse rabbitMq.offer.options
      ["-H", "mq", "--password-reference", "id:store"] = .ok settings := by rfl
  refine ⟨rabbitMq.offer.defaults.ofSettings settings, rfl, ?_, ?_, ?_, "id:store", rfl, ?_⟩
  · rw [Probe.Offer.parse, read]
    rfl
  · decide
  · decide
  · decide

/-- Of two contents with a second line that is no entry neither is seen. -/
theorem rabbitMq_tells_nothing_of_store :
    let words : List Text := ["-H", "mq", "--password-reference", "id:store"]
    let holding (text : Text) : Files := [(["store"], .file (Utf8.encode text))]
    let run (files : Files) := rabbitMq.probe.run files (.scripted { available := true } {}) words
    run (holding "id:one\nhunter2\n") = run (holding "\nsecret") ∧
      (run (holding "\nsecret")).journal.exchanges = [] ∧
      Probe.Returns (run (holding "\nsecret"))
        (Probe.unknown "Invalid entry in password store store, line 2") := by
  intro words holding run
  let path : Path := ⟨[], ["store"]⟩
  obtain ⟨options, _, refers⟩ := rabbitMq_refers
  have holds (text : Text) : PasswordStore.Holds (holding text) path text :=
    ⟨by decide, _, rfl, Utf8.decode_encode text⟩
  have alike : FailAlike (holding "\nsecret") (holding "id:one\nhunter2\n") path "id"
      (.store (.malformedLine path.text 2)) := by
    refine .malformed (holds _) (holds _) ⟨[[]], "secret", [], ?_⟩ ⟨["id:one"], "hunter2", [], ?_⟩
    · decide
    · decide
  obtain ⟨_, _, _, _, runs⟩ := run_tells_nothing_of_store (holding "\nsecret")
  obtain ⟨same, unasked, returns⟩ := (runs rabbitMq (.scripted { available := true } {}) words options
    path "id" refers).1 _ _ alike
  exact ⟨same, unasked, returns⟩

/-- A content that is no text is no failure of monitoring, and its first byte is seen. -/
theorem rabbitMq_shows_byte_of_store :
    let words : List Text := ["-H", "mq", "--password-reference", "id:store"]
    let holding (byte : UInt8) : Files := [(["store"], .file [byte])]
    let run (files : Files) := rabbitMq.probe.run files (.scripted { available := true } {}) words
    (∃ fault, PasswordStore.load (holding 0xff) ⟨[], ["store"]⟩ = .error fault ∧
      fault.family? = none) ∧
      (run (holding 0xff)).journal.output = ("UNKNOWN: RabbitMQ check failed: 'utf-8' codec can't " ++
        "decode byte 0xff in position 0: invalid start byte\n" : String) ∧
      (run (holding 0xfe)).journal.output = ("UNKNOWN: RabbitMQ check failed: 'utf-8' codec can't " ++
        "decode byte 0xfe in position 0: invalid start byte\n" : String) := by
  intro words holding run
  let path : Path := ⟨[], ["store"]⟩
  let fault (byte : UInt8) : Fault := .undecodable ⟨0, 1, byte, .badStart⟩
  obtain ⟨options, noDebug, refers⟩ := rabbitMq_refers
  have unloadable {byte : UInt8} (flawed : Utf8.decode [byte] = .error ⟨0, 1, byte, .badStart⟩) :
      Unloadable (holding byte) path (fault byte) := .undecodable (by decide) rfl flawed
  have output {byte : UInt8} (why : Unloadable (holding byte) path (fault byte)) :
      (run (holding byte)).journal.output =
        Probe.reportText (rabbitMq.probe.faultResult (fault byte)) :=
    (refers.run_fails (PasswordStore.lookup_of_unanswered (.unloadable why))
      (Or.inr noDebug)).2.reports.output
  have first : Unloadable (holding 0xff) path (fault 0xff) := unloadable (by decide +kernel)
  have second : Unloadable (holding 0xfe) path (fault 0xfe) := unloadable (by decide +kernel)
  refine ⟨⟨fault 0xff, PasswordStore.load_of_unloadable first, rfl⟩, ?_, ?_⟩
  · rw [output first]
    decide +kernel
  · rw [output second]
    decide +kernel

end Service

end ServiceProbe
