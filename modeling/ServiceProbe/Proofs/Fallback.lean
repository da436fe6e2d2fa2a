import ServiceProbe.Proofs.Digits
import ServiceProbe.Proofs.Extended
import ServiceProbe.Proofs.Password
/-!
Falling back to plain HTTP. A run that asks for TLS where there is none goes on as a run that never asked
for it, behind one warning.
-/
namespace ServiceProbe

/-! A run with one more entry in front. -/

namespace Run

variable {α β : Type}

/-- An entry, and then the rest of the run. -/
def behind (entry : Entry) (run : Run α) : Run α := ⟨entry :: run.journal, run.outcome⟩

theorem behind_bind (entry : Entry) (run : Run α) (next : α → Run β) :
    run.behind entry >>= next = (run >>= next).behind entry := by
  cases result : run.outcome with
  | error fault =>
    have late : (run.behind entry).outcome = .error fault := result
    rw [bind_error late, bind_error result]
    rfl
  | ok a =>
    have late : (run.behind entry).outcome = .ok a := result
    rw [bind_ok late, bind_ok result]
    rfl

theorem behind_orElse (entry : Entry) (run : Run α) (handle : Fault → Run α) :
    (run.behind entry).orElse handle = (run.orElse handle).behind entry := by
  cases result : run.outcome with
  | ok a =>
    have late : (run.behind entry).outcome = .ok a := result
    rw [orElse_ok late, orElse_ok result]
  | error fault =>
    have late : (run.behind entry).outcome = .error fault := result
    rw [orElse_error late, orElse_error result]
    rfl

end Run

/-! The options of the two runs. -/

namespace Probe

namespace Options

variable {options : Options}

theorem ofSettings_tls (options : Options) (settings : List Setting) :
    ofSettings { options with tls := true } settings =
      { options.ofSettings settings with tls := true } := by
  induction settings generalizing options with
  | nil => rfl
  | cons setting rest ih =>
    have same : apply { options with tls := true } setting =
        { options.apply setting with tls := true } := by
      cases setting <;> rfl
    simp only [ofSettings, List.foldl_cons, same] at ih ⊢
    exact ih (options.apply setting)

theorem fill_eq_self {field : Field} (filled : field ∉ options.void) :
    options.fill field = options := by
  have kept : options.void.filter (· != field) = options.void := by
    rw [List.filter_eq_self]
    intro other member
    have apart : other ≠ field := fun same => filled (same ▸ member)
    simpa using apart
  rw [fill, kept]

theorem rejections_tls (options : Options) (subjects : List Text) :
    rejections { options with tls := true } subjects = options.rejections subjects := by
  unfold rejections
  congr 1

/-- Options with a port that is one are refused only if they are refused with another one too. -/
theorem rejections_port {subjects : List Text} (fit : options.rejections subjects = []) {port : Int}
    (possible : Http.Draft.portReason? port = none) :
    rejections { options with port } subjects = [] := by
  rw [rejections, List.filterMap_eq_nil_iff] at fit ⊢
  intro field member
  have before := fit field member
  cases field with
  | port =>
    rw [valueReason?] at before ⊢
    split at before
    · cases before
    · next filled =>
      rw [if_neg filled, possible]
      rfl
  | _ => exact before

theorem port_filled {subjects : List Text} (fit : options.rejections subjects = []) :
    Field.port ∉ options.void ∧ Http.Draft.portReason? options.port = none := by
  rw [rejections, List.filterMap_eq_nil_iff] at fit
  have here := fit .port (by decide)
  rw [Option.map_eq_none_iff, valueReason?] at here
  split at here
  · cases here
  · next filled =>
    rw [List.contains_iff_mem] at filled
    exact ⟨filled, here⟩

end Options

theorem portReason_plainPort {port : Int} (possible : Http.Draft.portReason? port = none) :
    Http.Draft.portReason? (Fallback.plainPort port) = none := by
  rw [Fallback.plainPort]
  split
  · rfl
  · exact possible

/-! The command lines of the two runs. -/

def tlsWord : Text := "-S"

/-- The last word of a command line that gives a port. -/
def portWord (port : Int) : Text := "--port=" ++ Text.ofInt port

/-- A port is written in a few digits, and read again. -/
theorem read_port {port : Int} (possible : Http.Draft.portReason? port = none) :
    Text.ofInt port ≠ CommandLine.endMark ∧ Numeral.readInt? (Text.ofInt port) = some port := by
  obtain ⟨least, greatest⟩ := Http.Draft.portReason_none possible
  obtain ⟨n, rfl⟩ := Int.eq_ofNat_of_zero_le (Int.le_trans (by decide) least)
  have few : (Text.ofNat n).length ≤ 5 :=
    (Nat.length_toDigits_le_iff (by decide) (by decide)).mpr (by omega)
  constructor
  · intro mark
    have minus : '-' ∈ Text.ofNat n := by simp [show Text.ofNat n = _ from mark, CommandLine.endMark]
    exact Text.minus_not_mem_ofNat n minus
  · exact Numeral.readInt_ofNat (Nat.le_trans few (by decide))

namespace Offer

variable {offer : Offer} {words : List Text} {options : Options}

theorem parse_tls (accepted : offer.parse words = .ok options) :
    offer.parse (tlsWord :: words) = .ok { options with tls := true } := by
  obtain ⟨settings, read, rfl⟩ := parse_ok accepted
  have found : CommandLine.findNamed? offer.options tlsWord = some tls := rfl
  have longer := CommandLine.parse_flag_first found rfl (by decide) rfl rfl read
  rw [parse, longer]
  exact congrArg Except.ok (Options.ofSettings_tls offer.defaults settings)

theorem parse_port (plain : ∀ opt ∈ offer.options, ∀ name ∈ opt.names, '=' ∉ name)
    (accepted : offer.parse words = .ok options) (filled : Field.port ∉ options.void) {port : Int}
    (possible : Http.Draft.portReason? port = none) :
    offer.parse (words ++ [portWord port]) = .ok { options with port } := by
  obtain ⟨settings, read, rfl⟩ := parse_ok accepted
  have found : CommandLine.findNamed? offer.options "--port" =
      some (Offer.port offer.defaults.port) := rfl
  obtain ⟨word, number⟩ := read_port possible
  have given : CommandLine.Progress.readValue (Offer.port offer.defaults.port) (Text.ofInt port) =
      .ok (some (.port port)) := by
    simp [CommandLine.Progress.readValue, Offer.port, word, number]
  have longer := CommandLine.parse_attached_last found rfl plain given rfl rfl read
  have settled : offer.defaults.ofSettings (settings ++ [.port port]) =
      { offer.defaults.ofSettings settings with port } := by
    rw [Options.ofSettings, List.foldl_append]
    exact congrArg ({ · with port }) (Options.fill_eq_self filled)
  rw [← settled]
  exact congrArg (Except.map _) longer

end Offer
end Probe

/-! What is done without TLS does not depend on whether there is any. -/

/-- An entry of a run that neither asks for TLS nor gives a warning. -/
def Entry.IsPlain : Entry → Prop
  | .record _ => True
  | .output _ => True
  | .exchange wire => wire.tls = false
  | _ => False

namespace Http

variable {request : Request}

theorem get_fit {transport : Transport} (fit : (request.tls && !transport.tls.available) = false) :
    get transport request = (do
      Run.record logSource Log.debug (sendingText request)
      receive request (transport.exchange request.wire)) := by
  have bare : withoutMissingTls transport request = pure request := if_neg (by simp [fit])
  rw [get, bare, ← send_text]
  rfl

theorem get_plain (plain : request.tls = false) (transport : Transport) :
    get transport request = (do
      Run.record logSource Log.debug (sendingText request)
      receive request (transport.exchange request.wire)) :=
  get_fit (by simp [plain])

/-- What is noted of a request: records of little weight, and the exchange. -/
theorem get_only {kind : Entry → Prop} {tls : Capability}
    (fit : (request.tls && !tls.available) = false)
    (records : ∀ record : Log.Record, record.level < Log.warning → kind (.record record))
    (sent : kind (.exchange request.wire)) (replies : Transport.Replies) :
    (get (.scripted tls replies) request).Only kind := by
  have exchange : ((Transport.scripted tls replies).exchange request.wire).Only kind := by
    rw [Transport.scripted_exchange]
    exact Run.only_note sent
  have detail : Log.debug < Log.warning := by decide
  have failure : Log.verbose < Log.warning := by decide
  have asked : (request.tls && !(Transport.scripted tls replies).tls.available) = false := fit
  rw [get_fit asked]
  refine Run.only_bind (Run.only_note (records _ detail)) fun _ _ => Run.only_orElse ?_ fun fault => ?_
  · refine Run.only_bind exchange fun _ _ => ?_
    exact Run.only_bind (Run.only_note (records _ detail)) fun _ _ => Run.only_pure _
  · split
    · exact Run.only_bind (Run.only_note (records _ failure)) fun _ _ => Run.only_pure _
    · exact Run.only_throw fault

end Http

theorem Probe.Options.tls_of_request {options : Options} {files : Files} {path : Text}
    {request : Http.Request} (built : options.request files path = .ok request) :
    request.tls = options.tls := by
  rw [request_eq] at built
  obtain ⟨password, _, built⟩ := Outcome.bind_ok built
  obtain ⟨_, _, _, tls, _⟩ := Http.Draft.fields_of_build built
  exact (Except.ok.inj tls).symm

namespace Service

/-- A check notes records of little weight, and an exchange with the TLS that was asked for. -/
theorem check_only {service : Service} {options : Probe.Options} {kind : Entry → Prop}
    {tls : Capability} (fit : (options.tls && !tls.available) = false)
    (records : ∀ record : Log.Record, record.level < Log.warning → kind (.record record))
    (sent : ∀ wire : Wire, wire.tls = options.tls → kind (.exchange wire)) (files : Files)
    (replies : Transport.Replies) :
    (service.check files (.scripted tls replies) options).Only kind := by
  refine Run.only_bind (Run.only_ofExcept _) fun request built => ?_
  have same := Probe.Options.tls_of_request built
  refine Run.only_bind ?_ fun _ _ => Run.only_ofExcept _
  exact Http.get_only (same ▸ fit) records (sent request.wire same) replies

variable {service : Service} {options : Probe.Options} (plain : options.tls = false)
  (files : Files) (replies : Transport.Replies)

include plain

theorem check_capability (tls tls' : Capability) :
    service.check files (.scripted tls replies) options =
      service.check files (.scripted tls' replies) options := by
  unfold check
  cases built : options.request files (service.path options) with
  | error fault => rfl
  | ok request =>
    have bare := (Probe.Options.tls_of_request built).trans plain
    rw [Run.ofExcept_ok_bind, Run.ofExcept_ok_bind, Http.get_plain bare, Http.get_plain bare]
    rfl

theorem check_only_plain (tls : Capability) :
    (service.check files (.scripted tls replies) options).Only Entry.IsPlain := by
  refine check_only (by simp [plain]) (fun _ _ => trivial) (fun wire same => ?_) files replies
  exact same.trans plain

end Service

/-! The two runs. -/

namespace Probe

variable {probe : Probe} {files : Files} {transport other : Transport} {options : Options}

theorem prepare_tls (missing : transport.tls.available = false) (plain : options.tls = false)
    (program : Text) :
    prepare program transport { options with tls := true } =
      Run.behind (.remark (Fallback.plainWarning program))
        (pure { options with port := Fallback.plainPort options.port }) := by
  have same : ({ options with tls := false, port := Fallback.plainPort options.port } : Options) =
      { options with port := Fallback.plainPort options.port } := by
    rw [← plain]
  have fallsBack : (!true || transport.tls.available) = false := by simp [missing]
  rw [← same, prepare, Fallback.toPlain, fallsBack]
  rfl

theorem prepare_fit (fit : (options.tls && !transport.tls.available) = false) (program : Text) :
    prepare program transport options = pure options := by
  have goesOn : (!options.tls || transport.tls.available) = true := by
    rw [Bool.and_eq_false_iff] at fit
    simpa using fit
  rw [prepare, Fallback.toPlain, goesOn]
  rfl

theorem prepare_plain (plain : options.tls = false) (program : Text) :
    prepare program transport options = pure options :=
  prepare_fit (by simp [plain]) program

section Runs

variable (missing : transport.tls.available = false) (plain : options.tls = false)
  (checks : ∀ {options : Options}, options.tls = false →
    probe.check files transport options = probe.check files other options)

include missing plain checks

theorem checked_tls :
    probe.checked files transport { options with tls := true } =
      (probe.checked files other { options with port := Fallback.plainPort options.port }).behind
        (.remark (Fallback.plainWarning probe.offer.program)) := by
  have attempted (options : Options) (transport : Transport) :
      probe.checked files transport options =
        (prepare probe.offer.program transport options >>= probe.check files transport).orElse
          (probe.ofFault options) := rfl
  have bare : Options.tls { options with port := Fallback.plainPort options.port } = false := plain
  -- Debug mode is the same in both runs, and so is what becomes of a fault.
  have handled : probe.ofFault { options with tls := true } =
      probe.ofFault { options with port := Fallback.plainPort options.port } := rfl
  rw [attempted, attempted, prepare_tls missing plain, prepare_plain bare, Run.behind_bind, handled,
    Run.behind_orElse]
  congr 2
  exact checks bare

/-- The one run is the other one with a warning behind its first entry. -/
theorem runWith_tls :
    probe.runWith files transport { options with tls := true } =
      ((probe.checked files other { options with port := Fallback.plainPort options.port } >>=
        finish).behind (.remark (Fallback.plainWarning probe.offer.program))).behind
          (.setUpLog options.verbosity) := by
  rw [← Run.behind_bind, ← checked_tls missing plain checks]
  rfl

end Runs

theorem runWith_eq_behind (options : Options) :
    probe.runWith files transport options =
      (probe.checked files transport options >>= finish).behind (.setUpLog options.verbosity) := rfl

/-- A run that need not fall back goes straight to its check. -/
theorem checked_fit (fit : (options.tls && !transport.tls.available) = false) :
    probe.checked files transport options =
      (probe.check files transport options).orElse (probe.ofFault options) := by
  have attempted : probe.checked files transport options =
      (prepare probe.offer.program transport options >>= probe.check files transport).orElse
        (probe.ofFault options) := rfl
  rw [attempted, prepare_fit fit]
  rfl

/-- A run that need not fall back notes what its check notes, records of little weight and a report. -/
theorem checked_only {kind : Entry → Prop}
    (fit : (options.tls && !transport.tls.available) = false)
    (records : ∀ record : Log.Record, record.level < Log.warning → kind (.record record))
    (outputs : ∀ text, kind (.output text))
    (checks : (probe.check files transport options).Only kind) :
    (probe.checked files transport options >>= finish).Only kind := by
  have detail : Log.debug < Log.warning := by decide
  rw [checked_fit fit]
  refine Run.only_bind (Run.only_orElse checks fun fault => ?_) fun result _ => ?_
  · rw [ofFault]
    split
    · exact Run.only_pure _
    split
    · exact Run.only_throw fault
    · exact Run.only_bind (Run.only_note (records _ detail)) fun _ _ => Run.only_pure _
  · exact Run.only_bind (Run.only_note (outputs _)) fun _ _ => Run.only_pure _

theorem checked_only_plain (plain : options.tls = false)
    (checks : (probe.check files transport options).Only Entry.IsPlain) :
    (probe.checked files transport options >>= finish).Only Entry.IsPlain :=
  checked_only (by simp [plain]) (fun _ _ => trivial) (fun _ => trivial) checks

end Probe

namespace Journal

/-- A warning behind the first entry is seen on the error stream alone. -/
theorem remark_behind_setUpLog (verbosity : Int) (text : Text) (rest : Journal) :
    output (.setUpLog verbosity :: .remark text :: rest) = output (.setUpLog verbosity :: rest) ∧
      exchanges (.setUpLog verbosity :: .remark text :: rest) =
        exchanges (.setUpLog verbosity :: rest) ∧
      ∀ settings, errorText settings (.setUpLog verbosity :: .remark text :: rest) =
        text ++ errorText settings (.setUpLog verbosity :: rest) :=
  ⟨rfl, rfl, fun _ => rfl⟩

theorem remark_not_mem {rest : Journal} (plain : ∀ entry ∈ rest, entry.IsPlain) (text : Text) :
    .remark text ∉ rest := plain _

theorem tls_of_mem_exchanges {rest : Journal} (plain : ∀ entry ∈ rest, entry.IsPlain) {wire : Wire}
    (sent : wire ∈ rest.exchanges) : wire.tls = false := by
  obtain ⟨entry, member, exchanged⟩ := List.mem_filterMap.mp sent
  have own := plain entry member
  cases entry with
  | exchange other =>
    cases exchanged
    exact own
  | _ => cases exchanged

end Journal

namespace Service

variable {service : Service} {options : Probe.Options} {words : List Text}

theorem plainWarning_lines (known : service ∈ all) :
    (Fallback.plainWarning service.offer.program).count '\n' = 2 := by
  revert service
  decide

/-- The two warnings part at the first letter behind the colon. -/
theorem featureWarning_ne_plainWarning (known : service ∈ all) (reason : Text) :
    Fallback.featureWarning "HTTPS" reason ≠ Fallback.plainWarning service.offer.program := by
  have named : ∀ service ∈ all, (Fallback.plainWarning service.offer.program)[9]? = some 'c' := by
    decide
  intro same
  have here := named service known
  rw [← same] at here
  unfold Fallback.featureWarning at here
  simp at here

/-- A run that asks for TLS where there is none says and sends what it would have said and sent without,
at the port that falls back with it. The error stream has one warning in front, and no other. -/
theorem run_falls_back (known : service ∈ all) (accepted : service.offer.parse words = .ok options)
    (fit : service.offer.rejections options = []) (plain : options.tls = false)
    {tls : Capability} (missing : tls.available = false) (other : Capability)
    (replies : Transport.Replies) (files : Files) :
    let port := Fallback.plainPort options.port
    let warning := Fallback.plainWarning service.offer.program
    let run := service.probe.run files (.scripted tls replies) (Probe.tlsWord :: words)
    service.offer.parse (words ++ [Probe.portWord port]) = .ok { options with port } ∧
      (∀ otherWords, service.offer.parse otherWords = .ok { options with port } →
        let plainRun := service.probe.run files (.scripted other replies) otherWords
        run.outcome = plainRun.outcome ∧ run.journal.output = plainRun.journal.output ∧
          run.journal.exchanges = plainRun.journal.exchanges ∧
          ∀ settings, run.journal.errorText settings =
            warning ++ plainRun.journal.errorText settings) ∧
      (∀ wire ∈ run.journal.exchanges, wire.tls = false) ∧ warning.count '\n' = 2 ∧
      (∀ text, .remark text ∈ run.journal → text = warning) ∧
      ∀ reason, .remark (Fallback.featureWarning "HTTPS" reason) ∉ run.journal := by
  intro port warning run
  obtain ⟨filled, possible⟩ := Probe.Options.port_filled fit
  have fallback := Probe.portReason_plainPort possible
  have fitTls : service.offer.rejections { options with tls := true } = [] :=
    (Probe.Options.rejections_tls options _).trans fit
  have fitPort : service.offer.rejections { options with port } = [] :=
    Probe.Options.rejections_port fit fallback
  have checks {options : Probe.Options} (bare : options.tls = false) :
      service.probe.check files (.scripted tls replies) options =
        service.probe.check files (.scripted other replies) options :=
    check_capability bare files replies tls other
  have begun : run = service.probe.runWith files (.scripted tls replies)
      { options with tls := true } :=
    Probe.run_accepted (Probe.Offer.parse_tls accepted) fitTls
  rw [Probe.runWith_tls missing plain checks] at begun
  have bare : Probe.Options.tls { options with port } = false := plain
  have rest : (service.probe.checked files (.scripted other replies) { options with port } >>=
      Probe.finish).Only Entry.IsPlain :=
    Probe.checked_only_plain bare (check_only_plain bare files replies other)
  have noOther (text : Text) (member : .remark text ∈ run.journal) : text = warning := by
    rw [begun] at member
    simp only [Run.behind, List.mem_cons, reduceCtorEq, false_or, Entry.remark.injEq] at member
    exact member.resolve_right (Journal.remark_not_mem rest text)
  refine ⟨Probe.Offer.parse_port (names_plain known) accepted filled fallback, ?_, ?_,
    plainWarning_lines known, noOther, ?_⟩
  · intro otherWords otherAccepted plainRun
    have same : plainRun = service.probe.runWith files (.scripted other replies)
        { options with port } := Probe.run_accepted otherAccepted fitPort
    rw [begun, same, Probe.runWith_eq_behind]
    exact ⟨rfl, Journal.remark_behind_setUpLog _ _ _⟩
  · intro wire sent
    rw [begun] at sent
    exact Journal.tls_of_mem_exchanges rest sent
  · intro reason member
    exact featureWarning_ne_plainWarning known reason (noOther _ member)

/-- The usual port of HTTPS gives way as well, and so it is missing in the host line. -/
theorem vault_falls_back :
    let words : List Text := ["-H", "h", "-p", "443", "-v"]
    let options : Probe.Options :=
      { vault.offer.defaults with hostname := "h", port := 443, verbosity := 1 }
    let run := vault.probe.run [] (.scripted { available := false } {}) (Probe.tlsWord :: words)
    let plainRun := vault.probe.run [] (.scripted { available := true } {})
      (words ++ [Probe.portWord 80])
    vault ∈ all ∧ vault.offer.parse words = .ok options ∧ vault.offer.rejections options = [] ∧
      run.outcome = .ok (.returned 2) ∧ plainRun.outcome = .ok (.returned 2) ∧
      run.journal.output = plainRun.journal.output ∧
      run.journal.exchanges = plainRun.journal.exchanges ∧
      run.journal.exchanges.map (·.port) = [80] ∧
      (∀ settings, run.journal.errorText settings =
        Fallback.plainWarning "check_vault" ++ plainRun.journal.errorText settings) ∧
      ∀ reason, .remark (Fallback.featureWarning "HTTPS" reason) ∉ run.journal := by
  intro words options run plainRun
  have known : vault ∈ all := by simp [all, named]
  have accepted : vault.offer.parse words = .ok options := by rfl
  have fit : vault.offer.rejections options = [] := by decide
  have missing : Capability.available { available := false } = false := rfl
  obtain ⟨parsed, together, _, _, _, noOther⟩ :=
    run_falls_back known accepted fit rfl missing { available := true } {} []
  obtain ⟨outcome, output, exchanges, errors⟩ := together _ parsed
  have critical : run.outcome = .ok (.returned 2) := by rfl
  exact ⟨known, accepted, fit, critical, outcome ▸ critical, output, exchanges, by decide,
    errors, noOther⟩

end Service
end ServiceProbe
