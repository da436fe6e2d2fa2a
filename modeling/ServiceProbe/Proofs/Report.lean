import ServiceProbe.Proofs.CommandLine
import ServiceProbe.Proofs.Run
import ServiceProbe.Service.All
/-!
How a run ends. Whatever the command line, the files and the peer say, exactly one status line is
written and the exit code is that of its state, unless help or debug mode was asked for.
-/
namespace ServiceProbe.Probe

/-- The exit code, whether the run went to its end or was left while the command line was read. -/
def Ending.code : Ending → Nat
  | .returned code => code
  | .left code => code

/-- A result as it is written. -/
def reportText (result : CheckResult) : Text := result.statusLine ++ ['\n']

/-- What is reported of a command line that cannot be read. -/
def usageResult (offer : Offer) (error : CommandLine.UsageError) : CheckResult :=
  unknown (offer.program ++ ": " ++ error.message)

/-- What is reported of options that are refused. -/
def rejectedResult (probe : Probe) (options : Options) : CheckResult :=
  unknown (failedText probe.title (invalidText (probe.offer.rejections options)))

/-- What is reported of a fault, unless it is let through. -/
def faultResult (probe : Probe) (fault : Fault) : CheckResult :=
  unknown (if fault.isBailOut then fault.message else failedText probe.title fault.message)

/-- What is reported of a check. -/
def resultOf (probe : Probe) : Except Fault CheckResult → CheckResult
  | .ok result => result
  | .error fault => probe.faultResult fault

/-- The check, with options that are fit for the transport. -/
def attempt (probe : Probe) (files : Files) (transport : Transport) (options : Options) :
    Run CheckResult :=
  prepare probe.offer.program transport options >>= probe.check files transport

namespace Offer

/-- Whether a command line comes down to a wish for help, however it is written. -/
def asksHelp (offer : Offer) (words : List Text) : Bool :=
  match offer.parse words with
  | .error .help => true
  | _ => false

/-- Whether debug mode is in effect. -/
def debugs (offer : Offer) (words : List Text) : Bool :=
  match offer.parse words with
  | .ok options => options.debug
  | .error _ => false

theorem parse_cases {offer : Offer} {words : List Text} (noHelp : offer.asksHelp words = false)
    (noDebug : offer.debugs words = false) :
    (∃ error, offer.parse words = .error (.usage error)) ∨
      ∃ options, offer.parse words = .ok options ∧ options.debug = false := by
  cases read : offer.parse words with
  | error stop =>
    cases stop with
    | help => simp [asksHelp, read] at noHelp
    | usage error => exact Or.inl ⟨error, rfl⟩
  | ok options => exact Or.inr ⟨options, rfl, by simpa [debugs, read] using noDebug⟩

end Offer

/-! Debug mode. It is in effect once any word asked for it. -/

namespace Options

theorem apply_keeps_debug {options : Options} (on : options.debug = true) (setting : Setting) :
    (options.apply setting).debug = true := by
  cases setting <;> simp [apply, fill, on]

theorem ofSettings_keeps_debug {options : Options} (on : options.debug = true)
    (settings : List Setting) : (options.ofSettings settings).debug = true := by
  induction settings generalizing options with
  | nil => exact on
  | cons setting rest ih => exact ih (apply_keeps_debug on setting)

theorem debug_of_mem {settings : List Setting} (asked : Setting.debug ∈ settings)
    (options : Options) : (options.ofSettings settings).debug = true := by
  induction settings generalizing options with
  | nil => cases asked
  | cons setting rest ih =>
    rcases List.mem_cons.mp asked with rfl | asked
    · exact ofSettings_keeps_debug rfl rest
    · exact ih asked (options.apply setting)

end Options

namespace Offer

theorem parse_ok {offer : Offer} {words : List Text} {options : Options}
    (accepted : offer.parse words = .ok options) :
    ∃ settings, CommandLine.parse offer.options words = .ok settings ∧
      options = offer.defaults.ofSettings settings := by
  unfold parse at accepted
  obtain ⟨settings, read, same⟩ := Outcome.map_ok accepted
  exact ⟨settings, read, same.symm⟩

theorem findNamed_debug (offer : Offer) :
    CommandLine.findNamed? offer.options debugWord = some debug := rfl

-- Refused options are let through if the word stands anywhere on the command line, whether or not it
-- was read as an option. On a command line that can be read the two agree.
theorem debug_of_word {offer : Offer} {words : List Text} {options : Options}
    (accepted : offer.parse words = .ok options) (word : debugWord ∈ words) :
    options.debug = true := by
  obtain ⟨settings, read, rfl⟩ := parse_ok accepted
  apply Options.debug_of_mem
  exact CommandLine.parse_flag read rfl offer.findNamed_debug rfl word

theorem read_usage {offer : Offer} {words : List Text} {error : CommandLine.UsageError}
    (stopped : offer.parse words = .error (.usage error)) :
    offer.read words =
      ⟨[.remark offer.usage,
        .output (reportText (usageResult offer error))], .ok (.left State.unknown.code)⟩ := by
  simp [read, stopped, report, reportText, usageResult, Run.note, bind, Run.andThen, pure]

theorem read_accepted {offer : Offer} {words : List Text} {options : Options}
    (accepted : offer.parse words = .ok options) (fit : offer.rejections options = []) :
    offer.read words = ⟨[], .ok (.accepted options)⟩ := by
  simp [read, accepted, fit, pure]

theorem read_rejected {offer : Offer} {words : List Text} {options : Options}
    (accepted : offer.parse words = .ok options) (unfit : offer.rejections options ≠ []) :
    offer.read words = ⟨[], .error (.rejected modelName (offer.rejections options))⟩ := by
  cases refused : offer.rejections options with
  | nil => exact absurd refused unfit
  | cons first rest => simp [read, accepted, refused, Run.throw]

end Offer

variable {probe : Probe} {files : Files} {transport : Transport} {words : List Text}
  {options : Options}

/-! The ways through a run. -/

theorem run_usage {error : CommandLine.UsageError}
    (stopped : probe.offer.parse words = .error (.usage error)) :
    probe.run files transport words =
      ⟨[.remark probe.offer.usage, .output (reportText (usageResult probe.offer error))],
        .ok (.left State.unknown.code)⟩ := by
  simp [run, Offer.read_usage stopped]

theorem run_rejected_absent (accepted : probe.offer.parse words = .ok options)
    (unfit : probe.offer.rejections options ≠ []) (absent : debugWord ∉ words) :
    probe.run files transport words = finish (rejectedResult probe options) := by
  simp [run, Offer.read_rejected accepted unfit, onRejection, absent, rejectedResult, bind,
    Run.andThen]

theorem run_rejected (accepted : probe.offer.parse words = .ok options)
    (unfit : probe.offer.rejections options ≠ []) (noDebug : options.debug = false) :
    probe.run files transport words = finish (rejectedResult probe options) := by
  apply run_rejected_absent accepted unfit
  intro word
  simp [Offer.debug_of_word accepted word] at noDebug

theorem run_accepted (accepted : probe.offer.parse words = .ok options)
    (fit : probe.offer.rejections options = []) :
    probe.run files transport words = probe.runWith files transport options := by
  simp [run, Offer.read_accepted accepted fit, bind, Run.andThen]

/-! The check itself. Without debug mode every fault is a result. -/

theorem ofFault_outcome (noDebug : options.debug = false) (fault : Fault) :
    (probe.ofFault options fault).outcome = .ok (probe.faultResult fault) := by
  unfold ofFault faultResult
  split
  · rfl
  · simp [noDebug]

theorem ofFault_silent (probe : Probe) (options : Options) (fault : Fault) :
    (probe.ofFault options fault).Silent := by
  unfold ofFault
  split
  · exact Run.silent_pure _
  split
  · exact Run.silent_throw _
  · exact Run.silent_bind (Run.silent_record _ _ _ _) fun _ => Run.silent_pure _

theorem checked_outcome (probe : Probe) (files : Files) (transport : Transport)
    (noDebug : options.debug = false) :
    (probe.checked files transport options).outcome =
      .ok (probe.resultOf (probe.attempt files transport options).outcome) := by
  have checked_eq : probe.checked files transport options =
      (probe.attempt files transport options).orElse (probe.ofFault options) := rfl
  rw [checked_eq]
  cases attempted : (probe.attempt files transport options).outcome with
  | ok result => rw [Run.orElse_ok attempted, attempted, resultOf]
  | error fault => rw [Run.orElse_error attempted, ofFault_outcome noDebug, resultOf]

theorem prepare_silent (program : Text) (transport : Transport) (options : Options) :
    (prepare program transport options).Silent :=
  Run.silent_bind (Fallback.toPlain_silent _ _ _ _) fun _ => Run.silent_pure _

theorem checked_silent (quiet : ∀ options, (probe.check files transport options).Silent)
    (options : Options) : (probe.checked files transport options).Silent :=
  Run.silent_orElse (Run.silent_bind (prepare_silent _ _ _) quiet) (ofFault_silent probe options)

/-! The end of a run. -/

/-- A run that ends with the exit code of a result and writes that result and nothing else. -/
structure Reports (run : Run Ending) (result : CheckResult) : Prop where
  outputs : run.journal.outputs = [reportText result]
  ends : ∃ ending, run.outcome = .ok ending ∧ ending.code = result.state.code

/-- A run that goes to its end with a result. -/
structure Returns (run : Run Ending) (result : CheckResult) : Prop where
  outputs : run.journal.outputs = [reportText result]
  outcome : run.outcome = .ok (.returned result.state.code)

theorem Returns.reports {run : Run Ending} {result : CheckResult} (returns : Returns run result) :
    Reports run result :=
  ⟨returns.outputs, _, returns.outcome, rfl⟩

theorem finish_returns (result : CheckResult) : Returns (finish result) result := ⟨rfl, rfl⟩

theorem usage_reports {error : CommandLine.UsageError}
    (stopped : probe.offer.parse words = .error (.usage error)) :
    Reports (probe.run files transport words) (usageResult probe.offer error) := by
  rw [run_usage stopped]
  exact ⟨rfl, _, rfl, rfl⟩

theorem rejected_returns (accepted : probe.offer.parse words = .ok options)
    (unfit : probe.offer.rejections options ≠ []) (noDebug : options.debug = false) :
    Returns (probe.run files transport words) (rejectedResult probe options) := by
  rw [run_rejected accepted unfit noDebug]
  exact finish_returns _

theorem runWith_eq {result : CheckResult}
    (found : (probe.checked files transport options).outcome = .ok result) :
    probe.runWith files transport options =
      ⟨.setUpLog options.verbosity :: (probe.checked files transport options).journal ++
        [.output (reportText result)], .ok (.returned result.state.code)⟩ := by
  simp [runWith, Run.bind_ok found, finish, report, reportText]

theorem runWith_returns (quiet : ∀ options, (probe.check files transport options).Silent)
    {result : CheckResult}
    (found : (probe.checked files transport options).outcome = .ok result) :
    Returns (probe.runWith files transport options) result := by
  -- All that comes before the report is silent, so that the report is the only output.
  have silent : _ = [] := checked_silent quiet options
  rw [runWith_eq found]
  exact ⟨by simp [Journal.outputs, ← silent], rfl⟩

theorem Reports.output {run : Run Ending} {result : CheckResult} (reports : Reports run result) :
    run.journal.output = reportText result := by
  simp [Journal.output_eq_flatten, reports.outputs]

theorem name_isPrefix_statusLine (result : CheckResult) :
    (result.state.name ++ ": " : Text) <+: result.statusLine := by
  unfold CheckResult.statusLine
  dsimp only
  split
  · exact List.prefix_append _ _
  · exact (List.prefix_append _ _).trans
      ((List.prefix_append _ _).trans (List.prefix_append _ _))

/-- A run writes one result, unless help or debug mode is in effect. It is left before its end only
over a command line that cannot be read. -/
theorem run_reports (probe : Probe)
    (quiet : ∀ options, (probe.check files transport options).Silent)
    (noHelp : probe.offer.asksHelp words = false) (noDebug : probe.offer.debugs words = false) :
    ∃ result, Reports (probe.run files transport words) result ∧
      ∀ code, (probe.run files transport words).outcome = .ok (.left code) →
        code = State.unknown.code ∧ ∃ error, probe.offer.parse words = .error (.usage error) := by
  rcases Offer.parse_cases noHelp noDebug with ⟨error, stopped⟩ | ⟨options, accepted, quietMode⟩
  · refine ⟨usageResult probe.offer error, usage_reports stopped, ?_⟩
    rintro code left
    rw [run_usage stopped] at left
    cases left
    exact ⟨rfl, error, stopped⟩
  · obtain ⟨result, returns⟩ :
        ∃ result, Returns (probe.run files transport words) result := by
      by_cases fit : probe.offer.rejections options = []
      · rw [run_accepted accepted fit]
        exact ⟨_, runWith_returns quiet (checked_outcome probe files transport quietMode)⟩
      · exact ⟨_, rejected_returns accepted fit quietMode⟩
    refine ⟨result, returns.reports, ?_⟩
    rintro code left
    rw [returns.outcome] at left
    cases left

end ServiceProbe.Probe

namespace ServiceProbe.Service

open Probe (Ending)

/-- Every run of a probe ends with an exit code and one status line, which begins with the name of
the state of that code. Only a command line that cannot be read leaves the run before its end. -/
theorem run_ends_with_one_report (service : Service) (tls : Capability)
    (replies : Transport.Replies) (files : Files) (words : List Text)
    (noHelp : service.offer.asksHelp words = false)
    (noDebug : service.offer.debugs words = false) :
    ∃ (ending : Ending) (result : CheckResult),
      let run := service.probe.run files (.scripted tls replies) words
      run.outcome = .ok ending ∧
      ending.code ∈ [0, 1, 2, 3] ∧
      (∀ code, ending = .left code →
        code = 3 ∧ ∃ error, service.offer.parse words = .error (.usage error)) ∧
      run.journal.outputs = [result.statusLine ++ ['\n']] ∧
      result.state.code = ending.code ∧
      (result.state.name ++ ": " : Text) <+: run.journal.output ∧
      run.journal.output.getLast? = some '\n' := by
  have quiet (options : Probe.Options) :
      (service.probe.check files (.scripted tls replies) options).Silent :=
    check_silent service files (Transport.scripted_silent tls replies) options
  obtain ⟨result, reports, leaving⟩ :=
    Probe.run_reports service.probe quiet noHelp noDebug
  obtain ⟨ending, outcome, code⟩ := reports.ends
  refine ⟨ending, result, outcome, ?_, ?_, reports.outputs, code.symm, ?_, ?_⟩
  · rw [code]
    cases result.state <;> simp [State.code]
  · rintro left rfl
    exact leaving left outcome
  · rw [reports.output]
    exact (Probe.name_isPrefix_statusLine result).trans (List.prefix_append _ _)
  · simp [reports.output, Probe.reportText]

/-- A peer that breaks off, a password reference and options in their short forms. -/
theorem rabbitMq_run_ends_with_one_report :
    let words : List Text := ["-Svv", "--host=broker", "--password-ref", "id:store", "-q", "a b"]
    let replies : Transport.Replies := { otherwise := some (.failure .bailOut "gave\nup") }
    rabbitMq.offer.asksHelp words = false ∧ rabbitMq.offer.debugs words = false ∧
    ∃ (ending : Ending) (result : CheckResult),
      let run := rabbitMq.probe.run [(["store"], .file (Utf8.encode "id:secret\n"))]
        (.scripted { available := false } replies) words
      run.outcome = .ok ending ∧
      ending.code ∈ [0, 1, 2, 3] ∧
      (∀ code, ending = .left code →
        code = 3 ∧ ∃ error, rabbitMq.offer.parse words = .error (.usage error)) ∧
      run.journal.outputs = [result.statusLine ++ ['\n']] ∧
      result.state.code = ending.code ∧
      (result.state.name ++ ": " : Text) <+: run.journal.output ∧
      run.journal.output.getLast? = some '\n' := by
  intro words replies
  have noHelp : rabbitMq.offer.asksHelp words = false := by decide
  have noDebug : rabbitMq.offer.debugs words = false := by decide
  exact ⟨noHelp, noDebug, run_ends_with_one_report rabbitMq _ replies _ words noHelp noDebug⟩

end ServiceProbe.Service
