import ServiceProbe.Proofs.Fallback
/-!
Runs that tell more. How much a run is asked to tell decides what is written on the error stream and
nothing else, and a run that is asked for nothing leaves the error stream empty.
-/
namespace ServiceProbe

/-! The options of the two runs. -/

namespace Probe

namespace Options

variable {options : Options}

/-- Asks for some more details. -/
def louder (options : Options) (more : Nat) : Options :=
  { options with verbosity := options.verbosity + more }

theorem louder_add (options : Options) (more most : Nat) :
    (options.louder more).louder most = options.louder (more + most) := by
  rw [louder, louder, louder]
  exact congrArg ({ options with verbosity := · }) (Nat.add_assoc _ _ _)

theorem apply_louder (options : Options) (more : Nat) (setting : Setting) :
    (options.louder more).apply setting = (options.apply setting).louder more := by
  cases setting with
  | louder => exact congrArg ({ options with verbosity := · }) (Nat.add_right_comm _ _ _)
  | _ => rfl

theorem ofSettings_louder (options : Options) (more : Nat) (settings : List Setting) :
    (options.louder more).ofSettings settings = (options.ofSettings settings).louder more := by
  induction settings generalizing options with
  | nil => rfl
  | cons setting rest ih =>
    rw [ofSettings, List.foldl_cons, apply_louder]
    exact ih (options.apply setting)

theorem rejections_louder (options : Options) (more : Nat) (subjects : List Text) :
    (options.louder more).rejections subjects = options.rejections subjects := by
  unfold rejections
  congr 1

theorem fitFor_louder (options : Options) (more : Nat) (capability : Capability) :
    (options.louder more).fitFor capability = (options.fitFor capability).louder more := by
  rw [fitFor, fitFor, apply_ite (louder · more)]
  rfl

end Options

/-! The command lines of the two runs. -/

/-- The word that asks for more details. -/
def louderWord : Text := "-v"

namespace Offer

variable {offer : Offer}
  (optional : ∀ other ∈ offer.options, other.required = true → other.display ≠ louder.display)

include optional

theorem parse_louderWord (words : List Text) :
    offer.parse (louderWord :: words) = (offer.parse words).map (·.louder 1) := by
  have found : CommandLine.findNamed? offer.options louderWord = some louder := rfl
  have longer := CommandLine.parse_optional_first optional found rfl (by decide) rfl rfl words
  rw [parse, parse, longer]
  cases CommandLine.parse offer.options words with
  | error stop => rfl
  | ok settings => exact congrArg Except.ok (Options.ofSettings_louder offer.defaults 1 settings)

/-- Also where the command line cannot be read, or asks for help, the words in front change nothing. -/
theorem parse_louder (words : List Text) (more : Nat) :
    offer.parse (List.replicate more louderWord ++ words) =
      (offer.parse words).map (·.louder more) := by
  induction more with
  | zero =>
    rw [List.replicate_zero, List.nil_append]
    cases offer.parse words <;> rfl
  | succ more ih =>
    rw [List.replicate_succ, List.cons_append, parse_louderWord optional, ih]
    cases offer.parse words with
    | error stop => rfl
    | ok options => exact congrArg Except.ok (options.louder_add more 1)

end Offer
end Probe

/-! Runs that are the same but for the log. -/

namespace Run

variable {α : Type}

/-- The log is set up first in both runs, more or less loudly, and then both do the same. -/
inductive LouderThan : Run α → Run α → Prop
  | same (run : Run α) : LouderThan run run
  | setUpLog (more less : Int) (rest : Run α) :
    LouderThan (rest.behind (.setUpLog more)) (rest.behind (.setUpLog less))

variable {loud quiet : Run α} (louder : loud.LouderThan quiet)

include louder

theorem LouderThan.outcome : loud.outcome = quiet.outcome := by
  cases louder <;> rfl

theorem LouderThan.output : loud.journal.output = quiet.journal.output := by
  cases louder <;> rfl

theorem LouderThan.exchanges : loud.journal.exchanges = quiet.journal.exchanges := by
  cases louder <;> rfl

end Run

namespace Probe

variable {probe : Probe} {files : Files} {transport : Transport}

theorem prepare_journal (program : Text) (transport : Transport) (options : Options) :
    (prepare program transport options).journal =
      (Fallback.toPlain program options.tls options.port transport.tls).journal := by
  unfold prepare Fallback.toPlain
  split <;> rfl

section Runs

variable (checks : ∀ options more,
  probe.check files transport (options.louder more) = probe.check files transport options)

include checks

theorem checked_louder (options : Options) (more : Nat) :
    probe.checked files transport (options.louder more) = probe.checked files transport options := by
  have attempted : probe.attempt files transport (options.louder more) =
      probe.attempt files transport options := by
    unfold attempt
    rw [Run.bind_ok (prepare_outcome _ _ _), Run.bind_ok (prepare_outcome _ _ _), prepare_journal,
      prepare_journal, Options.fitFor_louder, checks]
    rfl
  have handled : probe.ofFault (options.louder more) = probe.ofFault options := rfl
  show (probe.attempt files transport (options.louder more)).orElse
    (probe.ofFault (options.louder more)) = _
  rw [attempted, handled]
  rfl

theorem runWith_louder (options : Options) (more : Nat) :
    (probe.runWith files transport (options.louder more)).LouderThan
      (probe.runWith files transport options) := by
  rw [runWith_eq_behind, runWith_eq_behind, checked_louder checks]
  exact .setUpLog _ _ _

theorem run_louder {words louderWords : List Text} {more : Nat}
    (parsed : probe.offer.parse louderWords = (probe.offer.parse words).map (·.louder more))
    (debug : louderWords.contains debugWord = words.contains debugWord) :
    (probe.run files transport louderWords).LouderThan (probe.run files transport words) := by
  have rejected : probe.onRejection louderWords = probe.onRejection words := by
    funext fault
    unfold onRejection
    rw [debug]
  unfold run Offer.read
  rw [rejected, parsed]
  cases probe.offer.parse words with
  | error stop => exact .same _
  | ok options =>
    -- How much is to be told is no reason to refuse options.
    dsimp only [Except.map]
    rw [Offer.rejections, Offer.rejections, Options.rejections_louder]
    cases options.rejections (probe.offer.subjects.map Subject.name) with
    | nil => exact runWith_louder checks options more
    | cons first rest => exact .same _

end Runs

end Probe

/-! What is not written where nothing is asked for. -/

/-- An entry that leaves the error stream empty from the level of warnings on. -/
def Entry.IsQuiet : Entry → Prop
  | .record written => written.level < Log.warning
  | .remark _ => False
  | .setUpLog _ => False
  | _ => True

theorem Log.Settings.write_below {settings : Settings} {record : Record}
    (below : record.level < settings.level) : settings.write? record = none := by
  have silent : ¬settings.level ≤ record.level := by omega
  simp [write?, silent]

namespace Journal

theorem errorText_quiet {settings : Log.Settings} (level : settings.level = Log.warning)
    {journal : Journal} (quiet : ∀ entry ∈ journal, entry.IsQuiet) :
    journal.errorText settings = [] := by
  induction journal with
  | nil => rfl
  | cons entry rest ih =>
    obtain ⟨own, others⟩ := List.forall_mem_cons.mp quiet
    have later := ih others
    cases entry with
    | record record =>
      have below : record.level < settings.level := level ▸ own
      simp [errorText, errorTextOf, settingsAfter, Log.Settings.write_below below, later]
    | remark | setUpLog => cases own
    | output | exchange | event => exact later

/-- A console that an earlier run has turned on stays on, but has nothing to write. -/
theorem errorText_setUpLog {rest : Journal} (quiet : ∀ entry ∈ rest, entry.IsQuiet)
    (settings : Log.Settings) : errorText settings (.setUpLog 0 :: rest) = [] := by
  have level : (settings.setUp 0).level = Log.warning := rfl
  exact errorText_quiet level quiet

end Journal

namespace Probe

variable {probe : Probe} {files : Files} {transport : Transport} {words : List Text}

/-- A run that asks for no details writes nothing on the error stream, unless its command line cannot be
read or TLS is wanted and missing. -/
theorem run_quiet (readable : ∀ error, probe.offer.parse words ≠ .error (.usage error))
    (quiet : ∀ options, probe.offer.parse words = .ok options →
      options.verbosity = 0 ∧ (options.tls && !transport.tls.available) = false)
    (checks : ∀ options, (options.tls && !transport.tls.available) = false →
      (probe.check files transport options).Only Entry.IsQuiet) (settings : Log.Settings) :
    (probe.run files transport words).journal.errorText settings = [] := by
  cases parsed : probe.offer.parse words with
  | error stop =>
    cases stop with
    | usage error => exact absurd parsed (readable error)
    | help =>
      unfold run Offer.read
      rw [parsed]
      cases probe.offer.helpText <;> rfl
  | ok options =>
    obtain ⟨verbosity, fit⟩ := quiet options parsed
    by_cases accepted : probe.offer.rejections options = []
    · have rest : (probe.checked files transport options >>= finish).Only Entry.IsQuiet :=
        checked_only fit (fun _ below => below) (fun _ => trivial) (checks options fit)
      rw [run_accepted parsed accepted, runWith_eq_behind, verbosity]
      exact Journal.errorText_setUpLog rest settings
    · -- Options that are refused are reported before the log is set up.
      unfold run
      rw [Offer.read_rejected parsed accepted]
      dsimp only [onRejection]
      by_cases word : words.contains debugWord = true
      · rw [if_pos word]
        rfl
      · rw [if_neg word]
        rfl

end Probe

namespace Service

variable {service : Service}

theorem louder_optional (known : service ∈ all) :
    ∀ other ∈ service.offer.options, other.required = true →
      other.display ≠ Probe.Offer.louder.display := by
  revert service
  decide

/-- No service looks at how much it is asked to tell. -/
theorem asks_louder (known : service ∈ all) (options : Probe.Options) (more : Nat) :
    service.path (options.louder more) = service.path options ∧
      service.judge (options.louder more) = service.judge options := by
  rcases mem_all.mp known with rfl | rfl | rfl | rfl | rfl | rfl | rfl <;> exact ⟨rfl, rfl⟩

theorem check_louder (known : service ∈ all) (files : Files) (transport : Transport)
    (options : Probe.Options) (more : Nat) :
    service.check files transport (options.louder more) =
      service.check files transport options := by
  obtain ⟨path, judge⟩ := asks_louder known options more
  unfold check
  rw [path, judge]
  rfl

/-- Words in front that ask for more details do not make the run another one. -/
theorem run_louderThan (known : service ∈ all) (words : List Text) (more : Nat) (files : Files)
    (transport : Transport) :
    (service.probe.run files transport (List.replicate more Probe.louderWord ++ words)).LouderThan
      (service.probe.run files transport words) := by
  have other : Probe.debugWord ∉ List.replicate more Probe.louderWord := by
    intro member
    exact absurd (List.eq_of_mem_replicate member) (by decide)
  have debug : (List.replicate more Probe.louderWord ++ words).contains Probe.debugWord =
      words.contains Probe.debugWord := by
    rw [List.contains_eq_mem, List.contains_eq_mem]
    simp only [List.mem_append, other, false_or]
  have checks (options : Probe.Options) (more : Nat) :
      service.probe.check files transport (options.louder more) =
        service.probe.check files transport options :=
    check_louder known files transport options more
  have parsed := Probe.Offer.parse_louder (louder_optional known) words more
  exact Probe.run_louder checks parsed debug

theorem check_quiet {options : Probe.Options} {tls : Capability}
    (fit : (options.tls && !tls.available) = false) (files : Files) (replies : Transport.Replies) :
    (service.probe.check files (.scripted tls replies) options).Only Entry.IsQuiet :=
  check_only fit (fun _ below => below) (fun _ _ => trivial) files replies

/-- Words in front that ask for more details change neither how a run ends nor what it says and sends. A
run that asks for none leaves the error stream empty, whatever the log was set to before, if its command
line can be read and TLS is there wherever it is wanted. -/
theorem run_is_the_same_at_any_verbosity (known : service ∈ all) (words : List Text) (more : Nat)
    (tls : Capability) (replies : Transport.Replies) (files : Files) :
    let loud := service.probe.run files (.scripted tls replies)
      (List.replicate more Probe.louderWord ++ words)
    let run := service.probe.run files (.scripted tls replies) words
    loud.outcome = run.outcome ∧ loud.journal.output = run.journal.output ∧
      loud.journal.exchanges = run.journal.exchanges ∧
      ((∀ error, service.offer.parse words ≠ .error (.usage error)) →
        (∀ options, service.offer.parse words = .ok options →
          options.verbosity = 0 ∧ (options.tls = true → tls.available = true)) →
        ∀ settings, run.journal.errorText settings = []) := by
  intro loud run
  have louder : loud.LouderThan run := run_louderThan known words more files _
  refine ⟨louder.outcome, louder.output, louder.exchanges, fun readable quiet settings => ?_⟩
  have fits (options : Probe.Options) (accepted : service.offer.parse words = .ok options) :
      options.verbosity = 0 ∧ (options.tls && !tls.available) = false := by
    obtain ⟨verbosity, available⟩ := quiet options accepted
    refine ⟨verbosity, ?_⟩
    cases asked : options.tls with
    | false => rfl
    | true => simpa using available asked
  refine Probe.run_quiet ?_ ?_ ?_ settings
  · exact readable
  · exact fits
  · intro options fit
    exact check_quiet fit files replies

/-- A broker that cannot be reached is told of in the details, and in the same status line without them. -/
theorem rabbitMq_is_the_same_at_any_verbosity :
    let words : List Text := ["-H", "mq", "-S"]
    let run (words : List Text) := rabbitMq.probe.run [] (.scripted { available := true } {}) words
    let loud := run (List.replicate 2 Probe.louderWord ++ words)
    rabbitMq ∈ all ∧ (∀ error, rabbitMq.offer.parse words ≠ .error (.usage error)) ∧
      (∀ options, rabbitMq.offer.parse words = .ok options →
        options.verbosity = 0 ∧
          (options.tls = true → Capability.available { available := true } = true)) ∧
      loud.outcome = .ok (.returned 2) ∧ (run words).outcome = .ok (.returned 2) ∧
      loud.journal.output = (run words).journal.output ∧
      loud.journal.exchanges = (run words).journal.exchanges ∧
      loud.journal.errorText {} ≠ [] ∧ ∀ settings, (run words).journal.errorText settings = [] := by
  intro words run loud
  have known : rabbitMq ∈ all := by simp [all, named]
  have accepted : rabbitMq.offer.parse words =
      .ok { rabbitMq.offer.defaults with hostname := "mq", tls := true } := by rfl
  have readable (error : CommandLine.UsageError) :
      rabbitMq.offer.parse words ≠ .error (.usage error) := by
    rw [accepted]
    simp
  have quiet (options : Probe.Options) (parsed : rabbitMq.offer.parse words = .ok options) :
      options.verbosity = 0 ∧
        (options.tls = true → Capability.available { available := true } = true) := by
    cases accepted.symm.trans parsed
    exact ⟨rfl, fun _ => rfl⟩
  obtain ⟨outcome, output, exchanges, errors⟩ :=
    run_is_the_same_at_any_verbosity known words 2 { available := true } {} []
  have critical : (run words).outcome = .ok (.returned 2) := by rfl
  have told : loud.journal.errorText {} ≠ [] := by decide +kernel
  exact ⟨known, readable, quiet, outcome.trans critical, critical, output, exchanges, told,
    errors readable quiet⟩

end Service
end ServiceProbe
