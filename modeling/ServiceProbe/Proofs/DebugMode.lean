import ServiceProbe.Proofs.Failure
import ServiceProbe.Proofs.StatusLine
/-!
Debug mode. It is in effect once a word asks for it, in full or shortened. What a check raises is let through
in debug mode; options that are refused are let through only where the word stands in full, so that the two
agree unless the word is shortened wherever it stands.
-/
namespace ServiceProbe

namespace CommandLine

variable {σ : Type} {opts : List (Opt σ)} {setting : σ}

/-! Where a setting comes from. -/

def Tail.options : Tail σ → List (Opt σ)
  | .done => []
  | .value opt _ => [opt]
  | .awaiting opt => [opt]

def Expansion.options (expansion : Expansion σ) : List (Opt σ) :=
  expansion.flags ++ expansion.tail.options

theorem Expansion.Within.mem_options {expansion : Expansion σ} (within : expansion.Within opts) {said : Opt σ}
    (member : said ∈ expansion.options) : said ∈ opts := by
  obtain ⟨flags, tail⟩ := expansion
  rcases List.mem_append.mp member with among | last
  · exact within.flags said among
  · cases tail with
    | done => cases last
    | value opt text | awaiting opt =>
      rw [List.mem_singleton.mp last]
      exact within.tail

theorem Expansion.within_options (expansion : Expansion σ) : expansion.Within expansion.options := by
  refine ⟨fun opt => List.mem_append_left _, ?_⟩
  obtain ⟨flags, tail⟩ := expansion
  cases tail with
  | done => trivial
  | value opt text | awaiting opt => exact List.mem_append_right flags (List.mem_singleton_self opt)

/-- An option of a word may say a setting. -/
def Word.MaySay (opts : List (Opt σ)) (setting : σ) : Word σ → Prop
  | .option opt short attached => ∃ expansion, expand opts opt short attached = .ok expansion ∧
      ∃ said ∈ expansion.options, said.Yields setting
  | _ => False

theorem Progress.Extends.said {before after : Progress σ} (grows : before.Extends opts after)
    (member : setting ∈ after.settings) :
    setting ∈ before.settings ∨ ∃ opt ∈ opts, opt.Yields setting := by
  obtain ⟨added, whole, yields⟩ := grows.settings
  rw [whole] at member
  exact (List.mem_append.mp member).imp_right (yields setting)

/-- What is set once all words are read was set before, or one of them says it. -/
theorem consume_said {before after : Progress σ} {kinds : List (Text × Word σ)}
    (read : consume opts before kinds = .ok after) (member : setting ∈ after.settings) :
    setting ∈ before.settings ∨ ∃ entry ∈ kinds, entry.2.MaySay opts setting := by
  -- Only an option that is taken sets anything: one that awaits its value (`case6`) or has it (`case9`).
  fun_induction consume opts before kinds with
  | case1 progress =>
    cases read
    exact Or.inl member
  | case2 progress word rest ih | case3 progress word rest ih =>
    rcases ih read with here | ⟨entry, inside, told⟩
    · exact Or.inl here
    · exact Or.inr ⟨entry, List.mem_cons_of_mem _ inside, told⟩
  | case4 | case5 | case7 | case8 => cases read
  | case6 progress word opt short attached flags needy expanded text others next taken ih =>
    rcases ih read with here | ⟨entry, inside, told⟩
    · have within := Expansion.within_options ⟨flags, .awaiting needy⟩
      obtain ⟨middle, _, early, late⟩ :=
        word_extends within.flags (Progress.value_extends within.tail) taken
      refine ((Progress.extends_trans early late).said here).imp_right fun said => ?_
      exact ⟨_, List.mem_cons_self, _, expanded, said⟩
    · exact Or.inr ⟨entry, by simp [inside], told⟩
  | case9 progress word opt short attached rest flags tail ends expanded next taken ih =>
    rcases ih read with here | ⟨entry, inside, told⟩
    · have within := Expansion.within_options ⟨flags, tail⟩
      obtain ⟨middle, _, early, late⟩ := word_extends within.flags (finish_extends within.tail) taken
      refine ((Progress.extends_trans early late).said here).imp_right fun said => ?_
      exact ⟨_, List.mem_cons_self, _, expanded, said⟩
    · exact Or.inr ⟨entry, by simp [inside], told⟩

theorem alone_options (opt : Opt σ) : (alone opt).options = [opt] := by
  unfold alone
  split <;> rfl

/-- An option of a word is its own, or one that is named by a character joined to it. -/
theorem expandJoined_options {opt : Opt σ} {text : Text} {expansion : Expansion σ}
    (read : expandJoined opts opt text = .ok expansion) :
    ∀ said ∈ expansion.options, said = opt ∨ ∃ c, ['-', c] ∈ said.names := by
  have named {c : Char} {next : Opt σ} (found : findNamed? opts ['-', c] = some next) :
      ['-', c] ∈ next.names := by simpa using List.find?_some found
  -- Along the characters that are joined; each one but the first names an option of its own.
  induction text generalizing opt expansion with
  | nil => cases read
  | cons c rest ih =>
    unfold expandJoined at read
    split at read
    · cases read
    · next next found =>
      cases read
      intro said member
      rcases List.mem_cons.mp member with rfl | member
      · exact Or.inl rfl
      · replace member : said ∈ (alone next).options := member
        rw [alone_options, List.mem_singleton] at member
        exact Or.inr ⟨c, member ▸ named found⟩
    · next next d others found =>
      split at read
      · cases read
        intro said member
        rcases List.mem_cons.mp member with rfl | member
        · exact Or.inl rfl
        · exact Or.inr ⟨c, List.mem_singleton.mp member ▸ named found⟩
      · obtain ⟨joined, later, rfl⟩ := Outcome.map_ok read
        intro said member
        rcases List.mem_cons.mp member with rfl | member
        · exact Or.inl rfl
        · rcases ih later said member with rfl | joined
          · exact Or.inr ⟨c, named found⟩
          · exact Or.inr joined

theorem expand_options {opt said : Opt σ} {short : Bool} {attached : Option Text}
    {expansion : Expansion σ} (read : expand opts opt short attached = .ok expansion)
    (member : said ∈ expansion.options) :
    said = opt ∧ (attached = none ∨ opt.takesValue = true ∨ short = true) ∨
      ∃ c, ['-', c] ∈ said.names := by
  unfold expand at read
  split at read
  · cases read
    rw [alone_options, List.mem_singleton] at member
    exact Or.inl ⟨member, Or.inl rfl⟩
  split at read
  · next takesValue =>
    cases read
    exact Or.inl ⟨List.mem_singleton.mp member, Or.inr (Or.inl takesValue)⟩
  split at read
  · next joined =>
    exact (expandJoined_options read said member).imp_left fun same => ⟨same, by simp [joined]⟩
  · cases read

/-! What a word names that is no value. -/

theorem findNamed_name {name : Text} {opt : Opt σ} (found : findNamed? opts name = some opt) :
    name ∈ opt.names := by simpa using List.find?_some found

theorem longCandidates_name {stem name : Text} {opt : Opt σ}
    (candidate : (name, opt) ∈ longCandidates opts stem) : name ∈ opt.names ∧ stem <+: name := by
  simp only [longCandidates, namesOf, List.mem_filter, List.mem_flatMap, List.mem_map] at candidate
  obtain ⟨⟨owner, _, _, known, same⟩, begins⟩ := candidate
  cases same
  exact ⟨known, List.isPrefixOf_iff_prefix.mp begins⟩

theorem cut_none {mark : Char} {text stem : Text} (whole : Text.cut mark text = (stem, none)) :
    stem = text := by
  induction text generalizing stem with
  | nil =>
    cases whole
    rfl
  | cons c rest ih =>
    rw [Text.cut] at whole
    split at whole
    · cases whole
    · cases later : Text.cut mark rest with
      | mk before behind =>
        rw [later] at whole
        cases whole
        rw [ih later]

theorem isShortName_take (word : Text) : isShortName (word.take 2) = isShortName word := by
  rcases word with _ | ⟨c, _ | ⟨d, rest⟩⟩ <;> rfl

/-- An option is named by the word in full, or by a long word that is short for a name of it. A word with
short options begins with a short name. -/
structure NamedBy (word : Text) (opt : Opt σ) (short : Bool) (attached : Option Text) : Prop where
  short : short = true → ∃ name ∈ opt.names, isShortName name = true
  whole : attached = none → ∃ name ∈ opt.names, word <+: name ∧
    (word = name ∨ word.head? = some '-' ∧ isShortName word = false)

theorem classifyInexact_named {word : Text} {opt : Opt σ} {short : Bool} {attached : Option Text}
    (dashed : word.head? = some '-')
    (read : classifyInexact opts word = .ok (.option opt short attached)) :
    NamedBy word opt short attached := by
  unfold classifyInexact at read
  dsimp only at read
  split at read
  · next brief =>
    split at read
    · next found =>
      cases read
      refine ⟨fun _ => ⟨_, findNamed_name found, ?_⟩, nofun⟩
      rwa [isShortName_take]
    · split at read <;> cases read
  · next long =>
    split at read
    · split at read <;> cases read
    · next name opt candidates =>
      cases read
      have candidate : (name, opt) ∈ [(name, opt)] := List.mem_singleton_self _
      rw [← candidates] at candidate
      obtain ⟨known, begins⟩ := longCandidates_name candidate
      refine ⟨nofun, fun none => ⟨name, known, ?_, Or.inr ⟨dashed, by simpa using long⟩⟩⟩
      have uncut : (Text.cut '=' word).1 = word := cut_none (Prod.ext rfl none)
      rwa [uncut] at begins
    · cases read

theorem classify_named_by {word : Text} {opt : Opt σ} {short : Bool} {attached : Option Text}
    (read : classify opts word = .ok (.option opt short attached)) :
    NamedBy word opt short attached := by
  have exact {name : Text} (found : findNamed? opts name = some opt) :
      isShortName name = true → ∃ name ∈ opt.names, isShortName name = true :=
    fun brief => ⟨name, findNamed_name found, brief⟩
  unfold classify at read
  split at read
  · cases read
  · next dashed =>
    have dashed : word.head? = some '-' := by simpa using dashed
    split at read
    · next found =>
      cases read
      exact ⟨exact found, fun _ => ⟨word, findNamed_name found, List.prefix_rfl, Or.inl rfl⟩⟩
    split at read
    · cases read
    split at read
    · split at read
      · next found =>
        cases read
        exact ⟨exact found, nofun⟩
      · exact classifyInexact_named dashed read
    · exact classifyInexact_named dashed read

/-! A setting that one long option alone says. -/

theorem classifyAll_option {words : List Text} {kinds : List (Text × Word σ)} {word : Text}
    {opt : Opt σ} {short : Bool} {attached : Option Text} (read : classifyAll opts words = .ok kinds)
    (member : (word, Word.option opt short attached) ∈ kinds) :
    word ∈ words ∧ word ≠ endMark ∧ classify opts word = .ok (.option opt short attached) := by
  induction words generalizing kinds with
  | nil =>
    cases read
    cases member
  | cons first rest ih =>
    by_cases ends : first = endMark
    · -- From the mark on nothing is an option.
      simp only [classifyAll, ends, ↓reduceIte, Except.ok.injEq] at read
      subst kinds
      simp at member
    · obtain ⟨kind, later, classified, others, rfl⟩ := classifyAll_cons ends read
      rcases List.mem_cons.mp member with here | behind
      · cases here
        exact ⟨List.mem_cons_self, ends, classified⟩
      · obtain ⟨inside, option, found⟩ := ih others behind
        exact ⟨List.mem_cons_of_mem _ inside, option, found⟩

/-- A word that is short for a long name: the name itself or a beginning of it, longer than the mark
alone. -/
def Shortens (word name : Text) : Prop := endMark.length < word.length ∧ word <+: name

instance (word name : Text) : Decidable (Shortens word name) :=
  inferInstanceAs (Decidable (_ ∧ _))

/-- An option without a value is the only one to say a setting, and has one long name. -/
structure Flag (opts : List (Opt σ)) (opt : Opt σ) (name : Text) (setting : σ) : Prop where
  takes : opt.takes = .nothing setting
  names : opt.names = [name]
  long : isShortName name = false
  length : endMark.length < name.length
  only : ∀ other ∈ opts, other.Yields setting → other = opt

namespace Flag

variable {opt : Opt σ} {name : Text}

theorem shortens_of_whole (flag : Flag opts opt name setting) {word : Text} {short : Bool}
    (options : word ≠ endMark) (named : NamedBy word opt short none) : Shortens word name := by
  obtain ⟨known, own, begins, same | ⟨dashed, long⟩⟩ := named.whole rfl
  all_goals
    rw [flag.names, List.mem_singleton] at own
    subst known
  · exact ⟨same ▸ flag.length, begins⟩
  · refine ⟨?_, begins⟩
    rcases word with _ | ⟨c, _ | ⟨d, _ | ⟨e, rest⟩⟩⟩
    · cases dashed
    · simp [isShortName] at long
    · simp_all [isShortName, endMark]
    · simp [endMark]

/-- A word with the option stands for it alone: nothing is attached to a long option without a value, and no
character joined to another option names it. -/
theorem shortens_of_said (flag : Flag opts opt name setting) {word : Text} {own : Opt σ} {short : Bool}
    {attached : Option Text} (options : word ≠ endMark)
    (classified : classify opts word = .ok (.option own short attached))
    (told : (Word.option own short attached).MaySay opts setting) : Shortens word name := by
  obtain ⟨expansion, expanded, said, member, yields⟩ := told
  have offered : own ∈ opts := classify_within classified
  have named := classify_named_by classified
  rcases expand_options expanded member with ⟨rfl, attachment⟩ | ⟨c, joined⟩
  · have same : said = opt := flag.only said offered yields
    subst same
    rcases attachment with rfl | takesValue | brief
    · exact flag.shortens_of_whole options named
    · simp [Opt.takesValue, flag.takes] at takesValue
    · obtain ⟨known, own, shortName⟩ := named.short brief
      rw [flag.names, List.mem_singleton] at own
      rw [own, flag.long] at shortName
      cases shortName
  · have inside : said ∈ opts := (expand_within offered expanded).mem_options member
    rw [flag.only said inside yields, flag.names, List.mem_singleton] at joined
    have length := flag.length
    simp [← joined, endMark] at length

/-- Where the setting is made, some word shortens the name. -/
theorem shortened (flag : Flag opts opt name setting) {words : List Text} {settings : List σ}
    (accepted : parse opts words = .ok settings) (told : setting ∈ settings) :
    ∃ word ∈ words, Shortens word name := by
  obtain ⟨kinds, progress, classified, consumed, _, _, rfl⟩ := parse_iff.mp accepted
  rcases consume_said consumed told with early | ⟨⟨word, kind⟩, member, saying⟩
  · cases early
  cases kind with
  | plain | unknown => cases saying
  | option own short attached =>
    obtain ⟨inside, options, alike⟩ := classifyAll_option classified member
    exact ⟨word, inside, flag.shortens_of_said options alike saying⟩

end Flag

end CommandLine

namespace Probe

variable {options : Options}

theorem Options.debug_of_apply {setting : Setting} (on : (options.apply setting).debug = true) :
    options.debug = true ∨ setting = .debug := by
  cases setting with
  | debug => exact Or.inr rfl
  | _ => exact Or.inl on

theorem Options.debug_of_ofSettings {settings : List Setting}
    (on : (options.ofSettings settings).debug = true) : options.debug = true ∨ Setting.debug ∈ settings := by
  induction settings generalizing options with
  | nil => exact Or.inl on
  | cons setting rest ih =>
    rcases ih on with early | later
    · refine (debug_of_apply early).imp_right fun same => ?_
      rw [same]
      exact List.mem_cons_self
    · exact Or.inr (List.mem_cons_of_mem _ later)

namespace Offer

/-- Debug mode is in effect just if it is the default or the command line asks for it. -/
theorem parse_debug {offer : Offer} {words : List Text} (quiet : offer.defaults.debug = false)
    (accepted : offer.parse words = .ok options) :
    ∃ settings, CommandLine.parse offer.options words = .ok settings ∧
      (options.debug = true ↔ Setting.debug ∈ settings) := by
  obtain ⟨settings, read, rfl⟩ := parse_ok accepted
  refine ⟨settings, read, ?_, fun asked => Options.debug_of_mem asked _⟩
  intro on
  exact (Options.debug_of_ofSettings on).resolve_left (by simp [quiet])

theorem common_debug {defaults : Options} {opt : ProbeOption} (offered : opt ∈ common defaults)
    (yields : opt.Yields .debug) : opt = debug := by
  simp only [common, List.mem_cons, List.not_mem_nil, or_false] at offered
  rcases offered with rfl | rfl | rfl | rfl | rfl | rfl | rfl | rfl | rfl | rfl
  on_goal 10 => rfl
  all_goals
    simp [CommandLine.Opt.Yields, help, hostname, port, timeout, tls, username, password, reference,
      louder, text] at yields

theorem levels_not_debug {what : Text} {opt : ProbeOption} (offered : opt ∈ levels what) :
    ¬ opt.Yields .debug := by
  simp only [levels, List.mem_cons, List.not_mem_nil, or_false] at offered
  rcases offered with rfl | rfl <;> simp [CommandLine.Opt.Yields, level]

end Offer
end Probe

namespace Service

open CommandLine (Shortens classify)
open Probe (debugWord)

/-- Debug mode is a flag of every service. -/
theorem debug_flag {service : Service} (known : service ∈ all) :
    CommandLine.Flag service.offer.options Probe.Offer.debug debugWord .debug := by
  refine ⟨rfl, rfl, rfl, by decide, ?_⟩
  intro other offered yields
  simp only [Probe.Offer.options, List.mem_append] at offered
  rcases offered with (common | here) | measured
  · exact Probe.Offer.common_debug common yields
  · cases own_particular known here yields
  · cases what : service.offer.measured with
    | none => simp [what] at measured
    | some text =>
      rw [what] at measured
      exact absurd yields (Probe.Offer.levels_not_debug measured)

/-- No other option of a service has a name that begins like the one for debug mode. -/
theorem classify_debug {service : Service} (known : service ∈ all) {word : Text}
    (short : Shortens word debugWord) :
    classify service.offer.options word = .ok (.option Probe.Offer.debug false none) := by
  obtain ⟨longer, begins⟩ := short
  have bounded : word.length ≤ debugWord.length := begins.length_le
  have beginning : word = debugWord.take word.length := List.prefix_iff_eq_take.mp begins
  generalize word.length = length at longer bounded beginning
  have lengths : length = 3 ∨ length = 4 ∨ length = 5 ∨ length = 6 ∨ length = 7 := by
    have longest : debugWord.length = 7 := rfl
    have mark : CommandLine.endMark.length = 2 := rfl
    omega
  subst beginning
  rcases mem_all.mp known with rfl | rfl | rfl | rfl | rfl | rfl | rfl <;>
    rcases lengths with rfl | rfl | rfl | rfl | rfl <;> rfl

variable {service : Service} {words : List Text} {options : Probe.Options}

theorem defaults_quiet {service : Service} (known : service ∈ all) :
    service.offer.defaults.debug = false := by
  revert service
  decide

theorem debug_iff_shortened (known : service ∈ all)
    (accepted : service.offer.parse words = .ok options) :
    options.debug = true ↔ ∃ word ∈ words, Shortens word debugWord := by
  obtain ⟨settings, read, asked⟩ := Probe.Offer.parse_debug (defaults_quiet known) accepted
  rw [asked]
  constructor
  · exact (debug_flag known).shortened read
  · rintro ⟨word, inside, short⟩
    exact CommandLine.parse_sets read (classify_debug known short) rfl inside

/-! The two ways in which a fault may be let through. -/

variable {files : Files} {transport : Transport}

/-- What a check raises is let through just in debug mode. -/
theorem runWith_lets_through_iff {fault : Fault}
    (raised : (service.probe.attempt files transport options).outcome = .error fault)
    (unexpected : fault.isBailOut = false) :
    (service.probe.runWith files transport options).outcome = .error fault ↔
      options.debug = true := by
  have checked_eq : service.probe.checked files transport options =
      (service.probe.attempt files transport options).orElse (service.probe.ofFault options) := rfl
  cases debug : options.debug with
  | true =>
    have through : (service.probe.checked files transport options).outcome = .error fault := by
      rw [checked_eq, Run.orElse_error raised]
      simp [Probe.ofFault, unexpected, debug, Run.throw]
    have whole : (service.probe.runWith files transport options).outcome = .error fault := by
      simp [Probe.runWith, Run.bind_error through]
    exact iff_of_true whole rfl
  | false =>
    have reported := Probe.runWith_eq (Probe.checked_outcome service.probe files transport debug)
    simp [reported]

theorem run_rejected_present (accepted : service.offer.parse words = .ok options)
    (unfit : service.offer.rejections options ≠ []) (present : debugWord ∈ words) :
    (service.probe.run files transport words).outcome =
      .error (.rejected Probe.modelName (service.offer.rejections options)) := by
  have read : service.probe.offer.read words =
      ⟨[], .error (.rejected Probe.modelName (service.offer.rejections options))⟩ :=
    Probe.Offer.read_rejected accepted unfit
  simp [Probe.run, read, Probe.onRejection, present, bind, Run.andThen, Run.throw]

theorem run_rejected_absent_reports (known : service ∈ all)
    (accepted : service.offer.parse words = .ok options)
    (unfit : service.offer.rejections options ≠ []) (absent : debugWord ∉ words) :
    let run := service.probe.run files transport words
    let line := (Probe.rejectedResult service.probe options).statusLine
    run.outcome = .ok (.returned 3) ∧ run.journal.outputs = [line ++ ['\n']] ∧
      ("UNKNOWN: " : Text) <+: line ∧ '\n' ∉ line := by
  intro run line
  have run_eq : run = Probe.finish (Probe.rejectedResult service.probe options) :=
    Probe.run_rejected_absent accepted unfit absent
  have one : '\n' ∉ line := by
    simp [line, (rejectedResult_quotes known options).statusLine]
  have marked : ("UNKNOWN: " : Text) = State.unknown.name ++ ": " := by decide
  have begins : ("UNKNOWN: " : Text) <+: line := by
    rw [marked]
    exact Probe.name_isPrefix_statusLine (Probe.rejectedResult service.probe options)
  rw [run_eq]
  exact ⟨rfl, rfl, begins, one⟩

/-- What a check raises is let through in debug mode, which any word that shortens the one for it has in
effect. Options that are refused are let through only where the word stands in full; otherwise they are one
line of the state unknown. So the two decisions part just where the word is shortened wherever it stands. -/
theorem run_lets_rejection_through_iff (known : service ∈ all)
    (accepted : service.offer.parse words = .ok options)
    (unfit : service.offer.rejections options ≠ []) (files : Files) (transport : Transport) :
    let run := service.probe.run files transport words
    let throughs := run.outcome =
      .error (.rejected Probe.modelName (service.offer.rejections options))
    let line := (Probe.rejectedResult service.probe options).statusLine
    (throughs ↔ debugWord ∈ words) ∧
      (¬ throughs → run.outcome = .ok (.returned 3) ∧ run.journal.outputs = [line ++ ['\n']] ∧
        ("UNKNOWN: " : Text) <+: line ∧ '\n' ∉ line) ∧
      (options.debug = true ↔ ∃ word ∈ words, Shortens word debugWord) ∧
      (∀ (transport : Transport) (fault : Fault),
        (service.probe.attempt files transport options).outcome = .error fault →
        fault.isBailOut = false →
        ((service.probe.runWith files transport options).outcome = .error fault ↔
          options.debug = true)) ∧
      ((throughs ↔ options.debug = true) ↔
        (∃ word ∈ words, Shortens word debugWord) → debugWord ∈ words) := by
  intro run throughs line
  have through_iff : throughs ↔ debugWord ∈ words := by
    refine ⟨fun through => ?_, run_rejected_present accepted unfit⟩
    by_contra absent
    have caught : run.outcome = .ok (.returned 3) :=
      (run_rejected_absent_reports known accepted unfit absent).1
    cases caught.symm.trans through
  have debug_iff := debug_iff_shortened known accepted
  have full : debugWord ∈ words → ∃ word ∈ words, Shortens word debugWord :=
    fun present => ⟨debugWord, present, by decide⟩
  refine ⟨through_iff, fun caught => ?_, debug_iff,
    fun _ _ raised unexpected => runWith_lets_through_iff raised unexpected, ?_⟩
  · exact run_rejected_absent_reports known accepted unfit (mt through_iff.mpr caught)
  · rw [through_iff, debug_iff]
    exact ⟨fun same => same.mpr, fun present => ⟨full, present⟩⟩

/-- A port out of range on a command line that asks for debug mode twice, once in full. -/
theorem rabbitMq_lets_rejection_through :
    let words : List Text := ["-Hmq", "-vp0", "--deb", "--queue=--d", "--debug"]
    let options : Probe.Options :=
      { rabbitMq.offer.defaults with
        hostname := "mq", port := 0, verbosity := 1, debug := true, queue := some "--d" }
    let out : Rejection := ⟨"port", .belowLeast⟩
    rabbitMq ∈ all ∧ rabbitMq.offer.parse words = .ok options ∧
      rabbitMq.offer.rejections options = [out] ∧ debugWord ∈ words ∧
      ∀ (files : Files) (transport : Transport),
        (rabbitMq.probe.run files transport words).outcome =
          .error (.rejected Probe.modelName [out]) := by
  intro words options out
  have known : rabbitMq ∈ all := by simp [all, named]
  have accepted : rabbitMq.offer.parse words = .ok options := rfl
  have refused : rabbitMq.offer.rejections options = [out] := rfl
  have present : debugWord ∈ words := by decide
  refine ⟨known, accepted, refused, present, fun files transport => ?_⟩
  have unfit : rabbitMq.offer.rejections options ≠ [] := by simp [refused]
  have decisions := run_lets_rejection_through_iff known accepted unfit files transport
  rw [← refused]
  exact decisions.1.mpr present

/-- With the word shortened, a fault of the check is let through and refused options are not. -/
theorem grafana_decisions_part :
    let words : List Text := ["-H", "srv", "-p", "0", "--deb"]
    let options : Probe.Options :=
      { grafana.offer.defaults with hostname := "srv", port := 0, debug := true }
    grafana ∈ all ∧ grafana.offer.parse words = .ok options ∧
      grafana.offer.rejections options = [⟨"port", .belowLeast⟩] ∧
      (∀ (files : Files) (transport : Transport) (fault : Fault),
        (grafana.probe.attempt files transport options).outcome = .error fault →
        fault.isBailOut = false →
        (grafana.probe.runWith files transport options).outcome = .error fault) ∧
      ∀ (files : Files) (transport : Transport),
        let run := grafana.probe.run files transport words
        run.outcome = .ok (.returned 3) ∧ run.journal.output =
          ("UNKNOWN: Grafana check failed: invalid port: " ++
            "Input should be greater than or equal to 1\n").toList := by
  intro words options
  have accepted : grafana.offer.parse words = .ok options := rfl
  have refused : grafana.offer.rejections options = [⟨"port", .belowLeast⟩] := rfl
  have unfit : grafana.offer.rejections options ≠ [] := by simp [refused]
  refine ⟨by simp [all, named], accepted, refused, ?_, fun files transport => ?_⟩
  · intro files transport fault raised unexpected
    exact (runWith_lets_through_iff raised unexpected).mpr rfl
  · have run_eq : grafana.probe.run files transport words =
        Probe.finish (Probe.rejectedResult grafana.probe options) :=
      Probe.run_rejected_absent accepted unfit (by decide)
    rw [run_eq]
    exact ⟨rfl, by decide⟩

end Service
end ServiceProbe
