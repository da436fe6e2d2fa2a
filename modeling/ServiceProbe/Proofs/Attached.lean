import ServiceProbe.Proofs.CommandLine
import ServiceProbe.Proofs.Search
/-!
A command line whose first word brings its value along. What the value is makes no difference to how
the rest is read.
-/
namespace ServiceProbe.CommandLine

variable {σ : Type}

/-! Reading goes on in the same way whatever was set before. -/

/-- A progress with settings before its own. -/
def Progress.behind (before : List σ) (progress : Progress σ) : Progress σ :=
  { progress with settings := before ++ progress.settings }

/-- What the words come to once all of them were read. -/
def Progress.result (opts : List (Opt σ)) (progress : Progress σ) : Except Stop (List σ) :=
  match missing opts progress.seen, progress.extras with
  | [], [] => .ok progress.settings
  | [], extras => .error (.usage (.unrecognized extras))
  | options, _ => .error (.usage (.missing options))

/-- Reading where something was read before. -/
def parseBehind (opts : List (Opt σ)) (progress : Progress σ) (words : List Text) :
    Except Stop (List σ) :=
  match classifyAll opts words with
  | .error error => .error (.usage error)
  | .ok kinds => (consume opts progress kinds).bind (·.result opts)

/-- Where an option was given before all others. -/
def Progress.startedWith (opt : Opt σ) : Progress σ :=
  { seen := [opt.display], chosen := if opt.exclusive then some opt.display else none }

/-- A change to a progress that reading does not look at. -/
structure Progress.Aside (change : Progress σ → Progress σ) : Prop where
  leave : ∀ progress word, (change progress).leave word = change (progress.leave word)
  see : ∀ progress opt setting,
    (change progress).see opt setting = change (progress.see opt setting)
  seeDefault : ∀ progress opt setting,
    (change progress).seeDefault opt setting = change (progress.seeDefault opt setting)
  chosen : ∀ progress, (change progress).chosen = progress.chosen

section Aside

variable {change : Progress σ → Progress σ} (aside : Progress.Aside change)
  (progress : Progress σ)

include aside

theorem flag_aside (opt : Opt σ) :
    (change progress).flag opt = (progress.flag opt).map change := by
  unfold Progress.flag
  split
  · rfl
  · rw [aside.see]
    rfl
  · rfl

theorem flags_aside (opts : List (Opt σ)) :
    (change progress).flags opts = (progress.flags opts).map change := by
  induction opts generalizing progress with
  | nil => rfl
  | cons opt rest ih =>
    simp only [Progress.flags, List.foldlM_cons] at ih ⊢
    rw [flag_aside aside]
    cases progress.flag opt with
    | error stop => rfl
    | ok middle => exact ih middle

theorem value_aside (opt : Opt σ) (text : Text) :
    (change progress).value opt text = (progress.value opt text).map change := by
  unfold Progress.value
  split
  · rfl
  · rfl
  · next setting _ =>
    split
    · rw [aside.seeDefault]
      rfl
    · have rival : (change progress).rival? opt = progress.rival? opt := by
        rw [Progress.rival?, Progress.rival?, aside.chosen]
      rw [rival]
      split
      · rfl
      · rw [aside.see]
        rfl

theorem finish_aside (tail : Tail σ) :
    finish (change progress) tail = (finish progress tail).map change := by
  cases tail with
  | done => rfl
  | value opt text => exact value_aside aside progress opt text
  | awaiting opt => rfl

theorem word_aside (flags : List (Opt σ)) (last : Progress σ → Except Stop (Progress σ))
    (later : ∀ progress, last (change progress) = (last progress).map change) :
    ((change progress).flags flags).bind last =
      ((progress.flags flags).bind last).map change := by
  rw [flags_aside aside]
  cases progress.flags flags with
  | error stop => rfl
  | ok middle => exact later middle

theorem flagsValue_aside (flags : List (Opt σ)) (needy : Opt σ) (text : Text) :
    ((change progress).flags flags).bind (·.value needy text) =
      ((progress.flags flags).bind (·.value needy text)).map change :=
  word_aside aside progress flags (·.value needy text)
    fun middle => value_aside aside middle needy text

theorem flagsFinish_aside (flags : List (Opt σ)) (tail : Tail σ) :
    ((change progress).flags flags).bind (finish · tail) =
      ((progress.flags flags).bind (finish · tail)).map change :=
  word_aside aside progress flags (finish · tail)
    fun middle => finish_aside aside middle tail

theorem consume_aside (opts : List (Opt σ)) (kinds : List (Text × Word σ)) :
    consume opts (change progress) kinds = (consume opts progress kinds).map change := by
  fun_induction consume opts progress kinds with
  | case1 => rfl
  | case2 progress word rest ih | case3 progress word rest ih =>
    rw [consume, aside.leave]
    exact ih
  | case4 progress word opt short attached rest error expanded =>
    simp [consume, expanded, Except.map]
  | case5 progress word opt short attached flags needy expanded text others stop refused =>
    simp [consume, expanded, flagsValue_aside aside, refused, Except.map]
  | case6 progress word opt short attached flags needy expanded text others next taken ih =>
    simp [consume, expanded, flagsValue_aside aside, taken, Except.map] at ih ⊢
    exact ih
  | case7 progress word opt short attached rest flags needy expanded noValue =>
    simp [consume, expanded, Except.map]
  | case8 progress word opt short attached rest flags tail ends expanded stop refused =>
    simp [consume, expanded, flagsFinish_aside aside, refused, Except.map]
  | case9 progress word opt short attached rest flags tail ends expanded next taken ih =>
    simp [consume, expanded, flagsFinish_aside aside, taken, Except.map] at ih ⊢
    exact ih

end Aside

theorem aside_behind (before : List σ) : Progress.Aside (Progress.behind before) where
  leave _ _ := rfl
  see _ _ _ := by simp [Progress.see, Progress.behind]
  seeDefault _ _ _ := by simp [Progress.seeDefault, Progress.behind]
  chosen _ := rfl

theorem result_behind (before : List σ) (progress : Progress σ) (opts : List (Opt σ)) :
    (progress.behind before).result opts = (progress.result opts).map (before ++ ·) := by
  have options : missing opts (progress.behind before).seen = missing opts progress.seen := rfl
  have words : (progress.behind before).extras = progress.extras := rfl
  unfold Progress.result
  rw [options, words]
  split <;> rfl

/-! A value that the first word brings along. -/

section Attached

variable {opts : List (Opt σ)} {opt : Opt σ} {name : Text}

theorem findNamed_foreign {word : Text} (foreign : ∀ opt ∈ opts, word ∉ opt.names) :
    findNamed? opts word = none := by
  unfold findNamed?
  rw [List.find?_eq_none]
  intro opt offered
  simpa using foreign opt offered

theorem classify_attached (found : findNamed? opts name = some opt) (dashed : name.head? = some '-')
    (plain : ∀ opt ∈ opts, ∀ name ∈ opt.names, '=' ∉ name) (text : Text) :
    classify opts (name ++ '=' :: text) = .ok (.option opt (isShortName name) (some text)) := by
  have named : name ∈ opt.names := by simpa using List.find?_some found
  have free : '=' ∉ name := plain opt (findNamed_mem found) name named
  have foreign : findNamed? opts (name ++ '=' :: text) = none :=
    findNamed_foreign fun opt offered whole => plain opt offered _ whole (by simp)
  obtain ⟨rest, rfl⟩ : ∃ rest, name = '-' :: rest := by
    cases name with
    | nil => cases dashed
    | cons c rest =>
      cases dashed
      exact ⟨rest, rfl⟩
  have long : ('-' :: rest ++ '=' :: text).length ≠ 1 := by simp
  unfold classify
  rw [foreign]
  dsimp only
  rw [if_neg (by simp), if_neg long, Text.cut_append free]
  dsimp only
  rw [found]

theorem attached_ne_endMark (name text : Text) : name ++ '=' :: text ≠ endMark := by
  intro same
  have sign : '=' ∈ endMark := same ▸ List.mem_append_right name List.mem_cons_self
  simp [endMark] at sign

theorem takesValue_of_readValue {text : Text} {setting : σ}
    (given : Progress.readValue opt text = .ok (some setting)) : opt.takesValue = true := by
  rw [Progress.readValue] at given
  rw [Opt.takesValue]
  generalize opt.takes = takes at given ⊢
  cases takes with
  | help | nothing => cases given
  | value | choice => rfl

theorem consume_attached {text : Text} {setting : σ}
    (given : Progress.readValue opt text = .ok (some setting)) (own : opt.isDefault text = false)
    (word : Text) (short : Bool) (kinds : List (Text × Word σ)) :
    consume opts {} ((word, .option opt short (some text)) :: kinds) =
      consume opts ((Progress.startedWith opt).behind [setting]) kinds := by
  have expanded : expand opts opt short (some text) = .ok ⟨[], .value opt text⟩ := by
    simp [expand, takesValue_of_readValue given]
  have taken : Progress.value {} opt text = .ok ((Progress.startedWith opt).behind [setting]) := by
    simp [Progress.value, given, own, Progress.rival?, Progress.see, Progress.startedWith,
      Progress.behind]
  rw [consume, expanded]
  simp [Progress.flags, Except.bind, finish, taken, pure, Except.pure]

/-- A command line that begins with a value for an option is read as the rest of it is, with what the
option says before all other settings. -/
theorem parse_attached (found : findNamed? opts name = some opt) (dashed : name.head? = some '-')
    (plain : ∀ opt ∈ opts, ∀ name ∈ opt.names, '=' ∉ name) {text : Text} {setting : σ}
    (given : Progress.readValue opt text = .ok (some setting)) (own : opt.isDefault text = false)
    (words : List Text) :
    parse opts ((name ++ '=' :: text) :: words) =
      (parseBehind opts (Progress.startedWith opt) words).map (setting :: ·) := by
  have noMark := attached_ne_endMark name text
  have first := classify_attached found dashed plain text
  unfold parse parseBehind
  cases others : classifyAll opts words with
  | error error => simp [classifyAll, noMark, first, others, bind, Except.bind, Except.map]
  | ok kinds =>
    have all : classifyAll opts ((name ++ '=' :: text) :: words) =
        .ok ((name ++ '=' :: text, .option opt (isShortName name) (some text)) :: kinds) := by
      simp [classifyAll, noMark, first, others, bind, Except.bind, pure, Except.pure]
    rw [all]
    dsimp only
    rw [consume_attached given own, consume_aside (aside_behind [setting])]
    cases consume opts (Progress.startedWith opt) kinds with
    | error stop => rfl
    | ok progress => exact result_behind [setting] progress opts

end Attached

end ServiceProbe.CommandLine
