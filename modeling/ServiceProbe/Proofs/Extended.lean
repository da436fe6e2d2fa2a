import ServiceProbe.Proofs.Attached
/-!
A command line with one more option, in front of all others or behind them. It says what it said before,
and what the option says.
-/
namespace ServiceProbe.CommandLine

variable {σ : Type} {opts : List (Opt σ)} {words : List Text} {settings : List σ}

/-- The more was seen, the less is missing. -/
theorem missing_mono {seen more : List Text} (seenToo : seen ⊆ more)
    (complete : missing opts seen = []) : missing opts more = [] := by
  simp only [missing, List.map_eq_nil_iff, List.filter_eq_nil_iff, Bool.and_eq_true,
    Bool.not_eq_true', not_and, Bool.not_eq_false, List.contains_iff_mem] at complete ⊢
  intro opt offered required
  exact seenToo (complete opt offered required)

/-! An option in front that takes nothing. -/

/-- A progress that has seen some options before its own. -/
def Progress.aware (seen : List Text) (progress : Progress σ) : Progress σ :=
  { progress with seen := seen ++ progress.seen }

theorem aside_aware (seen : List Text) : Progress.Aside (σ := σ) (Progress.aware seen) where
  leave _ _ := rfl
  see _ _ _ := by simp [Progress.see, Progress.aware]
  seeDefault _ _ _ := by simp [Progress.seeDefault, Progress.aware]
  chosen _ := rfl

section Flag

variable {opt : Opt σ} {name : Text} {setting : σ}

theorem consume_flag_first (takes : opt.takes = .nothing setting) (free : opt.exclusive = false)
    (word : Text) (short : Bool) (kinds : List (Text × Word σ)) :
    consume opts {} ((word, .option opt short none) :: kinds) =
      (consume opts {} kinds).map fun progress =>
        (progress.aware [opt.display]).behind [setting] := by
  have single : expand opts opt short none = .ok ⟨[opt], .done⟩ := by
    simp [expand, alone, Opt.takesValue, takes]
  have begun : Progress.flags {} [opt] =
      .ok ((Progress.aware [opt.display] {}).behind [setting]) := by
    simp [Progress.flags, Progress.flag, takes, Progress.see, free, Progress.aware, Progress.behind,
      pure, Except.pure, bind, Except.bind]
  rw [consume, single]
  simp only [begun, Except.bind, finish]
  rw [consume_aside (aside_behind [setting]), consume_aside (aside_aware [opt.display])]
  cases consume opts {} kinds <;> rfl

theorem parse_flag_first (found : findNamed? opts name = some opt) (dashed : name.head? = some '-')
    (word : name ≠ endMark) (takes : opt.takes = .nothing setting) (free : opt.exclusive = false)
    (accepted : parse opts words = .ok settings) :
    parse opts (name :: words) = .ok (setting :: settings) := by
  obtain ⟨kinds, progress, classified, consumed, complete, nothingLeft, rfl⟩ :=
    parse_iff.mp accepted
  have first := classify_named dashed found
  have all : classifyAll opts (name :: words) =
      .ok ((name, .option opt (isShortName name) none) :: kinds) := by
    simp [classifyAll, word, first, classified, bind, Except.bind, pure, Except.pure]
  have read : consume opts {} ((name, .option opt (isShortName name) none) :: kinds) =
      .ok ((progress.aware [opt.display]).behind [setting]) := by
    rw [consume_flag_first takes free, consumed]
    rfl
  have seenAll := missing_mono (List.subset_append_right [opt.display] progress.seen) complete
  exact parse_iff.mpr ⟨_, _, all, read, seenAll, nothingLeft, rfl⟩

theorem parse_eq (opts : List (Opt σ)) (words : List Text) :
    parse opts words = parseBehind opts {} words := by
  unfold parse parseBehind
  cases classifyAll opts words with
  | error error => rfl
  | ok kinds =>
    dsimp only
    cases consume opts {} kinds <;> rfl

section Optional

variable (optional : ∀ other ∈ opts, other.required = true → other.display ≠ opt.display)

include optional

/-- What is missing does not depend on an option that may be missing. -/
theorem missing_cons (seen : List Text) :
    missing opts (opt.display :: seen) = missing opts seen := by
  have same : ∀ other ∈ opts,
      (other.required && !(opt.display :: seen).contains other.display) =
        (other.required && !seen.contains other.display) := by
    intro other offered
    by_cases required : other.required = true
    · simp [optional other offered required]
    · simp [required]
  rw [missing, missing, List.filter_congr same]

theorem result_aware (progress : Progress σ) :
    (progress.aware [opt.display]).result opts = progress.result opts := by
  have complete : missing opts (progress.aware [opt.display]).seen = missing opts progress.seen :=
    missing_cons optional progress.seen
  unfold Progress.result
  rw [complete]
  rfl

/-- An option that may be missing adds what it says and nothing else, also to a command line that
cannot be read. -/
theorem parse_optional_first (found : findNamed? opts name = some opt)
    (dashed : name.head? = some '-') (word : name ≠ endMark) (takes : opt.takes = .nothing setting)
    (free : opt.exclusive = false) (words : List Text) :
    parse opts (name :: words) = (parse opts words).map (setting :: ·) := by
  have first := classify_named dashed found
  rw [parse_eq, parse_eq, parseBehind, parseBehind]
  cases classified : classifyAll opts words with
  | error error => simp [classifyAll, word, first, classified, bind, Except.bind, Except.map]
  | ok kinds =>
    have all : classifyAll opts (name :: words) =
        .ok ((name, .option opt (isShortName name) none) :: kinds) := by
      simp [classifyAll, word, first, classified, bind, Except.bind, pure, Except.pure]
    rw [all]
    dsimp only
    rw [consume_flag_first takes free]
    cases consume opts {} kinds with
    | error stop => rfl
    | ok progress =>
      show ((progress.aware [opt.display]).behind [setting]).result opts = _
      rw [result_behind, result_aware optional]
      rfl

end Optional

end Flag

/-! An option at the end that brings its value along. -/

theorem classifyAll_append {more : List Text} {kinds others : List (Text × Word σ)}
    (endless : endMark ∉ words) (classified : classifyAll opts words = .ok kinds)
    (later : classifyAll opts more = .ok others) :
    classifyAll opts (words ++ more) = .ok (kinds ++ others) := by
  induction words generalizing kinds with
  | nil =>
    cases classified
    exact later
  | cons word words ih =>
    simp only [List.mem_cons, not_or] at endless
    obtain ⟨kind, rest, first, behind, rfl⟩ := classifyAll_cons (Ne.symm endless.1) classified
    simp [classifyAll, Ne.symm endless.1, first, ih endless.2 behind, bind, Except.bind, pure, Except.pure]

theorem consume_append {before after : Progress σ} {kinds : List (Text × Word σ)}
    (consumed : consume opts before kinds = .ok after) (more : List (Text × Word σ)) :
    consume opts before (kinds ++ more) = consume opts after more := by
  fun_induction consume opts before kinds with
  | case1 progress =>
    cases consumed
    rfl
  | case2 progress word rest ih | case3 progress word rest ih =>
    rw [List.cons_append, consume]
    exact ih consumed
  | case4 | case5 | case7 | case8 => cases consumed
  | case6 progress word opt short attached flags needy expanded text others next taken ih =>
    rw [List.cons_append, List.cons_append, consume, expanded]
    simp only [taken]
    exact ih consumed
  | case9 progress word opt short attached rest flags tail ends expanded next taken ih =>
    simp only [List.cons_append, consume, expanded, taken]
    exact ih consumed

section Attached

variable {opt : Opt σ} {name text : Text} {setting : σ}

theorem consume_attached_last (given : Progress.readValue opt text = .ok (some setting))
    (own : opt.isDefault text = false) (free : opt.exclusive = false) (word : Text) (short : Bool)
    (progress : Progress σ) :
    consume opts progress [(word, .option opt short (some text))] =
      .ok (progress.see opt setting) := by
  have expanded : expand opts opt short (some text) = .ok ⟨[], .value opt text⟩ := by
    simp [expand, takesValue_of_readValue given]
  have taken : progress.value opt text = .ok (progress.see opt setting) := by
    simp [Progress.value, given, own, Progress.rival?, free]
  rw [consume, expanded]
  simp [Progress.flags, Except.bind, finish, taken, pure, Except.pure, consume]

/-- An option at the end is read when all else is. -/
theorem parse_attached_last (found : findNamed? opts name = some opt)
    (dashed : name.head? = some '-') (plain : ∀ opt ∈ opts, ∀ name ∈ opt.names, '=' ∉ name)
    (given : Progress.readValue opt text = .ok (some setting)) (own : opt.isDefault text = false)
    (free : opt.exclusive = false) (accepted : parse opts words = .ok settings) :
    parse opts (words ++ [name ++ '=' :: text]) = .ok (settings ++ [setting]) := by
  obtain ⟨kinds, progress, classified, consumed, complete, nothingLeft, rfl⟩ :=
    parse_iff.mp accepted
  have last : classifyAll opts [name ++ '=' :: text] =
      .ok [(name ++ '=' :: text, .option opt (isShortName name) (some text))] := by
    simp [classifyAll, attached_ne_endMark, classify_attached found dashed plain text, bind,
      Except.bind, pure, Except.pure]
  have all := classifyAll_append (endMark_not_mem accepted) classified last
  have read := consume_append consumed
    [(name ++ '=' :: text, .option opt (isShortName name) (some text))]
  rw [consume_attached_last given own free] at read
  have seenAll := missing_mono (List.subset_append_left progress.seen [opt.display]) complete
  exact parse_iff.mpr ⟨_, _, all, read, seenAll, nothingLeft, rfl⟩

end Attached
end ServiceProbe.CommandLine
