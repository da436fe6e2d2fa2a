import ServiceProbe.Proofs.CommandLine
import ServiceProbe.Proofs.LineFeed
/-!
What an error of a command line tells. Options appear by what they are called in the offer; of the
words themselves only an ambiguous one and those that nobody asked for appear as they are.
-/
namespace ServiceProbe.CommandLine

variable {σ : Type}

/-- What an option is called in messages. -/
def Opt.texts (opt : Opt σ) : List Text :=
  opt.display :: opt.names ++
    match opt.takes with
    | .value _ kind _ _ => [kind]
    | _ => []

/-- A text that stands for an option that is offered. -/
def Named (opts : List (Opt σ)) (text : Text) : Prop := ∃ opt ∈ opts, text ∈ opt.texts

theorem named_display {opts : List (Opt σ)} {opt : Opt σ} (offered : opt ∈ opts) :
    Named opts opt.display := ⟨opt, offered, List.mem_cons_self⟩

namespace UsageError

/-- The texts of an error that stand for options. -/
def offered : UsageError → List Text
  | .ambiguous _ candidates => candidates
  | .expectedValue option => [option]
  | .ignoredValue option _ => [option]
  | .invalidValue option kind _ => [option, kind]
  | .invalidChoice option _ _ => [option]
  | .conflict option earlier => [option, earlier]
  | .missing options => options
  | .unrecognized _ => []

/-- The words that an error shows as they were given. -/
def verbatim : UsageError → List Text
  | .ambiguous given _ => [given]
  | .unrecognized words => words
  | _ => []

def Names (error : UsageError) (opts : List (Opt σ)) : Prop := ∀ text ∈ error.offered, Named opts text

end UsageError

theorem classifyInexact_names {opts : List (Opt σ)} {word : Text} {error : UsageError}
    (refused : classifyInexact opts word = .error error) : error.Names opts := by
  unfold classifyInexact at refused
  dsimp only at refused
  split at refused
  · split at refused <;> cases refused
  · split at refused
    · cases refused
    · cases refused
    · -- Several options begin like the word; the error names them all.
      cases refused
      intro text member
      simp only [UsageError.offered, List.mem_map, Prod.exists] at member
      obtain ⟨name, opt, candidate, rfl⟩ := member
      simp only [longCandidates, namesOf, List.mem_filter, List.mem_flatMap, List.mem_map]
        at candidate
      obtain ⟨⟨owner, offered, called, known, same⟩, _⟩ := candidate
      cases same
      exact ⟨opt, offered, List.mem_cons_of_mem _ (List.mem_append_left _ known)⟩

theorem classify_names {opts : List (Opt σ)} {word : Text} {error : UsageError}
    (refused : classify opts word = .error error) : error.Names opts := by
  unfold classify at refused
  split at refused
  · cases refused
  split at refused
  · cases refused
  split at refused
  · cases refused
  split at refused
  · split at refused
    · cases refused
    · exact classifyInexact_names refused
  · exact classifyInexact_names refused

theorem classifyAll_names {opts : List (Opt σ)} {words : List Text} {error : UsageError}
    (refused : classifyAll opts words = .error error) : error.Names opts := by
  induction words with
  | nil => cases refused
  | cons word rest ih =>
    by_cases mark : word = endMark
    · simp [classifyAll, mark] at refused
    simp only [classifyAll, mark, ↓reduceIte] at refused
    rcases Outcome.bind_error refused with first | ⟨kind, _, refused⟩
    · exact classify_names first
    rcases Outcome.bind_error refused with others | ⟨kinds, _, refused⟩
    · exact ih others
    · cases refused

theorem expandJoined_names {opts : List (Opt σ)} {opt : Opt σ} {text : Text} {error : UsageError}
    (offered : opt ∈ opts) (refused : expandJoined opts opt text = .error error) :
    error.Names opts := by
  induction text generalizing opt error with
  | nil =>
    cases refused
    simpa [UsageError.Names, UsageError.offered] using named_display offered
  | cons c rest ih =>
    unfold expandJoined at refused
    split at refused
    · cases refused
      simpa [UsageError.Names, UsageError.offered] using named_display offered
    · cases refused
    · next next d others found =>
      split at refused
      · cases refused
      · exact ih (findNamed_mem found) (Outcome.map_error refused)

theorem expand_names {opts : List (Opt σ)} {opt : Opt σ} {short : Bool} {attached : Option Text}
    {error : UsageError} (offered : opt ∈ opts)
    (refused : expand opts opt short attached = .error error) : error.Names opts := by
  unfold expand at refused
  split at refused
  · cases refused
  split at refused
  · cases refused
  split at refused
  · exact expandJoined_names offered refused
  · cases refused
    simpa [UsageError.Names, UsageError.offered] using named_display offered

namespace Progress

/-- The exclusive option that was given is one that is offered. -/
def ChoseNamed (opts : List (Opt σ)) (progress : Progress σ) : Prop :=
  ∀ text ∈ progress.chosen, Named opts text

theorem choseNamed_see {opts : List (Opt σ)} {opt : Opt σ} {progress : Progress σ}
    (chose : progress.ChoseNamed opts) (offered : opt ∈ opts) (setting : σ) :
    (progress.see opt setting).ChoseNamed opts := by
  intro text member
  simp only [see] at member
  split at member
  · cases member
    exact named_display offered
  · exact chose text member

theorem readValue_names {opts : List (Opt σ)} {opt : Opt σ} {text : Text} {error : UsageError}
    (offered : opt ∈ opts) (refused : readValue opt text = .error error) : error.Names opts := by
  unfold readValue at refused
  split at refused
  · next placeholder kind read void takes =>
    split at refused
    · cases refused
    split at refused
    · cases refused
    · cases refused
      have kindNamed : Named opts kind := ⟨opt, offered, by simp [Opt.texts, takes]⟩
      simpa [UsageError.Names, UsageError.offered] using ⟨named_display offered, kindNamed⟩
  · split at refused
    · cases refused
    split at refused
    · cases refused
    · cases refused
      simpa [UsageError.Names, UsageError.offered] using named_display offered
  · cases refused

theorem value_names {opts : List (Opt σ)} {opt : Opt σ} {text : Text} {progress : Progress σ}
    {error : UsageError} (chose : progress.ChoseNamed opts) (offered : opt ∈ opts)
    (refused : progress.value opt text = .error (.usage error)) : error.Names opts := by
  unfold value at refused
  split at refused
  · next found =>
    cases refused
    exact readValue_names offered found
  · cases refused
  · split at refused
    · cases refused
    split at refused
    · next rival found =>
      cases refused
      have given : rival ∈ progress.chosen := by
        unfold rival? at found
        split at found
        · exact (Option.filter_eq_some_iff.mp found).1
        · cases found
      simpa [UsageError.Names, UsageError.offered] using ⟨named_display offered, chose rival given⟩
    · cases refused

theorem value_choseNamed {opts : List (Opt σ)} {opt : Opt σ} {text : Text}
    {before after : Progress σ} (chose : before.ChoseNamed opts) (offered : opt ∈ opts)
    (read : before.value opt text = .ok after) : after.ChoseNamed opts := by
  unfold value at read
  split at read
  · cases read
  · cases read
    exact chose
  · split at read
    · cases read
      exact chose
    split at read
    · cases read
    · cases read
      exact choseNamed_see chose offered _

theorem flag_choseNamed {opts : List (Opt σ)} {opt : Opt σ} {before after : Progress σ}
    (chose : before.ChoseNamed opts) (offered : opt ∈ opts) (read : before.flag opt = .ok after) :
    after.ChoseNamed opts := by
  unfold flag at read
  split at read
  · cases read
  · cases read
    exact choseNamed_see chose offered _
  · cases read
    exact chose

theorem flag_error {opt : Opt σ} {progress : Progress σ} {stop : Stop}
    (refused : progress.flag opt = .error stop) : stop = .help := by
  unfold flag at refused
  split at refused <;> cases refused
  rfl

theorem flags_choseNamed {opts flags : List (Opt σ)} {before after : Progress σ}
    (chose : before.ChoseNamed opts) (offered : ∀ opt ∈ flags, opt ∈ opts)
    (read : before.flags flags = .ok after) : after.ChoseNamed opts := by
  induction flags generalizing before with
  | nil =>
    cases read
    exact chose
  | cons opt rest ih =>
    simp only [Progress.flags, List.foldlM_cons] at read
    obtain ⟨middle, first, read⟩ := Outcome.bind_ok read
    exact ih (flag_choseNamed chose (offered opt (by simp)) first)
      (fun opt member => offered opt (by simp [member])) read

theorem flags_error {flags : List (Opt σ)} {progress : Progress σ} {stop : Stop}
    (refused : progress.flags flags = .error stop) : stop = .help := by
  induction flags generalizing progress with
  | nil => cases refused
  | cons opt rest ih =>
    simp only [Progress.flags, List.foldlM_cons] at refused
    rcases Outcome.bind_error refused with first | ⟨middle, _, refused⟩
    · exact flag_error first
    · exact ih refused

end Progress

theorem finish_names {opts : List (Opt σ)} {tail : Tail σ} {progress : Progress σ}
    {error : UsageError} (chose : progress.ChoseNamed opts) (within : tail.Within opts)
    (refused : finish progress tail = .error (.usage error)) : error.Names opts := by
  cases tail with
  | done => cases refused
  | value opt text => exact Progress.value_names chose within refused
  | awaiting opt =>
    cases refused
    simpa [UsageError.Names, UsageError.offered] using named_display within

theorem finish_choseNamed {opts : List (Opt σ)} {tail : Tail σ} {before after : Progress σ}
    (chose : before.ChoseNamed opts) (within : tail.Within opts)
    (read : finish before tail = .ok after) : after.ChoseNamed opts := by
  cases tail with
  | done =>
    cases read
    exact chose
  | value opt text => exact Progress.value_choseNamed chose within read
  | awaiting opt => cases read

theorem word_names {opts flags : List (Opt σ)} {progress : Progress σ}
    {last : Progress σ → Except Stop (Progress σ)} {error : UsageError}
    (chose : progress.ChoseNamed opts) (offered : ∀ opt ∈ flags, opt ∈ opts)
    (ends : ∀ {middle : Progress σ}, middle.ChoseNamed opts → last middle = .error (.usage error) →
      error.Names opts)
    (refused : (progress.flags flags).bind last = .error (.usage error)) : error.Names opts := by
  rcases Outcome.bind_error refused with early | ⟨middle, passed, late⟩
  · -- Options without a value are never refused; one of them may ask for help.
    cases Progress.flags_error early
  · exact ends (Progress.flags_choseNamed chose offered passed) late

theorem word_choseNamed {opts flags : List (Opt σ)} {before after : Progress σ}
    {last : Progress σ → Except Stop (Progress σ)} (chose : before.ChoseNamed opts)
    (offered : ∀ opt ∈ flags, opt ∈ opts)
    (ends : ∀ {middle : Progress σ}, middle.ChoseNamed opts → last middle = .ok after →
      after.ChoseNamed opts)
    (read : (before.flags flags).bind last = .ok after) : after.ChoseNamed opts := by
  obtain ⟨middle, passed, late⟩ := Outcome.bind_ok read
  exact ends (Progress.flags_choseNamed chose offered passed) late

theorem consume_names {opts : List (Opt σ)} {progress : Progress σ} {kinds : List (Text × Word σ)}
    {error : UsageError} (within : ∀ entry ∈ kinds, entry.2.Within opts)
    (chose : progress.ChoseNamed opts)
    (refused : consume opts progress kinds = .error (.usage error)) : error.Names opts := by
  -- A later conflict names the exclusive option that was given first, so that it has to be kept in
  -- mind that this one was offered.
  fun_induction consume opts progress kinds with
  | case1 progress => cases refused
  | case2 progress word rest ih | case3 progress word rest ih =>
    exact ih (fun entry member => within entry (by simp [member])) chose refused
  | case4 progress word opt short attached rest failure expanded =>
    cases refused
    exact expand_names (within _ List.mem_cons_self) expanded
  | case5 progress word opt short attached flags needy expanded text others stop taken =>
    cases refused
    have expansion := expand_within (within _ List.mem_cons_self) expanded
    exact word_names chose expansion.flags
      (fun chose => Progress.value_names chose expansion.tail) taken
  | case6 progress word opt short attached flags needy expanded text others next taken ih =>
    have expansion := expand_within (within _ List.mem_cons_self) expanded
    have choseNext := word_choseNamed chose expansion.flags
      (fun chose => Progress.value_choseNamed chose expansion.tail) taken
    exact ih (fun entry member => within entry (by simp [member])) choseNext refused
  | case7 progress word opt short attached rest flags needy expanded =>
    cases refused
    have expansion := expand_within (within _ List.mem_cons_self) expanded
    simpa [UsageError.Names, UsageError.offered] using named_display expansion.tail
  | case8 progress word opt short attached rest flags tail ends expanded stop taken =>
    cases refused
    have expansion := expand_within (within _ List.mem_cons_self) expanded
    exact word_names chose expansion.flags
      (fun chose => finish_names chose expansion.tail) taken
  | case9 progress word opt short attached rest flags tail ends expanded next taken ih =>
    have expansion := expand_within (within _ List.mem_cons_self) expanded
    have choseNext := word_choseNamed chose expansion.flags
      (fun chose => finish_choseNamed chose expansion.tail) taken
    exact ih (fun entry member => within entry (by simp [member])) choseNext refused

/-- An error of a command line names options only by what they are called in the offer. -/
theorem parse_names {opts : List (Opt σ)} {words : List Text} {error : UsageError}
    (refused : parse opts words = .error (.usage error)) : error.Names opts := by
  unfold parse at refused
  split at refused
  · next classified =>
    cases refused
    exact classifyAll_names classified
  · next kinds classified =>
    have initial : ({} : Progress σ).ChoseNamed opts := by
      intro text member
      cases member
    split at refused
    · next consumed =>
      cases refused
      exact consume_names (classifyAll_within classified) initial consumed
    · split at refused
      · cases refused
      · -- Words that are left over are shown as they are and stand for no option.
        cases refused
        intro text member
        cases member
      · cases refused
        intro text member
        simp only [UsageError.offered, missing, List.mem_map, List.mem_filter] at member
        obtain ⟨opt, ⟨offered, _⟩, rfl⟩ := member
        exact named_display offered

/-! Line feeds. -/

namespace UsageError

theorem newline_mem_commas {texts : List Text} :
    '\n' ∈ commas texts ↔ ∃ text ∈ texts, '\n' ∈ text := by
  have comma : '\n' ∉ (", " : Text) := by decide
  exact Text.mem_intercalate comma

theorem newline_mem_about {option message : Text} (plain : '\n' ∉ option) :
    '\n' ∈ about option message ↔ '\n' ∈ message := by
  unfold about
  simp [plain]

theorem newline_mem_message {error : UsageError} (plain : ∀ text ∈ error.offered, '\n' ∉ text) :
    '\n' ∈ error.message ↔ ∃ text ∈ error.verbatim, '\n' ∈ text := by
  unfold message
  -- Per message: what it takes from the words is named, all the rest is offered by the program and
  -- plain.
  cases error with
  | ambiguous given candidates =>
    have others : '\n' ∉ commas candidates := by
      rw [newline_mem_commas]
      rintro ⟨text, member, broken⟩
      exact plain text member broken
    simp [verbatim, others]
  | expectedValue option =>
    rw [newline_mem_about (plain option (by simp [offered]))]
    simp [verbatim]
  | ignoredValue option value =>
    rw [newline_mem_about (plain option (by simp [offered]))]
    simp [verbatim]
  | invalidValue option kind value =>
    have kindPlain : '\n' ∉ kind := plain kind (by simp [offered])
    rw [newline_mem_about (plain option (by simp [offered]))]
    simp [verbatim, kindPlain]
  | invalidChoice option value alternatives =>
    have quoted : '\n' ∉ commas (alternatives.map Text.quoted) := by
      simp [newline_mem_commas]
    rw [newline_mem_about (plain option (by simp [offered]))]
    simp [verbatim, quoted]
  | conflict option earlier =>
    have earlierPlain : '\n' ∉ earlier := plain earlier (by simp [offered])
    rw [newline_mem_about (plain option (by simp [offered]))]
    simp [verbatim, earlierPlain]
  | missing options =>
    have optionsPlain : '\n' ∉ commas options := by
      rw [newline_mem_commas]
      rintro ⟨text, member, broken⟩
      exact plain text member broken
    simp [verbatim, optionsPlain]
  | unrecognized words =>
    have blank : '\n' ∉ [' '] := by simp
    simp [verbatim, Text.mem_intercalate blank]

end UsageError
end ServiceProbe.CommandLine
