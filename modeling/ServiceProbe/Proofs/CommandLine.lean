import ServiceProbe.CommandLine.Parse
import ServiceProbe.Proofs.Outcome
/-!
What an accepted command line says. Every setting comes from an option that is offered, a word that
names an option without a value always takes effect, and no word is passed over.
-/
namespace ServiceProbe.CommandLine

variable {σ : Type}

/-- What an option may say when it is given. -/
def Opt.Yields (opt : Opt σ) (setting : σ) : Prop :=
  match opt.takes with
  | .help => False
  | .nothing own => setting = own
  | .value _ _ read void => setting = void ∨ ∃ text, read text = some setting
  | .choice alternatives void => setting = void ∨ ∃ name, (name, setting) ∈ alternatives

/-! Where the options come from that a word stands for. -/

def Word.Within (opts : List (Opt σ)) : Word σ → Prop
  | .option opt _ _ => opt ∈ opts
  | _ => True

def Tail.Within (opts : List (Opt σ)) : Tail σ → Prop
  | .done => True
  | .value opt _ => opt ∈ opts
  | .awaiting opt => opt ∈ opts

structure Expansion.Within (opts : List (Opt σ)) (expansion : Expansion σ) : Prop where
  flags : ∀ opt ∈ expansion.flags, opt ∈ opts
  tail : expansion.tail.Within opts

theorem findNamed_mem {opts : List (Opt σ)} {name : Text} {opt : Opt σ}
    (found : findNamed? opts name = some opt) : opt ∈ opts :=
  List.mem_of_find?_eq_some found

theorem longCandidates_mem {opts : List (Opt σ)} {stem name : Text} {opt : Opt σ}
    (candidate : (name, opt) ∈ longCandidates opts stem) : opt ∈ opts := by
  simp only [longCandidates, namesOf, List.mem_filter, List.mem_flatMap, List.mem_map] at candidate
  obtain ⟨⟨owner, member, _, _, same⟩, _⟩ := candidate
  cases same
  exact member

theorem classifyInexact_within {opts : List (Opt σ)} {word : Text} {kind : Word σ}
    (read : classifyInexact opts word = .ok kind) : kind.Within opts := by
  have plainOrUnknown : (if looksNegative word || word.contains ' ' then Word.plain
      else Word.unknown : Word σ).Within opts := by split <;> trivial
  unfold classifyInexact at read
  dsimp only at read
  split at read
  · split at read
    · next opt found =>
      cases read
      exact findNamed_mem found
    · cases read
      exact plainOrUnknown
  · split at read
    · cases read
      exact plainOrUnknown
    · next name opt candidates =>
      cases read
      have candidate : (name, opt) ∈ [(name, opt)] := List.mem_singleton_self _
      rw [← candidates] at candidate
      exact longCandidates_mem candidate
    · cases read

theorem classify_within {opts : List (Opt σ)} {word : Text} {kind : Word σ}
    (read : classify opts word = .ok kind) : kind.Within opts := by
  unfold classify at read
  split at read
  · cases read
    trivial
  split at read
  · next opt found =>
    cases read
    exact findNamed_mem found
  split at read
  · cases read
    trivial
  split at read
  · split at read
    · next opt found =>
      cases read
      exact findNamed_mem found
    · exact classifyInexact_within read
  · exact classifyInexact_within read

theorem classifyAll_cons {opts : List (Opt σ)} {word : Text} {rest : List Text}
    {kinds : List (Text × Word σ)} (options : word ≠ endMark)
    (read : classifyAll opts (word :: rest) = .ok kinds) :
    ∃ kind later, classify opts word = .ok kind ∧ classifyAll opts rest = .ok later ∧
      kinds = (word, kind) :: later := by
  simp only [classifyAll, options, ↓reduceIte] at read
  obtain ⟨kind, first, read⟩ := Outcome.bind_ok read
  obtain ⟨later, others, read⟩ := Outcome.bind_ok read
  cases read
  exact ⟨kind, later, first, others, rfl⟩

theorem classifyAll_within {opts : List (Opt σ)} {words : List Text}
    {kinds : List (Text × Word σ)} (read : classifyAll opts words = .ok kinds) :
    ∀ entry ∈ kinds, entry.2.Within opts := by
  induction words generalizing kinds with
  | nil =>
    cases read
    simp
  | cons word rest ih =>
    by_cases ends : word = endMark
    · simp only [classifyAll, ends, ↓reduceIte, Except.ok.injEq] at read
      subst kinds
      simp [Word.Within]
    · obtain ⟨kind, later, first, others, rfl⟩ := classifyAll_cons ends read
      intro entry member
      rcases List.mem_cons.mp member with rfl | member
      · exact classify_within first
      · exact ih others entry member

theorem alone_within {opts : List (Opt σ)} {opt : Opt σ} (offered : opt ∈ opts) :
    (alone opt).Within opts := by
  unfold alone
  split
  · exact ⟨by simp, offered⟩
  · exact ⟨by simpa using offered, trivial⟩

theorem after_within {opts : List (Opt σ)} {opt : Opt σ} {expansion : Expansion σ}
    (offered : opt ∈ opts) (within : expansion.Within opts) : (expansion.after opt).Within opts :=
  ⟨by simpa [Expansion.after, offered] using within.flags, within.tail⟩

theorem expandJoined_within {opts : List (Opt σ)} {opt : Opt σ} {text : Text}
    {expansion : Expansion σ} (offered : opt ∈ opts)
    (read : expandJoined opts opt text = .ok expansion) : expansion.Within opts := by
  induction text generalizing opt expansion with
  | nil => cases read
  | cons c rest ih =>
    unfold expandJoined at read
    split at read
    · cases read
    · next next found =>
      cases read
      exact after_within offered (alone_within (findNamed_mem found))
    · next next d others found =>
      split at read
      · cases read
        exact ⟨by simpa using offered, findNamed_mem found⟩
      · obtain ⟨joined, later, rfl⟩ := Outcome.map_ok read
        exact after_within offered (ih (findNamed_mem found) later)

theorem expand_within {opts : List (Opt σ)} {opt : Opt σ} {short : Bool} {attached : Option Text}
    {expansion : Expansion σ} (offered : opt ∈ opts)
    (read : expand opts opt short attached = .ok expansion) : expansion.Within opts := by
  unfold expand at read
  split at read
  · cases read
    exact alone_within offered
  split at read
  · cases read
    exact ⟨by simp, offered⟩
  split at read
  · exact expandJoined_within offered read
  · cases read

/-! One step of reading. Settings are only ever added, and each one is what an option says. -/

structure Progress.Extends (opts : List (Opt σ)) (before after : Progress σ) : Prop where
  settings : ∃ added, after.settings = before.settings ++ added ∧
    ∀ setting ∈ added, ∃ opt ∈ opts, opt.Yields setting
  extras : before.extras ⊆ after.extras

namespace Progress

theorem extends_refl (opts : List (Opt σ)) (progress : Progress σ) :
    progress.Extends opts progress :=
  ⟨⟨[], by simp⟩, by simp⟩

theorem extends_trans {opts : List (Opt σ)} {a b c : Progress σ} (first : a.Extends opts b)
    (second : b.Extends opts c) : a.Extends opts c := by
  obtain ⟨early, early_eq, early_yields⟩ := first.settings
  obtain ⟨late, late_eq, late_yields⟩ := second.settings
  refine ⟨⟨early ++ late, by simp [late_eq, early_eq], ?_⟩,
    fun word member => second.extras (first.extras member)⟩
  intro setting member
  rcases List.mem_append.mp member with member | member
  · exact early_yields setting member
  · exact late_yields setting member

theorem extends_mem {opts : List (Opt σ)} {before after : Progress σ}
    (grows : before.Extends opts after) {setting : σ} (member : setting ∈ before.settings) :
    setting ∈ after.settings := by
  obtain ⟨added, same, _⟩ := grows.settings
  rw [same]
  exact List.mem_append_left added member

theorem extends_leave (opts : List (Opt σ)) (progress : Progress σ) (word : Text) :
    progress.Extends opts (progress.leave word) :=
  ⟨⟨[], by simp [leave]⟩, by simp [leave]⟩

theorem extends_see {opts : List (Opt σ)} {opt : Opt σ} {setting : σ} (offered : opt ∈ opts)
    (yields : opt.Yields setting) (progress : Progress σ) :
    progress.Extends opts (progress.see opt setting) :=
  ⟨⟨[setting], rfl, by simpa using ⟨opt, offered, yields⟩⟩, by simp [see]⟩

theorem flag_extends {opts : List (Opt σ)} {opt : Opt σ} {before after : Progress σ}
    (offered : opt ∈ opts) (read : before.flag opt = .ok after) : before.Extends opts after := by
  unfold flag at read
  split at read
  · cases read
  · next setting takes =>
    cases read
    exact extends_see offered (by simp [Opt.Yields, takes]) before
  · cases read
    exact extends_refl opts before

theorem flags_extends {opts flags : List (Opt σ)} {before after : Progress σ}
    (offered : ∀ opt ∈ flags, opt ∈ opts) (read : before.flags flags = .ok after) :
    before.Extends opts after := by
  induction flags generalizing before with
  | nil =>
    cases read
    exact extends_refl opts _
  | cons opt rest ih =>
    simp only [Progress.flags, List.foldlM_cons] at read
    obtain ⟨middle, first, read⟩ := Outcome.bind_ok read
    exact extends_trans (flag_extends (offered opt (by simp)) first)
      (ih (fun opt member => offered opt (by simp [member])) read)

theorem readValue_yields {opt : Opt σ} {text : Text} {setting : σ}
    (read : readValue opt text = .ok (some setting)) : opt.Yields setting := by
  unfold readValue at read
  unfold Opt.Yields
  split at read
  · next takes =>
    simp only [takes]
    split at read
    · cases read
      exact Or.inl rfl
    split at read
    · next given =>
      cases read
      exact Or.inr ⟨text, given⟩
    · cases read
  · next takes =>
    simp only [takes]
    split at read
    · cases read
      exact Or.inl rfl
    split at read
    · next name _ found =>
      cases read
      exact Or.inr ⟨name, List.mem_of_find?_eq_some found⟩
    · cases read
  · cases read

theorem value_extends {opts : List (Opt σ)} {opt : Opt σ} {text : Text}
    {before after : Progress σ} (offered : opt ∈ opts)
    (read : before.value opt text = .ok after) : before.Extends opts after := by
  unfold value at read
  split at read
  · cases read
  · cases read
    exact extends_refl opts _
  · next setting given =>
    have yields := readValue_yields given
    split at read
    · cases read
      exact ⟨⟨[setting], rfl, by simpa using ⟨opt, offered, yields⟩⟩, by simp [seeDefault]⟩
    split at read
    · cases read
    · cases read
      exact extends_see offered yields before

end Progress

theorem finish_extends {opts : List (Opt σ)} {tail : Tail σ} {before after : Progress σ}
    (within : tail.Within opts) (read : finish before tail = .ok after) :
    before.Extends opts after := by
  cases tail with
  | done =>
    cases read
    exact Progress.extends_refl opts before
  | value opt text => exact Progress.value_extends within read
  | awaiting opt => cases read

/-- The options of one word, followed by what its last one does. -/
theorem word_extends {opts flags : List (Opt σ)} {before after : Progress σ}
    {last : Progress σ → Except Stop (Progress σ)} (offered : ∀ opt ∈ flags, opt ∈ opts)
    (ends : ∀ {middle}, last middle = .ok after → middle.Extends opts after)
    (read : (before.flags flags).bind last = .ok after) :
    ∃ middle, before.flags flags = .ok middle ∧ before.Extends opts middle ∧
      middle.Extends opts after := by
  cases first : before.flags flags with
  | error stop => simp [first, Except.bind] at read
  | ok middle =>
    simp only [first, Except.bind] at read
    exact ⟨middle, rfl, Progress.flags_extends offered first, ends read⟩

/-! All words. The induction follows the reading of one word after the other. -/

theorem consume_extends {opts : List (Opt σ)} {before after : Progress σ}
    {kinds : List (Text × Word σ)} (within : ∀ entry ∈ kinds, entry.2.Within opts)
    (read : consume opts before kinds = .ok after) : before.Extends opts after := by
  -- Four of the cases refuse a word. In two the word is left, and in two an option is taken, with the
  -- next word as its value or alone.
  fun_induction consume opts before kinds with
  | case1 progress =>
    cases read
    exact Progress.extends_refl opts _
  | case2 progress word rest ih | case3 progress word rest ih =>
    exact Progress.extends_trans (Progress.extends_leave opts progress word)
      (ih (fun entry member => within entry (by simp [member])) read)
  | case4 | case5 | case7 | case8 => cases read
  | case6 progress word opt short attached flags needy expanded text others next taken ih =>
    have expansion := expand_within (within _ List.mem_cons_self) expanded
    obtain ⟨middle, _, early, late⟩ :=
      word_extends expansion.flags (Progress.value_extends expansion.tail) taken
    exact Progress.extends_trans (Progress.extends_trans early late)
      (ih (fun entry member => within entry (by simp [member])) read)
  | case9 progress word opt short attached rest flags tail ends expanded next taken ih =>
    have expansion := expand_within (within _ List.mem_cons_self) expanded
    obtain ⟨middle, _, early, late⟩ :=
      word_extends expansion.flags (finish_extends expansion.tail) taken
    exact Progress.extends_trans (Progress.extends_trans early late)
      (ih (fun entry member => within entry (by simp [member])) read)

theorem consume_unknown {opts : List (Opt σ)} {before after : Progress σ}
    {kinds : List (Text × Word σ)} (within : ∀ entry ∈ kinds, entry.2.Within opts) {word : Text}
    (member : (word, Word.unknown) ∈ kinds) (read : consume opts before kinds = .ok after) :
    word ∈ after.extras := by
  fun_induction consume opts before kinds with
  | case1 => cases member
  | case2 progress other rest ih =>
    exact ih (fun entry member => within entry (by simp [member])) (by simpa using member) read
  | case3 progress other rest ih =>
    have later : ∀ entry ∈ rest, entry.2.Within opts :=
      fun entry member => within entry (by simp [member])
    rcases List.mem_cons.mp member with same | member
    · -- The word is left here, and no later step takes a word that was left.
      cases same
      exact (consume_extends later read).extras (by simp [Progress.leave])
    · exact ih later member read
  | case4 | case5 | case7 | case8 => cases read
  | case6 _ _ _ _ _ _ _ _ _ _ _ _ ih =>
    exact ih (fun entry member => within entry (by simp [member])) (by simpa using member) read
  | case9 _ _ _ _ _ _ _ _ _ _ _ _ ih =>
    exact ih (fun entry member => within entry (by simp [member])) (by simpa using member) read

theorem consume_flag {opts : List (Opt σ)} {before after : Progress σ}
    {kinds : List (Text × Word σ)} (within : ∀ entry ∈ kinds, entry.2.Within opts) {word : Text}
    {opt : Opt σ} {short : Bool} {setting : σ} (takes : opt.takes = .nothing setting)
    (member : (word, Word.option opt short none) ∈ kinds)
    (read : consume opts before kinds = .ok after) : setting ∈ after.settings := by
  have alone_eq : alone opt = ⟨[opt], .done⟩ := by simp [alone, Opt.takesValue, takes]
  fun_induction consume opts before kinds with
  | case1 => cases member
  | case2 progress other rest ih | case3 progress other rest ih =>
    exact ih (fun entry member => within entry (by simp [member])) (by simpa using member) read
  | case4 | case5 | case7 | case8 => cases read
  | case6 progress name other otherShort attached flags needy expanded text others next taken ih =>
    have later : ∀ entry ∈ others, entry.2.Within opts :=
      fun entry member => within entry (by simp [member])
    -- Only a plain word is taken for a value, so the option is no value of the one before it.
    rcases List.mem_cons.mp member with same | member
    · cases same
      simp [expand, alone_eq] at expanded
    · exact ih later (by simpa using member) read
  | case9 progress name other otherShort attached rest flags tail ends expanded next taken ih =>
    have later : ∀ entry ∈ rest, entry.2.Within opts :=
      fun entry member => within entry (by simp [member])
    rcases List.mem_cons.mp member with same | member
    · cases same
      simp only [expand, alone_eq, Except.ok.injEq, Expansion.mk.injEq] at expanded
      obtain ⟨rfl, rfl⟩ := expanded
      simp only [Progress.flags, List.foldlM_cons, List.foldlM_nil, Progress.flag, takes, bind,
        Except.bind, pure, Except.pure, finish, Except.ok.injEq] at taken
      subst next
      exact Progress.extends_mem (consume_extends later read) (by simp [Progress.see])
    · exact ih later member read

/-! The whole command line. -/

theorem parse_iff {opts : List (Opt σ)} {words : List Text} {settings : List σ} :
    parse opts words = .ok settings ↔ ∃ kinds progress, classifyAll opts words = .ok kinds ∧
      consume opts {} kinds = .ok progress ∧ missing opts progress.seen = [] ∧
      progress.extras = [] ∧ progress.settings = settings := by
  constructor
  · intro accepted
    rw [parse] at accepted
    split at accepted
    · cases accepted
    next kinds classified =>
    split at accepted
    · cases accepted
    next progress consumed =>
    split at accepted
    · next complete nothingLeft =>
      cases accepted
      exact ⟨kinds, progress, classified, consumed, complete, nothingLeft, rfl⟩
    · cases accepted
    · cases accepted
  · rintro ⟨kinds, progress, classified, consumed, complete, nothingLeft, rfl⟩
    simp only [parse, classified, consumed, complete, nothingLeft]

theorem parse_yields {opts : List (Opt σ)} {words : List Text} {settings : List σ}
    (accepted : parse opts words = .ok settings) :
    ∀ setting ∈ settings, ∃ opt ∈ opts, opt.Yields setting := by
  obtain ⟨kinds, progress, classified, consumed, _, _, rfl⟩ := parse_iff.mp accepted
  obtain ⟨added, same, yields⟩ :=
    (consume_extends (classifyAll_within classified) consumed).settings
  intro setting member
  rw [same] at member
  exact yields setting (by simpa using member)

theorem classify_named {opts : List (Opt σ)} {name : Text} {opt : Opt σ}
    (dashed : name.head? = some '-') (found : findNamed? opts name = some opt) :
    classify opts name = .ok (.option opt (isShortName name) none) := by
  simp [classify, dashed, found]

theorem classifyAll_endMark {opts : List (Opt σ)} {words : List Text}
    {kinds : List (Text × Word σ)} (member : endMark ∈ words)
    (read : classifyAll opts words = .ok kinds) : (endMark, .unknown) ∈ kinds := by
  induction words generalizing kinds with
  | nil => cases member
  | cons word rest ih =>
    by_cases ends : word = endMark
    · simp only [classifyAll, ends, ↓reduceIte, Except.ok.injEq] at read
      subst kinds
      exact List.mem_cons_self
    · obtain ⟨kind, later, _, others, rfl⟩ := classifyAll_cons ends read
      have behind := (List.mem_cons.mp member).resolve_left (Ne.symm ends)
      exact List.mem_cons_of_mem _ (ih behind others)

/-- Behind the end of the options the mark itself is left over, which is not accepted. -/
theorem endMark_not_mem {opts : List (Opt σ)} {words : List Text} {settings : List σ}
    (accepted : parse opts words = .ok settings) : endMark ∉ words := by
  obtain ⟨kinds, progress, classified, consumed, _, nothingLeft, _⟩ := parse_iff.mp accepted
  intro member
  have leftOver := consume_unknown (classifyAll_within classified)
    (classifyAll_endMark member classified) consumed
  simp [nothingLeft] at leftOver

/-- In front of the end of the options every word keeps what it is by itself. -/
theorem classifyAll_mem {opts : List (Opt σ)} {words : List Text} {word : Text} {kind : Word σ}
    {kinds : List (Text × Word σ)} (endless : endMark ∉ words) (member : word ∈ words)
    (classified : classify opts word = .ok kind) (read : classifyAll opts words = .ok kinds) :
    (word, kind) ∈ kinds := by
  induction words generalizing kinds with
  | nil => cases member
  | cons first rest ih =>
    simp only [List.mem_cons, not_or] at endless
    obtain ⟨own, later, here, others, rfl⟩ := classifyAll_cons (Ne.symm endless.1) read
    rcases List.mem_cons.mp member with rfl | member
    · rw [classified] at here
      cases here
      exact List.mem_cons_self
    · exact List.mem_cons_of_mem _ (ih endless.2 member others)

/-- A word that stands for an option without a value takes effect on every accepted command line. -/
theorem parse_sets {opts : List (Opt σ)} {words : List Text} {settings : List σ} {word : Text}
    {opt : Opt σ} {short : Bool} {setting : σ} (accepted : parse opts words = .ok settings)
    (classified : classify opts word = .ok (.option opt short none))
    (takes : opt.takes = .nothing setting) (member : word ∈ words) : setting ∈ settings := by
  have endless := endMark_not_mem accepted
  obtain ⟨kinds, progress, read, consumed, _, _, rfl⟩ := parse_iff.mp accepted
  have here := classifyAll_mem endless member classified read
  exact consume_flag (classifyAll_within read) takes here consumed

theorem parse_flag {opts : List (Opt σ)} {words : List Text} {settings : List σ} {name : Text}
    {opt : Opt σ} {setting : σ} (accepted : parse opts words = .ok settings)
    (dashed : name.head? = some '-')
    (found : findNamed? opts name = some opt)
    (takes : opt.takes = .nothing setting) (member : name ∈ words) : setting ∈ settings :=
  parse_sets accepted (classify_named dashed found) takes member

end ServiceProbe.CommandLine
