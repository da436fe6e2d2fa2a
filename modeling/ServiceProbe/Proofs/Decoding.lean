import ServiceProbe.CheckResult
import ServiceProbe.Proofs.Figures
import ServiceProbe.Proofs.Search
/-!
A status line as a supervisor reads it. It has nothing but the line, and finds in it the state, the message
and every metric again.
-/
namespace ServiceProbe

/-! Two parts of a text with a mark between them. -/

namespace Text

/-- The text before the leftmost `mark` and the text behind it. -/
def partAt? (mark : Text) : Text → Option (Text × Text)
  | [] => none
  | c :: rest =>
    match after? mark (c :: rest) with
    | some behind => some ([], behind)
    | none => (partAt? mark rest).map fun (before, behind) => (c :: before, behind)

/-- A mark is found where it stands if its second character does not stand before it. -/
theorem partAt_mark {a b : Char} {marked before : Text} (apart : a ≠ b) (free : b ∉ before)
    (behind : Text) :
    partAt? (a :: b :: marked) (before ++ (a :: b :: marked) ++ behind) = some (before, behind) := by
  induction before with
  | nil =>
    have here := after_append (a :: b :: marked) behind
    rw [List.cons_append] at here
    rw [List.nil_append, List.cons_append, partAt?, here]
  | cons c before ih =>
    simp only [List.mem_cons, not_or] at free
    have later : after? (a :: b :: marked) (c :: (before ++ (a :: b :: marked) ++ behind)) = none := by
      rw [Option.eq_none_iff_forall_ne_some]
      intro rest found
      have parts := (List.cons.inj (after_some.mp found)).2
      cases before with
      | nil => exact apart (List.cons.inj parts).1
      | cons d before =>
        have second := (List.cons.inj parts).1
        exact free.2 (second ▸ List.mem_cons_self)
    rw [List.cons_append, List.cons_append, partAt?, later, ih free.2]
    rfl

theorem partAt_none {mark text : Text} {b : Char} (marks : b ∈ mark) (free : b ∉ text) :
    partAt? mark text = none := by
  induction text with
  | nil => rfl
  | cons c text ih =>
    have nowhere : after? mark (c :: text) = none := by
      rw [Option.eq_none_iff_forall_ne_some]
      intro rest found
      rw [after_some.mp found] at free
      exact free (List.mem_append_left _ marks)
    have later := ih fun member => free (List.mem_cons_of_mem _ member)
    rw [partAt?, nowhere, later]
    rfl

end Text

/-! Tokens of performance data. -/

/-- What a reader takes for a quote: one that begins or ends the name of a metric, or each that there is. -/
inductive QuoteRule where
  | ofNames
  | anywhere
  deriving DecidableEq

/-- Nothing in a text reads as a quote behind a name. -/
def QuoteRule.Spare (quotes : QuoteRule) (text : Text) : Prop := quotes = .anywhere → '\'' ∉ text

/-- Where a reader of performance data stands. -/
inductive Place where
  /-- At the head of a token. -/
  | head
  /-- Between quotes. -/
  | quoted
  | inside
  deriving DecidableEq

namespace Place

variable {quotes : QuoteRule}

/-- A quote at the head of a token opens a name, and the next one closes it. -/
def next (quotes : QuoteRule) : Place → Char → Place
  | .head, c => if c = '\'' then .quoted else .inside
  | .quoted, c => if c = '\'' then .inside else .quoted
  | .inside, c => if quotes = .anywhere ∧ c = '\'' then .quoted else .inside

/-- The tokens of some text, parted at each blank outside the quotes. -/
def tokens (quotes : QuoteRule) : Place → Text → List Text
  | _, [] => [[]]
  | place, c :: rest =>
    if c = ' ' ∧ place ≠ .quoted then [] :: tokens quotes .head rest
    else (tokens quotes (place.next quotes c) rest).modifyHead (c :: ·)

/-- From one place to another a text is read without being parted. -/
def Passes (quotes : QuoteRule) (place : Place) (text : Text) (after : Place) : Prop :=
  ∀ rest, place.tokens quotes (text ++ rest) = (after.tokens quotes rest).modifyHead (text ++ ·)

theorem Passes.nil (place : Place) : Passes quotes place [] place := by
  intro rest
  cases tokens : place.tokens quotes rest with
  | nil => simp [tokens]
  | cons first others => simp [tokens]

theorem Passes.cons {place after : Place} {c : Char} {text : Text}
    (whole : c ≠ ' ' ∨ place = .quoted) (later : Passes quotes (place.next quotes c) text after) :
    Passes quotes place (c :: text) after := by
  intro rest
  have stays : ¬ (c = ' ' ∧ place ≠ .quoted) := by
    rintro ⟨blank, outside⟩
    exact whole.elim (· blank) outside
  rw [List.cons_append, tokens, if_neg stays, later rest, List.modifyHead_modifyHead]
  rfl

theorem Passes.append {place middle after : Place} {text more : Text}
    (first : Passes quotes place text middle) (later : Passes quotes middle more after) :
    Passes quotes place (text ++ more) after := by
  intro rest
  rw [List.append_assoc, first, later, List.modifyHead_modifyHead]
  congr 1
  funext token
  exact (List.append_assoc _ _ _).symm

theorem passes_inside {text : Text} (free : ' ' ∉ text) (spare : quotes.Spare text) :
    Passes quotes .inside text .inside := by
  induction text with
  | nil => exact .nil _
  | cons c text ih =>
    simp only [List.mem_cons, not_or] at free
    have stays : next quotes .inside c = .inside :=
      if_neg fun ⟨each, quote⟩ => spare each (by simp [quote])
    have later : quotes.Spare text := fun each member => spare each (List.mem_cons_of_mem _ member)
    exact .cons (Or.inl (Ne.symm free.1)) (stays.symm ▸ ih free.2 later)

theorem passes_quoted {text : Text} (free : '\'' ∉ text) : Passes quotes .quoted text .quoted := by
  induction text with
  | nil => exact .nil _
  | cons c text ih =>
    simp only [List.mem_cons, not_or] at free
    have open' : next quotes .quoted c = .quoted := by simp [next, Ne.symm free.1]
    exact .cons (Or.inr rfl) (open'.symm ▸ ih free.2)

theorem passes_label {name : Text} (free : '\'' ∉ name) :
    Passes quotes .head (Metric.label name ++ ['=']) .inside := by
  rw [Metric.label]
  split
  · have sign : Passes quotes .inside ['='] .inside := passes_inside (by decide) fun _ => by decide
    have closed : Passes quotes .quoted ['\'', '='] .inside := .cons (Or.inr rfl) sign
    have opened : Passes quotes .head ('\'' :: (name ++ ['\'', '='])) .inside :=
      .cons (Or.inl (by decide)) ((passes_quoted free).append closed)
    simpa using opened
  · next plain =>
    simp only [Bool.or_eq_true, List.contains_iff_mem, not_or] at plain
    cases name with
    | nil => exact .cons (Or.inl (by decide)) (.nil _)
    | cons c name =>
      simp only [List.mem_cons, not_or] at plain free
      have opened : next quotes .head c = .inside := by simp [next, Ne.symm free.1]
      have behind : Passes quotes .inside (name ++ ['=']) .inside :=
        passes_inside (by simp [plain.1.2]) fun _ => by simp [free.2]
      exact .cons (Or.inl (Ne.symm plain.1.1)) (opened.symm ▸ behind)

theorem tokens_intercalate {first : Text} {others : List Text}
    (whole : ∀ token ∈ first :: others, Passes quotes .head token .inside) :
    Place.head.tokens quotes (List.intercalate [' '] (first :: others)) = first :: others := by
  induction others generalizing first with
  | nil =>
    have alone := whole first List.mem_cons_self []
    simpa [tokens] using alone
  | cons next others ih =>
    have later := ih fun token member => whole token (List.mem_cons_of_mem _ member)
    rw [List.intercalate_cons_cons, List.append_assoc, whole first List.mem_cons_self,
      List.singleton_append, tokens, if_pos ⟨rfl, by decide⟩, later, List.modifyHead_cons,
      List.append_nil]

end Place

/-- A metric as its token shows it. -/
structure Reading where
  name : Text
  measured : Text
  warn : Option Text
  crit : Option Text
  least : Option Text
  greatest : Option Text
  deriving DecidableEq

namespace Reading

/-- The name that a token begins with, and what stands behind the equals sign. -/
def parted : Text → Text × Text
  | '\'' :: rest =>
    let (name, behind) := Text.cut '\'' rest
    (name, (behind.getD []).drop 1)
  | token =>
    let (name, behind) := Text.cut '=' token
    (name, behind.getD [])

theorem parted_label {name : Text} (free : '\'' ∉ name) (behind : Text) :
    parted (Metric.label name ++ '=' :: behind) = (name, behind) := by
  rw [Metric.label]
  split
  · have closing := Text.cut_append free ('=' :: behind)
    simp [parted, closing]
  · next plain =>
    simp only [Bool.or_eq_true, List.contains_iff_mem, not_or] at plain
    have ending := Text.cut_append plain.2 behind
    rw [parted, ending]
    · rfl
    · rintro rest quoted
      cases name with
      | nil => cases quoted
      | cons c name =>
        rw [List.cons_append, List.cons.injEq] at quoted
        exact free (quoted.1 ▸ List.mem_cons_self)

/-- A place that is missing or empty is not set. -/
def place? (fields : List Text) (index : Nat) : Option Text := fields[index]?.filter (!·.isEmpty)

@[simp] theorem place_cons (field : Text) (fields : List Text) (index : Nat) :
    place? (field :: fields) (index + 1) = place? fields index := rfl

theorem dropEmptyEnd_parts (places : List Text) :
    ∃ void, places = Metric.dropEmptyEnd places ++ void ∧ ∀ text ∈ void, text = [] := by
  refine ⟨(places.reverse.takeWhile List.isEmpty).reverse, ?_, ?_⟩
  · rw [Metric.dropEmptyEnd, ← List.reverse_append, List.takeWhile_append_dropWhile,
      List.reverse_reverse]
  · intro text member
    exact List.isEmpty_iff.mp (List.mem_takeWhile_imp (List.mem_reverse.mp member))

/-- What is left out at the end was not set. -/
theorem place_dropEmptyEnd (places : List Text) (index : Nat) :
    place? (Metric.dropEmptyEnd places) index = place? places index := by
  obtain ⟨void, parts, empty⟩ := dropEmptyEnd_parts places
  have whole : place? places index = place? (Metric.dropEmptyEnd places ++ void) index :=
    congrArg (place? · index) parts
  rw [whole, place?, place?, List.getElem?_append]
  split
  · rfl
  · next outside =>
    rw [List.getElem?_eq_none (Nat.le_of_not_lt outside)]
    symm
    cases found : void[index - (Metric.dropEmptyEnd places).length]? with
    | none => rfl
    | some text => simp [empty text (List.mem_of_getElem? found)]

def ofToken (token : Text) : Reading :=
  let (name, behind) := parted token
  let fields := behind.splitOn ';'
  { name, measured := fields.headD [], warn := place? fields 1, crit := place? fields 2,
    least := place? fields 3, greatest := place? fields 4 }

end Reading

/-! What a metric is made of, and what its token should say of it. -/

structure Metric.Source where
  name : Text
  value : Option Number
  unit : Text := []
  levels : NumberPair := (none, none)
  boundaries : NumberPair := (none, none)

namespace Metric.Source

variable {quotes : QuoteRule}

/-- A bar or a line break does no harm behind the first bar. -/
structure Clean (quotes : QuoteRule) (source : Source) : Prop where
  name : '\'' ∉ source.name
  unit : ' ' ∉ source.unit ∧ ';' ∉ source.unit
  spare : quotes.Spare source.unit

def token (source : Source) : Except OutOfRange Text :=
  tokenOf source.name source.value source.unit source.levels source.boundaries

/-- A number that is set, as it is written. -/
def shown? : Option Number → Except OutOfRange (Option Text)
  | none => .ok none
  | some value => some <$> number value

def reading (source : Source) : Except OutOfRange Reading := do
  let measured ← place source.value
  let warn ← shown? source.levels.1
  let crit ← shown? source.levels.2
  let least ← shown? source.boundaries.1
  let greatest ← shown? source.boundaries.2
  return { name := source.name, measured := measured ++ source.unit, warn, crit, least, greatest }

theorem shown_of_place {value : Option Number} {text : Text} (placed : place value = .ok text) :
    shown? value = .ok ((some text).filter (!·.isEmpty)) ∧ Text.Figures text := by
  cases value with
  | none =>
    cases placed
    exact ⟨rfl, Text.figures_nil⟩
  | some value =>
    obtain ⟨any, figures⟩ := number_shows value text placed
    have written : number value = .ok text := placed
    have filled : (some text).filter (!·.isEmpty) = some text := by simp [any]
    rw [shown?, written, filled]
    exact ⟨rfl, figures⟩

theorem mapM_place {a b c d : Option Number} {texts : List Text}
    (placed : [a, b, c, d].mapM place = .ok texts) :
    ∃ w x y z, texts = [w, x, y, z] ∧ place a = .ok w ∧ place b = .ok x ∧ place c = .ok y ∧
      place d = .ok z := by
  obtain ⟨w, _, first, behindFirst, rfl⟩ := Outcome.mapM_cons_ok placed
  obtain ⟨x, _, second, behindSecond, rfl⟩ := Outcome.mapM_cons_ok behindFirst
  obtain ⟨y, _, third, behindThird, rfl⟩ := Outcome.mapM_cons_ok behindSecond
  obtain ⟨z, _, fourth, nothing, rfl⟩ := Outcome.mapM_cons_ok behindThird
  cases nothing
  exact ⟨w, x, y, z, rfl, first, second, third, fourth⟩

/-- Nothing is left out of some places but empty ones at the end. -/
theorem dropEmptyEnd_sublist (places : List Text) : (dropEmptyEnd places).Sublist places := by
  obtain ⟨void, parts, _⟩ := Reading.dropEmptyEnd_parts places
  conv_rhs => rw [parts]
  exact List.sublist_append_left _ _

/-- The fields of a token hold no blank and no semicolon but those between them. -/
theorem reading_of_token {source : Source} (clean : source.Clean quotes) {token : Text}
    (written : source.token = .ok token) :
    source.reading = .ok (Reading.ofToken token) ∧ Place.Passes quotes .head token .inside := by
  obtain ⟨measured, valued, rest⟩ := Outcome.bind_ok written
  obtain ⟨places, placed, made⟩ := Outcome.bind_ok rest
  cases made
  obtain ⟨w, x, y, z, rfl, warn, crit, least, greatest⟩ := mapM_place placed
  have shownWarn := shown_of_place warn
  have shownCrit := shown_of_place crit
  have shownLeast := shown_of_place least
  have shownGreatest := shown_of_place greatest
  -- Each place shows a number or nothing, without blanks and semicolons.
  have figures : ∀ text ∈ dropEmptyEnd [w, x, y, z], Text.Figures text := by
    intro text member
    have inside := (dropEmptyEnd_sublist [w, x, y, z]).subset member
    simp only [List.mem_cons, List.not_mem_nil, or_false] at inside
    rcases inside with rfl | rfl | rfl | rfl
    · exact shownWarn.2
    · exact shownCrit.2
    · exact shownLeast.2
    · exact shownGreatest.2
  have value := (shown_of_place valued).2
  have whole {c : Char} (foreign : Text.isFigure c = false) (other : c ∉ source.unit) :
      ∀ field ∈ (measured ++ source.unit) :: dropEmptyEnd [w, x, y, z], c ∉ field := by
    intro field member
    rcases List.mem_cons.mp member with rfl | member
    · simp [value.not_mem foreign, other]
    · exact (figures field member).not_mem foreign
  constructor
  · have fields := List.splitOn_intercalate ';' (whole (by decide) clean.unit.2)
      (List.cons_ne_nil _ _)
    simp only [Reading.ofToken, Reading.parted_label clean.name, fields, Reading.place_cons,
      Reading.place_dropEmptyEnd, List.headD_cons]
    rw [reading, valued, shownWarn.1, shownCrit.1, shownLeast.1, shownGreatest.1]
    rfl
  · have parts (behind : Text) : label source.name ++ '=' :: behind =
        (label source.name ++ ['=']) ++ behind := by simp
    have free {c : Char} (foreign : Text.isFigure c = false) (other : c ∉ source.unit)
        (between : c ∉ [';']) : c ∉ List.intercalate [';']
          ((measured ++ source.unit) :: dropEmptyEnd [w, x, y, z]) := by
      rw [Text.mem_intercalate between]
      rintro ⟨field, member, inside⟩
      exact whole foreign other field member inside
    rw [parts]
    exact (Place.passes_label clean.name).append (Place.passes_inside
      (free (by decide) clean.unit.1 (by decide))
      fun each => free (by decide) (clean.spare each) (by decide))

theorem readings_of_tokens {sources : List Source} (clean : ∀ source ∈ sources, source.Clean quotes)
    {tokens : List Text} (written : sources.mapM token = .ok tokens) :
    sources.mapM reading = .ok (tokens.map Reading.ofToken) ∧
      ∀ token ∈ tokens, Place.Passes quotes .head token .inside := by
  induction sources generalizing tokens with
  | nil =>
    cases written
    exact ⟨rfl, by simp⟩
  | cons source sources ih =>
    obtain ⟨first, rest, here, later, rfl⟩ := Outcome.mapM_cons_ok written
    obtain ⟨read, passes⟩ := reading_of_token (clean source List.mem_cons_self) here
    obtain ⟨reads, others⟩ := ih (fun other member => clean other (List.mem_cons_of_mem _ member)) later
    constructor
    · rw [List.mapM_cons, read, reads]
      rfl
    · intro token member
      rcases List.mem_cons.mp member with rfl | member
      · exact passes
      · exact others token member

end Metric.Source

/-! The line as a whole. -/

/-- What a supervisor learns from a status line. -/
structure Report where
  state : Text
  message : Text
  readings : List Reading
  deriving DecidableEq

/-- Reads a line; without a second part it reports no metrics. -/
def Report.read? (quotes : QuoteRule) (line : Text) : Option Report := do
  let (state, found) ← Text.partAt? ": " line
  match Text.partAt? " | " found with
  | none => return { state, message := found, readings := [] }
  | some (message, metrics) =>
    return { state, message, readings := (Place.head.tokens quotes metrics).map Reading.ofToken }

namespace CheckResult

theorem bar_not_mem_replaceBar (text : Text) : '|' ∉ replaceBar text := by
  rw [replaceBar, List.mem_map]
  rintro ⟨c, _, bar⟩
  split at bar
  · exact absurd bar (by decide)
  · next other => exact other bar

theorem blank_not_mem_name (state : State) : ' ' ∉ state.name := by
  cases state <;> decide

theorem partAt_state (state : State) (rest : Text) :
    Text.partAt? ": " (state.name ++ ": " ++ rest) = some (state.name, rest) :=
  Text.partAt_mark (by decide) (blank_not_mem_name state) rest

theorem partAt_bar (text metrics : Text) :
    Text.partAt? " | " (replaceBar text ++ " | " ++ metrics) = some (replaceBar text, metrics) :=
  Text.partAt_mark (by decide) (bar_not_mem_replaceBar text) metrics

/-- A status line can be taken apart again, if no unit holds what its reader takes for a quote. -/
theorem statusLine_is_read_back {quotes : QuoteRule} {sources : List Metric.Source}
    (clean : ∀ source ∈ sources, source.Clean quotes) {metrics : List Text}
    (written : sources.mapM Metric.Source.token = .ok metrics) (state : State) (message : Text) :
    ∃ readings, sources.mapM Metric.Source.reading = .ok readings ∧
      Report.read? quotes (statusLine { state, message, metrics }) =
        some { state := state.name, message := replaceBar message, readings } := by
  obtain ⟨reads, passes⟩ := Metric.Source.readings_of_tokens clean written
  refine ⟨metrics.map Reading.ofToken, reads, ?_⟩
  -- Without metrics there is no bar in the line, since those of the message are replaced.
  cases metrics with
  | nil =>
    have barless : Text.partAt? " | " (replaceBar message) = none :=
      Text.partAt_none (b := '|') (by decide) (bar_not_mem_replaceBar message)
    have line : statusLine { state, message, metrics := [] } =
        state.name ++ ": " ++ replaceBar message := rfl
    rw [line, Report.read?, partAt_state]
    simp only [Option.bind_eq_bind, Option.bind_some, barless]
    rfl
  | cons first others =>
    have line : statusLine { state, message, metrics := first :: others } =
        state.name ++ ": " ++ (replaceBar message ++ " | " ++
          List.intercalate [' '] (first :: others)) := by
      simp [statusLine, performanceData]
    rw [line, Report.read?, partAt_state]
    simp only [Option.bind_eq_bind, Option.bind_some, partAt_bar, Place.tokens_intercalate passes]
    rfl

/-- Two metrics, one with a blank in its name. -/
def nodesAndLoad (unit : Text) : List Metric.Source :=
  [{ name := "data nodes", value := some (.int 7), unit := "%", levels := (none, some (.int 5)),
     boundaries := (some (.int 0), none) },
    { name := "load", value := some (.real (.ofRatio false 1 2)), unit }]

/-- A quote for a unit is no quote of a name. -/
theorem nodesAndLoad_is_read_back :
    (∀ source ∈ nodesAndLoad "", source.Clean .anywhere) ∧
      (nodesAndLoad "").mapM Metric.Source.token =
        .ok ["'data nodes'=7%;;5;0".toList, "load=0.5".toList] ∧
      (∃ readings, (nodesAndLoad "").mapM Metric.Source.reading = .ok readings ∧
        Report.read? .anywhere "WARNING: a ❘ b | 'data nodes'=7%;;5;0 load=0.5" =
          some { state := "WARNING", message := "a ❘ b", readings }) ∧
      (∀ source ∈ nodesAndLoad "'", source.Clean .ofNames) ∧
      (nodesAndLoad "'").mapM Metric.Source.token =
        .ok ["'data nodes'=7%;;5;0".toList, "load=0.5'".toList] ∧
      ∃ readings, (nodesAndLoad "'").mapM Metric.Source.reading = .ok readings ∧
        Report.read? .ofNames "WARNING: a ❘ b | 'data nodes'=7%;;5;0 load=0.5'" =
          some { state := "WARNING", message := "a ❘ b", readings } := by
  have clean {quotes : QuoteRule} {unit : Text} (free : ' ' ∉ unit ∧ ';' ∉ unit)
      (spare : quotes.Spare unit) : ∀ source ∈ nodesAndLoad unit, source.Clean quotes := by
    intro source member
    simp only [nodesAndLoad, List.mem_cons, List.not_mem_nil, or_false] at member
    rcases member with rfl | rfl
    · exact ⟨by decide, by decide, fun _ => by decide⟩
    · exact ⟨by simp, free, spare⟩
  have plain : ∀ source ∈ nodesAndLoad "", source.Clean .anywhere :=
    clean (by decide) fun _ => by decide
  have quoted : ∀ source ∈ nodesAndLoad "'", source.Clean .ofNames :=
    clean (by decide) (by rintro ⟨⟩)
  have writtenPlain : (nodesAndLoad "").mapM Metric.Source.token =
      .ok ["'data nodes'=7%;;5;0".toList, "load=0.5".toList] := by decide
  have writtenQuoted : (nodesAndLoad "'").mapM Metric.Source.token =
      .ok ["'data nodes'=7%;;5;0".toList, "load=0.5'".toList] := by decide
  obtain ⟨readings, read, shown⟩ := statusLine_is_read_back plain writtenPlain .warning "a | b"
  obtain ⟨others, readOthers, shownOthers⟩ :=
    statusLine_is_read_back quoted writtenQuoted .warning "a | b"
  have linePlain : statusLine ⟨.warning, "a | b", ["'data nodes'=7%;;5;0", "load=0.5"]⟩ =
      "WARNING: a ❘ b | 'data nodes'=7%;;5;0 load=0.5" := by decide
  have lineQuoted : statusLine ⟨.warning, "a | b", ["'data nodes'=7%;;5;0", "load=0.5'"]⟩ =
      "WARNING: a ❘ b | 'data nodes'=7%;;5;0 load=0.5'" := by decide
  have message : replaceBar "a | b" = "a ❘ b" := by decide
  rw [linePlain, message] at shown
  rw [lineQuoted, message] at shownOthers
  exact ⟨plain, writtenPlain, ⟨readings, read, shown⟩, quoted, writtenQuoted, others, readOthers,
    shownOthers⟩

/-- To a reader for whom each quote counts, quotes for units make one token of two. -/
theorem quotes_of_units_join_tokens :
    let sources : List Metric.Source :=
      [{ name := "a", value := some (.int 1), unit := "'" },
        { name := "b", value := some (.int 2), unit := "'" }]
    let line := statusLine ⟨.ok, "m", ["a=1'", "b=2'"]⟩
    sources.mapM Metric.Source.token = .ok ["a=1'".toList, "b=2'".toList] ∧
      line = "OK: m | a=1' b=2'".toList ∧
      (sources.mapM Metric.Source.reading).map List.length = .ok 2 ∧
      (Report.read? .anywhere line).map (·.readings.map Reading.name) = some ["a".toList] ∧
      (Report.read? .ofNames line).map (·.readings.map Reading.name) =
        some ["a".toList, "b".toList] := by
  decide

end CheckResult
end ServiceProbe
