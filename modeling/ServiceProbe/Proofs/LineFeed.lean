import ServiceProbe.CheckResult
import ServiceProbe.Level
import ServiceProbe.Proofs.Figures
import ServiceProbe.Proofs.Search
import ServiceProbe.Text.Quoted
/-!
Texts without a line feed. Numbers, quoted texts and metrics have none, and a status line has one only
if the message has one.
-/
namespace ServiceProbe

namespace Text

/-- The characters of a literal are looked at as they are. To take a literal apart costs the square of
its length. -/
theorem newline_not_mem_literal {text : Text} (plain : '\n' ∉ text) :
    '\n' ∉ (String.ofList text).toList := by
  rwa [String.toList_ofList]

theorem newline_not_mem_toDigits (base n : Nat) : '\n' ∉ Nat.toDigits base n := by
  have core (fuel n : Nat) (digits : List Char) (plain : '\n' ∉ digits) :
      '\n' ∉ Nat.toDigitsCore base fuel n digits := by
    -- The digits that were gathered so far stay without a line feed.
    induction fuel generalizing n digits with
    | zero => simpa [Nat.toDigitsCore] using plain
    | succ fuel ih =>
      have longer : '\n' ∉ (n % base).digitChar :: digits := by
        simp only [List.mem_cons, not_or]
        exact ⟨(Nat.digitChar_ne '\n' (by decide)).symm, plain⟩
      simp only [Nat.toDigitsCore]
      split
      · exact longer
      · exact ih _ _ longer
  exact core _ _ _ (by simp)

theorem Figures.newline_not_mem {text : Text} (figures : Figures text) : '\n' ∉ text :=
  figures.not_mem (by decide)

@[simp] theorem newline_not_mem_ofNat (n : Nat) : '\n' ∉ ofNat n := (figures_ofNat n).newline_not_mem

@[simp] theorem newline_not_mem_ofInt (n : Int) : '\n' ∉ ofInt n := (figures_ofInt n).newline_not_mem

theorem newline_not_mem_escapeIn {mark : Char} (other : mark ≠ '\n') (c : Char) :
    '\n' ∉ escapeIn mark c := by
  unfold escapeIn
  split
  · next special =>
    rcases special with rfl | rfl <;> simp [Ne.symm other]
  split
  · simp
  split
  · simp
  split
  · simp
  split
  · next plain _ _ =>
    simpa using Ne.symm plain
  · unfold escapeCode hexDigits
    dsimp only
    split
    · simp [newline_not_mem_toDigits]
    split <;> simp [newline_not_mem_toDigits]

/-- A quoted text shows a line feed as an escape. -/
@[simp] theorem newline_not_mem_quoted (text : Text) : '\n' ∉ quoted text := by
  have mark : quoteMark text ≠ '\n' := by
    unfold quoteMark
    split <;> decide
  simp [quoted, mark.symm, newline_not_mem_escapeIn mark]

end Text

namespace Decimal

@[simp] theorem newline_not_mem_fixed (places : Nat) (double : Double) (full : Bool) :
    '\n' ∉ fixed places double full := (figures_fixed places double full).newline_not_mem

@[simp] theorem newline_not_mem_general (double : Double) : '\n' ∉ general double :=
  (figures_significant 6 double false).newline_not_mem

end Decimal

/-! Metrics. -/

namespace Metric

open Outcome (Gives)

theorem number_plain (value : Number) : Gives (number value) ('\n' ∉ ·) :=
  fun text shown => (number_shows value text shown).2.newline_not_mem

theorem place_plain (value : Option Number) : Gives (place value) ('\n' ∉ ·) := by
  cases value with
  | none => exact .ok (by simp)
  | some value => exact number_plain value

theorem newline_not_mem_label {name : Text} (plain : '\n' ∉ name) : '\n' ∉ label name := by
  unfold label
  split <;> simp [plain]

theorem tokenOf_plain {name unit : Text} (value : Option Number) (levels boundaries : NumberPair)
    (plain : '\n' ∉ name) (plainUnit : '\n' ∉ unit) :
    Gives (tokenOf name value unit levels boundaries) ('\n' ∉ ·) := by
  refine (place_plain value).bind fun measured measuredPlain => ?_
  refine (Gives.mapM fun value _ => place_plain value).bind fun places placesPlain => .ok ?_
  have kept : ∀ text ∈ dropEmptyEnd places, '\n' ∉ text := by
    intro text member
    have inside := (List.dropWhile_sublist _).subset (List.mem_reverse.mp member)
    exact placesPlain text (List.mem_reverse.mp inside)
  have joined : '\n' ∉
      List.intercalate [';'] ((measured ++ unit) :: dropEmptyEnd places) := by
    rw [Text.mem_intercalate (by simp)]
    rintro ⟨text, member, broken⟩
    rcases List.mem_cons.mp member with rfl | member
    · simp [measuredPlain, plainUnit] at broken
    · exact kept text member broken
  simp [newline_not_mem_label plain, joined]

theorem token_plain {name unit : Text} (value : Number) (levels boundaries : NumberPair)
    (plain : '\n' ∉ name) (plainUnit : '\n' ∉ unit) :
    Gives (token name value unit levels boundaries) ('\n' ∉ ·) :=
  tokenOf_plain (some value) levels boundaries plain plainUnit

end Metric

/-! Results. -/

namespace CheckResult

/-- A result whose metrics have no line feed, and whose message has one just if one of some texts
has one. -/
structure Quotes (texts : List Text) (result : CheckResult) : Prop where
  metrics : ∀ token ∈ result.metrics, '\n' ∉ token
  message : '\n' ∈ result.message ↔ ∃ text ∈ texts, '\n' ∈ text

theorem newline_mem_replaceBar (text : Text) : '\n' ∈ replaceBar text ↔ '\n' ∈ text := by
  simp only [replaceBar, List.mem_map]
  constructor
  · rintro ⟨c, member, same⟩
    split at same
    · cases same
    · exact same ▸ member
  · intro member
    exact ⟨'\n', member, by decide⟩

theorem Quotes.statusLine {texts : List Text} {result : CheckResult} (quotes : Quotes texts result) :
    '\n' ∈ result.statusLine ↔ ∃ text ∈ texts, '\n' ∈ text := by
  rw [← quotes.message]
  have name : '\n' ∉ result.state.name := by
    cases result.state <;> decide
  -- Neither the state nor the metrics hold a line feed, so that the message alone counts.
  have performance : '\n' ∉ result.performanceData := by
    unfold performanceData
    rw [Text.mem_intercalate (by simp)]
    rintro ⟨token, member, broken⟩
    exact quotes.metrics token member broken
  unfold CheckResult.statusLine
  dsimp only
  split <;> simp [name, performance, newline_mem_replaceBar]

theorem newline_mem_mark (text : Text) (state : State) :
    '\n' ∈ State.mark text state ↔ '\n' ∈ text := by
  unfold State.mark
  split
  · rfl
  · have marker : '\n' ∉ state.marker := by cases state <;> decide
    simp [marker]

theorem newline_mem_combine (results : List CheckResult) :
    '\n' ∈ (combine results).message ↔ ∃ result ∈ results, '\n' ∈ result.message := by
  simp only [combine]
  rw [Text.mem_intercalate (by decide)]
  simp only [List.mem_filterMap]
  constructor
  · rintro ⟨text, ⟨result, member, part⟩, broken⟩
    unfold part? at part
    split at part
    · cases part
    · cases part
      exact ⟨result, member, (newline_mem_mark _ _).mp broken⟩
  · rintro ⟨result, member, broken⟩
    -- Empty messages are left out, but one with a line feed is not empty.
    have nonempty : result.message.isEmpty = false := by
      cases shown : result.message with
      | nil => simp [shown] at broken
      | cons c rest => rfl
    exact ⟨_, ⟨result, member, by rw [part?, nonempty]; rfl⟩, (newline_mem_mark _ _).mpr broken⟩

theorem Quotes.combine_nil : Quotes [] (.combine []) := ⟨by simp [combine], by simp [combine]⟩

/-- A combined result quotes what its parts quote. -/
theorem Quotes.combine_cons {texts others : List Text} {result : CheckResult}
    {results : List CheckResult} (first : Quotes texts result)
    (rest : Quotes others (.combine results)) :
    Quotes (texts ++ others) (.combine (result :: results)) where
  metrics := by
    simp only [combine, List.flatMap_cons, List.mem_append]
    rintro token (member | member)
    · exact first.metrics token member
    · exact rest.metrics token member
  message := by
    have later := rest.message
    rw [newline_mem_combine] at later ⊢
    simp only [List.mem_cons, List.mem_append, or_and_right, exists_or, exists_eq_left]
    rw [first.message, later]

theorem Quotes.congr {texts others : List Text} {result : CheckResult} (quotes : Quotes texts result)
    (same : (∃ text ∈ texts, '\n' ∈ text) ↔ ∃ text ∈ others, '\n' ∈ text) :
    Quotes others result :=
  ⟨quotes.metrics, quotes.message.trans same⟩

theorem Quotes.plain {message : Text} {metrics : List Text} (plain : '\n' ∉ message)
    (plainMetrics : ∀ token ∈ metrics, '\n' ∉ token) (state : State) :
    Quotes [] { state, message, metrics } :=
  ⟨plainMetrics, by simp [plain]⟩

end CheckResult

/-! Measured values. -/

namespace Measurement

open Outcome (Gives)

theorem valueText_plain (value : Number) : Gives (valueText value) ('\n' ∉ ·) := by
  refine (Gives.anything _).bind fun whole _ => ?_
  split
  · exact .ok (by simp)
  · exact .ok (by simp)
  · exact .ok (by simp)

theorem boundText_plain (bound : Option Bound) : Gives (boundText bound) ('\n' ∉ ·) := by
  cases bound with
  | none => exact .ok (by simp)
  | some bound =>
    refine (Gives.anything _).bind fun value _ => .ok ?_
    cases bound.percent <;> simp

theorem levelsText_plain (levels : Levels) (direction : Direction) :
    Gives (levelsText levels direction) ('\n' ∉ ·) := by
  refine (boundText_plain _).bind fun warn warnPlain => ?_
  refine (boundText_plain _).bind fun crit critPlain => .ok ?_
  have side : '\n' ∉ directionText direction := by cases direction <;> decide
  simp [warnPlain, critPlain, side]

theorem message_label {m : Measurement} (plain : '\n' ∉ m.unit) (state : State) :
    Gives (m.message state) fun text => '\n' ∈ text ↔ '\n' ∈ m.label := by
  refine (valueText_plain _).bind fun value valuePlain => ?_
  split
  · exact .ok (by simp [valuePlain, plain])
  · refine (levelsText_plain _ _).bind fun levels levelsPlain => .ok ?_
    rw [CheckResult.newline_mem_mark]
    simp [valuePlain, plain, levelsPlain]

theorem metrics_plain {m : Measurement} (plain : '\n' ∉ m.unit)
    (named : ∀ name ∈ m.metric, '\n' ∉ name) :
    Gives m.metrics fun metrics => ∀ token ∈ metrics, '\n' ∉ token := by
  unfold metrics
  split
  · exact .ok (by simp)
  · next name metric =>
    refine (Gives.anything _).bind fun warn _ => (Gives.anything _).bind fun crit _ => ?_
    refine (Metric.token_plain _ _ _ (named name metric) plain).bind fun token tokenPlain => .ok ?_
    simpa using tokenPlain

/-- A measured value shows its label as it is. -/
theorem check_quotes {m : Measurement} (plain : '\n' ∉ m.unit)
    (named : ∀ name ∈ m.metric, '\n' ∉ name) : Gives m.check (CheckResult.Quotes [m.label]) := by
  refine (Gives.anything _).bind fun state _ => ?_
  refine (message_label plain state).bind fun message label => ?_
  refine (metrics_plain plain named).bind fun metrics metricsPlain => .ok ?_
  exact ⟨metricsPlain, by simpa using label⟩

end Measurement
end ServiceProbe
