import ServiceProbe.Level
import ServiceProbe.Proofs.Range
/-!
When a measured value can be shown and held against its levels: numbers that have to become doubles
must fit into them.
-/
namespace ServiceProbe

open Outcome

namespace Metric

theorem whole_succeeds {value : Number} : Succeeds value.whole? ↔ value.Fits := by
  cases value with
  | real double => simp [Number.whole?, Number.Fits]
  | int n =>
    rw [← Number.toDouble_succeeds]
    exact succeeds_last fun _ _ => succeeds_pure _

theorem number_succeeds {value : Number} : Succeeds (number value) ↔ value.Fits := by
  rw [← whole_succeeds]
  apply succeeds_last
  intro whole _
  cases whole <;> cases value <;> exact succeeds_pure _

theorem place_succeeds {value : Option Number} :
    Succeeds (place value) ↔ ∀ number ∈ value, number.Fits := by
  cases value with
  | none => simp [place]
  | some value => simpa [place] using number_succeeds

theorem tokenOf_succeeds {name unit : Text} {value : Option Number} {levels boundaries : NumberPair} :
    Succeeds (tokenOf name value unit levels boundaries) ↔
      (∀ number ∈ value, number.Fits) ∧
        ∀ place ∈ [levels.1, levels.2, boundaries.1, boundaries.2], ∀ number ∈ place, number.Fits := by
  rw [← place_succeeds]
  apply succeeds_bind
  intro _ _
  rw [succeeds_last fun _ _ => succeeds_pure _, succeeds_mapM]
  simp only [place_succeeds]

theorem token_succeeds {name : Text} {value : Number} : Succeeds (token name value) ↔ value.Fits := by
  rw [token, tokenOf_succeeds]
  simp

/-! Integers are shown with all their digits. -/

theorem number_int (n : Int) : Gives (number (.int n)) (· = Text.ofInt n) := by
  intro text written
  obtain ⟨whole, found, written⟩ := bind_ok written
  obtain ⟨_, _, found⟩ := bind_ok found
  cases found
  cases written
  rfl

theorem token_int (name : Text) (n : Int) :
    Gives (token name (.int n)) (· = label name ++ '=' :: Text.ofInt n) := by
  intro text written
  obtain ⟨measured, found, written⟩ := bind_ok written
  obtain rfl := number_int n measured found
  cases written
  simp [dropEmptyEnd]

end Metric

/-! Levels. They are read from text, so that they are doubles themselves. -/

namespace Levels

def bounds (levels : Levels) : List Bound := levels.warn.toList ++ levels.crit.toList

theorem warn_mem {levels : Levels} {bound : Bound} (set : bound ∈ levels.warn) :
    bound ∈ levels.bounds :=
  List.mem_append_left _ (Option.mem_toList.mpr set)

theorem crit_mem {levels : Levels} {bound : Bound} (set : bound ∈ levels.crit) :
    bound ∈ levels.bounds :=
  List.mem_append_right _ (Option.mem_toList.mpr set)

def AreDoubles (levels : Levels) : Prop :=
  ∀ bound ∈ levels.bounds, ∃ double, bound.value = .real double

end Levels

namespace Bound

theorem timesHundred_succeeds {value : Number} : Succeeds value.timesHundred ↔ value.Fits := by
  rw [← Number.toDouble_succeeds]
  exact succeeds_last fun _ _ => succeeds_pure _

theorem divDouble_succeeds {share : Double} {total : Number} :
    Succeeds (Number.divDouble share total) ↔ total.Fits := by
  rw [← Number.toDouble_succeeds]
  exact succeeds_last fun _ _ => succeeds_pure _

variable {bound : Bound} {total : Option Number} {value : Number}

theorem measured_succeeds :
    Succeeds (bound.measured total value) ↔
      ∀ reference ∈ bound.reference? total, value.Fits ∧ reference.Fits := by
  rw [measured]
  cases bound.reference? total with
  | none => simp
  | some reference =>
    simp only [Option.mem_def, Option.some.injEq, forall_eq']
    rw [← timesHundred_succeeds]
    apply succeeds_bind
    intro share _
    rw [← divDouble_succeeds]
    exact succeeds_last fun _ _ => succeeds_pure _

theorem isBreached_succeeds {direction : Direction} :
    Succeeds (bound.isBreached direction total value) ↔
      ∀ reference ∈ bound.reference? total, value.Fits ∧ reference.Fits := by
  rw [← measured_succeeds]
  exact succeeds_last fun _ _ => succeeds_pure _

variable {double : Double}

theorem mul_real (total : Number) :
    (Number.real double).mul total = (fun factor => .real (double.mul factor)) <$> total.toDouble := by
  cases total <;> rfl

theorem absolute_succeeds (real : bound.value = .real double) :
    Succeeds (bound.absolute total) ↔ ∀ reference ∈ bound.reference? total, reference.Fits := by
  rw [absolute]
  cases bound.reference? total with
  | none => simp
  | some reference =>
    simp only [Option.mem_def, Option.some.injEq, forall_eq', real, mul_real]
    rw [← Number.toDouble_succeeds]
    cases reference.toDouble with
    | error cause => exact iff_of_false (not_succeeds_error cause) (not_succeeds_error cause)
    | ok factor => exact iff_of_true ⟨_, rfl⟩ ⟨_, rfl⟩

theorem absolute_fits (real : bound.value = .real double) :
    Gives (bound.absolute total) Number.Fits := by
  rw [absolute]
  cases bound.reference? total with
  | none => exact Gives.ok (real ▸ trivial)
  | some reference =>
    exact (Gives.anything _).bind fun _ _ => (Gives.anything _).bind fun _ _ => Gives.ok trivial

theorem text_succeeds (real : bound.value = .real double) : Succeeds bound.text := by
  rw [text, real]
  exact ⟨_, rfl⟩

end Bound

namespace Measurement

variable {m : Measurement}

/-- Every total that a percentage refers to can become a double. -/
def TotalFits (m : Measurement) : Prop :=
  ∀ bound ∈ m.levels.bounds, ∀ total ∈ bound.reference? m.total, total.Fits

theorem state_succeeds (fits : m.value.Fits) (totals : m.TotalFits) : Succeeds m.state := by
  have decided (level : Option Bound) (member : ∀ bound ∈ level, bound ∈ m.levels.bounds) :
      Succeeds (Levels.breached level m.direction m.total m.value) := by
    cases level with
    | none => exact succeeds_ok false
    | some bound =>
      have offered := member bound rfl
      exact Bound.isBreached_succeeds.mpr fun total here => ⟨fits, totals bound offered total here⟩
  obtain ⟨critical, found⟩ := decided m.levels.crit fun _ => Levels.crit_mem
  obtain ⟨warning, found'⟩ := decided m.levels.warn fun _ => Levels.warn_mem
  unfold state Levels.evaluate
  rw [found, found']
  cases critical
  · cases warning <;> exact ⟨_, rfl⟩
  · exact ⟨_, rfl⟩

theorem valueText_succeeds {value : Number} : Succeeds (valueText value) ↔ value.Fits := by
  rw [← Metric.whole_succeeds]
  apply succeeds_last
  intro whole _
  cases whole <;> cases value <;> exact succeeds_pure _

theorem boundText_succeeds {level : Option Bound}
    (doubles : ∀ bound ∈ level, ∃ double, bound.value = .real double) :
    Succeeds (boundText level) := by
  cases level with
  | none => exact succeeds_ok _
  | some bound =>
    obtain ⟨double, real⟩ := doubles bound rfl
    exact Bound.text_succeeds real

theorem message_succeeds (doubles : m.levels.AreDoubles) (state : State) :
    Succeeds (m.message state) ↔ m.value.Fits := by
  rw [← valueText_succeeds]
  apply succeeds_last
  intro value _
  split
  · exact succeeds_pure _
  · have warnText : Succeeds (boundText m.levels.warn) :=
      boundText_succeeds fun bound set => doubles bound (Levels.warn_mem set)
    have critText : Succeeds (boundText m.levels.crit) :=
      boundText_succeeds fun bound set => doubles bound (Levels.crit_mem set)
    obtain ⟨warn, found⟩ := warnText
    obtain ⟨crit, found'⟩ := critText
    rw [levelsText, found, found']
    exact ⟨_, rfl⟩

theorem absolute_succeeds {total : Option Number} {level : Option Bound}
    (doubles : ∀ bound ∈ level, ∃ double, bound.value = .real double) :
    Succeeds (absolute? total level) ↔
      ∀ bound ∈ level, ∀ reference ∈ bound.reference? total, reference.Fits := by
  cases level with
  | none => simp [absolute?]
  | some bound =>
    obtain ⟨double, real⟩ := doubles bound rfl
    rw [absolute?, succeeds_map, Bound.absolute_succeeds real]
    simp

theorem absolute_fits {total : Option Number} {level : Option Bound}
    (doubles : ∀ bound ∈ level, ∃ double, bound.value = .real double) :
    Gives (absolute? total level) fun shown => ∀ number ∈ shown, number.Fits := by
  cases level with
  | none => exact Gives.ok (by simp)
  | some bound =>
    obtain ⟨double, real⟩ := doubles bound rfl
    apply Gives.map
    simpa using Bound.absolute_fits real

theorem totalFits_iff :
    m.TotalFits ↔
      (∀ bound ∈ m.levels.warn, ∀ total ∈ bound.reference? m.total, total.Fits) ∧
        ∀ bound ∈ m.levels.crit, ∀ total ∈ bound.reference? m.total, total.Fits := by
  simp only [TotalFits, Levels.bounds, List.mem_append, Option.mem_toList, or_imp, forall_and,
    Option.mem_def]

theorem metrics_succeeds {name : Text} (named : m.metric = some name)
    (unbounded : m.boundaries = (none, none)) (doubles : m.levels.AreDoubles) :
    Succeeds m.metrics ↔ m.TotalFits ∧ m.value.Fits := by
  have warned := fun bound set => doubles bound (Levels.warn_mem set)
  have critical := fun bound set => doubles bound (Levels.crit_mem set)
  rw [totalFits_iff, ← absolute_succeeds warned, ← absolute_succeeds critical, and_assoc, metrics,
    named, unbounded]
  apply succeeds_bind
  intro warn found
  apply succeeds_bind
  intro crit found'
  rw [succeeds_last fun _ _ => succeeds_pure _, Metric.token, Metric.tokenOf_succeeds]
  have fits : ∀ number ∈ warn, number.Fits := absolute_fits warned warn found
  have fits' : ∀ number ∈ crit, number.Fits := absolute_fits critical crit found'
  simpa using fun _ => ⟨fits, fits'⟩

theorem check_succeeds {name : Text} (named : m.metric = some name)
    (unbounded : m.boundaries = (none, none)) (doubles : m.levels.AreDoubles) :
    Succeeds m.check ↔ m.value.Fits ∧ m.TotalFits := by
  have told := message_succeeds doubles
  have shown := metrics_succeeds named unbounded doubles
  constructor
  · rintro ⟨result, whole⟩
    obtain ⟨state, _, whole⟩ := bind_ok whole
    obtain ⟨message, _, whole⟩ := bind_ok whole
    obtain ⟨metrics, found, _⟩ := bind_ok whole
    exact (shown.mp ⟨metrics, found⟩).symm
  · rintro ⟨fits, totals⟩
    obtain ⟨state, found⟩ := state_succeeds fits totals
    obtain ⟨message, found'⟩ := (told state).mpr fits
    obtain ⟨metrics, found''⟩ := shown.mpr ⟨totals, fits⟩
    simp [check, found, found', found'', bind, Except.bind]

end Measurement
end ServiceProbe
