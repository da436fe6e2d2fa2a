import Mathlib.Order.WithBot
import ServiceProbe.Proofs.Measuring
import ServiceProbe.Proofs.Rounding
/-!
How values are classified by levels. Integers of any size and doubles stand in one line with an end on either
side, and levels see no more of a value than its place in it: a value further to the bad side is never in a
better state, even where the critical level is the laxer one.
-/
namespace ServiceProbe

/-! One line for all numbers. -/

namespace Number

/-- The rationals, with an end on either side for what is infinite. -/
abbrev Line := WithBot (WithTop ℚ)

/-- The place of a number. What is not a number has none. -/
def place? : Number → Option Line
  | .real (.infinite negative) => some (if negative then ⊥ else ⊤)
  | a => a.value?.map fun x => ((x : WithTop ℚ) : Line)

theorem fraction_le {value other : ℚ} :
    ((value : WithTop ℚ) : Line) ≤ ((other : WithTop ℚ) : Line) ↔ value ≤ other :=
  WithBot.coe_le_coe.trans WithTop.coe_le_coe

def Position.place : Position → Line
  | .lowest => ⊥
  | .fraction n scale => (((n : ℚ) / 2 ^ scale : ℚ) : WithTop ℚ)
  | .highest => ⊤

theorem Position.lt_iff (p q : Position) : p.lt q = true ↔ p.place < q.place := by
  cases p with
  | lowest => cases q <;> simp [Position.lt, place]
  | highest => cases q <;> simp [Position.lt, place]
  | fraction n s =>
    cases q with
    | lowest => simp [Position.lt, place]
    | fraction n' s' => rw [lt_fraction, place, place, WithBot.coe_lt_coe, WithTop.coe_lt_coe]
    | highest => exact iff_of_true rfl (WithBot.coe_lt_coe.mpr (WithTop.coe_lt_top _))

variable {a b : Number} {x y : Line}

theorem position_of_value {value : ℚ} (finite : a.value? = some value) :
    ∃ position, a.position? = some position ∧ position.place = ((value : WithTop ℚ) : Line) := by
  obtain ⟨numerator, scale, position, rfl⟩ := fraction_of_value finite
  exact ⟨_, position, rfl⟩

theorem position_of_place (stands : a.place? = some x) :
    ∃ position, a.position? = some position ∧ position.place = x := by
  match a with
  | .int n => exact Option.some.inj stands ▸ position_of_value rfl
  | .real (.finite negative mantissa exponent) =>
    exact Option.some.inj stands ▸ position_of_value rfl
  | .real (.infinite true) => exact ⟨.lowest, rfl, Option.some.inj stands⟩
  | .real (.infinite false) => exact ⟨.highest, rfl, Option.some.inj stands⟩
  | .real .nan => cases stands

theorem lt_iff_place (first : a.place? = some x) (second : b.place? = some y) :
    a.lt b = true ↔ x < y := by
  obtain ⟨p, position, rfl⟩ := position_of_place first
  obtain ⟨q, position', rfl⟩ := position_of_place second
  rw [lt, position, position']
  exact Position.lt_iff p q

theorem ge_iff_place (first : a.place? = some x) (second : b.place? = some y) :
    a.ge b = true ↔ y ≤ x := by
  obtain ⟨p, position, rfl⟩ := position_of_place first
  obtain ⟨q, position', rfl⟩ := position_of_place second
  rw [ge, position, position', ← not_lt, ← Position.lt_iff p q]
  simp

theorem place_of_number (number : a ≠ .real .nan) : ∃ x, a.place? = some x := by
  match a with
  | .int n => exact ⟨_, rfl⟩
  | .real (.finite negative mantissa exponent) => exact ⟨_, rfl⟩
  | .real (.infinite negative) => exact ⟨_, rfl⟩
  | .real .nan => exact absurd rfl number

end Number

open Number (Line)

/-! Levels on the line. -/

/-- A level that the value itself is held against: it is a number, and if it is a percentage, then without a
total other than zero. -/
structure Bound.Direct (bound : Bound) (total : Option Number) : Prop where
  number : bound.value ≠ .real .nan
  unscaled : bound.percent = true → ∀ whole ∈ total, whole.isZero = true

/-- The places on the bad side of a level. The place of the level itself is one of them only if what is
above is bad. -/
def Bound.Bad (bound : Bound) : Direction → Line → Prop
  | .upper, x => ∃ limit, bound.value.place? = some limit ∧ limit ≤ x
  | .lower, x => ∃ limit, bound.value.place? = some limit ∧ x < limit

/-- A level that is not set has no bad side. -/
def Levels.Bad (level : Option Bound) (direction : Direction) (x : Line) : Prop :=
  ∃ bound ∈ level, bound.Bad direction x

/-- The state that two breaches come to. The critical one goes first. -/
structure State.Decided (critical warning : Prop) (state : State) : Prop where
  critical_iff : state = .critical ↔ critical
  warning_iff : state = .warning ↔ ¬ critical ∧ warning
  ok_iff : state = .ok ↔ ¬ critical ∧ ¬ warning

variable {bound : Bound} {total : Option Number} {direction : Direction} {value : Number} {x y : Line}

namespace Bound

theorem bad_upper_iff {limit : Line} (place : bound.value.place? = some limit) :
    bound.Bad .upper x ↔ limit ≤ x := by
  simp [Bad, place]

theorem bad_lower_iff {limit : Line} (place : bound.value.place? = some limit) :
    bound.Bad .lower x ↔ x < limit := by
  simp [Bad, place]

theorem Direct.reference (direct : bound.Direct total) : bound.reference? total = none := by
  unfold reference?
  split
  · next percent =>
    rw [Option.filter_eq_none_iff]
    intro whole member
    simp [direct.unscaled percent whole member]
  · rfl

theorem Direct.isBreached (direct : bound.Direct total) (stands : value.place? = some x)
    (direction : Direction) :
    ∃ breached, bound.isBreached direction total value = .ok breached ∧
      (breached = true ↔ bound.Bad direction x) := by
  obtain ⟨limit, place⟩ := Number.place_of_number direct.number
  simp only [Bound.isBreached, measured, direct.reference]
  cases direction with
  | lower => exact ⟨_, rfl, (Number.lt_iff_place stands place).trans (bad_lower_iff place).symm⟩
  | upper => exact ⟨_, rfl, (Number.ge_iff_place stands place).trans (bad_upper_iff place).symm⟩

theorem Bad.mono (below : x ≤ y) (bad : bound.Bad .upper x) : bound.Bad .upper y := by
  obtain ⟨limit, place, reached⟩ := bad
  exact ⟨limit, place, reached.trans below⟩

theorem Bad.anti (below : x ≤ y) (bad : bound.Bad .lower y) : bound.Bad .lower x := by
  obtain ⟨limit, place, under⟩ := bad
  exact ⟨limit, place, below.trans_lt under⟩

end Bound

/-- Breaches that carry over make no state better. -/
theorem State.Decided.badness_le {critical warning critical' warning' : Prop} {low high : State}
    (first : Decided critical warning low) (second : Decided critical' warning' high)
    (criticals : critical → critical') (warnings : warning → warning') :
    low.badness ≤ high.badness := by
  by_cases beyond : critical'
  · rw [second.critical_iff.mpr beyond]
    cases low <;> decide
  · have below : ¬ critical := fun bad => beyond (criticals bad)
    by_cases warned : warning
    · rw [first.warning_iff.mpr ⟨below, warned⟩, second.warning_iff.mpr ⟨beyond, warnings warned⟩]
    · rw [first.ok_iff.mpr ⟨below, warned⟩]
      exact Nat.zero_le _

namespace Levels

theorem breached_of_direct {level : Option Bound} (direct : ∀ bound ∈ level, bound.Direct total)
    (stands : value.place? = some x) (direction : Direction) :
    ∃ breach, breached level direction total value = .ok breach ∧
      (breach = true ↔ Bad level direction x) := by
  cases level with
  | none => exact ⟨false, rfl, by simp [Bad]⟩
  | some bound =>
    obtain ⟨breach, found, bad⟩ := (direct bound rfl).isBreached stands direction
    exact ⟨breach, found, by simpa [Bad] using bad⟩

theorem evaluate_of_direct {levels : Levels} (direct : ∀ bound ∈ levels.bounds, bound.Direct total)
    (stands : value.place? = some x) (direction : Direction) :
    ∃ state, levels.evaluate direction total value = .ok state ∧
      State.Decided (Bad levels.crit direction x) (Bad levels.warn direction x) state := by
  obtain ⟨critical, crit, criticalIff⟩ :=
    breached_of_direct (fun _ set => direct _ (crit_mem set)) stands direction
  obtain ⟨warning, warn, warningIff⟩ :=
    breached_of_direct (fun _ set => direct _ (warn_mem set)) stands direction
  rw [evaluate, crit, warn, ← criticalIff, ← warningIff]
  cases critical <;> cases warning <;> exact ⟨_, rfl, ⟨by simp, by simp, by simp⟩⟩

theorem Bad.mono {level : Option Bound} (below : x ≤ y) (bad : Bad level .upper x) :
    Bad level .upper y := by
  obtain ⟨bound, set, reached⟩ := bad
  exact ⟨bound, set, reached.mono below⟩

theorem Bad.anti {level : Option Bound} (below : x ≤ y) (bad : Bad level .lower y) :
    Bad level .lower x := by
  obtain ⟨bound, set, under⟩ := bad
  exact ⟨bound, set, under.anti below⟩

/-- Values are classified by their places alone, the critical level first, and no value is in a better state
than one that is less far to the bad side. A value at a level breaches it only if what is above is bad. -/
theorem evaluate_is_monotone (levels : Levels) (total : Option Number)
    (direct : ∀ bound ∈ levels.bounds, bound.Direct total) {v w : Number} {x y : Line}
    (first : v.place? = some x) (second : w.place? = some y) (order : x ≤ y) :
    (∀ direction, ∃ low high,
        levels.evaluate direction total v = .ok low ∧ levels.evaluate direction total w = .ok high ∧
          State.Decided (Bad levels.crit direction x) (Bad levels.warn direction x) low ∧
          State.Decided (Bad levels.crit direction y) (Bad levels.warn direction y) high ∧
          (direction = .upper → low.badness ≤ high.badness) ∧
          (direction = .lower → high.badness ≤ low.badness)) ∧
      ∀ bound ∈ levels.bounds, bound.isBreached .upper total bound.value = .ok true ∧
        bound.isBreached .lower total bound.value = .ok false := by
  constructor
  · intro direction
    obtain ⟨low, found, decided⟩ := evaluate_of_direct direct first direction
    obtain ⟨high, found', decided'⟩ := evaluate_of_direct direct second direction
    refine ⟨low, high, found, found', decided, decided', ?upper, ?lower⟩
    case upper =>
      rintro rfl
      exact decided.badness_le decided' (Bad.mono order) (Bad.mono order)
    case lower =>
      rintro rfl
      exact decided'.badness_le decided (Bad.anti order) (Bad.anti order)
  · intro bound set
    obtain ⟨limit, place⟩ := Number.place_of_number (direct bound set).number
    obtain ⟨above, reached, aboveIff⟩ := (direct bound set).isBreached place .upper
    obtain ⟨below, under, belowIff⟩ := (direct bound set).isBreached place .lower
    rw [aboveIff.mpr ((Bound.bad_upper_iff place).mpr le_rfl)] at reached
    have good : ¬ bound.Bad .lower limit := mt (Bound.bad_lower_iff place).mp (lt_irrefl limit)
    rw [Bool.eq_false_iff.mpr (mt belowIff.mp good)] at under
    exact ⟨reached, under⟩

/-- The critical level is the laxer one here, a percentage of nothing, and one value is larger than any
double. -/
theorem evaluate_beyond_doubles :
    let levels : Levels :=
      { warn := some ⟨.int 2, false⟩, crit := some ⟨.real (.finite false 1 0), true⟩ }
    let total : Option Number := some (.int 0)
    let v : Number := .real (.finite false 1 (-1))
    let w : Number := .int (Power.ten 400)
    let x : Line := ((1 / 2 : ℚ) : WithTop ℚ)
    let y : Line := ((Power.ten 400 : ℚ) : WithTop ℚ)
    (∀ bound ∈ levels.bounds, bound.Direct total) ∧ v.place? = some x ∧ w.place? = some y ∧ x ≤ y ∧
      levels.evaluate .upper total v = .ok .ok ∧ levels.evaluate .upper total w = .ok .critical := by
  intro levels total v w x y
  have direct : ∀ bound ∈ levels.bounds, bound.Direct total := by
    have nothing : ∀ whole ∈ total, whole.isZero = true := by simp [total, Number.isZero]
    exact List.forall_mem_cons.mpr ⟨⟨by decide, fun _ => nothing⟩,
      List.forall_mem_singleton.mpr ⟨by decide, fun _ => nothing⟩⟩
  have first : v.place? = some x := by simp [v, x, Number.place?, Number.value?]
  have second : w.place? = some y := by simp [w, y, Number.place?, Number.value?]
  have one : (Number.real (.finite false 1 0)).place? = some ((1 : ℚ) : WithTop ℚ) := by
    simp [Number.place?, Number.value?]
  have large : (1 : ℚ) ≤ Power.ten 400 := by exact_mod_cast Power.ten_pos 400
  have order : x ≤ y := Number.fraction_le.mpr (le_trans (by norm_num) large)
  obtain ⟨low, high, found, found', decided, decided', _⟩ :=
    (evaluate_is_monotone levels total direct first second order).1 .upper
  have clear : ¬ Bad levels.crit .upper x := by
    rintro ⟨_, ⟨⟩, bad⟩
    have reached := Number.fraction_le.mp ((Bound.bad_upper_iff one).mp bad)
    norm_num at reached
  have unwarned : ¬ Bad levels.warn .upper x := by
    rintro ⟨_, ⟨⟩, bad⟩
    have reached := Number.fraction_le.mp ((Bound.bad_upper_iff rfl).mp bad)
    norm_num at reached
  have breached : Bad levels.crit .upper y :=
    ⟨_, rfl, (Bound.bad_upper_iff one).mpr (Number.fraction_le.mpr large)⟩
  rw [decided.ok_iff.mpr ⟨clear, unwarned⟩] at found
  rw [decided'.critical_iff.mpr breached] at found'
  exact ⟨direct, first, second, order, found, found'⟩

end Levels
end ServiceProbe
