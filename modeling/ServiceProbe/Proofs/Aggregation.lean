import ServiceProbe.Level
import ServiceProbe.Proofs.Outcome
/-!
Results that are combined in groups. However they are grouped, they come to the worst of their states and to
all of their metrics. A result of levels has its marker already, so that combining it alone leaves it as it
is.
-/
namespace ServiceProbe

/-! The worst of some states. -/

namespace State

theorem badness_worse (a b : State) : (worse a b).badness = max a.badness b.badness := by
  cases a <;> cases b <;> rfl

theorem worse_ok (state : State) : worse state .ok = state := by
  cases state <;> rfl

theorem badness_injective {a b : State} (same : a.badness = b.badness) : a = b := by
  cases a <;> cases b <;> first | rfl | cases same

theorem badness_foldl (first : State) (rest : List State) :
    (rest.foldl worse first).badness = max first.badness (worst .ok rest).badness := by
  induction rest generalizing first with
  | nil => simp [worst, badness]
  | cons next rest ih => rw [List.foldl_cons, ih, badness_worse, worst, ih, Nat.max_assoc]

theorem badness_worst_cons (first : State) (rest : List State) :
    (worst .ok (first :: rest)).badness = max first.badness (worst .ok rest).badness :=
  badness_foldl first rest

theorem badness_worst_append (front behind : List State) :
    (worst .ok (front ++ behind)).badness =
      max (worst .ok front).badness (worst .ok behind).badness := by
  induction front with
  | nil => simp [worst, badness]
  | cons first front ih => rw [List.cons_append, badness_worst_cons, ih, badness_worst_cons, Nat.max_assoc]

theorem badness_le_worst {states : List State} {state : State} (member : state ∈ states) :
    state.badness ≤ (worst .ok states).badness := by
  obtain ⟨before, behind, rfl⟩ := List.append_of_mem member
  rw [badness_worst_append, badness_worst_cons]
  omega

theorem worst_mem {states : List State} (some : states ≠ []) : worst .ok states ∈ states := by
  induction states with
  | nil => exact absurd rfl some
  | cons first rest ih =>
    by_cases void : rest = []
    · subst void
      exact List.mem_cons_self
    · have larger := badness_worst_cons first rest
      rcases Nat.le_total (worst .ok rest).badness first.badness with here | later
      · rw [badness_injective (larger.trans (Nat.max_eq_left here))]
        exact List.mem_cons_self
      · rw [badness_injective (larger.trans (Nat.max_eq_right later))]
        exact List.mem_cons_of_mem _ (ih void)

theorem worst_perm {states others : List State} (perm : states.Perm others) :
    worst .ok states = worst .ok others := by
  apply badness_injective
  induction perm with
  | nil => rfl
  | cons first _ ih => rw [badness_worst_cons, badness_worst_cons, ih]
  | swap first second rest => simp only [badness_worst_cons, Nat.max_left_comm]
  | trans _ _ before behind => exact before.trans behind

theorem mark_mark (text : Text) (state : State) : mark (mark text state) state = mark text state := by
  unfold mark
  by_cases ends : text.endsWith state.marker = true
  · rw [if_pos ends, if_pos ends]
  · have marked : (text ++ state.marker).endsWith state.marker = true :=
      List.isSuffixOf_iff_suffix.mpr (List.suffix_append _ _)
    rw [if_neg ends, if_pos marked]

theorem mark_ok (text : Text) : mark text .ok = text :=
  if_pos (List.isSuffixOf_iff_suffix.mpr List.nil_suffix)

theorem mark_ne_nil {text : Text} (some : text ≠ []) (state : State) : mark text state ≠ [] := by
  unfold mark
  split
  · exact some
  · simp [some]

end State

/-! A result of levels. -/

theorem Measurement.message_is_marked {m : Measurement} {state : State} {text : Text}
    (found : m.message state = .ok text) : text ≠ [] ∧ State.mark text state = text := by
  obtain ⟨shown, _, found⟩ := Outcome.bind_ok found
  by_cases fine : state = .ok
  · rw [if_pos fine] at found
    cases found
    exact ⟨by simp, fine ▸ State.mark_ok _⟩
  · rw [if_neg fine] at found
    obtain ⟨levels, _, found⟩ := Outcome.bind_ok found
    cases found
    exact ⟨State.mark_ne_nil (by simp) state, State.mark_mark _ state⟩

namespace CheckResult

theorem combine_singleton {result : CheckResult} (told : result.message ≠ [])
    (marked : State.mark result.message result.state = result.message) : combine [result] = result := by
  have part : part? result = some result.message := by
    rw [part?, marked, if_neg (by simpa using told)]
  rw [combine]
  simp [part, State.worst]

theorem combine_check {m : Measurement} {result : CheckResult} (found : m.check = .ok result) :
    combine [result] = result := by
  obtain ⟨state, _, found⟩ := Outcome.bind_ok found
  obtain ⟨message, told, found⟩ := Outcome.bind_ok found
  obtain ⟨metrics, _, found⟩ := Outcome.bind_ok found
  cases found
  obtain ⟨filled, marked⟩ := Measurement.message_is_marked told
  exact combine_singleton filled marked

/-! Groups. -/

/-- Results and groups side by side. A group may be empty and may have groups in it. -/
inductive Grouping where
  | nothing
  | single (result : CheckResult) (rest : Grouping)
  | group (inside rest : Grouping)

namespace Grouping

/-- All results, in the order in which they stand. -/
def results : Grouping → List CheckResult
  | nothing => []
  | single result rest => result :: rest.results
  | group inside rest => inside.results ++ rest.results

/-- Each group is combined on its own. -/
def values : Grouping → List CheckResult
  | nothing => []
  | single result rest => result :: rest.values
  | group inside rest => combine inside.values :: rest.values

end Grouping

theorem badness_combine_cons (first : CheckResult) (rest : List CheckResult) :
    (combine (first :: rest)).state.badness = max first.state.badness (combine rest).state.badness :=
  State.badness_worst_cons _ _

theorem badness_combine_append (front behind : List CheckResult) :
    (combine (front ++ behind)).state.badness =
      max (combine front).state.badness (combine behind).state.badness := by
  simp only [combine, List.map_append, State.badness_worst_append]

theorem state_of_groups (grouping : Grouping) :
    (combine grouping.values).state = (combine grouping.results).state := by
  apply State.badness_injective
  induction grouping with
  | nothing => rfl
  | single result rest ih =>
    rw [Grouping.values, Grouping.results, badness_combine_cons, badness_combine_cons, ih]
  | group inside rest insideIh restIh =>
    rw [Grouping.values, Grouping.results, badness_combine_cons, badness_combine_append, insideIh, restIh]

theorem metrics_of_groups (grouping : Grouping) :
    (combine grouping.values).metrics = (combine grouping.results).metrics := by
  induction grouping with
  | nothing => rfl
  | single result rest ih => exact congrArg (result.metrics ++ ·) ih
  | group inside rest insideIh restIh =>
    show (combine inside.values).metrics ++ (combine rest.values).metrics =
      (inside.results ++ rest.results).flatMap (·.metrics)
    rw [insideIh, restIh, List.flatMap_append]
    rfl

/-- Results come to the same state and the same metrics however they are grouped: to the worst of all states,
in whatever order they stand, and to all metrics, one result after the other. A result of levels comes to
itself, message and all. -/
theorem combine_regardless_of_groups :
    (∀ grouping : Grouping,
      let results := grouping.results
      let flat := combine results
      let nested := combine grouping.values
      nested.state = flat.state ∧ nested.metrics = flat.metrics ∧
        (∀ result ∈ results, result.state.badness ≤ nested.state.badness) ∧
        (results = [] ∧ nested.state = .ok ∨ ∃ result ∈ results, result.state = nested.state) ∧
        (∀ others, others.Perm results → (combine others).state = nested.state) ∧
        nested.metrics = results.flatMap (·.metrics)) ∧
      ∀ (m : Measurement) (result : CheckResult), m.check = .ok result → combine [result] = result := by
  refine ⟨?groups, fun m result => combine_check⟩
  case groups =>
    intro grouping results flat nested
    have state : nested.state = flat.state := state_of_groups grouping
    have metrics : nested.metrics = flat.metrics := metrics_of_groups grouping
    rw [state]
    refine ⟨rfl, metrics, ?worst, ?attained, ?permuted, metrics⟩
    case worst => exact fun result member => State.badness_le_worst (List.mem_map_of_mem member)
    case attained =>
      by_cases void : results = []
      · have fine : (combine results).state = .ok := by rw [void]; rfl
        exact Or.inl ⟨void, fine⟩
      · have filled : results.map (·.state) ≠ [] := by simpa using void
        exact Or.inr (List.mem_map.mp (State.worst_mem filled))
    case permuted => exact fun others perm => State.worst_perm (perm.map _)

/-- A warning of levels next to a group that is empty and one that does not know. -/
theorem combine_warning_with_groups :
    let m : Measurement :=
      { value := .int 12
        label := "Load"
        levels := .ofValues (some (.int 10)) (some (.int 20))
        direction := .upper
        metric := some "load" }
    let warned : CheckResult :=
      { state := .warning, message := "Load: 12 (warn/crit at 10/20)(!)", metrics := ["load=12;10;20"] }
    let lost : CheckResult := { state := .unknown, metrics := ["lost=1"] }
    let grouping : Grouping :=
      .single warned (.group .nothing (.group (.single lost (.group .nothing .nothing)) .nothing))
    m.check = .ok warned ∧ combine [warned] = warned ∧ (combine [warned, lost]).state = .unknown ∧
      (combine grouping.values).state = .unknown ∧
      (combine grouping.values).metrics = ["load=12;10;20".toList, "lost=1".toList] := by
  intro m warned lost grouping
  have found : m.check = .ok warned := by decide +kernel
  obtain ⟨groups, levels⟩ := combine_regardless_of_groups
  obtain ⟨state, metrics, _⟩ := groups grouping
  exact ⟨found, levels m warned found, rfl, state, metrics⟩

end CheckResult
end ServiceProbe
