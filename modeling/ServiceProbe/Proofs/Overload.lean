import ServiceProbe.Proofs.Measuring
import ServiceProbe.Proofs.Numerals
import ServiceProbe.Proofs.Verdict
/-!
Replies that a check fails on. A judgement fails only over a number of the reply that is infinite, too
large for a double or too long to be read, where an integer or a double is needed. For each service
the numbers are named that it cannot do with.
-/
namespace ServiceProbe

open Outcome
open Http (Response)

/-- The number of a key is never undefined, so that only an infinite one has no integer. -/
theorem Field.truncate_number_succeeds {body key : Text} :
    Succeeds (Number.truncate (number body key)) ↔ ¬ (number body key).IsInfinite := by
  rw [Number.truncate_succeeds, and_iff_left (number_ne_nan body key)]

namespace StatusPage

/-- A counter of the page has more digits than are read. -/
def TooLong (page label : Text) : Prop :=
  ∃ digits, digits? label page = some digits ∧ OutOfRange.digitLimit < digits.length

/-- A counter of the page is read, and no double can hold it. -/
def TooLarge (page label : Text) : Prop :=
  ∃ n, counter? page label = .ok (some n) ∧ Double.limit ≤ n

variable {page label : Text}

theorem counter_succeeds : Succeeds (counter? page label) ↔ ¬ TooLong page label := by
  unfold counter? TooLong
  cases digits? label page with
  | none => simp
  | some digits =>
    simp only [Option.some.injEq, exists_eq_left', succeeds_map, Numeral.readDigits]
    split <;> simp [*]

theorem fits_of_counter {count : Option Nat} (found : counter? page label = .ok count) :
    (∀ n ∈ count, (Number.int n).Fits) ↔ ¬ TooLarge page label := by
  unfold TooLarge
  rw [found]
  cases count with
  | none => simp
  | some n => simp [Number.Fits]

end StatusPage

namespace Service

/-! Apache. -/

namespace Apache

open StatusPage

/-- With both kinds of workers on the page, their counts are shown, and a percentage refers to their
sum. -/
def WorkersOverload (levels : Levels) (busy idle : Nat) : Prop :=
  Double.limit ≤ busy ∨ Double.limit ≤ idle ∨
    Double.limit ≤ busy + idle ∧ ∃ bound ∈ levels.bounds, bound.percent = true

def Overloads (options : Probe.Options) (page : Text) : Prop :=
  TooLong page "BusyWorkers" ∨ TooLong page "IdleWorkers" ∨
    (∃ counter ∈ counters, TooLong page counter.1 ∨ TooLarge page counter.1) ∨
    ∃ busy idle, counter? page "BusyWorkers" = .ok (some busy) ∧
      counter? page "IdleWorkers" = .ok (some idle) ∧ WorkersOverload options.levels busy idle

theorem counterMetrics_succeeds {page : Text} :
    Succeeds (counterMetrics page) ↔
      ¬ ∃ counter ∈ counters, TooLong page counter.1 ∨ TooLarge page counter.1 := by
  rw [counterMetrics, succeeds_last fun _ _ => succeeds_pure _, succeeds_mapM]
  simp only [not_exists, not_and, not_or]
  apply forall₂_congr
  intro counter _
  rw [counterMetric?, ← counter_succeeds]
  apply succeeds_bind
  intro count found
  rw [← fits_of_counter found]
  cases count with
  | none => simp
  | some n => simp [succeeds_map, Metric.token_succeeds, whole]

/-- A total of whole numbers counts for a percentage unless it is zero. -/
theorem fits_of_reference {levels : Levels} {total : Nat} :
    (∀ bound ∈ levels.bounds, ∀ reference ∈ bound.reference? (some (whole total)), reference.Fits) ↔
      ¬ (Double.limit ≤ total ∧ ∃ bound ∈ levels.bounds, bound.percent = true) := by
  have positive : 0 < Double.limit := Number.zero_fits
  constructor
  · rintro fits ⟨large, bound, member, percent⟩
    have some_workers : ((total : Int) == 0) = false := by
      simp
      omega
    have fit := fits bound member (whole total) (by
      simp [Bound.reference?, percent, whole, Number.isZero, some_workers])
    exact Nat.not_lt_of_le large fit
  · intro small bound member reference refers
    cases percent : bound.percent with
    | false => simp [Bound.reference?, percent] at refers
    | true =>
      simp only [Bound.reference?, percent, ↓reduceIte, Option.mem_def,
        Option.filter_eq_some_iff, Option.some.injEq] at refers
      obtain ⟨rfl, _⟩ := refers
      exact Nat.lt_of_not_le fun large => small ⟨large, bound, member, percent⟩

theorem workers_succeeds {busy idle : Nat} {levels : Levels} {metrics : List Text}
    (doubles : levels.AreDoubles) :
    Succeeds (workers busy idle levels metrics) ↔ ¬ WorkersOverload levels busy idle := by
  rw [workers, succeeds_bind fun _ _ => (succeeds_last fun _ _ => succeeds_pure _).trans
      Metric.token_succeeds, Measurement.check_succeeds rfl rfl doubles, Measurement.TotalFits,
    fits_of_reference, WorkersOverload]
  simp only [whole, Number.Fits, Int.natAbs_natCast, not_or, Nat.not_le]
  exact and_right_comm.trans and_assoc

theorem judge_succeeds {options : Probe.Options} (doubles : options.levels.AreDoubles)
    {response : Response} (usable : isUsable response = true) :
    Succeeds (judge options response) ↔ ¬ Overloads options response.body := by
  rw [judge, if_pos usable, Overloads, not_or, not_or, not_or, ← counterMetrics_succeeds,
    ← counter_succeeds, ← counter_succeeds]
  apply succeeds_bind
  intro busy busyFound
  apply succeeds_bind
  intro idle idleFound
  apply succeeds_bind
  intro metrics _
  rw [busyFound, idleFound]
  cases busy with
  | none => simp
  | some busy =>
    cases idle with
    | none => simp
    | some idle => simp [workers_succeeds doubles]

end Apache

/-! PHP-FPM. -/

namespace PhpFpm

open StatusPage

/-- A ping asks for no numbers. -/
def Overloads (options : Probe.Options) (page : Text) : Prop :=
  options.ping = false ∧ ∃ label ∈ counters, TooLong page label ∨ TooLarge page label

theorem counterMetric_succeeds {counter : Counter} :
    Succeeds (counterMetric? counter) ↔ ∀ n ∈ counter.2, (Number.int n).Fits := by
  obtain ⟨label, count⟩ := counter
  cases count with
  | none => simp [counterMetric?]
  | some n => simp [counterMetric?, succeeds_map, Metric.token_succeeds]

theorem readCounter_ok {page label : Text} {counter : Counter}
    (read : readCounter page label = .ok counter) : counter? page label = .ok counter.2 := by
  obtain ⟨count, found, rest⟩ := bind_ok read
  cases rest
  exact found

theorem judgeStatus_succeeds {page : Text} :
    Succeeds (judgeStatus page) ↔
      ¬ ∃ label ∈ counters, TooLong page label ∨ TooLarge page label := by
  have read (label : Text) : Succeeds (readCounter page label) ↔ ¬ TooLong page label := by
    rw [readCounter, succeeds_last fun _ _ => succeeds_pure _, counter_succeeds]
  -- Counters are all read before the first of them is measured.
  have whole : Succeeds (judgeStatus page) ↔
      (∀ label ∈ counters, ¬ TooLong page label) ∧ ∀ label ∈ counters, ¬ TooLarge page label := by
    simp only [← read]
    rw [← succeeds_mapM]
    apply succeeds_bind
    intro found readAll
    have shown : Succeeds (found.mapM counterMetric?) ↔
        ∀ label ∈ counters, ¬ TooLarge page label := by
      simp only [succeeds_mapM, counterMetric_succeeds, mem_of_mapM readAll]
      constructor
      · intro fits label member
        obtain ⟨counter, here⟩ := succeeds_mapM.mp ⟨found, readAll⟩ label member
        exact (fits_of_counter (readCounter_ok here)).mp (fits counter ⟨label, member, here⟩)
      · rintro small counter ⟨label, member, here⟩
        exact (fits_of_counter (readCounter_ok here)).mpr (small label member)
    rw [← shown]
    apply succeeds_last
    intro metrics _
    dsimp only
    split <;> exact succeeds_pure _
  rw [whole]
  simp only [not_exists, not_and, not_or]
  exact ⟨fun both label member => ⟨both.1 label member, both.2 label member⟩,
    fun every => ⟨fun label member => (every label member).1,
      fun label member => (every label member).2⟩⟩

theorem judge_succeeds {options : Probe.Options} {response : Response}
    (usable : isUsable response = true) :
    Succeeds (judge options response) ↔ ¬ Overloads options response.body := by
  rw [judge, if_pos usable, Overloads]
  cases options.ping with
  | true => simp
  | false => simp [judgeStatus_succeeds]

end PhpFpm

/-! Consul. -/

namespace Consul

/-- Members and services are counted. -/
def Overloads (options : Probe.Options) (body : Text) : Prop :=
  (options.subject = .members ∧ Double.limit ≤ countKeys body "Name") ∨
    (options.subject = .services ∧ Double.limit ≤ countKeys body "ID")

theorem judgeMembers_succeeds {levels : Levels} (doubles : levels.AreDoubles) {body : Text} :
    Succeeds (judgeMembers body levels) ↔ ¬ Double.limit ≤ countKeys body "Name" := by
  rw [judgeMembers, Nat.not_le]
  split
  · rw [succeeds_last fun _ _ => succeeds_pure _, Metric.token_succeeds]
    exact Iff.rfl
  · rw [Measurement.check_succeeds rfl rfl doubles]
    have alone : ∀ bound : Bound, bound.reference? none = none := by
      intro bound
      simp [Bound.reference?]
    simp [Measurement.TotalFits, alone, Number.Fits]

theorem judge_succeeds {options : Probe.Options} (doubles : options.levels.AreDoubles)
    {response : Response} (usable : isUsable response = true) :
    Succeeds (judge options response) ↔ ¬ Overloads options response.body := by
  rw [judge, if_pos usable, judgeBody, Overloads]
  cases subject : options.subject with
  | members => simpa using judgeMembers_succeeds doubles
  | services =>
    simp only [judgeServices]
    rw [succeeds_last fun _ _ => succeeds_pure _, Metric.token_succeeds]
    simp [Number.Fits]
  | _ => simp

end Consul

/-! Elasticsearch. -/

namespace Elasticsearch

/-- Shards are measured as a double. -/
def Overloads (_ : Probe.Options) (body : Text) : Prop :=
  ∃ key ∈ (["number_of_nodes", "number_of_data_nodes"] : List Text),
    (Field.number body key).IsInfinite

theorem summary_succeeds {body : Text} :
    Succeeds (summary body) ↔ ¬ (Field.number body "number_of_nodes").IsInfinite ∧
      ¬ (Field.number body "number_of_data_nodes").IsInfinite := by
  rw [summary, ← Field.truncate_number_succeeds, ← Field.truncate_number_succeeds]
  apply succeeds_bind
  intro nodes cut
  apply succeeds_last
  intro dataNodes cut'
  -- What was cut off a double fits into one, so that both tokens are written.
  have fits : (Number.int nodes).Fits := Number.truncate_fits (Field.number_fits _ _) cut
  have fits' : (Number.int dataNodes).Fits := Number.truncate_fits (Field.number_fits _ _) cut'
  exact (succeeds_bind fun _ _ => succeeds_last fun _ _ => succeeds_pure _).mpr
    ⟨Metric.token_succeeds.mpr fits, Metric.token_succeeds.mpr fits'⟩

theorem judgeBody_succeeds {levels : Levels} (doubles : levels.AreDoubles) {body : Text} :
    Succeeds (judgeBody body levels) ↔ Succeeds (summary body) := by
  have measured : Succeeds (shards body levels).check :=
    (Measurement.check_succeeds rfl rfl doubles).mpr ⟨trivial, by
      simp [Measurement.TotalFits, shards, Bound.reference?]⟩
  apply succeeds_last
  intro summary _
  split
  · exact succeeds_pure _
  · exact (succeeds_last fun _ _ => succeeds_pure _).mpr measured

theorem judge_succeeds {options : Probe.Options} (doubles : options.levels.AreDoubles)
    {response : Response} (usable : isUsable response = true) :
    Succeeds (judge options response) ↔ ¬ Overloads options response.body := by
  rw [judge, if_pos usable, judgeBody_succeeds doubles, summary_succeeds, Overloads]
  simp

end Elasticsearch

/-! RabbitMQ. -/

namespace RabbitMq

/-- Messages are measured as a double. -/
def Overloads (options : Probe.Options) (body : Text) : Prop :=
  match queue? options with
  | some _ => Field.isPresent body "messages" = true ∧ (Field.number body "consumers").IsInfinite
  | none => ∃ name ∈ totals, ∃ double,
      Numeral.readDouble? (Field.nested body ("object_totals." ++ name)) = some double ∧
        double.IsInfinite

theorem total_succeeds {body name : Text} :
    Succeeds (total body name) ↔ ∀ double,
      Numeral.readDouble? (Field.nested body ("object_totals." ++ name)) = some double →
        ¬ double.IsInfinite := by
  unfold total
  cases Numeral.readDouble? (Field.nested body ("object_totals." ++ name)) with
  | none => simp
  | some value =>
    cases value <;> simp [Number.truncate_succeeds, Double.IsInfinite]

theorem total_fits (body name : Text) : Gives (total body name) fun n => (Number.int n).Fits := by
  intro n found
  unfold total at found
  split at found
  · cases found
    exact Number.zero_fits
  · cases found
    exact Number.zero_fits
  · next value _ read => exact Number.truncate_fits (Numeral.readDouble_fits read) found

theorem overview_succeeds {body : Text} :
    Succeeds (overview body) ↔ ∀ name ∈ totals, Succeeds (total body name) := by
  rw [overview, ← succeeds_mapM]
  apply succeeds_last
  intro counts found
  apply (succeeds_last fun _ _ => succeeds_pure _).mpr
  apply succeeds_mapM.mpr
  rintro ⟨name, n⟩ member
  rw [Metric.token_succeeds]
  obtain ⟨total, _, read⟩ := (mem_of_mapM found).mp (List.of_mem_zip member).2
  exact total_fits _ _ _ read

theorem judgeQueue_succeeds {body queue : Text} {levels : Levels} (doubles : levels.AreDoubles) :
    Succeeds (judgeQueue body queue levels) ↔
      ¬ (Field.isPresent body "messages" = true ∧ (Field.number body "consumers").IsInfinite) := by
  have measured : Succeeds (messages body queue levels).check :=
    (Measurement.check_succeeds rfl rfl doubles).mpr ⟨trivial, by
      simp [Measurement.TotalFits, messages, Bound.reference?]⟩
  unfold judgeQueue
  cases Field.isPresent body "messages" with
  | false => simp
  | true =>
    simp only [↓reduceIte, true_and]
    rw [← Field.truncate_number_succeeds]
    apply succeeds_last
    intro consumers cut
    have fits : (Number.int consumers).Fits := Number.truncate_fits (Field.number_fits _ _) cut
    exact (succeeds_bind fun _ _ => succeeds_last fun _ _ => succeeds_pure _).mpr
      ⟨measured, Metric.token_succeeds.mpr fits⟩

theorem judge_succeeds {options : Probe.Options} (doubles : options.levels.AreDoubles)
    {response : Response} (usable : isUsable response = true) :
    Succeeds (judge options response) ↔ ¬ Overloads options response.body := by
  rw [judge, if_pos usable, Overloads]
  cases queue? options with
  | some queue => exact judgeQueue_succeeds doubles
  | none => simp [overview_succeeds, total_succeeds]

end RabbitMq

end Service
end ServiceProbe
