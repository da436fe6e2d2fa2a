import ServiceProbe.Proofs.Counter
import ServiceProbe.Proofs.Overload
/-!
The status page of a pool of processes. Where each counter has at most one line, the page is judged by what its
lines tell of the counters, wherever they stand and whatever else is on the page.
-/
namespace ServiceProbe

open Outcome

namespace StatusPage

/-- A line has a label, whatever the case of its letters. -/
def Names (label line : Text) : Prop := ∃ own ∈ labelOf? line, SameLetters label own

instance (label line : Text) : Decidable (Names label line) :=
  inferInstanceAs (Decidable (∃ own ∈ labelOf? line, SameLetters label own))

/-- What lines tell of a label: the digits on the only line that has it, or that none has. -/
def Tells (lines : List Text) (label : Text) : Option Text → Prop
  | some digits => ∃ line, lines.filter (Names label ·) = [line] ∧ Counts label line digits
  | none => lines.filter (Names label ·) = []

/-- The number that plain digits stand for. -/
def valueOf (digits : Text) : Nat := Nat.ofDigitChars 10 digits 0

variable {label page : Text} {told : Option Text}

/-- Where the lines stand makes no difference. -/
theorem Tells.perm {lines others : List Text} (same : others.Perm lines) (tells : Tells lines label told) :
    Tells others label told := by
  have named := same.filter (Names label ·)
  cases told with
  | none => exact (tells ▸ named).eq_nil
  | some digits =>
    obtain ⟨line, only, counts⟩ := tells
    rw [only] at named
    exact ⟨line, named.eq_singleton, counts⟩

theorem sameLetters_iff {name : Text} :
    SameLetters label name ↔ label.map Text.foldedCode = name.map Text.foldedCode := by
  rw [← List.forall₂_eq_eq_eq, List.forall₂_map_left_iff, List.forall₂_map_right_iff]
  simp [SameLetters, Text.sameLetter]

/-- A line with a counter has no other label. -/
theorem Counts.names_iff {own line digits : Text} (isLabel : IsLabel own) (colonless : ':' ∉ own)
    (counts : Counts own line digits) : Names label line ↔ SameLetters label own := by
  obtain ⟨name, found, same⟩ := counts.labelOf isLabel colonless
  rw [sameLetters_iff] at same ⊢
  simp [Names, found, sameLetters_iff, same]

theorem Counts.names {line digits : Text} (isLabel : IsLabel label) (colonless : ':' ∉ label)
    (counts : Counts label line digits) : Names label line :=
  (counts.names_iff isLabel colonless).mpr (sameLetters_iff.mpr rfl)

theorem Tells.digits (isLabel : IsLabel label) (colonless : ':' ∉ label)
    (tells : Tells (page.splitOn '\n') label told) : digits? label page = told := by
  have foreign {lines : List Text} (unnamed : lines.filter (Names label ·) = []) :
      ∀ line ∈ lines, ∀ digits, ¬ Counts label line digits := by
    intro line member digits counts
    exact List.filter_eq_nil_iff.mp unnamed line member (by simpa using counts.names isLabel colonless)
  cases told with
  | none => exact (digits_eq_none_iff isLabel).mpr (foreign tells)
  | some digits =>
    obtain ⟨line, only, counts⟩ := tells
    obtain ⟨before, behind, lines, early, _⟩ := List.filter_eq_cons_iff.mp only
    exact digits_of_first isLabel lines (foreign (List.filter_eq_nil_iff.mpr early)) counts

/-- Lines are told apart by reading them. -/
theorem tells_iff (isLabel : IsLabel label) {lines : List Text} : Tells lines label told ↔
    (lines.filter (Names label ·)).map (digitsInLine? label) = told.toList.map some := by
  cases told with
  | none => simp [Tells]
  | some digits => simp [Tells, List.map_eq_singleton_iff, digitsInLine_eq_some_iff isLabel]

theorem Tells.plain {lines : List Text} (tells : Tells lines label told) :
    ∀ digits ∈ told, ∀ c ∈ digits, Text.isPlainDigit c = true := by
  rintro digits ⟨⟩
  obtain ⟨_, _, counts⟩ := tells
  exact counts.plain

end StatusPage

namespace Service.PhpFpm

open StatusPage

/-- A counter as it is shown. -/
def shown (label : Text) (n : Nat) : Text := metricName label ++ '=' :: Text.ofNat n

/-- The counters that are told, in the order in which they are shown. -/
def reported (told : Text → Option Text) : List Counter :=
  counters.map fun label => (label, (told label).map valueOf)

/-- All that is known of the counters of a page: the one line of each, if there is one, and numbers that are far
below what a double can hold. -/
structure Reports (page : Text) (told : Text → Option Text) : Prop where
  tells : ∀ label ∈ counters, Tells (page.splitOn '\n') label (told label)
  small : ∀ label ∈ counters, ∀ digits ∈ told label, valueOf digits < Power.ten 300

theorem colonless : ∀ label ∈ counters, ':' ∉ label := by
  decide

variable {page other label : Text} {told : Text → Option Text}

theorem Reports.digits (reports : Reports page told) (known : label ∈ counters) :
    digits? label page = told label :=
  (reports.tells label known).digits (isLabel_of_service.2 label known) (colonless label known)

theorem Reports.perm (same : (other.splitOn '\n').Perm (page.splitOn '\n')) (reports : Reports page told) :
    Reports other told :=
  ⟨fun label known => (reports.tells label known).perm same, reports.small⟩

/-- A page is judged by the digits that are found on it. -/
theorem judgeStatus_congr (same : ∀ label ∈ counters, digits? label page = digits? label other) :
    judgeStatus page = judgeStatus other := by
  have read : counters.mapM (readCounter page) = counters.mapM (readCounter other) := by
    apply mapM_congr
    intro label known
    rw [readCounter, readCounter, counter?, counter?, same label known]
  rw [judgeStatus, read]
  rfl

/-! What is read and what is shown. -/

theorem Reports.counter (reports : Reports page told) (known : label ∈ counters) :
    Gives (counter? page label) (· = (told label).map valueOf) := by
  intro count found
  have read := reports.digits known
  have plain := (reports.tells label known).plain
  cases content : told label with
  | none =>
    rw [content] at read
    rw [counter_eq_none_iff.mpr read] at found
    cases found
    rfl
  | some digits =>
    rw [content] at read
    rw [counter_of_digits read (plain digits content)] at found
    split at found
    · cases found
      rfl
    · cases found

/-- Only digits can be too many, since numbers as small as these fit into a double. -/
theorem Reports.judgeStatus_succeeds (reports : Reports page told) :
    Succeeds (judgeStatus page) ↔
      ∀ label ∈ counters, ∀ digits ∈ told label, digits.length ≤ OutOfRange.digitLimit := by
  rw [PhpFpm.judgeStatus_succeeds]
  simp only [not_exists, not_and, not_or]
  apply forall₂_congr
  intro label known
  have fits : ¬ TooLarge page label := by
    rintro ⟨n, found, beyond⟩
    obtain ⟨digits, content, rfl⟩ := Option.map_eq_some_iff.mp (reports.counter known _ found).symm
    have least : Power.ten 300 ≤ Double.limit := by decide +kernel
    have small := reports.small label known digits content
    omega
  simp only [TooLong, reports.digits known, not_exists, not_and, Nat.not_lt, Option.mem_def]
  exact and_iff_left fits

theorem Reports.readCounters (reports : Reports page told) :
    Gives (counters.mapM (readCounter page)) (· = reported told) := by
  refine Gives.mapM_eq fun label known => ?_
  exact (reports.counter known).bind fun count found => Gives.ok (congrArg _ found)

theorem label_metricName : ∀ label ∈ counters, Metric.label (metricName label) = metricName label := by
  decide

theorem counterMetric_shown {counter : Counter} (known : counter.1 ∈ counters) :
    Gives (counterMetric? counter) (· = counter.2.map (shown counter.1)) := by
  obtain ⟨label, count⟩ := counter
  cases count with
  | none => exact Gives.ok rfl
  | some n =>
    refine Gives.map fun token written => ?_
    rw [Metric.token_int _ _ token written, label_metricName label known]
    rfl

theorem counterMetrics_shown (told : Text → Option Text) :
    Gives ((reported told).mapM counterMetric?)
      (· = counters.map fun label => (told label).map (shown label ∘ valueOf)) := by
  have each : ∀ counter ∈ reported told,
      Gives (counterMetric? counter) (· = counter.2.map (shown counter.1)) := by
    rintro counter member
    obtain ⟨label, known, rfl⟩ := List.mem_map.mp member
    exact counterMetric_shown known
  intro metrics written
  rw [Gives.mapM_eq each metrics written, reported, List.map_map]
  simp

theorem find_counter (count : Text → Option Nat) {labels : List Text} (known : label ∈ labels) :
    find? (labels.map fun label => (label, count label)) label = count label := by
  induction labels with
  | nil => cases known
  | cons first labels ih =>
    by_cases same : first = label
    · simp [find?, same]
    · have later := ih (List.mem_of_ne_of_mem (Ne.symm same) known)
      simpa [find?, same] using later

theorem Reports.judgeStatus_tells (reports : Reports page told) :
    Gives (judgeStatus page) fun result =>
      result.state = (if ∃ digits ∈ told childrenLimit, 0 < valueOf digits then .warning else .ok) ∧
        result.metrics = counters.filterMap fun label => (told label).map (shown label ∘ valueOf) := by
  refine reports.readCounters.bind ?_
  rintro _ rfl
  refine (counterMetrics_shown told).bind ?_
  rintro _ rfl
  have limit : find? (reported told) childrenLimit = (told childrenLimit).map valueOf :=
    find_counter (fun label => (told label).map valueOf) (by decide)
  rw [limit, List.filterMap_map]
  cases content : told childrenLimit with
  | none => exact Gives.ok (by simp)
  | some digits =>
    cases reached : valueOf digits with
    | zero =>
      simp only [Option.map_some, reached]
      exact Gives.ok (by simp [reached])
    | succ n =>
      simp only [Option.map_some, reached]
      exact Gives.ok (by simp [reached])

/-- A pool is judged by its counters, with a warning if and only if it ran out of processes. All that are told
are shown, in one order, and the lines may stand in any. -/
theorem judgeStatus_of_lines (reports : Reports page told) :
    (Succeeds (judgeStatus page) ↔
      ∀ label ∈ counters, ∀ digits ∈ told label, digits.length ≤ OutOfRange.digitLimit) ∧
    (∀ result, judgeStatus page = .ok result →
      result.state = (if ∃ digits ∈ told childrenLimit, 0 < valueOf digits then .warning else .ok) ∧
        result.metrics = counters.filterMap fun label => (told label).map (shown label ∘ valueOf)) ∧
    ∀ other : Text, (other.splitOn '\n').Perm (page.splitOn '\n') → judgeStatus other = judgeStatus page := by
  refine ⟨reports.judgeStatus_succeeds, reports.judgeStatus_tells, ?_⟩
  intro other same
  apply judgeStatus_congr
  intro label known
  rw [(reports.perm same).digits known, reports.digits known]

/-- A label within another one, in other letters, behind blanks and before zeros. -/
theorem judgeStatus_of_exhausted_pool :
    let page : Text :=
      "pool: www\n\tACTIVE Processes :  007\r\nmax active processes: 9\nMax Children Reached: 2\n"
    let turned : Text :=
      "\nMax Children Reached: 2\nmax active processes: 9\n\tACTIVE Processes :  007\r\npool: www"
    let numbers : List (Text × Text) :=
      [(active, "007"), ("max active processes", "9"), (childrenLimit, "2")]
    Reports page (numbers.lookup ·) ∧ (turned.splitOn '\n').Perm (page.splitOn '\n') ∧
      ∃ result, judgeStatus page = .ok result ∧ judgeStatus turned = .ok result ∧
        result.state = .warning ∧
        result.metrics = ["active_processes=7", "max_active_processes=9", "max_children_reached=2"] := by
  intro page turned numbers
  have tells : ∀ label ∈ counters, Tells (page.splitOn '\n') label (numbers.lookup label) := by
    intro label known
    rw [tells_iff (isLabel_of_service.2 label known)]
    revert label
    decide +kernel
  have small : ∀ label ∈ counters, ∀ digits ∈ numbers.lookup label, valueOf digits < Power.ten 300 := by
    decide +kernel
  have same : (turned.splitOn '\n').Perm (page.splitOn '\n') := by decide +kernel
  have reports : Reports page (numbers.lookup ·) := ⟨tells, small⟩
  obtain ⟨succeeds, judged, turns⟩ := judgeStatus_of_lines reports
  obtain ⟨result, found⟩ := succeeds.mpr (by decide +kernel)
  obtain ⟨state, metrics⟩ := judged result found
  refine ⟨reports, same, result, found, (turns turned same).trans found, state.trans ?_, metrics.trans ?_⟩
  · decide +kernel
  · decide +kernel

/-! Numbers that are not read. -/

/-- No two counters have labels of the same letters. -/
theorem alike_iff : ∀ label ∈ counters, ∀ own ∈ counters, SameLetters label own ↔ label = own := by
  decide +kernel

theorem reports_line {own line digits : Text} (known : own ∈ counters) (single : '\n' ∉ line)
    (counts : Counts own line digits) (small : valueOf digits < Power.ten 300) :
    Reports line fun label => if label = own then some digits else none := by
  refine ⟨fun label member => ?_, fun label _ number content => ?_⟩
  · have named := (counts.names_iff (isLabel_of_service.2 own known) (colonless own known)).trans
      (alike_iff label member own known)
    rw [List.splitOn_eq_singleton single]
    by_cases same : label = own
    · rw [if_pos same]
      exact ⟨line, by simp [named.mpr same], same ▸ counts⟩
    · rw [if_neg same]
      simp [Tells, named, same]
  · obtain ⟨_, same⟩ := Option.ite_none_right_eq_some.mp content
    rwa [← Option.some.inj same]

theorem judgeStatus_too_long {digits : Text} (found : digits? active page = some digits)
    (plain : ∀ c ∈ digits, Text.isPlainDigit c = true) (long : OutOfRange.digitLimit < digits.length) :
    judgeStatus page = .error (.tooManyDigits digits.length) := by
  have unread : readCounter page active = .error (.tooManyDigits digits.length) := by
    rw [readCounter, counter_of_digits found plain, if_neg (Nat.not_le.mpr long)]
    rfl
  rw [judgeStatus, counters, List.mapM_cons, unread]
  rfl

/-- Zeros in front of a number are digits as well. -/
theorem padded_counter_is_not_read :
    let zeros : Text := List.replicate 4301 '0'
    let page : Text := "active processes: " ++ zeros
    let told : Text → Option Text := fun label => if label = active then some zeros else none
    Reports page told ∧ valueOf zeros = 0 ∧ judgeStatus page = .error (.tooManyDigits 4301) := by
  intro zeros page told
  have plain : ∀ c ∈ zeros, Text.isPlainDigit c = true := by
    intro c member
    rw [List.eq_of_mem_replicate member]
    decide
  have single : '\n' ∉ page := by
    have noDigit : '\n' ∉ zeros := fun member => absurd (plain _ member) (by decide)
    simp [page, noDigit]
  have counts : Counts active page zeros := by
    have whole : (": " : Text) ++ zeros = [] ++ ':' :: (" ".toList ++ (zeros ++ [])) := by
      rw [List.append_nil]
      rfl
    exact ⟨[], active, ": " ++ zeros, rfl, by decide, by decide +kernel, [], " ", [], whole, by decide,
      by decide, List.cons_ne_nil _ _, plain, by simp⟩
  have nothing : valueOf zeros = 0 := by decide +kernel
  have small : valueOf zeros < Power.ten 300 := by
    rw [nothing]
    decide +kernel
  have reports : Reports page told := reports_line List.mem_cons_self single counts small
  have size : zeros.length = 4301 := List.length_replicate
  have failed := judgeStatus_too_long (reports.digits List.mem_cons_self) plain (by rw [size]; decide)
  rw [size] at failed
  exact ⟨reports, nothing, failed⟩

end Service.PhpFpm

end ServiceProbe
