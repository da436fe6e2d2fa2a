import Mathlib.Data.List.Forall2
import ServiceProbe.Proofs.Words
import ServiceProbe.Service.Apache
import ServiceProbe.Service.PhpFpm
/-!
Counters on a status page. What is found on a page is told by its lines: each line is read on its own,
and the first that has the form of a counter is taken.
-/
namespace ServiceProbe

namespace Text

/-! Classes of letters. What stands before all letters is alone in its class. -/

/-- No row reaches below the letters, and none folds to below them. -/
theorem foldRows_above : ∀ row ∈ foldRows, 65 + row.distance ≤ row.first := by
  decide +kernel

theorem foldedCode_low {c : Char} (low : c.toNat < 65) : foldedCode c = c.toNat := by
  have uncovered : foldRows.find? (·.covers c.toNat) = none := by
    rw [List.find?_eq_none]
    intro row member covered
    have first := foldRows_above row member
    simp only [FoldRow.covers, Bool.and_eq_true, decide_eq_true_eq] at covered
    omega
  rw [foldedCode, uncovered]

theorem foldedCode_high {c : Char} (high : 65 ≤ c.toNat) : 65 ≤ foldedCode c := by
  unfold foldedCode
  split
  · next row found =>
    have first := foldRows_above row (List.mem_of_find?_eq_some found)
    have covered := List.find?_some found
    simp only [FoldRow.covers, Bool.and_eq_true, decide_eq_true_eq] at covered
    omega
  · exact high

theorem sameLetter_low {a b : Char} (same : sameLetter a b = true)
    (low : a.toNat < 65 ∨ b.toNat < 65) : a = b := by
  have codes : foldedCode a = foldedCode b := by simpa [sameLetter] using same
  have both : a.toNat < 65 ∧ b.toNat < 65 := by
    by_cases high : 65 ≤ a.toNat
    · have left := foldedCode_high high
      have right := foldedCode_low (low.resolve_left (by omega))
      omega
    · have left := foldedCode_low (c := a) (by omega)
      refine ⟨by omega, ?_⟩
      apply Classical.byContradiction
      intro other
      have right := foldedCode_high (c := b) (by omega)
      omega
  rw [foldedCode_low both.1, foldedCode_low both.2] at codes
  exact Char.toNat_inj.mp codes

end Text

namespace StatusPage

/-- The same letters in the same places, whatever their case. -/
def SameLetters (label name : Text) : Prop :=
  List.Forall₂ (fun a b => Text.sameLetter a b = true) label name

instance (label name : Text) : Decidable (SameLetters label name) :=
  inferInstanceAs (Decidable (List.Forall₂ _ label name))

def Spaced (text : Text) : Prop := ∀ c ∈ text, isSpacing c = true

instance (text : Text) : Decidable (Spaced text) :=
  decidable_of_iff (text.all isSpacing = true) List.all_eq_true

/-- A text that can label a line: it stays on the line and has no spacing around it. -/
structure IsLabel (label : Text) : Prop where
  filled : label ≠ []
  onLine : '\n' ∉ label
  begins : ∀ c ∈ label.head?, isSpacing c = false
  ends : ∀ c ∈ label.getLast?, isSpacing c = false

theorem isLabel_iff {label : Text} : IsLabel label ↔ label ≠ [] ∧ '\n' ∉ label ∧
    label.head?.all (!isSpacing ·) = true ∧ label.getLast?.all (!isSpacing ·) = true := by
  simp only [Option.all_eq_true, Bool.not_eq_true']
  constructor
  · rintro ⟨filled, onLine, begins, ends⟩
    exact ⟨filled, onLine, begins, ends⟩
  · rintro ⟨filled, onLine, begins, ends⟩
    exact ⟨filled, onLine, begins, ends⟩

instance (label : Text) : Decidable (IsLabel label) := decidable_of_iff' _ isLabel_iff

/-- All that a service looks for on its status page is a label. -/
theorem isLabel_of_service :
    (∀ label ∈ "BusyWorkers".toList :: "IdleWorkers".toList :: Service.Apache.counters.map Prod.fst,
      IsLabel label) ∧ ∀ label ∈ Service.PhpFpm.counters, IsLabel label := by
  decide +kernel

/-- Spacing, a colon, spacing, digits and no further digit. -/
def Follows (digits behind : Text) : Prop :=
  ∃ gap space rest, behind = gap ++ ':' :: (space ++ (digits ++ rest)) ∧ Spaced gap ∧ Spaced space ∧
    digits ≠ [] ∧ (∀ c ∈ digits, Text.isPlainDigit c = true) ∧
    ∀ c ∈ rest.head?, Text.isPlainDigit c = false

/-- Spacing and a label, with digits that follow it. -/
def Counts (label line digits : Text) : Prop :=
  ∃ indent name behind, line = indent ++ (name ++ behind) ∧ Spaced indent ∧
    SameLetters label name ∧ Follows digits behind

/-- The label of a line: what stands before its first colon, without the spacing around it. -/
def labelOf? (line : Text) : Option Text :=
  match Text.cut ':' line with
  | (before, some _) => some (Text.trim isSpacing before)
  | (_, none) => none

/-! Spacing. -/

theorem isSpacing_low {c : Char} (spacing : isSpacing c = true) : c.toNat < 65 := by
  simp only [isSpacing, Bool.or_eq_true, beq_iff_eq] at spacing
  rcases spacing with rfl | rfl <;> decide

theorem isSpacing_plainDigit {c : Char} (digit : Text.isPlainDigit c = true) :
    isSpacing c = false := by
  rw [Bool.eq_false_iff]
  intro spacing
  simp only [isSpacing, Bool.or_eq_true, beq_iff_eq] at spacing
  rcases spacing with rfl | rfl <;> exact absurd digit (by decide)

theorem Spaced.not_mem {text : Text} {c : Char} (spaced : Spaced text) (other : isSpacing c = false) :
    c ∉ text := by
  intro member
  rw [spaced c member] at other
  cases other

theorem skipSpacing_run {front rest : Text} (spaced : Spaced front)
    (solid : ∀ c ∈ rest.head?, isSpacing c = false) : skipSpacing (front ++ rest) = rest :=
  Text.dropWhile_run spaced solid

/-- A text is its leading spacing and the rest, which begins with something else. -/
theorem spacing_split (text : Text) : ∃ front, text = front ++ skipSpacing text ∧ Spaced front := by
  refine ⟨text.takeWhile isSpacing, ?_, fun c member => List.mem_takeWhile_imp member⟩
  exact (List.takeWhile_append_dropWhile).symm

/-! Labels. -/

section Label

variable {label name : Text} (same : SameLetters label name)

include same

theorem SameLetters.mem_iff {mark : Char} (low : mark.toNat < 65) : mark ∈ label ↔ mark ∈ name := by
  unfold SameLetters at same
  induction same with
  | nil => rfl
  | @cons a b label name letter _ ih =>
    have alone : mark = a ↔ mark = b := by
      constructor
      · rintro rfl
        exact Text.sameLetter_low letter (Or.inl low)
      · rintro rfl
        exact (Text.sameLetter_low letter (Or.inr low)).symm
    rw [List.mem_cons, List.mem_cons, alone, ih]

theorem SameLetters.head_solid (solid : ∀ c ∈ label.head?, isSpacing c = false) :
    ∀ c ∈ name.head?, isSpacing c = false := by
  cases same with
  | nil => simp
  | @cons a b _ _ letter _ =>
    rintro _ ⟨⟩
    rw [Bool.eq_false_iff]
    intro spacing
    obtain rfl := Text.sameLetter_low letter (Or.inr (isSpacing_low spacing))
    exact absurd spacing (by simp [solid a rfl])

theorem SameLetters.last_solid (solid : ∀ c ∈ label.getLast?, isSpacing c = false) :
    ∀ c ∈ name.getLast?, isSpacing c = false := by
  have reversed : SameLetters label.reverse name.reverse := List.forall₂_reverse_iff.mpr same
  simp only [← List.head?_reverse] at solid ⊢
  exact reversed.head_solid solid

end Label

theorem afterIgnoringCase_eq_some_iff {label text rest : Text} :
    Text.afterIgnoringCase? label text = some rest ↔
      ∃ name, text = name ++ rest ∧ SameLetters label name := by
  induction label generalizing text with
  | nil =>
    constructor
    · rintro ⟨⟩
      exact ⟨[], rfl, .nil⟩
    · rintro ⟨name, rfl, same⟩
      cases same
      rfl
  | cons a label ih =>
    cases text with
    | nil =>
      constructor
      · rintro ⟨⟩
      · rintro ⟨name, whole, same⟩
        cases same
        cases whole
    | cons b text =>
      unfold Text.afterIgnoringCase?
      constructor
      · intro found
        split at found
        · next letter =>
          obtain ⟨name, rfl, same⟩ := ih.mp found
          exact ⟨b :: name, rfl, .cons letter same⟩
        · cases found
      · rintro ⟨name, whole, same⟩
        cases same with
        | @cons _ c _ name letter same =>
          obtain ⟨rfl, rfl⟩ := List.cons.inj whole
          rw [if_pos letter]
          exact ih.mpr ⟨name, rfl, same⟩

/-! One line. -/

theorem follows_iff {digits behind : Text} :
    Follows digits behind ↔ ∃ text, Text.after? [':'] (skipSpacing behind) = some text ∧
      (skipSpacing text).takeWhile Text.isPlainDigit = digits ∧ digits ≠ [] := by
  constructor
  · rintro ⟨gap, space, rest, rfl, gapSpaced, spaceSpaced, filled, plain, ended⟩
    refine ⟨space ++ (digits ++ rest), ?_, ?_, filled⟩
    · rw [skipSpacing_run gapSpaced (by simp [isSpacing]), Text.after_some]
      rfl
    · have solid : ∀ c ∈ (digits ++ rest).head?, isSpacing c = false := by
        obtain ⟨d, others, rfl⟩ := List.exists_cons_of_ne_nil filled
        rintro _ ⟨⟩
        exact isSpacing_plainDigit (plain d List.mem_cons_self)
      rw [skipSpacing_run spaceSpaced solid, Text.takeWhile_run plain ended]
  · rintro ⟨text, colon, rfl, filled⟩
    obtain ⟨gap, whole, gapSpaced⟩ := spacing_split behind
    obtain ⟨space, inner, spaceSpaced⟩ := spacing_split text
    rw [Text.after_some] at colon
    refine ⟨gap, space, (skipSpacing text).dropWhile Text.isPlainDigit, ?_, gapSpaced, spaceSpaced,
      filled, fun c member => List.mem_takeWhile_imp member, fun _ => Text.dropWhile_begins⟩
    rw [List.takeWhile_append_dropWhile, ← inner, whole, colon]
    rfl

theorem digitsBehind_eq_some_iff {label text digits : Text} :
    digitsBehind? label text = some digits ↔
      ∃ name behind, text = name ++ behind ∧ SameLetters label name ∧ Follows digits behind := by
  simp only [digitsBehind?, Option.bind_eq_bind, Option.bind_eq_some_iff,
    afterIgnoringCase_eq_some_iff, follows_iff]
  constructor
  · rintro ⟨behind, ⟨name, rfl, same⟩, text, colon, found⟩
    split at found
    · cases found
    · next filled =>
      cases found
      exact ⟨name, behind, rfl, same, text, colon, rfl, by simpa using filled⟩
  · rintro ⟨name, behind, rfl, same, text, colon, rfl, filled⟩
    exact ⟨behind, ⟨name, rfl, same⟩, text, colon, if_neg (by simpa using filled)⟩

/-- A counter is told by a head of its line, whatever comes behind but a digit. -/
theorem Counts.front {label line digits : Text} (counts : Counts label line digits)
    (onLine : '\n' ∉ label) : ∃ front rest, line = front ++ rest ∧ '\n' ∉ front ∧
      (∀ c ∈ rest.head?, Text.isPlainDigit c = false) ∧
      ∀ other : Text, (∀ c ∈ other.head?, Text.isPlainDigit c = false) →
        Counts label (front ++ other) digits := by
  obtain ⟨indent, name, behind, rfl, spaced, same, gap, space, rest, rfl, gapSpaced, spaceSpaced,
    filled, plain, ended⟩ := counts
  have foreign : isSpacing '\n' = false := rfl
  have noDigit : '\n' ∉ digits := fun member => absurd (plain _ member) (by decide)
  have noLetter : '\n' ∉ name := fun member => onLine ((same.mem_iff (by decide)).mpr member)
  refine ⟨indent ++ (name ++ (gap ++ ':' :: (space ++ digits))), rest, by simp, ?_, ended, ?_⟩
  · simp [spaced.not_mem foreign, gapSpaced.not_mem foreign, spaceSpaced.not_mem foreign, noDigit,
      noLetter]
  · intro other ended
    exact ⟨indent, name, gap ++ ':' :: (space ++ (digits ++ other)), by simp, spaced, same, gap, space,
      other, rfl, gapSpaced, spaceSpaced, filled, plain, ended⟩

/-- What stands on the lines behind changes nothing. -/
theorem counts_line {label line more digits : Text} (onLine : '\n' ∉ label) :
    Counts label (line ++ '\n' :: more) digits ↔ Counts label line digits := by
  constructor
  · intro counts
    obtain ⟨front, rest, whole, foreign, ended, again⟩ := counts.front onLine
    rcases List.append_eq_append_iff.mp whole with ⟨middle, head, back⟩ | ⟨middle, rfl, rfl⟩
    · -- The front cannot go on behind the line.
      cases middle with
      | nil =>
        rw [List.append_nil] at head
        subst head
        simpa using again [] (by simp)
      | cons c middle =>
        obtain ⟨rfl, _⟩ := List.cons.inj back
        exact absurd (by simp [head]) foreign
    · refine again middle fun c first => ended c ?_
      rw [Option.mem_def] at first ⊢
      rw [List.head?_append, first]
      rfl
  · intro counts
    obtain ⟨front, rest, rfl, _, ended, again⟩ := counts.front onLine
    rw [List.append_assoc]
    refine again _ fun c first => ?_
    cases rest with
    | nil =>
      cases first
      decide
    | cons d rest => exact ended c first

section Line

variable {label : Text} (isLabel : IsLabel label)

include isLabel

theorem digitsBehind_spacing {c : Char} (spacing : isSpacing c = true) (rest : Text) :
    digitsBehind? label (c :: rest) = none := by
  rw [Option.eq_none_iff_forall_not_mem]
  intro digits found
  obtain ⟨name, behind, whole, same, _⟩ := digitsBehind_eq_some_iff.mp found
  have solid := same.head_solid isLabel.begins
  cases same with
  | nil => exact isLabel.filled rfl
  | cons =>
    obtain ⟨rfl, _⟩ := List.cons.inj whole
    exact absurd spacing (by simp [solid c rfl])

/-- A label that does not begin with spacing is looked for in one place only. -/
theorem digitsInLine_eq (text : Text) :
    digitsInLine? label text = digitsBehind? label (skipSpacing text) := by
  induction text with
  | nil => rfl
  | cons c rest ih =>
    rw [digitsInLine?]
    by_cases spacing : isSpacing c = true
    · have skipped : skipSpacing (c :: rest) = skipSpacing rest := by simp [skipSpacing, spacing]
      rw [if_pos spacing, ih, skipped, digitsBehind_spacing isLabel spacing]
      cases digitsBehind? label (skipSpacing rest) <;> rfl
    · have solid : skipSpacing (c :: rest) = c :: rest := by simp [skipSpacing, spacing]
      rw [if_neg spacing, solid]

theorem digitsInLine_eq_some_iff {line digits : Text} :
    digitsInLine? label line = some digits ↔ Counts label line digits := by
  rw [digitsInLine_eq isLabel, digitsBehind_eq_some_iff]
  constructor
  · rintro ⟨name, behind, text, same, follows⟩
    obtain ⟨indent, whole, spaced⟩ := spacing_split line
    exact ⟨indent, name, behind, text ▸ whole, spaced, same, follows⟩
  · rintro ⟨indent, name, behind, rfl, spaced, same, follows⟩
    refine ⟨name, behind, ?_, same, follows⟩
    have solid : ∀ c ∈ (name ++ behind).head?, isSpacing c = false := by
      have begins := same.head_solid isLabel.begins
      cases same with
      | nil => exact absurd rfl isLabel.filled
      | cons => exact begins
    rw [skipSpacing_run spaced solid]

theorem digitsInLine_line (line more : Text) :
    digitsInLine? label (line ++ '\n' :: more) = digitsInLine? label line :=
  Option.ext fun _ => by
    rw [digitsInLine_eq_some_iff isLabel, digitsInLine_eq_some_iff isLabel, counts_line isLabel.onLine]

end Line

/-! Pages. -/

section Page

variable {label : Text}

theorem laterDigits_line {line : Text} (whole : '\n' ∉ line) (more : Text) :
    digits?.laterDigits? label (line ++ '\n' :: more) = digits? label more := by
  induction line with
  | nil => simp [digits?.laterDigits?, digits?]
  | cons c line ih =>
    rw [List.mem_cons, not_or] at whole
    simp [digits?.laterDigits?, Ne.symm whole.1, ih whole.2]

theorem laterDigits_none {line : Text} (whole : '\n' ∉ line) :
    digits?.laterDigits? label line = none := by
  induction line with
  | nil => rfl
  | cons c line ih =>
    rw [List.mem_cons, not_or] at whole
    simp [digits?.laterDigits?, Ne.symm whole.1, ih whole.2]

/-- A page is read line by line. -/
theorem digits_eq (isLabel : IsLabel label) (page : Text) :
    digits? label page = (page.splitOn '\n').findSome? (digitsInLine? label) := by
  by_cases more : '\n' ∈ page
  · obtain ⟨line, rest, parts, whole⟩ := List.eq_append_cons_of_mem more
    have shorter : rest.length < page.length := by
      rw [parts, List.length_append, List.length_cons]
      omega
    have later := digits_eq isLabel rest
    rw [parts, List.splitOn_append_cons_self_of_not_mem whole, List.findSome?_cons, digits?,
      digitsInLine_line isLabel, laterDigits_line whole, later]
    cases digitsInLine? label line <;> rfl
  · rw [List.splitOn_eq_singleton more, digits?, laterDigits_none more]
    cases found : digitsInLine? label page <;> simp [found]
termination_by page.length

/-- The first line with a counter tells the digits of a page. -/
theorem digits_of_first (isLabel : IsLabel label) {page line digits : Text}
    {before behind : List Text} (lines : page.splitOn '\n' = before ++ line :: behind)
    (first : ∀ other ∈ before, ∀ digits, ¬ Counts label other digits)
    (counts : Counts label line digits) : digits? label page = some digits := by
  have early : before.findSome? (digitsInLine? label) = none := by
    rw [List.findSome?_eq_none_iff]
    intro other member
    rw [Option.eq_none_iff_forall_ne_some]
    exact fun digits found => first other member digits ((digitsInLine_eq_some_iff isLabel).mp found)
  rw [digits_eq isLabel, lines, List.findSome?_append, early, Option.none_or, List.findSome?_cons,
    (digitsInLine_eq_some_iff isLabel).mpr counts]

theorem digits_eq_none_iff (isLabel : IsLabel label) {page : Text} :
    digits? label page = none ↔ ∀ line ∈ page.splitOn '\n', ∀ digits, ¬ Counts label line digits := by
  rw [digits_eq isLabel, List.findSome?_eq_none_iff]
  simp only [← digitsInLine_eq_some_iff isLabel, Option.eq_none_iff_forall_ne_some, ne_eq]

theorem Counts.plain {line digits : Text} (counts : Counts label line digits) :
    ∀ c ∈ digits, Text.isPlainDigit c = true := by
  obtain ⟨_, _, _, _, _, _, _, _, _, _, _, _, _, plain, _⟩ := counts
  exact plain

theorem counter_of_digits {page digits : Text} (found : digits? label page = some digits)
    (plain : ∀ c ∈ digits, Text.isPlainDigit c = true) :
    counter? page label =
      if digits.length ≤ OutOfRange.digitLimit then .ok (some (Nat.ofDigitChars 10 digits 0))
      else .error (.tooManyDigits digits.length) := by
  simp only [counter?, found, Numeral.readDigits, Numeral.numberOf_plain plain]
  by_cases short : digits.length ≤ OutOfRange.digitLimit
  · rw [if_neg (by omega), if_pos short]
    rfl
  · rw [if_pos (by omega), if_neg short]
    rfl

theorem counter_eq_none_iff {page : Text} :
    counter? page label = .ok none ↔ digits? label page = none := by
  unfold counter? Numeral.readDigits
  cases digits? label page with
  | none => simp
  | some digits =>
    dsimp only
    split <;> simp

end Page

/-! The label of a line. -/

theorem trim_spaced {indent name gap : Text} (spaced : Spaced indent) (gapSpaced : Spaced gap)
    (filled : name ≠ []) (begins : ∀ c ∈ name.head?, isSpacing c = false)
    (ends : ∀ c ∈ name.getLast?, isSpacing c = false) :
    Text.trim isSpacing (indent ++ (name ++ gap)) = name := by
  have front : (indent ++ (name ++ gap)).dropWhile isSpacing = name ++ gap := by
    have solid : ∀ c ∈ (name ++ gap).head?, isSpacing c = false := by
      obtain ⟨c, others, rfl⟩ := List.exists_cons_of_ne_nil filled
      exact begins
    exact Text.dropWhile_run spaced solid
  have back : Text.dropEnd isSpacing gap = [] := by
    have none : gap.reverse.dropWhile isSpacing = [] :=
      List.dropWhile_eq_nil_iff.mpr fun c member => gapSpaced c (List.mem_reverse.mp member)
    rw [Text.dropEnd, none, List.reverse_nil]
  rw [Text.trim, front, Text.dropEnd_append ends, back, List.append_nil]

theorem colon_not_mem_labelOf {line own : Text} (found : labelOf? line = some own) : ':' ∉ own := by
  have foreign := Text.not_mem_cut ':' line
  unfold labelOf? at found
  split at found
  · next before behind parts =>
    rw [parts] at foreign
    cases found
    exact fun member => foreign (Text.trim_subset _ _ member)
  · cases found

/-- A line with a counter has the label that is looked for. -/
theorem Counts.labelOf {label line digits : Text} (isLabel : IsLabel label)
    (counts : Counts label line digits) (colonless : ':' ∉ label) :
    ∃ name, labelOf? line = some name ∧ SameLetters label name := by
  obtain ⟨indent, name, behind, rfl, spaced, same, gap, space, rest, rfl, gapSpaced, _⟩ := counts
  have foreign : isSpacing ':' = false := rfl
  have noLetter : ':' ∉ name := fun member => colonless ((same.mem_iff (by decide)).mpr member)
  have filled : name ≠ [] := by
    rintro rfl
    cases same
    exact isLabel.filled rfl
  have before : ':' ∉ indent ++ (name ++ gap) := by
    simp [spaced.not_mem foreign, gapSpaced.not_mem foreign, noLetter]
  refine ⟨name, ?_, same⟩
  have parts : indent ++ (name ++ (gap ++ ':' :: (space ++ (digits ++ rest)))) =
      indent ++ (name ++ gap) ++ ':' :: (space ++ (digits ++ rest)) := by simp
  have trimmed := trim_spaced spaced gapSpaced filled (same.head_solid isLabel.begins)
    (same.last_solid isLabel.ends)
  rw [parts, labelOf?, Text.cut_append before]
  dsimp only
  rw [trimmed]

/-- A line is not taken for a label that is only a part of its own. -/
theorem not_counts_of_part {label line own part : Text} (isLabel : IsLabel label)
    (labelled : labelOf? line = some own) (inside : part <:+: own) (same : SameLetters label part)
    (less : part ≠ own) (digits : Text) : ¬ Counts label line digits := by
  intro counts
  by_cases colonless : ':' ∈ label
  · have member := (same.mem_iff (by decide)).mp colonless
    exact colon_not_mem_labelOf labelled (inside.subset member)
  · obtain ⟨name, found, alike⟩ := counts.labelOf isLabel colonless
    rw [labelled] at found
    obtain rfl := Option.some.inj found
    have sizes : part.length = own.length := same.length_eq.symm.trans alike.length_eq
    exact less (inside.eq_of_length sizes)

/-- The counter of a label is told by the first line that has its form, with all its digits. There is
none only where no line has that form, and a line is not taken for a part of its label. -/
theorem counter_of_lines {label : Text} (isLabel : IsLabel label) (page : Text) :
    (∀ before line behind digits, page.splitOn '\n' = before ++ line :: behind →
      (∀ other ∈ before, ∀ digits, ¬ Counts label other digits) → Counts label line digits →
        counter? page label =
          if digits.length ≤ OutOfRange.digitLimit then .ok (some (Nat.ofDigitChars 10 digits 0))
          else .error (.tooManyDigits digits.length)) ∧
    (counter? page label = .ok none ↔
      ∀ line ∈ page.splitOn '\n', ∀ digits, ¬ Counts label line digits) ∧
    ∀ line own part, labelOf? line = some own → part <:+: own → SameLetters label part →
      part ≠ own → ∀ digits, ¬ Counts label line digits := by
  refine ⟨?first, ?none, ?part⟩
  case first =>
    intro before line behind digits lines first counts
    exact counter_of_digits (digits_of_first isLabel lines first counts) counts.plain
  case none => rw [counter_eq_none_iff, digits_eq_none_iff isLabel]
  case part =>
    intro line own part labelled inside same less
    exact not_counts_of_part isLabel labelled inside same less

/-- The counter of a longer label stands before the one that is looked for. -/
theorem counter_of_second_line :
    let label : Text := "active processes"
    let line : Text := "  Active Processes : 12 of 50"
    let page : Text := "max active processes: 7\n" ++ line
    IsLabel label ∧ Counts label line "12" ∧
      (∀ digits, ¬ Counts label "max active processes: 7" digits) ∧
      counter? page label = .ok (some 12) := by
  intro label line page
  have isLabel : IsLabel label := by decide
  have same : SameLetters label "Active Processes" := by decide +kernel
  have digits : ∀ c ∈ "12".toList, Text.isPlainDigit c = true := List.all_eq_true.mp (by decide)
  have ended : ∀ c ∈ (" of 50" : Text).head?, Text.isPlainDigit c = false := by
    rintro _ ⟨⟩
    rfl
  have counts : Counts label line "12" :=
    ⟨"  ", "Active Processes", " : 12 of 50", rfl, by decide, same, " ", " ", " of 50", rfl, by decide,
      by decide, by decide, digits, ended⟩
  have alike : SameLetters label label := List.forall₂_same.mpr fun _ _ => beq_self_eq_true _
  have labelled : labelOf? "max active processes: 7" = some "max active processes" := by decide +kernel
  have inside : label <:+: "max active processes" := ⟨"max ", [], rfl⟩
  have less : label ≠ "max active processes" := by decide
  obtain ⟨first, _, part⟩ := counter_of_lines isLabel page
  have longer := part _ _ label labelled inside alike less
  have lines : page.splitOn '\n' = ["max active processes: 7".toList] ++ line :: [] := by
    decide +kernel
  have early : ∀ other ∈ ["max active processes: 7".toList], ∀ digits, ¬ Counts label other digits := by
    rw [List.forall_mem_singleton]
    exact longer
  exact ⟨isLabel, counts, longer, first _ line [] "12" lines early counts⟩

end StatusPage
end ServiceProbe
