import Mathlib.Data.List.DropRight
import Mathlib.Data.List.TakeWhile
import ServiceProbe.Number.Numeral
import ServiceProbe.Proofs.Search
/-!
Words and the whole numbers among them. A word ends at a blank, and a word of plain digits is read as
the number that they denote.
-/
namespace ServiceProbe

namespace Text

/-! White space at the ends of a text. -/

theorem skipBlanks_blank {gap : Text} (blank : ∀ c ∈ gap, isBlank c = true) (rest : Text) :
    skipBlanks (gap ++ rest) = skipBlanks rest :=
  List.dropWhile_append_of_pos blank

theorem skipBlanks_solid {c : Char} (solid : isBlank c = false) (rest : Text) :
    skipBlanks (c :: rest) = c :: rest := by
  rw [skipBlanks, List.dropWhile_cons_of_neg (by simp [solid])]

/-- Every text is white space and what is left without it. -/
theorem exists_gap (text : Text) :
    ∃ gap, (∀ c ∈ gap, isBlank c = true) ∧ text = gap ++ skipBlanks text := by
  refine ⟨text.takeWhile isBlank, ?_, List.takeWhile_append_dropWhile.symm⟩
  intro c member
  exact List.mem_takeWhile_imp member

theorem strip_blank {gap : Text} (blank : ∀ c ∈ gap, isBlank c = true) (text : Text) :
    strip (gap ++ text) = strip text := by
  rw [strip, strip, trim, trim, List.dropWhile_append_of_pos blank]

theorem trim_foreign {member : Char → Bool} {text : Text}
    (foreign : ∀ c ∈ text, member c = false) : trim member text = text := by
  have stays : ∀ {other : Text}, (∀ c ∈ other, member c = false) →
      other.dropWhile member = other := by
    intro other foreign
    apply List.dropWhile_eq_self_iff.mpr
    intro some
    simp [foreign _ (List.getElem_mem some)]
  have reversed : ∀ c ∈ text.reverse, member c = false :=
    fun c here => foreign c (List.mem_reverse.mp here)
  rw [trim, stays foreign, dropEnd, stays reversed, List.reverse_reverse]

theorem trim_subset (member : Char → Bool) (text : Text) : trim member text ⊆ text := by
  have front : trim member text <+: text.dropWhile member := List.rdropWhile_prefix member _
  exact List.Subset.trans front.subset (List.dropWhile_subset _)

/-- Only what stands behind a last character that stays can be dropped from the end. -/
theorem dropEnd_append {member : Char → Bool} {front : Text}
    (stays : ∀ c ∈ front.getLast?, member c = false) (text : Text) :
    dropEnd member (front ++ text) = front ++ dropEnd member text := by
  rcases List.eq_nil_or_concat front with rfl | ⟨front, c, rfl⟩
  · rfl
  · have last : member c = false := stays c (by simp)
    rw [dropEnd, dropEnd, List.reverse_append, List.dropWhile_append]
    split
    · next gone =>
      rw [List.isEmpty_iff] at gone
      simp [gone, last]
    · simp

/-- What is trimmed off stands before and behind characters that stay. -/
theorem trim_between {member : Char → Bool} {before middle behind : Text}
    (first : ∀ c ∈ before, member c = true) (stays : ∀ c ∈ middle.head?, member c = false)
    (ends : ∀ c ∈ middle.getLast?, member c = false) (last : ∀ c ∈ behind, member c = true) :
    trim member (before ++ (middle ++ behind)) = middle := by
  have gone : dropEnd member behind = [] := by
    simpa [dropEnd, List.dropWhile_eq_nil_iff] using last
  rw [trim, List.dropWhile_append_of_pos first]
  cases middle with
  | nil => rw [List.nil_append, List.dropWhile_eq_nil_iff.mpr last, dropEnd, List.reverse_nil,
      List.dropWhile_nil, List.reverse_nil]
  | cons c middle =>
    rw [List.cons_append, List.dropWhile_cons_of_neg (by simp [stays c rfl]), ← List.cons_append,
      dropEnd_append ends, gone, List.append_nil]

theorem trim_enclosed {member : Char → Bool} {before inner behind : Text} {opening closing : Char}
    (first : ∀ c ∈ before, member c = true) (opens : member opening = false)
    (closes : member closing = false) (last : ∀ c ∈ behind, member c = true) :
    trim member (before ++ opening :: (inner ++ closing :: behind)) = opening :: (inner ++ [closing]) := by
  have whole : before ++ opening :: (inner ++ closing :: behind) =
      before ++ ((opening :: inner ++ [closing]) ++ behind) := by simp
  rw [whole]
  refine trim_between first ?_ (fun c ends => ?_) last
  · rintro c ⟨⟩
    exact opens
  · rw [List.getLast?_concat] at ends
    cases ends
    exact closes

theorem dropEnd_begins {member : Char → Bool} {text : Text} {c : Char}
    (first : c ∈ (dropEnd member text).head?) : c ∈ text.head? := by
  have front : dropEnd member text <+: text := List.rdropWhile_prefix member text
  obtain ⟨rest, whole⟩ := front
  obtain ⟨behind, cut⟩ := List.head?_eq_some_iff.mp first
  rw [← whole, cut]
  rfl

theorem words_cons (c : Char) (rest : Text) :
    words (c :: rest) =
      if isBlank c then words rest
      else
        match rest, words rest with
        | d :: _, word :: others => if isBlank d then [c] :: word :: others else (c :: word) :: others
        | _, others => [c] :: others := by
  conv => lhs; unfold words
  rfl

/-- The longest head of a text that a blank ends is a word. -/
theorem words_word {word rest : Text} (some : word ≠ [])
    (solid : ∀ c ∈ word, isBlank c = false) (ends : ∀ c ∈ rest.head?, isBlank c = true) :
    words (word ++ rest) = word :: words rest := by
  induction word with
  | nil => exact absurd rfl some
  | cons c word ih =>
    have here := solid c List.mem_cons_self
    cases word with
    | nil =>
      cases rest with
      | nil => simp [words, here]
      | cons b rest =>
        have blank : isBlank b = true := ends b rfl
        rw [List.singleton_append, words_cons c, here]
        cases words (b :: rest) <;> simp [blank]
    | cons d word =>
      have next : isBlank d = false := solid d (by simp)
      have behind := ih (by simp) fun c member => solid c (List.mem_cons_of_mem _ member)
      simp only [List.cons_append] at behind ⊢
      simp [words_cons c, behind, here, next]

/-! Digits of any script. They come in runs that begin with the ten plain ones. -/

theorem isDigit_iff {c : Char} :
    isDigit c = true ↔ ∃ first ∈ digitZeros, first ≤ c.toNat ∧ c.toNat < first + 10 := by
  simp [isDigit, digitValue?]

theorem isDigit_range {c : Char} (digit : isDigit c = true) :
    48 ≤ c.toNat ∧ c.toNat ≤ 57 ∨ 0x660 ≤ c.toNat := by
  have runs : ∀ first ∈ digitZeros, first = 48 ∨ 0x660 ≤ first := by decide
  obtain ⟨first, member, low, high⟩ := isDigit_iff.mp digit
  have run := runs first member
  omega

theorem isBlank_digit {c : Char} (digit : isDigit c = true) : isBlank c = false := by
  have apart : ∀ first ∈ digitZeros, ∀ blank ∈ wideBlanks, blank < first ∨ first + 10 ≤ blank := by
    decide
  obtain ⟨first, member, low, high⟩ := isDigit_iff.mp digit
  have range := isDigit_range digit
  have space : c ≠ ' ' := by
    rintro rfl
    simp at range
  have narrow : isWideBlank c = false := by
    rw [isWideBlank, List.contains_eq_mem, decide_eq_false_iff_not]
    intro wide
    have clear := apart first member _ wide
    omega
  simp [isBlank, isPlainBlank, isSeparator, narrow, space]
  omega

theorem length_digitValues {digits : Text} (all : ∀ c ∈ digits, isDigit c = true) :
    (digits.filterMap digitValue?).length = digits.length := by
  induction digits with
  | nil => rfl
  | cons c digits ih =>
    obtain ⟨value, found⟩ := Option.isSome_iff_exists.mp (all c List.mem_cons_self)
    rw [List.filterMap_cons_some found, List.length_cons, List.length_cons,
      ih fun c member => all c (List.mem_cons_of_mem _ member)]

theorem isEmpty_digitValues {digits : Text} (all : ∀ c ∈ digits, isDigit c = true) :
    (digits.filterMap digitValue?).isEmpty = digits.isEmpty := by
  rw [Bool.eq_iff_iff, List.isEmpty_iff_length_eq_zero, List.isEmpty_iff_length_eq_zero,
    length_digitValues all]

/-! Plain digits. -/

theorem isPlainDigit_iff {c : Char} : isPlainDigit c = true ↔ 48 ≤ c.toNat ∧ c.toNat ≤ 57 := by
  simp only [isPlainDigit, Bool.and_eq_true, decide_eq_true_eq, Char.le_def,
    UInt32.le_iff_toNat_le]
  rfl

theorem digitValue_plainDigit {c : Char} (plain : isPlainDigit c = true) :
    digitValue? c = some (c.toNat - 48) := by
  obtain ⟨low, high⟩ := isPlainDigit_iff.mp plain
  have first : digitZeros.find? (fun first => first ≤ c.toNat && c.toNat < first + 10) =
      some 0x30 := by
    apply List.find?_cons_of_pos
    simp
    omega
  rw [digitValue?, first]
  rfl

theorem isDigit_plainDigit {c : Char} (plain : isPlainDigit c = true) : isDigit c = true := by
  rw [isDigit, digitValue_plainDigit plain]
  rfl

theorem isBlank_plainDigit {c : Char} (plain : isPlainDigit c = true) : isBlank c = false :=
  isBlank_digit (isDigit_plainDigit plain)

end Text

namespace Numeral

/-- Digits are taken off as far as they go, if no underscore follows them. -/
theorem takeGrouped_digits {digits rest : Text} (all : ∀ c ∈ digits, Text.isDigit c = true)
    (ends : ∀ c ∈ rest.head?, isGrouped c = false) :
    takeGrouped? (digits ++ rest) = some (digits.filterMap Text.digitValue?, rest) := by
  have grouped : ∀ c ∈ digits, isGrouped c = true := by
    intro c member
    simp [isGrouped, all c member]
  have apart : '_' ∉ digits := fun member => absurd (all _ member) (by decide)
  have taken := Text.takeWhile_run grouped ends
  have left := Text.dropWhile_run grouped ends
  simp only [takeGrouped?, taken, left, List.splitOn_eq_singleton apart]
  cases digits <;> simp

theorem takeGrouped_all {digits : Text} (all : ∀ c ∈ digits, Text.isDigit c = true) :
    takeGrouped? digits = some (digits.filterMap Text.digitValue?, []) := by
  have ends : ∀ c ∈ ([] : Text).head?, isGrouped c = false := by simp
  simpa using takeGrouped_digits all ends

theorem trimMargin_solid {text : Text} (solid : ∀ c ∈ text, Text.isBlank c = false) :
    trimMargin text = text := by
  apply Text.trim_foreign
  intro c member
  have blankless := solid c member
  simp only [Text.isBlank, Bool.or_eq_false_iff] at blankless
  simp [isMargin, blankless]

variable {digits : Text} (plain : ∀ c ∈ digits, Text.isPlainDigit c = true)

include plain

theorem isDigit_of_plain : ∀ c ∈ digits, Text.isDigit c = true :=
  fun c member => Text.isDigit_plainDigit (plain c member)

theorem digitValues_plain :
    digits.filterMap Text.digitValue? = digits.map fun c => c.toNat - 48 := by
  induction digits with
  | nil => rfl
  | cons c digits ih =>
    rw [List.filterMap_cons, Text.digitValue_plainDigit (plain c List.mem_cons_self),
      ih fun c member => plain c (List.mem_cons_of_mem _ member)]
    rfl

theorem numberOf_plain :
    Text.numberOf (digits.filterMap Text.digitValue?) = Nat.ofDigitChars 10 digits 0 := by
  rw [digitValues_plain plain, Text.numberOf, List.foldl_map]
  rfl

theorem takeGrouped_plain : takeGrouped? digits = some (digits.map fun c => c.toNat - 48, []) := by
  rw [takeGrouped_all (isDigit_of_plain plain), digitValues_plain plain]

theorem readInt_plain (any : digits ≠ []) (short : digits.length ≤ OutOfRange.digitLimit) :
    readInt? digits = some (Nat.ofDigitChars 10 digits 0 : Int) := by
  have bare : trimMargin digits = digits :=
    trimMargin_solid fun c member => Text.isBlank_plainDigit (plain c member)
  have unsigned : takeSign digits = (false, digits) := by
    unfold takeSign
    split
    · next rest => exact absurd (plain '-' List.mem_cons_self) (by decide)
    · next rest => exact absurd (plain '+' List.mem_cons_self) (by decide)
    · rfl
  have fits : ¬ OutOfRange.digitLimit < digits.length := by omega
  have size := numberOf_plain plain
  rw [digitValues_plain plain] at size
  simp [readInt?, bare, unsigned, takeGrouped_plain plain, any, fits, signed, size]

end Numeral
end ServiceProbe
