import ServiceProbe.Field
import ServiceProbe.Proofs.Words
/-!
Numerals in front of other text. A value may go on behind its number, with a unit or with the further parts
of a version; the number read is the longest numeral at its head, and every numeral has a value.
-/
namespace ServiceProbe

namespace Double

theorem pack_ne_nan (negative : Bool) (mantissa : Nat) (exponent : Int) :
    pack negative mantissa exponent ≠ .nan := by
  unfold pack
  dsimp only
  split <;> split <;> nofun

theorem ofRatio_ne_nan (negative : Bool) (numerator denominator : Nat) :
    ofRatio negative numerator denominator ≠ .nan := by
  unfold ofRatio
  split
  · nofun
  · exact pack_ne_nan _ _ _

theorem ofDecimal_ne_nan (negative : Bool) (digits : Nat) (exponent : Int) :
    ofDecimal negative digits exponent ≠ .nan := by
  unfold ofDecimal
  split
  · nofun
  split
  · nofun
  split
  · nofun
  · exact ofRatio_ne_nan _ _ _

end Double

namespace Numeral

/-! Numerals, said without a reader. Digits are those of any script. -/

def AreDigits (text : Text) : Prop := ∀ c ∈ text, Text.isDigit c = true

inductive IsSign : (negative : Bool) → Text → Prop where
  | missing : IsSign false []
  | plus : IsSign false ['+']
  | minus : IsSign true ['-']

/-- Digits, or digits around a point, where those on one side may be missing. -/
inductive IsMantissa : (whole fraction : Text) → Text → Prop where
  | plain {whole : Text} (some : whole ≠ []) (digits : AreDigits whole) : IsMantissa whole [] whole
  | pointed {whole fraction : Text} (some : whole ≠ [] ∨ fraction ≠ []) (digits : AreDigits whole)
    (places : AreDigits fraction) : IsMantissa whole fraction (whole ++ '.' :: fraction)

/-- The number that some digits denote. -/
def valueOf (digits : Text) : Nat := Text.numberOf (digits.filterMap Text.digitValue?)

inductive IsExponent : (exponent : Int) → Text → Prop where
  | missing : IsExponent 0 []
  | marked {mark : Char} {negative : Bool} {sign digits : Text} (letter : mark = 'e' ∨ mark = 'E')
    (signs : IsSign negative sign) (some : digits ≠ []) (all : AreDigits digits) :
    IsExponent (signed negative (valueOf digits)) (mark :: (sign ++ digits))

/-- A numeral and the double nearest to the number that it denotes. -/
inductive Denotes : Text → Double → Prop where
  | intro {negative : Bool} {whole fraction sign mantissa exponent : Text} {power : Int}
    (signs : IsSign negative sign) (mantissas : IsMantissa whole fraction mantissa)
    (exponents : IsExponent power exponent) :
    Denotes (sign ++ (mantissa ++ exponent))
      (.ofDecimal negative (valueOf (whole ++ fraction)) (power - fraction.length))

def IsNumeral (text : Text) : Prop := ∃ double, Denotes text double

/-- The longest head of a text that is a numeral. -/
structure LongestNumeral (text numeral : Text) : Prop where
  begins : numeral <+: text
  isNumeral : IsNumeral numeral
  longest : ∀ other, other <+: text → IsNumeral other → other.length ≤ numeral.length

/-! Characters of a numeral. -/

theorem digit_ne {c d : Char} (digit : Text.isDigit c = true) (foreign : Text.isDigit d = false) :
    c ≠ d := by
  rintro rfl
  rw [foreign] at digit
  cases digit

theorem unsigned_of_begins {c : Char} (begins : Text.isDigit c = true ∨ c = '.') :
    c ≠ '-' ∧ c ≠ '+' := by
  rcases begins with digit | rfl
  · exact ⟨digit_ne digit (by decide), digit_ne digit (by decide)⟩
  · decide

variable {negative : Bool} {power : Int} {c : Char}
  {text rest sign digits whole fraction mantissa exponent numeral : Text}

theorem IsSign.mem (signs : IsSign negative sign) (member : c ∈ sign) : c = '+' ∨ c = '-' := by
  cases signs with
  | missing => cases member
  | plus => exact Or.inl (List.mem_singleton.mp member)
  | minus => exact Or.inr (List.mem_singleton.mp member)

theorem IsMantissa.mem (mantissas : IsMantissa whole fraction mantissa) (member : c ∈ mantissa) :
    Text.isDigit c = true ∨ c = '.' := by
  cases mantissas with
  | plain some digits => exact Or.inl (digits c member)
  | pointed some digits places =>
    rcases List.mem_append.mp member with front | behind
    · exact Or.inl (digits c front)
    · rcases List.mem_cons.mp behind with point | place
      · exact Or.inr point
      · exact Or.inl (places c place)

theorem IsMantissa.ne_nil (mantissas : IsMantissa whole fraction mantissa) : mantissa ≠ [] := by
  cases mantissas with
  | plain some _ => exact some
  | pointed _ _ _ => simp

/-- A mantissa begins with a digit or a point, so that what stands before it is no part of it. -/
theorem IsMantissa.begins (mantissas : IsMantissa whole fraction mantissa) (rest : Text) :
    ∃ c more, mantissa ++ rest = c :: more ∧ (Text.isDigit c = true ∨ c = '.') := by
  obtain ⟨c, more, rfl⟩ := List.exists_cons_of_ne_nil mantissas.ne_nil
  exact ⟨c, more ++ rest, rfl, mantissas.mem List.mem_cons_self⟩

/-- The letter of an exponent continues no mantissa. -/
theorem IsExponent.begins (exponents : IsExponent power exponent) :
    ∀ c ∈ exponent.head?, isGrouped c = false ∧ c ≠ '.' := by
  cases exponents with
  | missing => nofun
  | marked letter _ _ _ =>
    rintro c ⟨⟩
    rcases letter with rfl | rfl <;> decide

theorem IsExponent.mem (exponents : IsExponent power exponent) (member : c ∈ exponent) :
    (c = 'e' ∨ c = 'E') ∨ (c = '+' ∨ c = '-') ∨ Text.isDigit c = true := by
  cases exponents with
  | missing => cases member
  | marked letter signs _ all =>
    rcases List.mem_cons.mp member with rfl | behind
    · exact Or.inl letter
    · rcases List.mem_append.mp behind with sign | digit
      · exact Or.inr (Or.inl (signs.mem sign))
      · exact Or.inr (Or.inr (all c digit))

theorem Denotes.solid {double : Double} (denotes : Denotes text double) :
    ∀ c ∈ text, Text.isBlank c = false := by
  intro c member
  cases denotes with
  | intro signs mantissas exponents =>
    simp only [List.mem_append] at member
    have solidSign (sign : c = '+' ∨ c = '-') : Text.isBlank c = false := by
      rcases sign with rfl | rfl <;> decide
    rcases member with sign | mantissa | exponent
    · exact solidSign (signs.mem sign)
    · rcases mantissas.mem mantissa with digit | rfl
      · exact Text.isBlank_digit digit
      · decide
    · rcases exponents.mem exponent with letter | sign | digit
      · rcases letter with rfl | rfl <;> decide
      · exact solidSign sign
      · exact Text.isBlank_digit digit

theorem IsNumeral.ne_nil (isNumeral : IsNumeral numeral) : numeral ≠ [] := by
  obtain ⟨_, denotes⟩ := isNumeral
  cases denotes with
  | intro _ mantissas _ => simp [mantissas.ne_nil]

/-! What stands at the head of a text. -/

theorem unsigned_taken (unsigned : ∀ c ∈ rest.head?, c ≠ '-' ∧ c ≠ '+') :
    takeSignText rest = ([], rest) ∧ takeSign rest = (false, rest) := by
  cases rest with
  | nil => exact ⟨rfl, rfl⟩
  | cons c rest =>
    have other := unsigned c rfl
    simp [takeSignText, takeSign, other]

theorem takeSignText_sign (signs : IsSign negative sign)
    (unsigned : ∀ c ∈ rest.head?, c ≠ '-' ∧ c ≠ '+') : takeSignText (sign ++ rest) = (sign, rest) := by
  cases signs with
  | plus => rfl
  | minus => rfl
  | missing => exact (unsigned_taken unsigned).1

theorem takeSign_sign (signs : IsSign negative sign)
    (unsigned : ∀ c ∈ rest.head?, c ≠ '-' ∧ c ≠ '+') : takeSign (sign ++ rest) = (negative, rest) := by
  cases signs with
  | plus => rfl
  | minus => rfl
  | missing => exact (unsigned_taken unsigned).2

theorem takeSignText_parts (text : Text) : ∃ negative sign rest,
    takeSignText text = (sign, rest) ∧ text = sign ++ rest ∧ IsSign negative sign := by
  unfold takeSignText
  split
  · exact ⟨_, _, _, rfl, rfl, .minus⟩
  · exact ⟨_, _, _, rfl, rfl, .plus⟩
  · exact ⟨_, _, _, rfl, rfl, .missing⟩

theorem spanDigits_digits (all : AreDigits digits) (rest : Text) :
    spanDigits (digits ++ rest) = (digits ++ (spanDigits rest).1, (spanDigits rest).2) := by
  rw [spanDigits, List.takeWhile_append_of_pos all, List.dropWhile_append_of_pos all]
  rfl

theorem spanDigits_foreign (foreign : ∀ c ∈ rest.head?, Text.isDigit c = false) :
    spanDigits rest = ([], rest) := by
  cases rest with
  | nil => rfl
  | cons c rest => simp [spanDigits, foreign c rfl]

theorem spanDigits_parts (text : Text) : ∃ digits rest,
    spanDigits text = (digits, rest) ∧ text = digits ++ rest ∧ AreDigits digits := by
  refine ⟨_, _, rfl, List.takeWhile_append_dropWhile.symm, fun c member => ?_⟩
  exact List.mem_takeWhile_imp member

/-- The two ways in which a mantissa is read, by what stands behind the first digits. -/
theorem plainMantissa_pointed {behind : Text} (span : spanDigits text = (whole, '.' :: behind)) :
    plainMantissa? text =
      if whole = [] ∧ (spanDigits behind).1 = [] then none
      else some (whole ++ '.' :: (spanDigits behind).1, (spanDigits behind).2) := by
  rw [plainMantissa?, span]
  cases whole with
  | cons c whole => simp
  | nil =>
    obtain ⟨fraction, rest, places, _, _⟩ := spanDigits_parts behind
    rw [places]
    cases fraction <;> simp [places]

theorem plainMantissa_plain (span : spanDigits text = (whole, rest)) (pointless : rest.head? ≠ some '.') :
    plainMantissa? text = if whole = [] then none else some (whole, rest) := by
  rw [plainMantissa?, span]
  cases whole with
  | nil =>
    cases rest with
    | nil => rfl
    | cons c rest =>
      have other : c ≠ '.' := by simpa using pointless
      simp [other]
  | cons c whole =>
    cases rest with
    | nil => rfl
    | cons d rest =>
      have other : d ≠ '.' := by simpa using pointless
      simp [other]

theorem plainMantissa_sound (found : plainMantissa? text = some (mantissa, rest)) :
    text = mantissa ++ rest ∧ ∃ whole fraction, IsMantissa whole fraction mantissa := by
  obtain ⟨whole, left, span, rfl, all⟩ := spanDigits_parts text
  by_cases point : left.head? = some '.'
  · obtain ⟨behind, rfl⟩ := List.head?_eq_some_iff.mp point
    obtain ⟨fraction, more, places, rfl, digits⟩ := spanDigits_parts behind
    rw [plainMantissa_pointed span, places] at found
    split at found
    · cases found
    · next some =>
      cases found
      exact ⟨by simp, _, _, .pointed (not_and_or.mp some) all digits⟩
  · rw [plainMantissa_plain span point] at found
    split at found
    · cases found
    · next some =>
      cases found
      exact ⟨rfl, _, _, .plain some all⟩

/-- A mantissa is read at least as far as it goes; if the reader goes on, then with a digit or a point. -/
theorem plainMantissa_mantissa (mantissas : IsMantissa whole fraction mantissa) (rest : Text) :
    ∃ more left, plainMantissa? (mantissa ++ rest) = some (mantissa ++ more, left) ∧
      rest = more ++ left ∧ ∀ c ∈ more.head?, Text.isDigit c = true ∨ c = '.' := by
  obtain ⟨digits, left, span, rfl, all⟩ := spanDigits_parts rest
  have goesOn : ∀ c ∈ digits.head?, Text.isDigit c = true ∨ c = '.' :=
    fun c first => Or.inl (all c (List.mem_of_mem_head? first))
  -- A plain mantissa may go on with digits and with a point, one that has its point with digits only.
  cases mantissas with
  | plain some digits' =>
    have together : spanDigits (whole ++ (digits ++ left)) = (whole ++ digits, left) := by
      rw [spanDigits_digits digits', span]
    by_cases point : left.head? = Option.some '.'
    · obtain ⟨behind, rfl⟩ := List.head?_eq_some_iff.mp point
      obtain ⟨fraction, left, places, rfl, _⟩ := spanDigits_parts behind
      refine ⟨digits ++ '.' :: fraction, left, ?_, by simp, fun c first => ?_⟩
      · rw [plainMantissa_pointed together, places]
        simp [some]
      · cases digits with
        | nil => exact Or.inr (Option.some.inj first).symm
        | cons d digits => exact goesOn c first
    · refine ⟨digits, left, ?_, rfl, goesOn⟩
      rw [plainMantissa_plain together point]
      simp [some]
  | pointed some digits' places' =>
    have apart : spanDigits (whole ++ '.' :: fraction ++ (digits ++ left)) =
        (whole, '.' :: (fraction ++ (digits ++ left))) := by
      have point : Text.isDigit '.' = false := by decide
      rw [List.append_assoc, List.cons_append, spanDigits_digits digits',
        spanDigits_foreign (by simp [point]), List.append_nil]
    refine ⟨digits, left, ?_, rfl, goesOn⟩
    rw [plainMantissa_pointed apart, spanDigits_digits places', span]
    have some' : ¬(whole = [] ∧ fraction ++ digits = []) := by
      rintro ⟨rfl, void⟩
      rw [List.append_eq_nil_iff] at void
      exact some.elim (absurd rfl) (absurd void.1)
    simp only [some', ↓reduceIte, List.append_assoc, List.cons_append]

theorem plainExponent_exponent (exponents : IsExponent power exponent) (rest : Text) :
    exponent.length ≤ (plainExponent (exponent ++ rest)).length := by
  cases exponents with
  | missing => exact Nat.zero_le _
  | @marked mark negative sign digits letter signs some all =>
    obtain ⟨d, more, rfl⟩ := List.exists_cons_of_ne_nil some
    have unsigned : ∀ c ∈ (d :: more ++ rest).head?, c ≠ '-' ∧ c ≠ '+' := by
      rintro c ⟨⟩
      exact unsigned_of_begins (Or.inl (all d List.mem_cons_self))
    rw [List.cons_append, List.append_assoc, plainExponent, if_pos letter,
      takeSignText_sign signs unsigned]
    dsimp only
    rw [spanDigits_digits all]
    simp

theorem plainExponent_sound (text : Text) :
    plainExponent text <+: text ∧ ∃ power, IsExponent power (plainExponent text) := by
  have nothing : ([] : Text) <+: text ∧ ∃ power, IsExponent power [] :=
    ⟨List.nil_prefix, 0, .missing⟩
  cases text with
  | nil => exact nothing
  | cons c text =>
    by_cases letter : c = 'e' ∨ c = 'E'
    · obtain ⟨negative, sign, body, signed, rfl, signs⟩ := takeSignText_parts text
      obtain ⟨digits, rest, span, rfl, all⟩ := spanDigits_parts body
      rw [plainExponent, if_pos letter, signed]
      dsimp only
      rw [span]
      cases digits with
      | nil => exact nothing
      | cons d digits =>
        have whole : c :: (sign ++ (d :: digits ++ rest)) = c :: (sign ++ d :: digits) ++ rest := by
          simp
        exact ⟨whole ▸ List.prefix_append _ _, _, .marked letter signs (by simp) all⟩
    · rw [plainExponent, if_neg letter]
      exact nothing

/-! The numeral at the head of a text. -/

theorem head_sound (found : head? text = some numeral) : numeral <+: text ∧ IsNumeral numeral := by
  obtain ⟨negative, sign, body, signed, rfl, signs⟩ := takeSignText_parts text
  rw [head?, signed, Option.map_eq_some_iff] at found
  obtain ⟨⟨mantissa, rest⟩, read, rfl⟩ := found
  obtain ⟨rfl, _, _, mantissas⟩ := plainMantissa_sound read
  obtain ⟨begins, _, exponents⟩ := plainExponent_sound rest
  dsimp only
  rw [List.append_assoc]
  refine ⟨?_, _, .intro signs mantissas exponents⟩
  rw [List.prefix_append_right_inj, List.prefix_append_right_inj]
  exact begins

/-- In front of any text a numeral is read at least as far as it goes. -/
theorem head_numeral (isNumeral : IsNumeral numeral) (rest : Text) :
    ∃ longer, head? (numeral ++ rest) = some longer ∧ numeral.length ≤ longer.length := by
  obtain ⟨double, denotes⟩ := isNumeral
  cases denotes with
  | @intro negative whole fraction sign mantissa exponent power signs mantissas exponents =>
    obtain ⟨more, left, read, parts, goesOn⟩ := plainMantissa_mantissa mantissas (exponent ++ rest)
    have unsigned : ∀ c ∈ (mantissa ++ (exponent ++ rest)).head?, c ≠ '-' ∧ c ≠ '+' := by
      obtain ⟨c, behind, whole, begins⟩ := mantissas.begins (exponent ++ rest)
      rw [whole]
      rintro d ⟨⟩
      exact unsigned_of_begins begins
    refine ⟨sign ++ (mantissa ++ more) ++ plainExponent left, ?_, ?_⟩
    · rw [head?, List.append_assoc, List.append_assoc, takeSignText_sign signs unsigned]
      dsimp only
      rw [read]
      rfl
    · have onlyOne : exponent = [] ∨ more = [] := by
        cases exponent with
        | nil => exact Or.inl rfl
        | cons e exponent =>
          cases more with
          | nil => exact Or.inr rfl
          | cons c more =>
            obtain ⟨rfl, _⟩ := List.cons_eq_cons.mp parts
            have foreign := exponents.begins e rfl
            rcases goesOn e rfl with digit | point
            · simp [isGrouped, digit] at foreign
            · exact absurd point foreign.2
      rcases onlyOne with rfl | rfl
      · simp only [List.length_append, List.length_nil]
        omega
      · obtain rfl : exponent ++ rest = left := parts
        have bound := plainExponent_exponent exponents rest
        simp only [List.length_append, List.length_nil]
        omega

theorem head_eq_some_iff : head? text = some numeral ↔ LongestNumeral text numeral := by
  constructor
  · intro found
    obtain ⟨begins, isNumeral⟩ := head_sound found
    refine ⟨begins, isNumeral, ?_⟩
    rintro other ⟨rest, rfl⟩ another
    obtain ⟨longer, read, bound⟩ := head_numeral another rest
    rw [read, Option.some.injEq] at found
    exact found ▸ bound
  · intro longest
    obtain ⟨rest, rfl⟩ := longest.begins
    obtain ⟨longer, read, bound⟩ := head_numeral longest.isNumeral rest
    obtain ⟨begins, isNumeral⟩ := head_sound read
    have bound' := longest.longest longer begins isNumeral
    have within : numeral <+: longer :=
      List.prefix_of_prefix_length_le (List.prefix_append _ _) begins bound
    rw [read, within.eq_of_length (Nat.le_antisymm bound bound')]

theorem head_ne_none_iff :
    head? text ≠ none ↔ ∃ numeral, numeral ≠ [] ∧ numeral <+: text ∧ IsNumeral numeral := by
  rw [Option.ne_none_iff_exists']
  constructor
  · rintro ⟨numeral, found⟩
    obtain ⟨begins, isNumeral⟩ := head_sound found
    exact ⟨numeral, isNumeral.ne_nil, begins, isNumeral⟩
  · rintro ⟨numeral, _, ⟨rest, rfl⟩, isNumeral⟩
    obtain ⟨longer, read, _⟩ := head_numeral isNumeral rest
    exact ⟨longer, read⟩

/-! The value of a numeral. -/

theorem takeMantissa_mantissa (mantissas : IsMantissa whole fraction mantissa)
    (ends : ∀ c ∈ rest.head?, isGrouped c = false ∧ c ≠ '.') :
    takeMantissa? (mantissa ++ rest) =
      some (⟨(whole ++ fraction).filterMap Text.digitValue?, fraction.length⟩, rest) := by
  have stops : ∀ c ∈ rest.head?, isGrouped c = false := fun c first => (ends c first).1
  cases mantissas with
  | plain some digits =>
    have values : (whole.filterMap Text.digitValue?).isEmpty = false := by
      simpa [Text.isEmpty_digitValues digits] using some
    rw [takeMantissa?, takeGrouped_digits digits stops, Option.bind_eq_bind, Option.bind_some,
      List.append_nil]
    simp only [values]
    cases rest with
    | nil => rfl
    | cons c rest =>
      have other := (ends c rfl).2
      simp [other]
  | pointed some digits places =>
    have point : ∀ c ∈ ('.' :: (fraction ++ rest)).head?, isGrouped c = false := by
      rintro c ⟨⟩
      decide
    have values : ((whole.filterMap Text.digitValue?).isEmpty &&
        (fraction.filterMap Text.digitValue?).isEmpty) = false := by
      rw [Text.isEmpty_digitValues digits, Text.isEmpty_digitValues places]
      simpa [← not_and_or] using some
    rw [List.append_assoc, List.cons_append, takeMantissa?, takeGrouped_digits digits point,
      Option.bind_eq_bind, Option.bind_some]
    change (takeGrouped? (fraction ++ rest)).bind _ = _
    rw [takeGrouped_digits places stops, Option.bind_some]
    dsimp only
    rw [values, Text.length_digitValues places, List.filterMap_append]
    rfl

theorem readExponent_exponent (exponents : IsExponent power exponent) :
    readExponent? exponent = some power := by
  cases exponents with
  | missing => rfl
  | @marked mark negative sign digits letter signs some all =>
    have unsigned : ∀ c ∈ digits.head?, c ≠ '-' ∧ c ≠ '+' :=
      fun c first => unsigned_of_begins (Or.inl (all c (List.mem_of_mem_head? first)))
    have read := takeGrouped_all all
    have values : (digits.filterMap Text.digitValue?).isEmpty = false := by
      simpa [Text.isEmpty_digitValues all] using some
    simp only [readExponent?, letter, takeSign_sign signs unsigned, read, values, Option.bind_eq_bind,
      Option.bind_some]
    rfl

/-- No word stands where digits or a point begin. -/
theorem plainLower_ne_word {d : Char} {word : Text} (begins : Text.isDigit c = true ∨ c = '.')
    (letter : d = 'i' ∨ d = 'n') : plainLower (c :: rest) ≠ d :: word := by
  have same : c.toLower = c := by
    refine dif_neg ?_
    rintro ⟨low, high⟩
    have least : 65 ≤ c.toNat := UInt32.le_iff_toNat_le.mp low
    have greatest : c.toNat ≤ 90 := UInt32.le_iff_toNat_le.mp high
    rcases begins with digit | rfl
    · have range := Text.isDigit_range digit
      omega
    · revert least
      decide
  intro equal
  obtain rfl : c = d := by
    rw [← same]
    exact (List.cons_eq_cons.mp equal).1
  rcases begins with digit | rfl
  · rcases letter with rfl | rfl
    · exact absurd digit (by decide)
    · exact absurd digit (by decide)
  · revert letter
    decide

theorem readDouble_of_denotes {double : Double} (denotes : Denotes text double) :
    readDouble? text = some double ∧ double ≠ .nan := by
  have bare := trimMargin_solid denotes.solid
  cases denotes with
  | @intro negative whole fraction sign mantissa exponent power signs mantissas exponents =>
    refine ⟨?_, Double.ofDecimal_ne_nan _ _ _⟩
    obtain ⟨c, more, body, begins⟩ := mantissas.begins exponent
    have unsigned : ∀ c ∈ (mantissa ++ exponent).head?, c ≠ '-' ∧ c ≠ '+' := by
      rw [body]
      rintro d ⟨⟩
      exact unsigned_of_begins begins
    have noWord {d : Char} {word : Text} (letter : d = 'i' ∨ d = 'n') :
        plainLower (mantissa ++ exponent) ≠ d :: word := body ▸ plainLower_ne_word begins letter
    rw [readDouble?, bare, takeSign_sign signs unsigned]
    dsimp only
    rw [if_neg, if_neg, takeMantissa_mantissa mantissas exponents.begins, Option.bind_eq_bind,
      Option.bind_some]
    · dsimp only
      rw [readExponent_exponent exponents]
      rfl
    · exact noWord (Or.inr rfl)
    · exact not_or.mpr ⟨noWord (Or.inl rfl), noWord (Or.inl rfl)⟩

end Numeral

namespace Field

open Numeral

theorem number_ne_nan (body key : Text) : number body key ≠ .nan := by
  unfold number
  cases found : head? (value body key) with
  | none => nofun
  | some numeral =>
    obtain ⟨_, double, denotes⟩ := head_sound found
    obtain ⟨read, isNumber⟩ := readDouble_of_denotes denotes
    simpa [read] using isNumber

/-- What is read at the head of a text is the longest numeral there, if there is any. Every numeral has a
value, which is a number, and so the number of a key is the value of the longest numeral at the head of
what the key has, or zero. -/
theorem number_is_longest_numeral :
    (∀ text, head? text ≠ none ↔ ∃ numeral, numeral ≠ [] ∧ numeral <+: text ∧ IsNumeral numeral) ∧
      (∀ text numeral, head? text = some numeral ↔ LongestNumeral text numeral) ∧
      (∀ numeral double, Denotes numeral double →
        readDouble? numeral = some double ∧ double ≠ .nan) ∧
      ∀ body key,
        (∀ numeral double, LongestNumeral (value body key) numeral → Denotes numeral double →
          number body key = double) ∧
          ((∀ numeral, numeral <+: value body key → ¬IsNumeral numeral) →
            number body key = Double.zero false) := by
  refine ⟨fun _ => head_ne_none_iff, fun _ _ => head_eq_some_iff, fun _ _ => readDouble_of_denotes,
    fun body key => ⟨fun numeral double longest denotes => ?_, fun absent => ?_⟩⟩
  · rw [number, head_eq_some_iff.mpr longest, Option.bind_some, (readDouble_of_denotes denotes).1]
    rfl
  · have unread : head? (value body key) = none := by
      by_contra read
      obtain ⟨numeral, _, begins, isNumeral⟩ := head_ne_none_iff.mp read
      exact absent numeral begins isNumeral
    rw [number, unread]
    rfl

/-- Of a version with three parts the first two are a number. A name has none. -/
theorem number_of_version :
    let body : Text := "\x7b\"version\":\"7.17.3\",\"name\":\"-\"\x7d"
    LongestNumeral (value body "version") "7.17" ∧ Denotes "7.17" (.ofDecimal false 717 (-2)) ∧
      number body "version" = .ofDecimal false 717 (-2) ∧
      (∀ numeral, numeral <+: value body "name" → ¬IsNumeral numeral) ∧
      number body "name" = Double.zero false := by
  intro body
  have longest : LongestNumeral (value body "version") "7.17" := head_eq_some_iff.mp (by decide)
  have denotes : Denotes "7.17" (.ofDecimal false 717 (-2)) := by
    have mantissa : IsMantissa "7" "17" "7.17" :=
      .pointed (by decide) (by simp [AreDigits]; decide) (by simp [AreDigits]; decide)
    exact .intro .missing mantissa .missing
  have absent : ∀ numeral, numeral <+: value body "name" → ¬IsNumeral numeral := by
    intro numeral begins isNumeral
    exact head_ne_none_iff.mpr ⟨numeral, isNumeral.ne_nil, begins, isNumeral⟩ (by decide)
  obtain ⟨_, _, _, reads⟩ := number_is_longest_numeral
  exact ⟨longest, denotes, (reads body "version").1 _ _ longest denotes, absent,
    (reads body "name").2 absent⟩

example : head? "1e+" = some ['1'] ∧ head? "1.2.3" = some ['1', '.', '2'] ∧
    head? "12abc" = some ['1', '2'] ∧ head? "1_000" = some ['1'] := by decide

end Field
end ServiceProbe
