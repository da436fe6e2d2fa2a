import ServiceProbe.Probe.CommandLine
import ServiceProbe.Proofs.Numerals
/-!
The texts that are levels: a numeral without an exponent and a percent sign or none, with white space
around both. What else reads as a number, with an exponent, with underscores or as a word, is no level.
-/
namespace ServiceProbe

namespace Text

/-- What is trimmed off stands before and behind what is left. -/
theorem trim_parts (member : Char → Bool) (text : Text) : ∃ before behind,
    text = before ++ (trim member text ++ behind) ∧ (∀ c ∈ before, member c = true) ∧
      ∀ c ∈ behind, member c = true := by
  have end_parts : trim member text ++ (text.dropWhile member).rtakeWhile member =
      text.dropWhile member := List.rdropWhile_append_rtakeWhile
  refine ⟨text.takeWhile member, (text.dropWhile member).rtakeWhile member, ?_,
    fun c => List.mem_takeWhile_imp, fun c => List.mem_rtakeWhile_imp⟩
  rw [end_parts, List.takeWhile_append_dropWhile]

theorem isBlank_of_isMargin {c : Char} (margin : Numeral.isMargin c = true) : isBlank c = true := by
  simp only [Numeral.isMargin, Bool.or_eq_true] at margin
  rcases margin with plain | wide
  · simp [isBlank, plain]
  · simp [isBlank, wide]

theorem skipBlanks_gap {gap : Text} (blank : ∀ c ∈ gap, isBlank c = true) : skipBlanks gap = [] :=
  List.dropWhile_eq_nil_iff.mpr blank

end Text

namespace Numeral

/-- A numeral without an exponent. -/
inductive IsPlain : Text → Prop where
  | intro {negative : Bool} {whole fraction sign mantissa : Text} (signs : IsSign negative sign)
    (mantissas : IsMantissa whole fraction mantissa) : IsPlain (sign ++ mantissa)

variable {text rest numeral : Text} {c : Char}

theorem IsPlain.mem (plain : IsPlain numeral) (member : c ∈ numeral) :
    (c = '+' ∨ c = '-') ∨ Text.isDigit c = true ∨ c = '.' := by
  cases plain with
  | intro signs mantissas =>
    exact (List.mem_append.mp member).imp signs.mem mantissas.mem

theorem IsPlain.denotes (plain : IsPlain numeral) : ∃ double, Denotes numeral double := by
  cases plain with
  | intro signs mantissas =>
    have denotes := Denotes.intro signs mantissas .missing
    rw [List.append_nil] at denotes
    exact ⟨_, denotes⟩

theorem IsPlain.skipBlanks (plain : IsPlain numeral) (rest : Text) :
    Text.skipBlanks (numeral ++ rest) = numeral ++ rest := by
  obtain ⟨double, denotes⟩ := plain.denotes
  obtain ⟨c, more, rfl⟩ := List.exists_cons_of_ne_nil (IsNumeral.ne_nil ⟨double, denotes⟩)
  exact Text.skipBlanks_solid (denotes.solid c List.mem_cons_self) (more ++ rest)

/-- A numeral is taken off as a whole where no digit and no point follows it. -/
theorem IsPlain.taken (plain : IsPlain numeral) {rest : Text}
    (ends : ∀ c ∈ rest.head?, ¬(Text.isDigit c = true ∨ c = '.')) :
    ∃ sign mantissa, numeral = sign ++ mantissa ∧
      takeSignText (numeral ++ rest) = (sign, mantissa ++ rest) ∧
      plainMantissa? (mantissa ++ rest) = some (mantissa, rest) := by
  cases plain with
  | @intro negative whole fraction sign mantissa signs mantissas =>
    obtain ⟨more, left, read, parts, goesOn⟩ := plainMantissa_mantissa mantissas rest
    obtain rfl : more = [] := by
      cases more with
      | nil => rfl
      | cons c more => exact absurd (goesOn c rfl) (ends c (by simp [parts]))
    have unsigned : ∀ c ∈ (mantissa ++ rest).head?, c ≠ '-' ∧ c ≠ '+' := by
      obtain ⟨c, behind, whole, begins⟩ := mantissas.begins rest
      rw [whole]
      rintro d ⟨⟩
      exact unsigned_of_begins begins
    rw [List.nil_append] at parts
    rw [List.append_nil, ← parts] at read
    exact ⟨sign, mantissa, rfl, by rw [List.append_assoc, takeSignText_sign signs unsigned], read⟩

/-! What a reader of numbers has read. It takes a character only as a part of what it looks for. -/

theorem takeSign_parts (text : Text) : ∃ negative sign rest,
    takeSign text = (negative, rest) ∧ text = sign ++ rest ∧ IsSign negative sign := by
  unfold takeSign
  split
  · exact ⟨_, _, _, rfl, rfl, .minus⟩
  · exact ⟨_, _, _, rfl, rfl, .plus⟩
  · exact ⟨_, _, _, rfl, rfl, .missing⟩

/-- A mantissa in which underscores may part the digits. -/
inductive IsGroupedMantissa : Text → Prop where
  | plain {whole : Text} (some : whole ≠ []) (digits : ∀ c ∈ whole, isGrouped c = true) :
    IsGroupedMantissa whole
  | pointed {whole fraction : Text} (some : whole ≠ [] ∨ fraction ≠ [])
    (digits : ∀ c ∈ whole, isGrouped c = true) (places : ∀ c ∈ fraction, isGrouped c = true) :
    IsGroupedMantissa (whole ++ '.' :: fraction)

theorem IsGroupedMantissa.mem (grouped : IsGroupedMantissa text) (member : c ∈ text) :
    isGrouped c = true ∨ c = '.' := by
  cases grouped with
  | plain some digits => exact Or.inl (digits c member)
  | pointed some digits places =>
    rcases List.mem_append.mp member with front | behind
    · exact Or.inl (digits c front)
    · exact (List.mem_cons.mp behind).symm.imp_left (places c)

theorem IsGroupedMantissa.plain_of_bare (grouped : IsGroupedMantissa text) (bare : '_' ∉ text) :
    ∃ whole fraction, IsMantissa whole fraction text := by
  have digit (part : Text) (within : part ⊆ text) (all : ∀ c ∈ part, isGrouped c = true) :
      AreDigits part := by
    intro c member
    have other : c ≠ '_' := by
      rintro rfl
      exact bare (within member)
    simpa [isGrouped, other] using all c member
  cases grouped with
  | plain some digits => exact ⟨_, _, .plain some (digit _ (List.Subset.refl _) digits)⟩
  | pointed some digits places =>
    exact ⟨_, _, .pointed some (digit _ (by simp) digits) (digit _ (by simp) places)⟩

theorem takeGrouped_parts {digits : List Nat} (read : takeGrouped? text = some (digits, rest)) :
    ∃ group, text = group ++ rest ∧ (∀ c ∈ group, isGrouped c = true) ∧
      (group = [] → digits = []) := by
  simp only [takeGrouped?] at read
  split at read
  · cases read
    exact ⟨[], rfl, by simp, fun _ => rfl⟩
  split at read
  · cases read
  · next some _ =>
    cases read
    exact ⟨_, List.takeWhile_append_dropWhile.symm, fun c => List.mem_takeWhile_imp,
      fun none => absurd (List.isEmpty_iff.mpr none) some⟩

theorem takeMantissa_parts {mantissa : Mantissa} (read : takeMantissa? text = some (mantissa, rest)) :
    ∃ front, text = front ++ rest ∧ IsGroupedMantissa front := by
  rw [takeMantissa?] at read
  obtain ⟨⟨digits, left⟩, first, taken⟩ := Option.bind_eq_some_iff.mp read
  clear read
  obtain ⟨whole, rfl, grouped, void⟩ := takeGrouped_parts first
  dsimp only at taken
  split at taken
  · next behind =>
    obtain ⟨⟨places, left⟩, second, taken'⟩ := Option.bind_eq_some_iff.mp taken
    clear taken
    obtain ⟨fraction, rfl, grouped', void'⟩ := takeGrouped_parts second
    dsimp only at taken'
    split at taken'
    · cases taken'
    · next some =>
      cases taken'
      refine ⟨whole ++ '.' :: fraction, by simp, .pointed ?_ grouped grouped'⟩
      by_contra none
      obtain ⟨noWhole, noFraction⟩ := not_or.mp none
      simp [void (not_not.mp noWhole), void' (not_not.mp noFraction)] at some
  · split at taken
    · cases taken
    · next some =>
      cases taken
      exact ⟨whole, rfl, .plain (fun none => by simp [void none] at some) grouped⟩

/-- An exponent has a letter in front, unless there is none. -/
theorem readExponent_parts {exponent : Int} (read : readExponent? text = some exponent) :
    text = [] ∨ ∃ letter negative sign group, text = letter :: (sign ++ group) ∧
      (letter = 'e' ∨ letter = 'E') ∧ IsSign negative sign ∧ ∀ c ∈ group, isGrouped c = true := by
  cases text with
  | nil => exact Or.inl rfl
  | cons letter rest =>
    rw [readExponent?] at read
    split at read
    · next mark =>
      obtain ⟨negative, sign, body, taken, rfl, signs⟩ := takeSign_parts rest
      rw [taken] at read
      obtain ⟨⟨digits, left⟩, first, ended⟩ := Option.bind_eq_some_iff.mp read
      clear read
      obtain ⟨group, rfl, all, _⟩ := takeGrouped_parts first
      dsimp only at ended
      split at ended
      · cases ended
      · next whole =>
        obtain rfl : left = [] := by
          by_contra more
          simp [more] at whole
        exact Or.inr ⟨letter, negative, sign, group, by simp, mark, signs, all⟩
    · cases read

/-- How a number was read: by a word, or by a mantissa and an exponent. -/
theorem readDouble_parts {double : Double} (read : readDouble? text = some double) :
    ∃ negative sign body, trimMargin text = sign ++ body ∧ IsSign negative sign ∧
      (plainLower body ∈ [("inf" : Text), "infinity", "nan"] ∨
        ∃ mantissa exponent power, body = mantissa ++ exponent ∧ IsGroupedMantissa mantissa ∧
          readExponent? exponent = some power) := by
  obtain ⟨negative, sign, body, taken, parts, signs⟩ := takeSign_parts (trimMargin text)
  refine ⟨negative, sign, body, parts, signs, ?_⟩
  rw [readDouble?, taken] at read
  dsimp only at read
  split at read
  · next word => exact Or.inl (by rcases word with word | word <;> simp [word])
  split at read
  · next word => exact Or.inl (by simp [word])
  · obtain ⟨⟨mantissa, exponent⟩, first, read'⟩ := Option.bind_eq_some_iff.mp read
    obtain ⟨power, second, _⟩ := Option.bind_eq_some_iff.mp read'
    obtain ⟨front, rfl, grouped⟩ := takeMantissa_parts first
    exact Or.inr ⟨front, exponent, power, rfl, grouped, second⟩

/-- A number of any kind has no percent sign. -/
theorem percent_not_mem {double : Double} (read : readDouble? text = some double) : '%' ∉ text := by
  intro member
  obtain ⟨before, behind, whole, first, last⟩ := Text.trim_parts isMargin text
  obtain ⟨negative, sign, body, parts, signs, how⟩ := readDouble_parts read
  have margin : isMargin '%' = false := by decide
  have grouped : isGrouped '%' = false := by decide
  have foreign {sign : Text} {negative : Bool} (signs : IsSign negative sign) : '%' ∉ sign := by
    intro member
    exact absurd (signs.mem member) (by decide)
  rw [whole, List.mem_append, List.mem_append] at member
  have inside : '%' ∈ body := by
    rcases member with front | middle | behind
    · simp [first _ front] at margin
    · rw [← trimMargin, parts, List.mem_append] at middle
      exact middle.resolve_left (foreign signs)
    · simp [last _ behind] at margin
  -- A word has letters only, and a number digits, signs, a point and the mark of an exponent.
  rcases how with word | ⟨mantissa, exponent, power, rfl, mantissas, exponents⟩
  · have lower : '%' ∈ plainLower body := List.mem_map.mpr ⟨'%', inside, by decide⟩
    simp only [List.mem_cons, List.not_mem_nil, or_false] at word
    rcases word with word | word | word <;> rw [word] at lower <;> exact absurd lower (by decide)
  · rcases List.mem_append.mp inside with digits | exponentMember
    · simpa [grouped] using mantissas.mem digits
    · rcases readExponent_parts exponents with rfl | ⟨letter, _, sign, group, rfl, mark, signs, all⟩
      · cases exponentMember
      · simp only [List.mem_cons, List.mem_append] at exponentMember
        rcases exponentMember with rfl | member | member
        · exact absurd mark (by decide)
        · exact foreign signs member
        · simp [all _ member] at grouped

/-! Of what reads as a number, the levels are told by their characters. -/

/-- White space, or a character of a numeral without an exponent. -/
def isPlainPart (c : Char) : Bool := Text.isBlank c || Text.isDigit c || ['+', '-', '.'].contains c

theorem isPlainPart_iff : isPlainPart c = true ↔
    Text.isBlank c = true ∨ Text.isDigit c = true ∨ c = '+' ∨ c = '-' ∨ c = '.' := by
  simp [isPlainPart, or_assoc]

theorem isBlank_range (blank : Text.isBlank c = true) : c.toNat ≤ 32 ∨ 0x85 ≤ c.toNat := by
  have wide : ∀ blank ∈ Text.wideBlanks, 0x85 ≤ blank := by decide
  simp only [Text.isBlank, Text.isPlainBlank, Text.isSeparator, Text.isWideBlank, Bool.or_eq_true,
    Bool.and_eq_true, beq_iff_eq, decide_eq_true_eq, List.contains_iff_mem] at blank
  rcases blank with ((rfl | plain) | separator) | member
  · exact Or.inl (by decide)
  · omega
  · omega
  · exact Or.inr (wide _ member)

/-- No letter that a word begins with is a part of a numeral. -/
theorem toLower_ne_letter (plain : isPlainPart c = true) {d : Char} (letter : d = 'i' ∨ d = 'n') :
    c.toLower ≠ d := by
  have range : c.toNat < 65 ∨ 90 < c.toNat := by
    rcases isPlainPart_iff.mp plain with blank | digit | rfl | rfl | rfl
    · have range := isBlank_range blank
      omega
    · have range := Text.isDigit_range digit
      omega
    all_goals exact Or.inl (by decide)
  have same : c.toLower = c := by
    refine dif_neg ?_
    rintro ⟨low, high⟩
    have least : 65 ≤ c.toNat := UInt32.le_iff_toNat_le.mp low
    have greatest : c.toNat ≤ 90 := UInt32.le_iff_toNat_le.mp high
    omega
  rw [same]
  rintro rfl
  rcases letter with rfl | rfl <;> exact absurd plain (by decide)

/-- What reads as a number and has only such characters is a numeral without an exponent, and white
space around it. -/
theorem plain_of_parts {double : Double} (read : readDouble? text = some double)
    (plain : ∀ c ∈ text, isPlainPart c = true) : IsPlain (trimMargin text) := by
  obtain ⟨negative, sign, body, parts, signs, how⟩ := readDouble_parts read
  have inside : ∀ c ∈ body, isPlainPart c = true := by
    intro c member
    refine plain c (Text.trim_subset isMargin text ?_)
    rw [← trimMargin, parts]
    exact List.mem_append_right sign member
  rw [parts]
  rcases how with word | ⟨mantissa, exponent, power, rfl, mantissas, exponents⟩
  · exfalso
    have begins {d : Char} {rest : Text} (letter : d = 'i' ∨ d = 'n') :
        plainLower body ≠ d :: rest := by
      intro equal
      obtain ⟨c, _, rfl, first, _⟩ := List.map_eq_cons_iff.mp equal
      exact toLower_ne_letter (inside c List.mem_cons_self) letter first
    simp only [List.mem_cons, List.not_mem_nil, or_false] at word
    rcases word with word | word | word
    · exact begins (Or.inl rfl) word
    · exact begins (Or.inl rfl) word
    · exact begins (Or.inr rfl) word
  · have bare : '_' ∉ mantissa := fun member =>
      absurd (inside '_' (List.mem_append_left _ member)) (by decide)
    rcases readExponent_parts exponents with rfl | ⟨letter, _, _, group, rfl, mark, _⟩
    · obtain ⟨whole, fraction, mantissas⟩ := mantissas.plain_of_bare bare
      rw [List.append_nil]
      exact .intro signs mantissas
    · have foreign := inside letter (by simp)
      rcases mark with rfl | rfl <;> exact absurd foreign (by decide)

end Numeral

namespace Bound

open Numeral

variable {text numeral : Text} {percent : Bool}

def percentText (percent : Bool) : Text := if percent then ['%'] else []

/-- A level as it is written: white space, a numeral without an exponent, white space, a percent sign or
none, white space. -/
inductive IsLevel : Text → (numeral : Text) → (percent : Bool) → Prop where
  | intro {before numeral between behind : Text} {percent : Bool}
    (first : ∀ c ∈ before, Text.isBlank c = true) (plain : IsPlain numeral)
    (middle : ∀ c ∈ between, Text.isBlank c = true) (last : ∀ c ∈ behind, Text.isBlank c = true) :
    IsLevel (before ++ (numeral ++ (between ++ (percentText percent ++ behind)))) numeral percent

theorem parse_sound {bound : Bound} (read : parse? text = some bound) : ∃ numeral double,
    IsLevel text numeral bound.percent ∧ readDouble? numeral = some double ∧
      bound.value = .real double := by
  obtain ⟨before, first, whole⟩ := Text.exists_gap text
  obtain ⟨negative, sign, body, taken, parts, signs⟩ := takeSignText_parts (Text.skipBlanks text)
  rw [parse?, taken] at read
  obtain ⟨⟨mantissa, rest⟩, found, read'⟩ := Option.bind_eq_some_iff.mp read
  obtain ⟨double, value, marked⟩ := Option.bind_eq_some_iff.mp read'
  clear read read'
  obtain ⟨rfl, _, _, mantissas⟩ := plainMantissa_sound found
  obtain ⟨between, middle, behind⟩ := Text.exists_gap rest
  have plain := IsPlain.intro signs mantissas
  have level {percent : Bool} {last : Text} (blank : ∀ c ∈ last, Text.isBlank c = true)
      (ends : Text.skipBlanks rest = percentText percent ++ last) :
      IsLevel text (sign ++ mantissa) percent := by
    have parts' : text = before ++ (sign ++ mantissa ++ (between ++ (percentText percent ++ last))) := by
      rw [whole, parts, ← ends, ← behind, List.append_assoc]
    exact parts' ▸ .intro first plain middle blank
  split at marked
  · next none =>
    cases marked
    have nothing : ∀ c ∈ ([] : Text), Text.isBlank c = true := by simp
    exact ⟨_, double, level nothing none, value, rfl⟩
  · next last mark =>
    split at marked
    · next ends =>
      cases marked
      refine ⟨_, double, level ?_ mark, value, rfl⟩
      simpa [Text.skipBlanks, List.dropWhile_eq_nil_iff] using ends
    · cases marked
  · cases marked

theorem parse_level (level : IsLevel text numeral percent) : ∃ double,
    readDouble? numeral = some double ∧ double ≠ .nan ∧ parse? text = some ⟨.real double, percent⟩ := by
  cases level with
  | @intro before _ between behind _ first plain middle last =>
    obtain ⟨double, denotes⟩ := plain.denotes
    obtain ⟨value, number⟩ := readDouble_of_denotes denotes
    refine ⟨double, value, number, ?_⟩
    -- Neither white space nor a percent sign goes on with a numeral.
    have ends : ∀ c ∈ (between ++ (percentText percent ++ behind)).head?,
        ¬(Text.isDigit c = true ∨ c = '.') := by
      intro c head
      have blank (blank : Text.isBlank c = true) : ¬(Text.isDigit c = true ∨ c = '.') := by
        rintro (digit | rfl)
        · rw [Text.isBlank_digit digit] at blank
          cases blank
        · exact absurd blank (by decide)
      have member := List.mem_of_mem_head? head
      simp only [List.mem_append] at member
      rcases member with gap | mark | gap
      · exact blank (middle c gap)
      · cases percent with
        | false => cases mark
        | true =>
          rw [percentText, if_pos rfl, List.mem_singleton] at mark
          subst mark
          decide
      · exact blank (last c gap)
    obtain ⟨sign, mantissa, rfl, taken, found⟩ := IsPlain.taken plain ends
    rw [parse?, Text.skipBlanks_blank first, IsPlain.skipBlanks plain, taken]
    dsimp only
    rw [found, Option.bind_eq_bind, Option.bind_some]
    dsimp only
    rw [value, Option.bind_eq_bind, Option.bind_some, Text.skipBlanks_blank middle]
    cases percent with
    | false => rw [percentText, if_neg (by decide), List.nil_append, Text.skipBlanks_gap last]
    | true =>
      rw [percentText, if_pos rfl, List.singleton_append, Text.skipBlanks_solid (by decide)]
      simp [Text.skipBlanks_gap last]

theorem IsLevel.mem (level : IsLevel text numeral percent) {c : Char} (member : c ∈ text) :
    isPlainPart c = true ∨ percent = true ∧ c = '%' := by
  cases level with
  | intro first plain middle last =>
    have blank (blank : Text.isBlank c = true) : isPlainPart c = true :=
      isPlainPart_iff.mpr (Or.inl blank)
    simp only [List.mem_append] at member
    rcases member with gap | inside | gap | mark | gap
    · exact Or.inl (blank (first c gap))
    · refine Or.inl (isPlainPart_iff.mpr ?_)
      rcases plain.mem inside with (rfl | rfl) | digit | rfl <;> simp [*]
    · exact Or.inl (blank (middle c gap))
    · cases percent with
      | false => cases mark
      | true => exact Or.inr ⟨rfl, List.mem_singleton.mp mark⟩
    · exact Or.inl (blank (last c gap))

/-- A number of any kind is a level if and only if it has no exponent, no underscore and is no word. -/
theorem parse_number {double : Double} (read : readDouble? text = some double) :
    parse? text = if text.all isPlainPart then some ⟨.real double, false⟩ else none := by
  split
  · next plain =>
    rw [List.all_eq_true] at plain
    obtain ⟨before, behind, whole, first, last⟩ := Text.trim_parts isMargin text
    have isPlain := plain_of_parts read plain
    have nothing : ∀ c ∈ ([] : Text), Text.isBlank c = true := by simp
    have level : IsLevel (before ++ (trimMargin text ++ ([] ++ (percentText false ++ behind))))
        (trimMargin text) false :=
      .intro (fun c member => Text.isBlank_of_isMargin (first c member)) isPlain nothing
        fun c member => Text.isBlank_of_isMargin (last c member)
    rw [percentText, if_neg (by decide), List.nil_append, List.nil_append, trimMargin, ← whole,
      ← trimMargin] at level
    obtain ⟨same, value, _, parsed⟩ := parse_level level
    obtain ⟨_, denotes⟩ := isPlain.denotes
    rw [readDouble?, trimMargin_solid denotes.solid, ← readDouble?, read] at value
    cases value
    exact parsed
  · next plain =>
    cases parsed : parse? text with
    | none => rfl
    | some bound =>
      obtain ⟨numeral, value, level, _⟩ := parse_sound parsed
      refine absurd (List.all_eq_true.mpr fun c member => ?_) plain
      refine (level.mem member).resolve_right ?_
      rintro ⟨_, rfl⟩
      exact percent_not_mem read member

/-- On a command line a text that is no level is a usage error. -/
theorem readValue_refused {what : Text} {opt : Probe.ProbeOption}
    (offered : opt ∈ Probe.Offer.levels what) (other : text ≠ CommandLine.endMark)
    (refused : parse? text = none) :
    CommandLine.Progress.readValue opt text =
      .error (.invalidValue opt.display "parse_bound" text) := by
  simp only [Probe.Offer.levels, List.mem_cons, List.not_mem_nil, or_false] at offered
  rcases offered with rfl | rfl <;>
    simp [CommandLine.Progress.readValue, Probe.Offer.level, other, refused]

/-- A text that is a level denotes the number of its numeral and has its percent sign. A text that is none
is refused, as a usage error where it stands on a command line. What reads as a number is a level if it has
neither an exponent nor underscores and is no word. -/
theorem parse_reads_levels (text : Text) :
    (∀ numeral percent, IsLevel text numeral percent → ∃ double,
        readDouble? numeral = some double ∧ double ≠ .nan ∧
          parse? text = some ⟨.real double, percent⟩) ∧
      ((∀ numeral percent, ¬IsLevel text numeral percent) → parse? text = none ∧
        ∀ what, ∀ opt ∈ Probe.Offer.levels what, text ≠ CommandLine.endMark →
          CommandLine.Progress.readValue opt text =
            .error (.invalidValue opt.display "parse_bound" text)) ∧
      ∀ double, readDouble? text = some double →
        parse? text = if text.all isPlainPart then some ⟨.real double, false⟩ else none := by
  refine ⟨fun _ _ => parse_level, fun foreign => ?_, fun _ => parse_number⟩
  have refused : parse? text = none := by
    cases read : parse? text with
    | none => rfl
    | some bound =>
      obtain ⟨numeral, _, level, _⟩ := parse_sound read
      exact absurd level (foreign numeral bound.percent)
  exact ⟨refused, fun what opt offered other => readValue_refused offered other refused⟩

/-- A level with white space of several kinds and a digit of another script, a text with a unit, and numbers
that are no levels. -/
theorem parse_reads_wide_level :
    let text : Text := ['\u00a0', '-', '\u0665', '.', '\u2003', '%', '\n']
    IsLevel text ['-', '\u0665', '.'] true ∧
      parse? text = some ⟨.real (.ofDecimal true 5 0), true⟩ ∧
      (∀ numeral percent, ¬IsLevel "80 MB" numeral percent) ∧ parse? "80 MB" = none ∧
      readDouble? "1e3" = some (.ofDecimal false 1 3) ∧ parse? "1e3" = none ∧
      readDouble? " 1_0" = some (.ofDecimal false 10 0) ∧ parse? " 1_0" = none ∧
      readDouble? "Inf" = some (.infinite false) ∧ parse? "Inf" = none := by
  intro text
  have digits : AreDigits ['\u0665'] := by
    simp only [AreDigits, List.mem_singleton, forall_eq]
    decide
  have plain : IsPlain (['-'] ++ (['\u0665'] ++ '.' :: [])) :=
    .intro .minus (.pointed (Or.inl (by simp)) digits (by simp [AreDigits]))
  have level : IsLevel (['\u00a0'] ++ (['-', '\u0665', '.'] ++ (['\u2003'] ++
      (percentText true ++ ['\n'])))) ['-', '\u0665', '.'] true := by
    refine .intro ?_ plain ?_ ?_ <;>
      (simp only [List.mem_singleton, forall_eq]; decide)
  have foreign : ∀ numeral percent, ¬IsLevel "80 MB" numeral percent := by
    intro numeral percent level
    rcases level.mem (c := 'M') (by decide) with plain | ⟨_, sign⟩
    · exact absurd plain (by decide)
    · exact absurd sign (by decide)
  obtain ⟨double, value, _, parsed⟩ := (parse_reads_levels text).1 _ _ level
  have same : readDouble? ['-', '\u0665', '.'] = some (.ofDecimal true 5 0) := by decide
  cases same.symm.trans value
  have exponent : readDouble? "1e3" = some (.ofDecimal false 1 3) := by decide
  have grouped : readDouble? " 1_0" = some (.ofDecimal false 10 0) := by decide
  have word : readDouble? "Inf" = some (.infinite false) := by decide
  exact ⟨level, parsed, foreign, ((parse_reads_levels "80 MB").2.1 foreign).1,
    exponent, (parse_reads_levels "1e3").2.2 _ exponent, grouped,
    (parse_reads_levels " 1_0").2.2 _ grouped, word, (parse_reads_levels "Inf").2.2 _ word⟩

end Bound

end ServiceProbe
