import ServiceProbe.Field
import ServiceProbe.Proofs.Json
import ServiceProbe.Proofs.Words
/-!
Where a look-up ends in a document. A quoted key with a colon behind it stands where the document has
that key and nowhere else: a string is never followed by a colon, and what follows a closing
quotation mark begins no key.
-/
namespace ServiceProbe

namespace Json

theorem isBlank_of_isSpace {c : Char} (space : isSpace c = true) : Text.isBlank c = true := by
  simp only [isSpace, Bool.or_eq_true, beq_iff_eq] at space
  rcases space with ((rfl | rfl) | rfl) | rfl <;> decide

theorem skipBlanks_gap {gap : Text} (blank : ∀ c ∈ gap, isSpace c = true) (rest : Text) :
    Text.skipBlanks (gap ++ rest) = Text.skipBlanks rest :=
  Text.skipBlanks_blank (fun c member => isBlank_of_isSpace (blank c member)) rest

/-- The first token, if there is one, is one of some marks. -/
def Stops (allowed : List Char) (tokens : List Token) : Prop :=
  ∀ token ∈ tokens.head?, ∃ c ∈ allowed, token = .mark c

/-- The marks behind a value. -/
def ends : List Char := [',', '}', ']']

theorem Written.stops {allowed : List Char} {tokens : List Token} {text : Text}
    (written : Written tokens text) (stops : Stops allowed tokens) :
    (∀ c ∈ text, isSpace c = true) ∨
      ∃ gap c rest, (∀ c ∈ gap, isSpace c = true) ∧ c ∈ allowed ∧ text = gap ++ c :: rest := by
  cases written with
  | nothing blank => exact Or.inl blank
  | @token gap rest token tokens blank later =>
    obtain ⟨c, member, rfl⟩ := stops _ rfl
    exact Or.inr ⟨gap, c, rest, blank, member, rfl⟩

/-- Below 128 only the ten digits and the letters of the alphabet make up words. -/
theorem isAlphanumeric_plain {c : Char} (plain : c.toNat < 128) :
    Text.isAlphanumeric c = (Text.alphanumericRanges.take 3).any fun (first, last) =>
      first ≤ c.toNat && c.toNat ≤ last := by
  have foreign : (Text.alphanumericRanges.drop 3).all (128 ≤ ·.1) = true := by decide +kernel
  have outside : ((Text.alphanumericRanges.drop 3).any fun (first, last) =>
      first ≤ c.toNat && c.toNat ≤ last) = false := by
    rw [List.any_eq_false]
    intro range member within
    have far : 128 ≤ range.1 := by simpa using List.all_eq_true.mp foreign range member
    simp only [Bool.and_eq_true, decide_eq_true_eq] at within
    omega
  rw [← Bool.or_false (List.any _ _), ← outside, ← List.any_append, List.take_append_drop]
  rfl

/-- What stands between keys begins none. -/
theorem isKeyCharacter_foreign : ∀ c ∈ '"' :: [' ', '\t', '\n', '\r'] ++ marks,
    isKeyCharacter c = false := by
  intro c member
  simp only [marks, List.cons_append, List.nil_append, List.mem_cons, List.not_mem_nil, or_false]
    at member
  rw [isKeyCharacter, Text.isWordCharacter]
  rcases member with rfl | rfl | rfl | rfl | rfl | rfl | rfl | rfl | rfl | rfl | rfl <;>
    rw [isAlphanumeric_plain (by decide)] <;> decide

theorem isKeyCharacter_space {c : Char} (space : isSpace c = true) : isKeyCharacter c = false := by
  simp only [isSpace, Bool.or_eq_true, beq_iff_eq] at space
  rcases space with ((rfl | rfl) | rfl) | rfl <;> exact isKeyCharacter_foreign _ (by decide)

theorem isKeyCharacter_mark {c : Char} (mark : c ∈ marks) : isKeyCharacter c = false :=
  isKeyCharacter_foreign c (List.mem_append_right _ mark)

theorem isKeyCharacter_quote : isKeyCharacter '"' = false := isKeyCharacter_foreign _ (by decide)

theorem isBlank_mark {c : Char} (mark : c ∈ marks) : Text.isBlank c = false := by
  simp only [marks, List.mem_cons, List.not_mem_nil, or_false] at mark
  rcases mark with rfl | rfl | rfl | rfl | rfl | rfl <;> decide

/-- No key begins where tokens are written that begin with a mark. -/
theorem Written.head_foreign {tokens : List Token} {text : Text} (written : Written tokens text)
    (stops : Stops marks tokens) : ∀ c ∈ text.head?, isKeyCharacter c = false := by
  intro c head
  rcases written.stops stops with blank | ⟨gap, mark, rest, blank, member, rfl⟩
  · exact isKeyCharacter_space (blank c (List.mem_of_mem_head? head))
  · cases gap with
    | nil =>
      cases head
      exact isKeyCharacter_mark member
    | cons first gap =>
      cases head
      exact isKeyCharacter_space (blank _ List.mem_cons_self)

theorem Stops.mono {small large : List Char} {tokens : List Token} (stops : Stops small tokens)
    (wider : small ⊆ large) : Stops large tokens := by
  intro token head
  obtain ⟨c, member, same⟩ := stops token head
  exact ⟨c, wider member, same⟩

theorem ends_subset_marks : ends ⊆ marks := by decide

/-- No colon follows a value. -/
theorem Written.no_colon {tokens : List Token} {text : Text} (written : Written tokens text)
    (stops : Stops ends tokens) : (Text.skipBlanks text).head? ≠ some ':' := by
  rcases written.stops stops with blank | ⟨gap, mark, rest, blank, member, rfl⟩
  · have void := skipBlanks_gap blank []
    rw [List.append_nil] at void
    rw [void]
    simp [Text.skipBlanks]
  · rw [skipBlanks_gap blank]
    have solid := isBlank_mark (ends_subset_marks member)
    simp only [Text.skipBlanks, List.dropWhile_cons, solid, Bool.false_eq_true, ↓reduceIte,
      List.head?_cons, ne_eq, Option.some.injEq]
    rintro rfl
    revert member
    decide

/-- What is left of an object or an array begins with a comma or with what closes it. -/
theorem stops_rest {part : Part} (rest : Json part) (inner : part ≠ .value) (after : List Token) :
    Stops ends (rest.comma ++ (rest.tokens ++ after)) := by
  intro token head
  cases rest with
  | string | bare | object | array => exact absurd rfl inner
  | noMember | member | noItem | item =>
    cases head
    exact ⟨_, by decide, rfl⟩

theorem stops_members (rest : Json .members) (after : List Token) :
    Stops [',', '}'] (rest.comma ++ (rest.tokens ++ after)) := by
  intro token head
  cases rest with
  | noMember | member =>
    cases head
    exact ⟨_, by decide, rfl⟩

end Json

namespace Field

open Json

variable {α β : Type} {key : Text} {read : Text → Option α}

/-! What stands at one place. -/

theorem behindKey_foreign {c : Char} (other : c ≠ '"') (rest : Text) :
    behindKey? key (c :: rest) = none := by
  simp [behindKey?, Text.after?, Ne.symm other]

theorem behindKey_here {gap : Text} (blank : ∀ c ∈ gap, isSpace c = true) (rest : Text) :
    behindKey? key ('"' :: (key ++ ['"']) ++ (gap ++ ':' :: rest)) = some rest := by
  have colon : Text.skipBlanks (':' :: rest) = ':' :: rest := Text.skipBlanks_solid (by decide) rest
  simp only [behindKey?, ← List.cons_append, Text.after_append, Option.bind_eq_bind,
    Option.bind_some]
  rw [skipBlanks_gap blank, colon]
  rfl

/-- Two texts without a mark, each with the mark behind it, are the same if they stand at the same
place. -/
theorem same_content {left right behind rest : Text} (plain : '"' ∉ left) (quoteless : '"' ∉ right)
    (same : left ++ '"' :: behind = right ++ '"' :: rest) : left = right ∧ behind = rest := by
  induction left generalizing right with
  | nil =>
    cases right with
    | nil => exact ⟨rfl, by simpa using same⟩
    | cons c right =>
      cases same
      simp at quoteless
  | cons c left ih =>
    cases right with
    | nil =>
      cases same
      simp at plain
    | cons d right =>
      simp only [List.cons_append, List.cons.injEq] at same
      simp only [List.mem_cons, not_or] at plain quoteless
      obtain ⟨rfl, equal⟩ := ih plain.2 quoteless.2 same.2
      exact ⟨by rw [same.1], equal⟩

theorem quote_not_mem (word : IsKey key) : '"' ∉ key := by
  intro member
  have wrong := word.2 _ member
  rw [isKeyCharacter_quote] at wrong
  cases wrong

theorem behindKey_string (word : IsKey key) {content rest : Text} (plain : '"' ∉ content)
    (other : content ≠ key ∨ (Text.skipBlanks rest).head? ≠ some ':') :
    behindKey? key ('"' :: (content ++ '"' :: rest)) = none := by
  unfold behindKey?
  cases found : Text.after? ('"' :: key ++ ['"']) ('"' :: (content ++ '"' :: rest)) with
  | none => rfl
  | some behind =>
    -- The key between its marks is the whole string, since neither holds a mark.
    have stands := Text.after_some.mp found
    simp only [List.cons_append, List.append_assoc, List.cons.injEq, true_and,
      List.nil_append] at stands
    obtain ⟨same, rfl⟩ := same_content plain (quote_not_mem word) stands
    have colonless := other.resolve_left fun different => different same
    cases first : Text.skipBlanks rest with
    | nil => simp [first, Text.after?]
    | cons c left =>
      have differs : ':' ≠ c := by
        rintro rfl
        simp [first] at colonless
      simp [first, Text.after?, differs]

theorem behindKey_closing (word : IsKey key) {rest : Text}
    (foreign : ∀ c ∈ rest.head?, isKeyCharacter c = false) :
    behindKey? key ('"' :: rest) = none := by
  obtain ⟨c, others, rfl⟩ := List.exists_cons_of_ne_nil word.1
  have first : isKeyCharacter c = true := word.2 c List.mem_cons_self
  cases rest with
  | nil => simp [behindKey?, Text.after?]
  | cons d rest =>
    have differs : c ≠ d := by
      rintro rfl
      rw [foreign c rfl] at first
      cases first
    simp [behindKey?, Text.after?, differs]

/-! Passing over tokens. A scan goes over a text from its head. -/

/-- A scan that takes no account of places without the key. -/
def Skips (key : Text) (scan : Text → β) : Prop :=
  ∀ c rest, behindKey? key (c :: rest) = none → scan (c :: rest) = scan rest

/-- A reading that needs the key. -/
def OnKey (key : Text) (read : Text → Option α) : Prop :=
  ∀ text, behindKey? key text = none → read text = none

theorem OnKey.skips (onKey : OnKey key read) : Skips key (Text.leftmost? read) :=
  fun _ _ absent => Text.leftmost_cons_none (onKey _ absent)

theorem quote_not_mem_blank {gap : Text} (blank : ∀ c ∈ gap, Text.isBlank c = true) : '"' ∉ gap := by
  intro member
  have solid : Text.isBlank '"' = false := by decide
  rw [blank _ member] at solid
  cases solid

theorem quote_not_mem_gap {gap : Text} (blank : ∀ c ∈ gap, isSpace c = true) : '"' ∉ gap :=
  quote_not_mem_blank fun c member => isBlank_of_isSpace (blank c member)

/-- A scan of a text takes some values into account, and then it is a scan of the text of some later
tokens. -/
def Collects (scan : Text → β) (weigh : Json .value → β → β) (text : Text)
    (values : List (Json .value)) (after : List Token) : Prop :=
  ∃ rest, Written after rest ∧ scan text = values.foldr weigh (scan rest)

/-- Nothing is read before the text of some later tokens. -/
def Passes (read : Text → Option α) (text : Text) (after : List Token) : Prop :=
  ∃ rest, Written after rest ∧ Text.leftmost? read text = Text.leftmost? read rest

theorem Collects.andThen {scan : Text → β} {weigh : Json .value → β → β}
    {values others : List (Json .value)} {text : Text} {middle after : List Token}
    (first : Collects scan weigh text values middle)
    (next : ∀ {rest}, Written middle rest → Collects scan weigh rest others after) :
    Collects scan weigh text (values ++ others) after := by
  obtain ⟨rest, written, early⟩ := first
  obtain ⟨left, later, late⟩ := next written
  exact ⟨left, later, by rw [early, late, List.foldr_append]⟩

/-- What takes nothing into account stands before what does. -/
theorem Collects.behind {scan : Text → β} {weigh : Json .value → β → β}
    {values : List (Json .value)} {text : Text} {middle after : List Token}
    (first : Collects scan weigh text [] middle)
    (next : ∀ {rest}, Written middle rest → Collects scan weigh rest values after) :
    Collects scan weigh text values after := first.andThen next

/-- What a scan comes to at a place of the key: it takes the value there into account. -/
def Weighs (key : Text) (scan : Text → β) (weigh : Json .value → β → β) (value : Json .value) : Prop :=
  ∀ ⦃gap rest : Text⦄ ⦃behind : List Token⦄, (∀ c ∈ gap, isSpace c = true) →
    Written (value.tokens ++ behind) rest →
    scan ('"' :: (key ++ ['"']) ++ (gap ++ ':' :: rest)) = weigh value (scan rest)

section Scan

variable {scan : Text → β} {weigh : Json .value → β → β} (skips : Skips key scan)

include skips

theorem Skips.quoteless {front : Text} (plain : '"' ∉ front) (rest : Text) :
    scan (front ++ rest) = scan rest := by
  induction front with
  | nil => rfl
  | cons c front ih =>
    simp only [List.mem_cons, not_or] at plain
    rw [List.cons_append, skips _ _ (behindKey_foreign (Ne.symm plain.1) _)]
    exact ih plain.2

theorem Skips.content (word : IsKey key) {content rest : Text} (plain : '"' ∉ content)
    (foreign : ∀ c ∈ rest.head?, isKeyCharacter c = false) : scan (content ++ '"' :: rest) = scan rest := by
  rw [skips.quoteless plain, skips _ _ (behindKey_closing word foreign)]

theorem Skips.string (word : IsKey key) {content rest : Text} (plain : '"' ∉ content)
    (foreign : ∀ c ∈ rest.head?, isKeyCharacter c = false)
    (other : content ≠ key ∨ (Text.skipBlanks rest).head? ≠ some ':') :
    scan ('"' :: (content ++ '"' :: rest)) = scan rest := by
  rw [skips _ _ (behindKey_string word plain other)]
  exact skips.content word plain foreign

theorem Skips.nothing {text : Text} (written : Written [] text) : scan text = scan [] := by
  cases written with
  | nothing blank =>
    have passed := skips.quoteless (quote_not_mem_gap blank) []
    rwa [List.append_nil] at passed

/-- Behind the opening quotation mark of a key nothing is left of it. -/
theorem Skips.behind (word : IsKey key) {gap rest : Text} (blank : ∀ c ∈ gap, isSpace c = true) :
    scan (key ++ ['"'] ++ (gap ++ ':' :: rest)) = scan rest := by
  have foreign : ∀ c ∈ (gap ++ ':' :: rest).head?, isKeyCharacter c = false := by
    intro c first
    cases gap with
    | nil =>
      cases first
      exact isKeyCharacter_mark (by decide)
    | cons d gap =>
      cases first
      exact isKeyCharacter_space (blank _ List.mem_cons_self)
  rw [List.append_assoc]
  exact (skips.content word (quote_not_mem word) foreign).trans
    ((skips.quoteless (quote_not_mem_gap blank) _).trans
      (skips _ _ (behindKey_foreign (by decide) rest)))

theorem Skips.gap {token : Token} {tokens : List Token} {text : Text}
    (written : Written (token :: tokens) text) :
    ∃ rest, Written tokens rest ∧ scan text = scan (token.text ++ rest) := by
  cases written with
  | @token gap rest _ _ blank later =>
    exact ⟨rest, later, skips.quoteless (quote_not_mem_gap blank) _⟩

theorem Skips.mark {c : Char} (mark : c ∈ marks) {tokens : List Token} {text : Text}
    (written : Written (.mark c :: tokens) text) : Collects scan weigh text [] tokens := by
  obtain ⟨rest, later, gap⟩ := skips.gap written
  refine ⟨rest, later, gap.trans (skips.quoteless ?_ rest)⟩
  simp only [Token.text, List.mem_singleton]
  rintro rfl
  revert mark
  decide

theorem Skips.comma {part : Part} (rest : Json part) {tokens : List Token} {text : Text}
    (written : Written (rest.comma ++ tokens) text) : Collects scan weigh text [] tokens := by
  cases rest with
  | string | bare | object | array | noMember | noItem => exact ⟨text, written, rfl⟩
  | member | item => exact skips.mark (by decide) written

theorem Skips.bare {bare : Text} (plain : (Token.bare bare).Plain) {tokens : List Token} {text : Text}
    (written : Written (.bare bare :: tokens) text) : Collects scan weigh text [] tokens := by
  obtain ⟨rest, later, gap⟩ := skips.gap written
  refine ⟨rest, later, gap.trans (skips.quoteless ?_ rest)⟩
  intro member
  have bareQuote := plain.2 _ member
  revert bareQuote
  decide

theorem Skips.value (word : IsKey key) {content : Text} (plain : '"' ∉ content) {after : List Token}
    {text : Text} (stops : Stops ends after) (written : Written (.string content :: after) text) :
    Collects scan weigh text [] after := by
  obtain ⟨rest, later, gap⟩ := skips.gap written
  refine ⟨rest, later, gap.trans ?_⟩
  have foreign := later.head_foreign (stops.mono ends_subset_marks)
  have passed := skips.string word plain foreign (Or.inr (later.no_colon stops))
  simpa [Token.text] using passed

/-- Another key and the colon behind it. -/
theorem Skips.otherKey (word : IsKey key) {other : Text} (plain : '"' ∉ other) (different : key ≠ other)
    {tokens : List Token} {text : Text}
    (written : Written (.string other :: .mark ':' :: tokens) text) :
    Collects scan weigh text [] tokens := by
  obtain ⟨middle, colon, gap⟩ := skips.gap written
  have marked : Collects scan weigh middle [] tokens := skips.mark (by decide) colon
  obtain ⟨rest, later, mark⟩ := marked
  refine ⟨rest, later, gap.trans ?_⟩
  rw [← mark]
  have stops : Stops marks (.mark ':' :: tokens) := by
    rintro token ⟨⟩
    exact ⟨':', by decide, rfl⟩
  have passed := skips.string word plain (colon.head_foreign stops) (Or.inl (Ne.symm different))
  simpa [Token.text] using passed

/-- The value of the key is taken into account, and that of no other key. -/
theorem Skips.named (word : IsKey key) {other : Text} (plain : '"' ∉ other) {value : Json .value}
    (weighs : value ∈ (if other = key then [value] else []) → Weighs key scan weigh value)
    {behind : List Token} {text : Text}
    (written : Written (.string other :: .mark ':' :: (value.tokens ++ behind)) text) :
    Collects scan weigh text (if other = key then [value] else []) (value.tokens ++ behind) := by
  by_cases same : other = key
  · rw [if_pos same] at weighs ⊢
    subst same
    obtain ⟨middle, colon, gap⟩ := skips.gap written
    cases colon with
    | @token space rest _ _ blank later =>
      exact ⟨rest, later, gap.trans (weighs List.mem_cons_self blank later)⟩
  · rw [if_neg same]
    exact skips.otherKey word plain (Ne.symm same) written

/-- A scan of a document takes every value of the key into account, in the order in which they are
written, and nothing else. -/
theorem Skips.document (word : IsKey key) {part : Part} {document : Json part}
    (plain : ∀ token ∈ document.tokens, token.Plain)
    (weighs : ∀ value ∈ document.valuesOf key, Weighs key scan weigh value) {after : List Token}
    {text : Text} (stops : Stops ends after) (written : Written (document.tokens ++ after) text) :
    Collects scan weigh text (document.valuesOf key) after := by
  -- The induction follows the document; what stands behind each part is what is left of the parts
  -- around it, and it begins with a comma or with what closes one of them.
  induction document generalizing after text with
  | string content => exact skips.value word (plain _ List.mem_cons_self) stops written
  | bare bare => exact skips.bare (plain _ List.mem_cons_self) written
  | object inner ih | array inner ih =>
    have inside : ∀ token ∈ inner.tokens, token.Plain :=
      fun token member => plain token (List.mem_cons_of_mem _ member)
    exact (skips.mark (by decide) written).andThen fun later => ih inside weighs stops later
  | noMember | noItem => exact skips.mark (by decide) written
  | member other value rest valueIh restIh =>
    simp only [valuesOf, List.mem_append] at weighs
    simp only [tokens, List.mem_cons, List.mem_append] at plain
    simp only [tokens, List.cons_append, List.append_assoc] at written
    have named := skips.named word (plain (.string other) (Or.inl rfl))
      (fun here => weighs value (Or.inl here)) written
    refine named.andThen fun later => ?_
    have inside := valueIh (fun token member => plain token (by simp [member]))
      (fun found member => weighs found (Or.inr (Or.inl member)))
      (stops_rest rest (by simp) after) later
    refine inside.andThen fun later => ?_
    refine (skips.comma rest later).behind fun later => ?_
    exact restIh (fun token member => plain token (by simp [member]))
      (fun found member => weighs found (Or.inr (Or.inr member))) stops later
  | item value rest valueIh restIh =>
    simp only [valuesOf, List.mem_append] at weighs
    simp only [tokens, List.mem_append] at plain
    simp only [tokens, List.append_assoc] at written
    have inside := valueIh (fun token member => plain token (by simp [member]))
      (fun found member => weighs found (Or.inl member)) (stops_rest rest (by simp) after) written
    refine inside.andThen fun later => ?_
    refine (skips.comma rest later).behind fun later => ?_
    exact restIh (fun token member => plain token (by simp [member]))
      (fun found member => weighs found (Or.inr member)) stops later

/-- A scan of the whole text of a document. -/
theorem Skips.written (word : IsKey key) {part : Part} {document : Json part}
    (plain : ∀ token ∈ document.tokens, token.Plain)
    (weighs : ∀ value ∈ document.valuesOf key, Weighs key scan weigh value) {text : Text}
    (written : Written document.tokens text) :
    scan text = (document.valuesOf key).foldr weigh (scan []) := by
  have stops : Stops ends [] := by
    intro token head
    cases head
  rw [← List.append_nil document.tokens] at written
  obtain ⟨rest, ended, whole⟩ := skips.document word plain weighs stops written
  rw [whole, skips.nothing ended]

end Scan

/-! Where nothing is read, a reading passes over. -/

theorem Collects.passes {text : Text} {after : List Token}
    (collects : Collects (Text.leftmost? read) (fun _ => id) text [] after) : Passes read text after :=
  collects

theorem Passes.andThen {text : Text} {middle after : List Token} (first : Passes read text middle)
    (next : ∀ {rest}, Written middle rest → Passes read rest after) : Passes read text after := by
  obtain ⟨rest, written, early⟩ := first
  obtain ⟨left, later, late⟩ := next written
  exact ⟨left, later, early.trans late⟩

section Passing

variable (onKey : OnKey key read)

include onKey

theorem passes_mark {c : Char} (mark : c ∈ marks) {tokens : List Token} {text : Text}
    (written : Written (.mark c :: tokens) text) : Passes read text tokens :=
  Collects.passes (onKey.skips.mark mark written)

theorem passes_comma {part : Part} (rest : Json part) {tokens : List Token} {text : Text}
    (written : Written (rest.comma ++ tokens) text) : Passes read text tokens :=
  Collects.passes (onKey.skips.comma rest written)

theorem passes_otherKey (word : IsKey key) {other : Text} (plain : '"' ∉ other)
    (different : key ≠ other) {tokens : List Token} {text : Text}
    (written : Written (.string other :: .mark ':' :: tokens) text) : Passes read text tokens :=
  Collects.passes (onKey.skips.otherKey word plain different written)

end Passing

/-- Nothing is read in a part of a document, whatever stands behind it. -/
def Barren (read : Text → Option α) {part : Part} (document : Json part) : Prop :=
  ∀ ⦃after : List Token⦄ ⦃text : Text⦄, Stops ends after →
    Written (document.tokens ++ after) text → Passes read text after

theorem Barren.pair (onKey : OnKey key read) {part : Part} {value : Json .value} {rest : Json part}
    (inner : part ≠ .value) (valueBarren : Barren read value) (restBarren : Barren read rest)
    {after : List Token} {text : Text} (stops : Stops ends after)
    (written : Written (value.tokens ++ (rest.comma ++ (rest.tokens ++ after))) text) :
    Passes read text after := by
  have first := valueBarren (stops_rest rest inner after) written
  have second := first.andThen (passes_comma onKey rest)
  exact second.andThen fun later => restBarren stops later

theorem barren_of_absent (onKey : OnKey key read) (word : IsKey key) {part : Part}
    {document : Json part} (plain : ∀ token ∈ document.tokens, token.Plain)
    (absent : key ∉ document.keys) : Barren read document := by
  intro after text stops written
  have void := valuesOf_of_absent absent
  apply Collects.passes
  rw [← void]
  exact onKey.skips.document word plain (by simp [void]) stops written

/-! The place of a key. -/

/-- A look-up ends at the place of a key, with the tokens of its value behind it. Where the reading
fails there it fails everywhere. -/
def Reaches (read : Text → Option α) (key : Text) (value : Json .value) (text : Text) : Prop :=
  ∃ place rest behind, Text.leftmost? read text = read place ∧
    behindKey? key place = some rest ∧ Written (value.tokens ++ behind) rest ∧
    Stops [',', '}'] behind

theorem Passes.reaches {text : Text} {after : List Token} {value : Json .value}
    (passes : Passes read text after)
    (next : ∀ rest, Written after rest → Reaches read key value rest) :
    Reaches read key value text := by
  obtain ⟨rest, written, same⟩ := passes
  obtain ⟨place, found, behind, ends, others⟩ := next rest written
  exact ⟨place, found, behind, same.trans ends, others⟩

/-- Nothing is read in the text of some tokens. -/
def Void (read : Text → Option α) (tokens : List Token) : Prop :=
  ∀ ⦃text : Text⦄, Written tokens text → Text.leftmost? read text = none

theorem Passes.none {text : Text} {after : List Token} (passes : Passes read text after)
    (void : Void read after) : Text.leftmost? read text = none := by
  obtain ⟨rest, written, same⟩ := passes
  rw [same, void written]

/-- Where the reading fails at the key itself, the search goes on behind it. -/
theorem leftmost_place (onKey : OnKey key read) (word : IsKey key) {gap : Text}
    (blank : ∀ c ∈ gap, isSpace c = true) (rest : Text) :
    Text.leftmost? read ('"' :: (key ++ ['"']) ++ (gap ++ ':' :: rest)) =
      (read ('"' :: (key ++ ['"']) ++ (gap ++ ':' :: rest))).or (Text.leftmost? read rest) := by
  cases here : read ('"' :: (key ++ ['"']) ++ (gap ++ ':' :: rest)) with
  | some found => exact Text.leftmost_of_some here
  | none =>
    rw [List.cons_append] at here ⊢
    rw [Text.leftmost_cons_none here, onKey.skips.behind word blank]
    rfl

theorem leftmost_key (onKey : OnKey key read) (word : IsKey key) {gap rest : Text}
    (blank : ∀ c ∈ gap, isSpace c = true) (void : Text.leftmost? read rest = none) :
    Text.leftmost? read ('"' :: (key ++ ['"']) ++ (gap ++ ':' :: rest)) =
      read ('"' :: (key ++ ['"']) ++ (gap ++ ':' :: rest)) := by
  rw [leftmost_place onKey word blank, void, Option.or_none]

theorem reaches_here (onKey : OnKey key read) (word : IsKey key) {value : Json .value}
    {behind : List Token} {text : Text}
    (written : Written (.string key :: .mark ':' :: (value.tokens ++ behind)) text)
    (stops : Stops [',', '}'] behind) (void : Void read (value.tokens ++ behind)) :
    Reaches read key value text := by
  obtain ⟨middle, colon, gap⟩ := onKey.skips.gap written
  cases colon with
  | @token space rest _ _ blank later =>
    exact ⟨_, rest, behind, gap.trans (leftmost_key onKey word blank (void later)),
      behindKey_here blank rest, later, stops⟩

theorem reaches_of_has (onKey : OnKey key read) (word : IsKey key) {part : Part}
    {document : Json part} {value : Json .value} (has : document.Has key value)
    (plain : ∀ token ∈ document.tokens, token.Plain) (distinct : document.keys.Nodup)
    {after : List Token} {text : Text} (stops : Stops ends after) (void : Void read after)
    (written : Written (document.tokens ++ after) text) : Reaches read key value text := by
  -- The induction follows the way to the key. The key occurs once, so all that stands before it and
  -- behind it is barren.
  induction has generalizing after text with
  | @here key value rest =>
    simp only [Json.keys, List.nodup_cons, List.mem_append, not_or] at distinct
    simp only [tokens, List.mem_cons, List.mem_append] at plain
    simp only [tokens, List.cons_append, List.append_assoc] at written
    have valueBarren := barren_of_absent onKey word
      (fun token member => plain token (by simp [member])) distinct.1.1
    have restBarren := barren_of_absent onKey word
      (fun token member => plain token (by simp [member])) distinct.1.2
    refine reaches_here onKey word written (stops_members rest after) ?_
    intro left later
    exact (Barren.pair onKey (by simp) valueBarren restBarren stops later).none void
  | @inValue key other inner found rest has ih =>
    simp only [Json.keys, List.nodup_cons, List.nodup_append, List.mem_append, not_or] at distinct
    simp only [tokens, List.mem_cons, List.mem_append] at plain
    simp only [tokens, List.cons_append, List.append_assoc] at written
    have inside := has.mem_keys
    have different : key ≠ other := fun same => distinct.1.1 (same ▸ inside)
    have elsewhere : key ∉ rest.keys := fun member => distinct.2.2.2 key inside key member rfl
    have restBarren := barren_of_absent onKey word
      (fun token member => plain token (by simp [member])) elsewhere
    have quoteless : '"' ∉ other := plain (.string other) (by simp)
    refine (passes_otherKey onKey word quoteless different written).reaches fun left later => ?_
    refine ih onKey word (fun token member => plain token (by simp [member])) distinct.2.1
      (stops_rest rest (by simp) after) ?_ later
    intro text behind
    exact ((passes_comma onKey rest behind).andThen fun next => restBarren stops next).none void
  | @later key other inner found rest has ih =>
    simp only [Json.keys, List.nodup_cons, List.nodup_append, List.mem_append, not_or] at distinct
    simp only [tokens, List.mem_cons, List.mem_append] at plain
    simp only [tokens, List.cons_append, List.append_assoc] at written
    have inside := has.mem_keys
    have different : key ≠ other := fun same => distinct.1.2 (same ▸ inside)
    have elsewhere : key ∉ inner.keys := fun member => distinct.2.2.2 key member key inside rfl
    have innerBarren := barren_of_absent onKey word
      (fun token member => plain token (by simp [member])) elsewhere
    have quoteless : '"' ∉ other := plain (.string other) (by simp)
    have keyPassed := passes_otherKey onKey word quoteless different written
    have valuePassed := keyPassed.andThen fun later =>
      innerBarren (stops_rest rest (by simp) after) later
    refine (valuePassed.andThen (passes_comma onKey rest)).reaches fun left later => ?_
    exact ih onKey word (fun token member => plain token (by simp [member])) distinct.2.2.1 stops
      void later
  | object has ih | array has ih =>
    refine (passes_mark onKey (by decide) written).reaches fun left later => ?_
    exact ih onKey word (fun token member => plain token (List.mem_cons_of_mem _ member)) distinct
      stops void later
  | @inItem key inner found rest has ih =>
    simp only [Json.keys, List.nodup_append] at distinct
    simp only [tokens, List.mem_append] at plain
    simp only [tokens, List.append_assoc] at written
    have elsewhere : key ∉ rest.keys := fun member =>
      distinct.2.2 key has.mem_keys key member rfl
    have restBarren := barren_of_absent onKey word
      (fun token member => plain token (by simp [member])) elsewhere
    refine ih onKey word (fun token member => plain token (by simp [member])) distinct.1
      (stops_rest rest (by simp) after) ?_ written
    intro text behind
    exact ((passes_comma onKey rest behind).andThen fun next => restBarren stops next).none void
  | @laterItem key inner found rest has ih =>
    simp only [Json.keys, List.nodup_append] at distinct
    simp only [tokens, List.mem_append] at plain
    simp only [tokens, List.append_assoc] at written
    have elsewhere : key ∉ inner.keys := fun member =>
      distinct.2.2 key member key has.mem_keys rfl
    have innerBarren := barren_of_absent onKey word
      (fun token member => plain token (by simp [member])) elsewhere
    have valuePassed := innerBarren (stops_rest rest (by simp) after) written
    refine (valuePassed.andThen (passes_comma onKey rest)).reaches fun left later => ?_
    exact ih onKey word (fun token member => plain token (by simp [member])) distinct.2.1 stops
      void later

/-! What is read there. -/

theorem void_nil (onKey : OnKey key read) : Void read [] := by
  intro text written
  rw [onKey.skips.nothing written]
  exact onKey [] rfl

theorem ordinary_reaches {part : Part} {document : Json part} (ordinary : document.Ordinary)
    (onKey : OnKey key read) {value : Json .value} (has : document.Has key value) {text : Text}
    (written : Written document.tokens text) : Reaches read key value text := by
  have stops : Stops ends [] := by
    intro token head
    cases head
  rw [← List.append_nil document.tokens] at written
  exact reaches_of_has onKey (has.isKey ordinary) has ordinary.plain ordinary.distinct stops
    (void_nil onKey) written

end Field
end ServiceProbe
