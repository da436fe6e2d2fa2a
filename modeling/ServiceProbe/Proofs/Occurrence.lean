import ServiceProbe.Proofs.FirstKey
import ServiceProbe.Proofs.Words
/-!
What a text tells about a key, by the places where the key occurs. The value of a key is described without
a search, and no look-up finds anything where the key does not occur at all.
-/
namespace ServiceProbe

namespace Text

/-! What stripping leaves of a text. -/

/-- No white space stands at either end. -/
def Trimmed (text : Text) : Prop :=
  (∀ c ∈ text.head?, isBlank c = false) ∧ ∀ c ∈ text.getLast?, isBlank c = false

theorem strip_trimmed (text : Text) : (strip text).Trimmed := by
  constructor
  · intro c first
    exact dropWhile_begins (dropEnd_begins first)
  · intro c last
    rw [strip, trim, dropEnd, List.getLast?_reverse] at last
    exact dropWhile_begins last

end Text

namespace Field

variable {key body answer : Text}

/-! The value of a key. -/

/-- What a text tells about a key. White space in front of a token belongs to it until it is stripped, so
that a key with nothing but white space behind it has an empty value and hides the later ones. -/
inductive Tells (key body : Text) : (answer : Text) → Prop where
  | quoted {i : Nat} {content : Text} (nearest : First QuotedAt key body i content) :
    Tells key body content
  | bare {i : Nat} {token : Text} (unquoted : ¬Occurs QuotedAt key body)
    (nearest : First TokenAt key body i token) : Tells key body token
  | nothing (unquoted : ¬Occurs QuotedAt key body) (bareless : ¬Occurs TokenAt key body) :
    Tells key body []

theorem value_of_unquoted (unquoted : ¬Occurs QuotedAt key body) :
    value body key = (body.leftmost? (bareValue? key)).getD [] := by
  rw [value, (reads_quoted key).leftmost_none_iff.mpr unquoted]

theorem Tells.value_eq (told : Tells key body answer) : value body key = answer := by
  cases told with
  | quoted nearest => rw [value, (reads_quoted key).leftmost_iff.mpr ⟨_, nearest⟩]
  | bare unquoted nearest =>
    rw [value_of_unquoted unquoted, (reads_token key).leftmost_iff.mpr ⟨_, nearest⟩]
    rfl
  | nothing unquoted bareless =>
    rw [value_of_unquoted unquoted, (reads_token key).leftmost_none_iff.mpr bareless]
    rfl

theorem tells_value (key body : Text) : Tells key body (value body key) := by
  cases quoted : body.leftmost? (quotedValue? key) with
  | some content =>
    obtain ⟨i, nearest⟩ := (reads_quoted key).leftmost_iff.mp quoted
    rw [(Tells.quoted nearest).value_eq]
    exact .quoted nearest
  | none =>
    have unquoted := (reads_quoted key).leftmost_none_iff.mp quoted
    cases bare : body.leftmost? (bareValue? key) with
    | some token =>
      obtain ⟨i, nearest⟩ := (reads_token key).leftmost_iff.mp bare
      rw [(Tells.bare unquoted nearest).value_eq]
      exact .bare unquoted nearest
    | none =>
      have bareless := (reads_token key).leftmost_none_iff.mp bare
      rw [(Tells.nothing unquoted bareless).value_eq]
      exact .nothing unquoted bareless

theorem TokenAt.plain {rest token : Text} (stands : TokenAt rest token) :
    (∀ c ∈ token, endsToken c = false) ∧ token.Trimmed := by
  obtain ⟨run, _, _, inside, _, _, rfl⟩ := stands
  exact ⟨fun c member => inside c (Text.trim_subset Text.isBlank run member), Text.strip_trimmed run⟩

theorem Tells.plain (told : Tells key body answer) (unquoted : ¬Occurs QuotedAt key body) :
    (∀ c ∈ answer, endsToken c = false) ∧ answer.Trimmed := by
  cases told with
  | quoted nearest =>
    obtain ⟨rest, here, stands⟩ := nearest.here
    exact absurd ⟨_, rest, _, here, stands⟩ unquoted
  | bare _ nearest =>
    obtain ⟨_, _, stands⟩ := nearest.here
    exact stands.plain
  | nothing => simp [Text.Trimmed]

/-- The value of a key is the first complete value in quotes; if there is none, the first token that is
not empty, which has neither a comma, a closing brace nor white space at its ends; and else nothing. -/
theorem value_iff_tells (key body : Text) :
    (∀ answer, value body key = answer ↔ Tells key body answer) ∧
      (¬Occurs QuotedAt key body →
        ',' ∉ value body key ∧ '}' ∉ value body key ∧ (value body key).Trimmed) := by
  constructor
  · intro answer
    constructor
    · rintro rfl
      exact tells_value key body
    · exact Tells.value_eq
  · intro unquoted
    obtain ⟨inside, trimmed⟩ := (tells_value key body).plain unquoted
    have foreign {c : Char} (ends : endsToken c = true) : c ∉ value body key := by
      intro member
      rw [inside c member] at ends
      cases ends
    exact ⟨foreign rfl, foreign rfl, trimmed⟩

/-- The key has no value at its first place, and one without a closing quotation mark at the second. -/
def halfQuoted : Text := "\x7b\"a\":,\"a\" : \"x \x7d"

theorem value_of_halfQuoted :
    ¬Occurs QuotedAt "a" halfQuoted ∧ Tells "a" halfQuoted "\"x" ∧ value halfQuoted "a" = "\"x" := by
  have unquoted : ¬Occurs QuotedAt "a" halfQuoted :=
    (reads_quoted "a").leftmost_none_iff.mp (by decide)
  have answer : value halfQuoted "a" = "\"x" := by decide
  exact ⟨unquoted, ((value_iff_tells "a" halfQuoted).1 _).mp answer, answer⟩

/-! A key that does not occur. -/

theorem isPresent_iff : isPresent body key = true ↔ ∃ i rest, KeyAt key (body.drop i) rest := by
  have somewhere : Occurs Eq key body ↔ ∃ i rest, KeyAt key (body.drop i) rest := by
    simp [Occurs]
  rw [← somewhere, isPresent, Option.isSome_iff_ne_none, ne_eq,
    (reads_key key).leftmost_none_iff, not_not]

/-- Whatever is looked for behind a key, the key itself is there. -/
theorem Occurs.isPresent {form : Text → Text → Prop} (somewhere : Occurs form key body) :
    isPresent body key = true := by
  obtain ⟨i, rest, _, here, _⟩ := somewhere
  exact isPresent_iff.mpr ⟨i, rest, here⟩

theorem not_occurs_of_absent (absent : isPresent body key = false) (form : Text → Text → Prop) :
    ¬Occurs form key body := by
  intro somewhere
  rw [somewhere.isPresent] at absent
  cases absent

theorem value_of_absent (absent : isPresent body key = false) : value body key = [] :=
  (Tells.nothing (not_occurs_of_absent absent _) (not_occurs_of_absent absent _)).value_eq

/-! Paths. A path is led by its first key. -/

/-- Behind a colon and white space stands an opening brace, and `inner` is the text from there on. -/
def OpensAt (rest inner : Text) : Prop :=
  ∃ gap, (∀ c ∈ gap, Text.isBlank c = true) ∧ rest = gap ++ inner ∧ inner.head? = some '{'

theorem reads_opening (key : Text) : Reads (opening? key) OpensAt key := by
  intro text inner
  constructor
  · intro found
    obtain ⟨rest, here, later⟩ := Option.bind_eq_some_iff.mp found
    obtain ⟨gap, blank, whole⟩ := Text.exists_gap rest
    dsimp only at later
    split at later
    · next opens =>
      cases later
      exact ⟨rest, behindKey_eq_some_iff.mp here, gap, blank, whole, opens⟩
    · cases later
  · rintro ⟨_, here, gap, blank, rfl, opens⟩
    obtain ⟨more, rfl⟩ := List.head?_eq_some_iff.mp opens
    have brace : Text.skipBlanks (gap ++ '{' :: more) = '{' :: more := by
      rw [Text.skipBlanks_blank blank, Text.skipBlanks_solid (by decide)]
    simp [opening?, behindKey_eq_some_iff.mpr here, brace]

theorem nested_key (single : '.' ∉ key) : nested body key = value body key := by
  rw [nested, List.splitOn_eq_singleton single]
  rfl

theorem nested_path (single : '.' ∉ key) (path : Text) :
    nested body (key ++ '.' :: path) = ((object? body key).map (nested · path)).getD [] := by
  obtain ⟨next, rest, parts⟩ := List.exists_cons_of_ne_nil (List.splitOn_ne_nil '.' path)
  have inside (inner : Text) : nested inner path = follow inner next rest := by
    rw [nested, parts]
  rw [nested, List.splitOn_append_cons_self_of_not_mem single, parts]
  simp only [follow, inside]
  cases object? body key <;> rfl

theorem nested_of_absent (absent : isPresent body key = false) (single : '.' ∉ key) :
    nested body key = [] ∧ ∀ path, nested body (key ++ '.' :: path) = [] := by
  have shut : object? body key = none := by
    rw [object?, (reads_opening key).leftmost_none_iff.mpr (not_occurs_of_absent absent _)]
    rfl
  constructor
  · rw [nested_key single, value_of_absent absent]
  · intro path
    rw [nested_path single, shut]
    rfl

/-- Every path is a single key or a key in front of another path. -/
theorem path_cases (path : Text) : ∃ key, '.' ∉ key ∧ key = path.takeWhile (· != '.') ∧
    (path = key ∨ ∃ rest, path = key ++ '.' :: rest) := by
  by_cases dotted : '.' ∈ path
  · obtain ⟨key, rest, rfl, single⟩ := List.eq_append_cons_of_mem dotted
    exact ⟨key, single, (Text.takeWhile_mark single rest).symm, Or.inr ⟨rest, rfl⟩⟩
  · have whole : path.takeWhile (· != '.') = path := by
      rw [List.takeWhile_eq_self_iff]
      intro c member
      rw [bne_iff_ne]
      rintro rfl
      exact dotted member
    exact ⟨path, dotted, whole.symm, Or.inl rfl⟩

/-- Where a key does not occur, nothing is found under it and on no path that it leads. So whatever is
found was found behind a key: the one asked for, or the first one of a path. -/
theorem absent_key_tells_nothing (body key : Text) :
    (isPresent body key = true ↔ ∃ i rest, KeyAt key (body.drop i) rest) ∧
      (isPresent body key = false →
        value body key = [] ∧ number body key = Double.zero false ∧ isTrue body key = false ∧
          ('.' ∉ key → nested body key = [] ∧ ∀ path, nested body (key ++ '.' :: path) = [])) ∧
      (value body key ≠ [] ∨ number body key ≠ Double.zero false ∨ isTrue body key = true →
        isPresent body key = true) ∧
      ∀ path, nested body path ≠ [] → isPresent body (path.takeWhile (· != '.')) = true := by
  have sentinels (absent : isPresent body key = false) :
      value body key = [] ∧ number body key = Double.zero false ∧ isTrue body key = false := by
    have void := value_of_absent absent
    refine ⟨void, ?_, ?_⟩
    · rw [number, void]
      rfl
    · rw [isTrue, void]
      rfl
  refine ⟨isPresent_iff, fun absent => ?_, fun found => ?_, fun path found => ?_⟩
  · obtain ⟨noValue, noNumber, notTrue⟩ := sentinels absent
    exact ⟨noValue, noNumber, notTrue, nested_of_absent absent⟩
  · by_contra absent
    obtain ⟨noValue, noNumber, notTrue⟩ := sentinels (Bool.eq_false_iff.mpr absent)
    simp [noValue, noNumber, notTrue] at found
  · obtain ⟨first, single, rfl, parts⟩ := path_cases path
    by_contra absent
    obtain ⟨noValue, nowhere⟩ := nested_of_absent (Bool.eq_false_iff.mpr absent) single
    rcases parts with whole | ⟨rest, whole⟩
    · exact found (whole ▸ noValue)
    · exact found (whole ▸ nowhere rest)

/-- A longer key that begins like the one asked for is no place of it. Under the longer one there is a
number, which a path of this one key leads to. -/
theorem readyMessages_tell_nothing :
    let body : Text := "\x7b\"messages_ready\":12\x7d"
    isPresent body "messages" = false ∧ number body "messages" = Double.zero false ∧
      nested body "messages.rate" = [] ∧ value body "messages_ready" ≠ [] ∧
      isPresent body "messages_ready" = true ∧
      isPresent body (List.takeWhile (· != '.') ("messages_ready" : Text)) = true := by
  intro body
  have absent : isPresent body "messages" = false := by decide
  have single : '.' ∉ ("messages" : Text) := by decide
  have some : value body "messages_ready" ≠ [] := by decide
  have inside : nested body "messages_ready" ≠ [] := by decide
  obtain ⟨_, noNumber, _, nowhere⟩ := (absent_key_tells_nothing body "messages").2.1 absent
  obtain ⟨_, _, present, leads⟩ := absent_key_tells_nothing body "messages_ready"
  exact ⟨absent, noNumber, (nowhere single).2 "rate", some, present (Or.inl some), leads _ inside⟩

end Field
end ServiceProbe
