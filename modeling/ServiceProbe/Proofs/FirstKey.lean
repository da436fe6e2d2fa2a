import Mathlib.Data.List.TakeWhile
import ServiceProbe.Field
import ServiceProbe.Proofs.Words
/-!
What the first place of a key is worth. A value in quotes behind the first key is the value of the key,
whatever stands later in the text. A bare one is only if no later place of the key has a value in quotes:
the first of those goes before it.
-/
namespace ServiceProbe

namespace Field

/-! What stands at one place, said without a search. -/

/-- At the head of a text stand a key in quotes, white space and a colon, and `rest` behind them. -/
def KeyAt (key text rest : Text) : Prop :=
  ∃ gap, (∀ c ∈ gap, Text.isBlank c = true) ∧ text = ('"' :: key ++ ['"']) ++ (gap ++ ':' :: rest)

/-- Behind a colon stands a value in quotes, the closing one included. -/
def QuotedAt (rest content : Text) : Prop :=
  ∃ gap behind, (∀ c ∈ gap, Text.isBlank c = true) ∧ '"' ∉ content ∧
    rest = gap ++ '"' :: (content ++ '"' :: behind)

/-- Behind a colon stand some characters up to a comma, a closing brace or the end, and the first of them
is no quotation mark. -/
def BareAt (rest run : Text) : Prop :=
  ∃ gap behind, (∀ c ∈ gap, Text.isBlank c = true) ∧ run ≠ [] ∧ run.head? ≠ some '"' ∧
    (∀ c ∈ run, endsToken c = false) ∧ (∀ c ∈ behind.head?, endsToken c = true) ∧
    rest = gap ++ (run ++ behind)

/-- Behind a colon stand some characters up to a comma, a closing brace or the end, and `token` is what is
left of them without the white space around it. -/
def TokenAt (rest token : Text) : Prop :=
  ∃ run behind, run ≠ [] ∧ (∀ c ∈ run, endsToken c = false) ∧
    (∀ c ∈ behind.head?, endsToken c = true) ∧ rest = run ++ behind ∧ token = Text.strip run

variable {key text rest content run token : Text}

theorem behindKey_eq_some_iff : behindKey? key text = some rest ↔ KeyAt key text rest := by
  constructor
  · intro found
    obtain ⟨middle, name, colon⟩ := Option.bind_eq_some_iff.mp found
    obtain ⟨gap, blank, whole⟩ := Text.exists_gap middle
    refine ⟨gap, blank, ?_⟩
    rw [Text.after_some.mp colon] at whole
    rw [Text.after_some.mp name, whole]
    rfl
  · rintro ⟨gap, blank, rfl⟩
    have colon : Text.skipBlanks (gap ++ ':' :: rest) = ':' :: rest := by
      rw [Text.skipBlanks_blank blank, Text.skipBlanks_solid (by decide)]
    simp only [behindKey?, Text.after_append, Option.bind_eq_bind, Option.bind_some, colon]
    rfl

theorem behindKey_eq_none_iff : behindKey? key text = none ↔ ∀ rest, ¬KeyAt key text rest := by
  rw [Option.eq_none_iff_forall_not_mem]
  simp only [Option.mem_def, behindKey_eq_some_iff]

theorem KeyAt.unique {other : Text} (here : KeyAt key text rest) (there : KeyAt key text other) :
    rest = other := by
  rw [← behindKey_eq_some_iff] at here there
  exact Option.some.inj (here.symm.trans there)

theorem quotedValue_eq_some_iff :
    quotedValue? key text = some content ↔ ∃ rest, KeyAt key text rest ∧ QuotedAt rest content := by
  constructor
  · intro found
    obtain ⟨rest, here, later⟩ := Option.bind_eq_some_iff.mp found
    obtain ⟨inner, mark, closed⟩ := Option.bind_eq_some_iff.mp later
    obtain ⟨gap, blank, whole⟩ := Text.exists_gap rest
    rw [Text.after_some.mp mark] at whole
    split at closed
    · next closes =>
      cases closed
      obtain ⟨before, behind, rfl, plain⟩ :=
        List.eq_append_cons_of_mem (List.contains_iff_mem.mp closes)
      rw [Text.takeWhile_mark plain]
      exact ⟨rest, behindKey_eq_some_iff.mp here, gap, behind, blank, plain, whole⟩
    · cases closed
  · rintro ⟨rest, here, gap, behind, blank, plain, rfl⟩
    have mark : Text.skipBlanks (gap ++ '"' :: (content ++ '"' :: behind)) =
        '"' :: (content ++ '"' :: behind) := by
      rw [Text.skipBlanks_blank blank, Text.skipBlanks_solid (by decide)]
    simp [quotedValue?, behindKey_eq_some_iff.mpr here, mark, Text.after?, Text.takeWhile_mark plain]

theorem bareValue_eq_some_iff :
    bareValue? key text = some token ↔ ∃ rest, KeyAt key text rest ∧ TokenAt rest token := by
  constructor
  · intro found
    obtain ⟨rest, here, later⟩ := Option.bind_eq_some_iff.mp found
    have whole : rest.takeWhile (!endsToken ·) ++ rest.dropWhile (!endsToken ·) = rest :=
      List.takeWhile_append_dropWhile
    have inside : ∀ c ∈ rest.takeWhile (!endsToken ·), endsToken c = false := by
      intro c member
      simpa using List.mem_takeWhile_imp member
    have ends : ∀ c ∈ (rest.dropWhile (!endsToken ·)).head?, endsToken c = true := by
      intro c first
      simpa using Text.dropWhile_begins first
    dsimp only at later
    split at later
    · cases later
    · next some =>
      cases later
      rw [List.isEmpty_iff] at some
      exact ⟨rest, behindKey_eq_some_iff.mp here, _, _, some, inside, ends, whole.symm, rfl⟩
  · rintro ⟨rest, here, run, behind, some, inside, ends, rfl, rfl⟩
    have whole : (run ++ behind).takeWhile (!endsToken ·) = run :=
      Text.takeWhile_run (by simpa using inside) (by simpa using ends)
    simp only [bareValue?, behindKey_eq_some_iff.mpr here, Option.bind_eq_bind, Option.bind_some, whole]
    rw [List.isEmpty_eq_false_iff.mpr some]
    rfl

theorem bareValue_of_bareAt (here : KeyAt key text rest) (bare : BareAt rest run) :
    bareValue? key text = some (Text.strip run) := by
  obtain ⟨gap, behind, blank, some, _, inside, ends, rfl⟩ := bare
  -- The token is read with the white space in front, which holds neither of its ends.
  have gapInside : ∀ c ∈ gap, endsToken c = false := by
    intro c member
    rw [endsToken, Bool.or_eq_false_iff, beq_eq_false_iff_ne, beq_eq_false_iff_ne]
    constructor
    · rintro rfl
      exact absurd (blank _ member) (by decide)
    · rintro rfl
      exact absurd (blank _ member) (by decide)
  have together : ∀ c ∈ gap ++ run, endsToken c = false := by
    intro c member
    exact (List.mem_append.mp member).elim (gapInside c) (inside c)
  rw [← Text.strip_blank blank run]
  refine bareValue_eq_some_iff.mpr ⟨_, here, gap ++ run, behind, by simp [some], together, ends, ?_, rfl⟩
  rw [List.append_assoc]

theorem quotedValue_eq_none_iff :
    quotedValue? key text = none ↔ ∀ rest content, KeyAt key text rest → ¬QuotedAt rest content := by
  rw [Option.eq_none_iff_forall_not_mem]
  simp only [Option.mem_def, quotedValue_eq_some_iff, not_exists, not_and]
  exact forall_comm

variable {body : Text} {i : Nat}

/-! What stands behind a key may be of any form. A reader of that form finds the first place with it. -/

/-- Somewhere in a text stands a key, and something of a form behind it. -/
def Occurs (form : Text → Text → Prop) (key body : Text) : Prop :=
  ∃ i rest found, KeyAt key (body.drop i) rest ∧ form rest found

structure First (form : Text → Text → Prop) (key body : Text) (i : Nat) (found : Text) : Prop where
  here : ∃ rest, KeyAt key (body.drop i) rest ∧ form rest found
  first : ∀ j < i, ∀ rest other, KeyAt key (body.drop j) rest → ¬form rest other

/-- What a reader reads at one place is what stands there. -/
def Reads (read : Text → Option Text) (form : Text → Text → Prop) (key : Text) : Prop :=
  ∀ text found, read text = some found ↔ ∃ rest, KeyAt key text rest ∧ form rest found

section
variable {read : Text → Option Text} {form : Text → Text → Prop} {found : Text}
  (reads : Reads read form key)

include reads

theorem Reads.none_iff :
    read text = none ↔ ∀ rest found, KeyAt key text rest → ¬form rest found := by
  rw [Option.eq_none_iff_forall_not_mem]
  simp only [Option.mem_def, reads text, not_exists, not_and]
  exact forall_comm

theorem Reads.first_iff : First form key body i found ↔
    read (body.drop i) = some found ∧ ∀ j < i, read (body.drop j) = none := by
  simp only [reads _ found, reads.none_iff]
  exact ⟨fun place => ⟨place.here, place.first⟩, fun place => ⟨place.1, place.2⟩⟩

theorem Reads.leftmost_iff : body.leftmost? read = some found ↔ ∃ i, First form key body i found := by
  simp only [Text.leftmost_eq_some_iff, reads.first_iff]

theorem Reads.leftmost_none_iff : body.leftmost? read = none ↔ ¬Occurs form key body := by
  rw [Text.leftmost_eq_none_iff]
  simp only [Occurs, reads.none_iff, not_exists, not_and]

end

theorem reads_key (key : Text) : Reads (behindKey? key) Eq key := by
  intro text found
  simp [behindKey_eq_some_iff]

theorem reads_quoted (key : Text) : Reads (quotedValue? key) QuotedAt key :=
  fun _ _ => quotedValue_eq_some_iff

theorem reads_token (key : Text) : Reads (bareValue? key) TokenAt key :=
  fun _ _ => bareValue_eq_some_iff

theorem First.value_eq (quoted : First QuotedAt key body i content) : value body key = content := by
  rw [value, (reads_quoted key).leftmost_iff.mpr ⟨i, quoted⟩]

/-! The first place of a key, counted from the head of the text. -/

structure FirstKey (key body : Text) (i : Nat) (rest : Text) : Prop where
  here : KeyAt key (body.drop i) rest
  first : ∀ j < i, ∀ other, ¬KeyAt key (body.drop j) other

theorem firstKey_iff : FirstKey key body i rest ↔
    behindKey? key (body.drop i) = some rest ∧ ∀ j < i, behindKey? key (body.drop j) = none := by
  simp only [behindKey_eq_some_iff, behindKey_eq_none_iff]
  exact ⟨fun found => ⟨found.here, found.first⟩, fun found => ⟨found.1, found.2⟩⟩

namespace FirstKey

variable (found : FirstKey key body i rest)

include found

theorem firstQuoted (quoted : QuotedAt rest content) : First QuotedAt key body i content where
  here := ⟨rest, found.here, quoted⟩
  first j before other _ key := absurd key (found.first j before other)

theorem value_bare (bare : BareAt rest run)
    (alone : ∀ j content, ¬First QuotedAt key body j content) :
    value body key = Text.strip run := by
  have unquoted : body.leftmost? (quotedValue? key) = none := by
    rw [Option.eq_none_iff_forall_not_mem]
    intro content nearest
    obtain ⟨j, quoted⟩ := (reads_quoted key).leftmost_iff.mp nearest
    exact alone j content quoted
  have nearest : body.leftmost? (bareValue? key) = some (Text.strip run) := by
    refine Text.leftmost_of_first (bareValue_of_bareAt found.here bare) fun j before => ?_
    simp [bareValue?, (firstKey_iff.mp found).2 j before]
  rw [value, unquoted, nearest]
  rfl

end FirstKey

/-- A value in quotes behind the first key is the value of the key, whatever stands later. A bare one is,
without the white space around it, if no other place of the key has a value in quotes; otherwise the first
of those is the value. -/
theorem value_at_first_key (found : FirstKey key body i rest) :
    (∀ content, QuotedAt rest content → value body key = content) ∧
      ∀ run, BareAt rest run → (∀ content, ¬QuotedAt rest content) →
        ((∀ j content, ¬First QuotedAt key body j content) → value body key = Text.strip run) ∧
          ∀ j content, First QuotedAt key body j content → i < j ∧ value body key = content := by
  refine ⟨fun content quoted => (found.firstQuoted quoted).value_eq, fun run bare unquoted => ?_⟩
  refine ⟨found.value_bare bare, fun j content quoted => ⟨?_, quoted.value_eq⟩⟩
  obtain ⟨other, here, quotes⟩ := quoted.here
  -- The value at the first key is bare and no key stands before it, so the quoted one is behind.
  rcases Nat.lt_trichotomy i j with later | rfl | before
  · exact later
  · cases KeyAt.unique found.here here
    exact absurd quotes (unquoted content)
  · exact absurd here (found.first j before other)

/-- A bare value, and behind it the same key with a value in quotes. -/
def shadowed : Text := "\x7b\"a\":1,\"b\":\x7b\"a\":\"x\"\x7d\x7d"

theorem shadowed_firstKey : FirstKey "a" shadowed 1 (shadowed.drop 5) :=
  firstKey_iff.mpr (by decide)

theorem shadowed_bareAt : BareAt (shadowed.drop 5) "1" := by
  have digit : endsToken '1' = false := by decide
  have comma : endsToken ',' = true := by decide
  refine ⟨[], shadowed.drop 6, by simp, by decide, by decide, ?_, ?_, rfl⟩
  · exact List.forall_mem_singleton.mpr digit
  · rintro c ⟨⟩
    exact comma

theorem shadowed_unquoted (content : Text) : ¬QuotedAt (shadowed.drop 5) content := by
  have unread : quotedValue? "a" (shadowed.drop 1) = none := by decide
  exact quotedValue_eq_none_iff.mp unread _ content shadowed_firstKey.here

/-- The value of the inner key goes before that of the outer one, which stands first. -/
theorem value_at_later_key :
    FirstKey "a" shadowed 1 (shadowed.drop 5) ∧ BareAt (shadowed.drop 5) "1" ∧
      (∀ content, ¬QuotedAt (shadowed.drop 5) content) ∧ First QuotedAt "a" shadowed 12 "x" ∧
      value shadowed "a" = "x" := by
  have quoted : First QuotedAt "a" shadowed 12 "x" :=
    (reads_quoted "a").first_iff.mpr (by decide)
  obtain ⟨_, wins⟩ :=
    ((value_at_first_key shadowed_firstKey).2 _ shadowed_bareAt shadowed_unquoted).2 _ _ quoted
  exact ⟨shadowed_firstKey, shadowed_bareAt, shadowed_unquoted, quoted, wins⟩

/-- The first key alone does not decide: a bare value behind it can lose. -/
theorem not_always_value_at_first_key :
    ¬∀ (key body rest run : Text) (i : Nat), FirstKey key body i rest → BareAt rest run →
      (∀ content, ¬QuotedAt rest content) → value body key = Text.strip run := by
  intro always
  have decides := always _ _ _ _ _ shadowed_firstKey shadowed_bareAt shadowed_unquoted
  revert decides
  decide

end Field
end ServiceProbe
