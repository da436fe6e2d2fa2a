import ServiceProbe.Proofs.Nested
import ServiceProbe.Proofs.Occurrence
/-!
Objects cut out of a text. The braces of any text, well-formed or not, are counted from the one behind the
first key; the object ends where they are in balance for the first time. What is found on a path lies
inside, so that neither the text behind the object nor that before the key counts for it.
-/
namespace ServiceProbe.Field

variable {depth : Nat} {c : Char} {text rest whole head : Text}

/-! The shortest head of a text with a property. -/

structure ShortestHead (property : Text → Prop) (text head : Text) : Prop where
  begins : head <+: text
  holds : property head
  shortest : ∀ other, other <+: text → property other → head.length ≤ other.length

section
variable {property : Text → Prop}

theorem shortestHead_nil (void : property []) : ShortestHead property text head ↔ head = [] := by
  constructor
  · intro shortest
    exact List.eq_nil_of_length_eq_zero
      (Nat.le_zero.mp (shortest.shortest [] List.nil_prefix void))
  · rintro rfl
    exact ⟨List.nil_prefix, void, fun other _ _ => Nat.zero_le _⟩

theorem shortestHead_cons (some : ¬property []) :
    ShortestHead property (c :: rest) whole ↔
      ∃ head, ShortestHead (fun text => property (c :: text)) rest head ∧ c :: head = whole := by
  constructor
  · rintro ⟨begins, holds, shortest⟩
    cases whole with
    | nil => exact absurd holds some
    | cons d head =>
      obtain ⟨rfl, inside⟩ := List.cons_prefix_cons.mp begins
      refine ⟨head, ⟨inside, holds, fun other within found => ?_⟩, rfl⟩
      have longer : d :: other <+: d :: rest := List.cons_prefix_cons.mpr ⟨rfl, within⟩
      exact Nat.le_of_succ_le_succ (shortest (d :: other) longer found)
  · rintro ⟨head, ⟨begins, holds, shortest⟩, rfl⟩
    refine ⟨List.cons_prefix_cons.mpr ⟨rfl, begins⟩, holds, fun whole within found => ?_⟩
    cases whole with
    | nil => exact absurd found some
    | cons d other =>
      obtain ⟨rfl, inside⟩ := List.cons_prefix_cons.mp within
      exact Nat.succ_le_succ (shortest other inside found)

/-- What stands behind the shortest head does not count for it. -/
theorem ShortestHead.behind (found : ShortestHead property text head) (other : Text) :
    ShortestHead property (head ++ other) head := by
  refine ⟨List.prefix_append _ _, found.holds, fun shorter within holds => ?_⟩
  by_contra less
  have inside : shorter <+: head :=
    List.prefix_of_prefix_length_le within (List.prefix_append _ _) (by omega)
  have bound := found.shortest shorter (inside.trans found.begins) holds
  omega

end

/-! Braces in balance. -/

/-- Some text with as many opening as closing braces. -/
def InBalance (text : Text) : Prop := text ≠ [] ∧ text.count '{' = text.count '}'

/-- The braces that are open behind a character. -/
def openBehind (depth : Nat) (c : Char) : Nat :=
  if c = '{' then depth + 1 else if c = '}' then depth - 1 else depth

/-- The braces that are open behind a text, less than none if it closes too many. -/
def level (depth : Nat) (text : Text) : Int := depth + text.count '{' - text.count '}'

theorem level_nil (depth : Nat) : level depth [] = depth := by
  simp [level]

theorem level_cons (opened : c = '}' → 0 < depth) (text : Text) :
    level depth (c :: text) = level (openBehind depth c) text := by
  by_cases opening : c = '{'
  · subst opening
    simp [level, openBehind]
    omega
  · by_cases closing : c = '}'
    · subst closing
      have some := opened rfl
      simp [level, openBehind]
      omega
    · simp [level, openBehind, opening, closing]

theorem inBalance_opening : InBalance ('{' :: text) ↔ level 1 text = 0 := by
  simp [InBalance, level]
  omega

theorem resume_cons (some : 0 < depth) :
    resume depth (c :: rest) = (resume (openBehind depth c) rest).map (c :: ·) := by
  obtain ⟨depth, rfl⟩ := Nat.exists_eq_succ_of_ne_zero (Nat.ne_of_gt some)
  by_cases opening : c = '{'
  · simp [resume, balanced?, openBehind, opening]
  · by_cases closing : c = '}'
    · cases depth <;> simp [resume, balanced?, openBehind, closing]
    · simp [resume, balanced?, openBehind, opening, closing]

theorem resume_zero :
    resume 0 text = some head ↔ ShortestHead (level 0 · = 0) text head := by
  have closed : level 0 [] = 0 := level_nil 0
  rw [shortestHead_nil closed, resume, Option.some.injEq, eq_comm]

/-- Braces are counted up to the first place where all are closed. -/
theorem resume_eq_some_iff :
    resume depth text = some head ↔ ShortestHead (level depth · = 0) text head := by
  induction text generalizing depth head with
  | nil =>
    cases depth with
    | zero => exact resume_zero
    | succ depth =>
      refine ⟨fun found => ?_, fun shut => ?_⟩
      · simp [resume, balanced?] at found
      · have closed := shut.holds
        rw [List.prefix_nil.mp shut.begins, level_nil] at closed
        omega
  | cons c rest ih =>
    cases depth with
    | zero => exact resume_zero
    | succ depth =>
      have unshut : level (depth + 1) [] ≠ 0 := by
        rw [level_nil]
        omega
      rw [resume_cons (Nat.succ_pos depth), shortestHead_cons unshut, Option.map_eq_some_iff]
      simp only [level_cons fun _ => Nat.succ_pos depth, ih]

variable {inner object : Text}

theorem balanced_eq_some_iff (opens : inner.head? = some '{') :
    balanced? 0 inner = some object ↔ ShortestHead InBalance inner object := by
  obtain ⟨more, rfl⟩ := List.head?_eq_some_iff.mp opens
  have some : ¬InBalance [] := fun balanced => balanced.1 rfl
  have opened : balanced? 0 ('{' :: more) = (resume 1 more).map ('{' :: ·) := rfl
  rw [opened, shortestHead_cons some, Option.map_eq_some_iff]
  simp only [inBalance_opening, resume_eq_some_iff]

/-! The text around an object. -/

variable {key body : Text} {i : Nat}

theorem First.opens (nearest : First OpensAt key body i inner) : inner.head? = some '{' := by
  obtain ⟨_, _, _, _, _, opens⟩ := nearest.here
  exact opens

theorem object_of_first (nearest : First OpensAt key body i inner) :
    object? body key = balanced? 0 inner := by
  rw [object?, (reads_opening key).leftmost_iff.mpr ⟨i, nearest⟩]
  rfl

/-- A key, a colon and white space, as they stand in front of an opening brace. -/
def Lead (key lead : Text) : Prop :=
  ∃ gap space, (∀ c ∈ gap, Text.isBlank c = true) ∧ (∀ c ∈ space, Text.isBlank c = true) ∧
    lead = ('"' :: key ++ ['"']) ++ (gap ++ ':' :: space)

theorem opensAt_iff : (∃ rest, KeyAt key text rest ∧ OpensAt rest inner) ↔
    ∃ lead, Lead key lead ∧ text = lead ++ inner ∧ inner.head? = some '{' := by
  constructor
  · rintro ⟨_, ⟨gap, blank, rfl⟩, space, blank', rfl, opens⟩
    exact ⟨_, ⟨gap, space, blank, blank', rfl⟩, by simp, opens⟩
  · rintro ⟨_, ⟨gap, space, blank, blank', rfl⟩, rfl, opens⟩
    exact ⟨space ++ inner, ⟨gap, blank, by simp⟩, space, blank', rfl, opens⟩

/-- Behind the quoted key no brace stands in a lead, though there may be some in the key. -/
theorem Lead.tail {lead : Text} (leads : Lead key lead) :
    ∃ tail, lead = ('"' :: key ++ ['"']) ++ tail ∧ '{' ∉ tail := by
  obtain ⟨gap, space, blank, blank', rfl⟩ := leads
  have solid {gap : Text} (blank : ∀ c ∈ gap, Text.isBlank c = true) : '{' ∉ gap :=
    fun member => absurd (blank _ member) (by decide)
  refine ⟨gap ++ ':' :: space, rfl, ?_⟩
  simp [solid blank, solid blank']

/-- A brace that stands behind a quoted key is not passed by a lead that has this key. -/
theorem Lead.ends_before {lead front behind : Text} (leads : Lead key lead)
    (quoted : key.length + 2 ≤ front.length) (opens : rest.head? = some '{')
    (same : front ++ rest = lead ++ behind) : ∃ left, front = lead ++ left ∧ behind = left ++ rest := by
  rcases List.append_eq_append_iff.mp same with ⟨beyond, rfl, whole⟩ | within
  · obtain ⟨tail, parts, braceless⟩ := leads.tail
    cases beyond with
    | nil => exact ⟨[], by simp, by simpa using whole.symm⟩
    | cons c beyond =>
      -- The brace would stand in the lead, and so behind the key of the lead.
      have brace : c = '{' := by simpa [whole] using opens
      have named : ('"' :: key ++ ['"'] : Text).length ≤ front.length := by
        simp only [List.length_append, List.length_cons, List.length_nil]
        omega
      have tails := congrArg (List.drop ('"' :: key ++ ['"'] : Text).length) parts
      rw [List.drop_append_of_le_length named, List.drop_left] at tails
      exact absurd (by simp [← tails, brace]) braceless
  · exact within

/-- Only the brace itself counts for the place where it is found, whatever stands behind it. -/
theorem First.replaced {front other : Text} (nearest : First OpensAt key (front ++ inner) i inner)
    (opens : other.head? = some '{') : First OpensAt key (front ++ other) i other := by
  obtain ⟨lead, leads, whole, braces⟩ := opensAt_iff.mp nearest.here
  obtain ⟨tail, named, _⟩ := leads.tail
  have lengths := congrArg List.length whole
  rw [named] at lengths
  simp only [List.length_drop, List.length_append, List.length_cons, List.length_nil] at lengths
  have drops {j : Nat} (early : j ≤ i) (behind : Text) :
      (front ++ behind).drop j = front.drop j ++ behind :=
    List.drop_append_of_le_length (by omega)
  rw [drops (Nat.le_refl i), List.append_left_inj] at whole
  constructor
  · exact opensAt_iff.mpr ⟨lead, leads, by rw [drops (Nat.le_refl i), whole], opens⟩
  · intro j before rest found here stands
    obtain ⟨earlier, leads', whole', braces'⟩ := opensAt_iff.mp ⟨rest, here, stands⟩
    rw [drops before.le] at whole'
    have quoted : key.length + 2 ≤ (front.drop j).length := by
      rw [List.length_drop]
      omega
    obtain ⟨left, cut, rfl⟩ := leads'.ends_before quoted opens whole'
    -- The earlier place was there before the change.
    have opening : (left ++ inner).head? = some '{' := by
      cases left with
      | nil => exact braces
      | cons c left => exact braces'
    have place : (front ++ inner).drop j = earlier ++ (left ++ inner) := by
      rw [drops before.le, cut, List.append_assoc]
    obtain ⟨rest', here', stands'⟩ := opensAt_iff.mpr ⟨earlier, leads', place, opening⟩
    exact nearest.first j before rest' _ here' stands'

/-- The text before a place may be any other in which there is no earlier place. -/
theorem First.preceded {form : Text → Text → Prop} {found before : Text}
    (nearest : First form key body i found)
    (none : ∀ j < before.length, ∀ rest other,
      KeyAt key ((before ++ body.drop i).drop j) rest → ¬form rest other) :
    First form key (before ++ body.drop i) before.length found where
  here := by simpa using nearest.here
  first := none

/-- A path leads into the object behind the first key that has a brace behind it, up to the first place
where the braces are in balance. Without such a key or such a place nothing is found, and no text behind
the object or before the key is of account, as long as the key is still the first. -/
theorem nested_in_object (body key path : Text) (single : '.' ∉ key) :
    (¬Occurs OpensAt key body → nested body (key ++ '.' :: path) = []) ∧
      ∀ i inner, First OpensAt key body i inner →
        ((∀ head, head <+: inner → ¬InBalance head) → nested body (key ++ '.' :: path) = []) ∧
          (∀ object, ShortestHead InBalance inner object →
            nested body (key ++ '.' :: path) = nested object path ∧
              ∀ front behind, body = front ++ inner →
                nested (front ++ (object ++ behind)) (key ++ '.' :: path) =
                  nested body (key ++ '.' :: path)) ∧
          ∀ before,
            (∀ j < before.length, ∀ rest other,
              KeyAt key ((before ++ body.drop i).drop j) rest → ¬OpensAt rest other) →
            nested (before ++ body.drop i) (key ++ '.' :: path) = nested body (key ++ '.' :: path) := by
  refine ⟨fun absent => ?_, fun i inner nearest => ⟨fun unclosed => ?_, fun object closes => ?_, ?_⟩⟩
  · rw [nested_path single, object?, (reads_opening key).leftmost_none_iff.mpr absent]
    rfl
  · have lost : balanced? 0 inner = none := by
      rw [Option.eq_none_iff_forall_ne_some]
      intro object found
      have closes := (balanced_eq_some_iff nearest.opens).mp found
      exact unclosed object closes.begins closes.holds
    rw [nested_path single, object_of_first nearest, lost]
    rfl
  · have leads_to {body inner : Text} {i : Nat} (nearest : First OpensAt key body i inner)
        (closes : ShortestHead InBalance inner object) :
        nested body (key ++ '.' :: path) = nested object path := by
      rw [nested_path single, object_of_first nearest,
        (balanced_eq_some_iff nearest.opens).mpr closes]
      rfl
    refine ⟨leads_to nearest closes, ?_⟩
    rintro front behind rfl
    have opens : (object ++ behind).head? = some '{' := by
      obtain ⟨rest, rfl⟩ := closes.begins
      cases object with
      | nil => exact absurd rfl closes.holds.1
      | cons c object => exact nearest.opens
    rw [leads_to (nearest.replaced opens) (closes.behind behind), leads_to nearest closes]
  · intro before none
    rw [nested_path single, nested_path single, object_of_first nearest,
      object_of_first (nearest.preceded none)]

/-- Braces without partners and a further object of the same key stand behind the object, and other text
before the key; an object that is cut off and a key without one have nothing. -/
theorem nested_in_totals :
    let front : Text := "\x7b\"b\":\x7b\"c\":3\x7d,\"a\" : "
    let object : Text := "\x7b\"b\":\x7b\"c\":1\x7d\x7d"
    let behind : Text := ",\"c\":2\x7d"
    let other : Text := "\x7d\x7d\"a\":\x7b\x7b"
    let before : Text := "\x7d \"a\":1"
    let cutOff : Text := "\"a\":\x7b"
    '.' ∉ ("a" : Text) ∧ First OpensAt "a" (front ++ (object ++ behind)) 13 (object ++ behind) ∧
      ShortestHead InBalance (object ++ behind) object ∧ nested object "b.c" = "1" ∧
      nested (front ++ (object ++ behind)) "a.b.c" = "1" ∧
      nested (front ++ (object ++ other)) "a.b.c" = "1" ∧
      nested (before ++ (front ++ (object ++ behind)).drop 13) "a.b.c" = "1" ∧
      nested cutOff "a.b" = [] ∧ nested object "a.c" = [] := by
  intro front object behind other before cutOff
  have single : '.' ∉ ("a" : Text) := by decide
  have nearest : First OpensAt "a" (front ++ (object ++ behind)) 13 (object ++ behind) :=
    (reads_opening "a").first_iff.mpr (by decide)
  have closes : ShortestHead InBalance (object ++ behind) object :=
    (balanced_eq_some_iff rfl).mp (by decide)
  have found : nested object "b.c" = "1" := by decide
  obtain ⟨_, within, preceded⟩ := (nested_in_object _ "a" "b.c" single).2 _ _ nearest
  obtain ⟨inside, unchanged⟩ := within object closes
  have clear : First OpensAt "a" (before ++ (front ++ (object ++ behind)).drop 13) before.length
      (object ++ behind) := (reads_opening "a").first_iff.mpr (by decide)
  have opening : First OpensAt "a" cutOff 0 "\x7b" := (reads_opening "a").first_iff.mpr (by decide)
  have unclosed : ∀ head, head <+: ("\x7b" : Text) → ¬InBalance head := by
    intro head begins balanced
    rcases List.prefix_cons_iff.mp begins with rfl | ⟨rest, rfl, nothing⟩
    · exact balanced.1 rfl
    · rw [List.prefix_nil.mp nothing] at balanced
      exact absurd balanced.2 (by decide)
  have absent : ¬Occurs OpensAt "a" object :=
    (reads_opening "a").leftmost_none_iff.mp (by decide)
  exact ⟨single, nearest, closes, found, inside.trans found,
    (unchanged front other rfl).trans (inside.trans found),
    (preceded before clear.first).trans (inside.trans found),
    ((nested_in_object _ "a" "b" single).2 _ _ opening).1 unclosed,
    (nested_in_object _ "a" "c" single).1 absent⟩

end ServiceProbe.Field
