import ServiceProbe.Text.Basic
/-!
What it means to stand at the head of a text, what is found at the leftmost place, and where a text is
cut or joined.
-/
namespace ServiceProbe.Text

theorem after_append (pattern rest : Text) : after? pattern (pattern ++ rest) = some rest := by
  induction pattern with
  | nil => rfl
  | cons p pattern ih => simpa [after?] using ih

theorem after_some {pattern text rest : Text} :
    after? pattern text = some rest ↔ text = pattern ++ rest := by
  constructor
  · intro found
    induction pattern generalizing text with
    | nil => simpa [after?] using found
    | cons p pattern ih =>
      cases text with
      | nil => simp [after?] at found
      | cons c text =>
        by_cases same : p = c
        · simp only [after?, same, ↓reduceIte] at found
          rw [ih found, same, List.cons_append]
        · simp [after?, same] at found
  · rintro rfl
    exact after_append pattern rest

variable {α : Type} {read : Text → Option α}

theorem leftmost_of_some {text : Text} {found : α} (reads : read text = some found) :
    leftmost? read text = some found := by
  cases text with
  | nil => exact reads
  | cons c rest => simp [leftmost?, reads]

theorem leftmost_cons_none {c : Char} {rest : Text} (fails : read (c :: rest) = none) :
    leftmost? read (c :: rest) = leftmost? read rest := by
  simp [leftmost?, fails]

/-! Places are counted from the head of a text. -/

theorem leftmost_of_first {text : Text} {i : Nat} {found : α} (reads : read (text.drop i) = some found)
    (first : ∀ j < i, read (text.drop j) = none) : leftmost? read text = some found := by
  induction i generalizing text with
  | zero => exact leftmost_of_some reads
  | succ i ih =>
    cases text with
    | nil => exact reads
    | cons c rest =>
      rw [leftmost_cons_none (first 0 (by omega))]
      exact ih reads fun j before => first (j + 1) (by omega)

theorem first_of_leftmost {text : Text} {found : α} (nearest : leftmost? read text = some found) :
    ∃ i, read (text.drop i) = some found ∧ ∀ j < i, read (text.drop j) = none := by
  induction text with
  | nil => exact ⟨0, nearest, fun j before => absurd before (by omega)⟩
  | cons c rest ih =>
    cases here : read (c :: rest) with
    | some other =>
      rw [leftmost_of_some here] at nearest
      exact ⟨0, here.trans nearest, fun j before => absurd before (by omega)⟩
    | none =>
      rw [leftmost_cons_none here] at nearest
      obtain ⟨i, reads, first⟩ := ih nearest
      refine ⟨i + 1, reads, fun j before => ?_⟩
      cases j with
      | zero => exact here
      | succ j => exact first j (by omega)

theorem leftmost_eq_some_iff {text : Text} {found : α} : leftmost? read text = some found ↔
    ∃ i, read (text.drop i) = some found ∧ ∀ j < i, read (text.drop j) = none := by
  constructor
  · exact first_of_leftmost
  · rintro ⟨i, reads, first⟩
    exact leftmost_of_first reads first

theorem leftmost_eq_none_iff {text : Text} :
    leftmost? read text = none ↔ ∀ i, read (text.drop i) = none := by
  induction text with
  | nil => simp [leftmost?]
  | cons c rest ih =>
    constructor
    · intro nowhere i
      cases here : read (c :: rest) with
      | some found => simp [leftmost_of_some here] at nowhere
      | none =>
        rw [leftmost_cons_none here] at nowhere
        cases i with
        | zero => exact here
        | succ i => exact ih.mp nowhere i
    · intro fails
      rw [leftmost_cons_none (fails 0)]
      exact ih.mpr fun i => fails (i + 1)

/-! Parts of a text. -/

theorem dropWhile_begins {member : Char → Bool} {text : Text} {c : Char}
    (first : c ∈ (text.dropWhile member).head?) : member c = false := by
  simpa [Option.mem_def.mp first] using List.head?_dropWhile_not member text

section Run

variable {member : Char → Bool} {front rest : Text} (inside : ∀ c ∈ front, member c = true)
  (ends : ∀ c ∈ rest.head?, member c = false)

include inside ends

theorem takeWhile_run : (front ++ rest).takeWhile member = front := by
  rw [List.takeWhile_append_of_pos inside]
  cases rest with
  | nil => simp
  | cons c rest => simp [ends c rfl]

theorem dropWhile_run : (front ++ rest).dropWhile member = rest := by
  rw [List.dropWhile_append_of_pos inside]
  cases rest with
  | nil => rfl
  | cons c rest => simp [ends c rfl]

end Run

theorem takeWhile_mark {mark : Char} {before : Text} (plain : mark ∉ before) (behind : Text) :
    (before ++ mark :: behind).takeWhile (· != mark) = before := by
  have passed : ∀ c ∈ before, (c != mark) = true := by
    intro c member
    rw [bne_iff_ne]
    rintro rfl
    exact plain member
  exact takeWhile_run passed (by simp)

theorem cut_append {mark : Char} {before : Text} (free : mark ∉ before) (behind : Text) :
    cut mark (before ++ mark :: behind) = (before, some behind) := by
  induction before with
  | nil => simp [cut]
  | cons c before ih =>
    simp only [List.mem_cons, not_or] at free
    simp [cut, ih free.2, Ne.symm free.1]

theorem not_mem_cut (mark : Char) (text : Text) : mark ∉ (cut mark text).1 := by
  induction text with
  | nil => simp [cut]
  | cons c rest ih =>
    rw [cut]
    split
    · simp
    · next other => simp [ih, Ne.symm other]

theorem mem_intercalate {c : Char} {separator : Text} (foreign : c ∉ separator) {texts : List Text} :
    c ∈ List.intercalate separator texts ↔ ∃ text ∈ texts, c ∈ text := by
  induction texts with
  | nil => simp
  | cons text texts ih =>
    cases texts with
    | nil => simp
    | cons next texts =>
      rw [List.intercalate_cons_cons]
      simp only [List.mem_append, foreign, or_false, ih]
      simp

end ServiceProbe.Text
