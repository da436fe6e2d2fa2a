import ServiceProbe.Proofs.Outcome
import ServiceProbe.Text.CodePoint
/-!
Which texts can be written. A text has characters if and only if no surrogate stands in it, and then its
letters are these characters; otherwise the first surrogate is named, with the letters in front of it.
-/
namespace ServiceProbe.Letter

variable {α : Type} [Letter α] {position : Nat} {text : List α} {chars : Text}

@[simp] theorem ofChar_char (c : Char) : (ofChar c : Char) = c := rfl

@[simp] theorem point_ofChar (c : Char) : point (ofChar c : α) = .char c := point_eq_char.mpr rfl

/-- A text without surrogates. -/
def Spoken (text : List α) : Prop := ∀ a ∈ text, isSurrogate a = false

instance (text : List α) : Decidable (Spoken text) :=
  inferInstanceAs (Decidable (∀ a ∈ text, isSurrogate a = false))

theorem spoken_cons {a : α} {rest : List α} :
    Spoken (a :: rest) ↔ isSurrogate a = false ∧ Spoken rest := List.forall_mem_cons

theorem spoken_append {others : List α} : Spoken (text ++ others) ↔ Spoken text ∧ Spoken others :=
  List.forall_mem_append

theorem isSurrogate_eq_false_iff {a : α} : isSurrogate a = false ↔ ∃ c, a = ofChar c := by
  rw [isSurrogate]
  cases point' : point a with
  | char c => exact iff_of_true rfl ⟨c, point_eq_char.mp point'⟩
  | surrogate offset =>
    refine iff_of_false (by simp [CodePoint.char?]) ?_
    rintro ⟨c, rfl⟩
    rw [point_ofChar] at point'
    cases point'

theorem characters_ofChar (position : Nat) (chars : Text) :
    characters position (chars.map ofChar : List α) = .ok chars := by
  induction chars generalizing position with
  | nil => rfl
  | cons c chars ih =>
    rw [List.map_cons, characters, point_ofChar]
    dsimp only
    rw [ih]
    rfl

theorem characters_eq_ok_iff : characters position text = .ok chars ↔ text = chars.map ofChar := by
  constructor
  · intro taken
    -- The position moves on with each letter but does not count for a text that can be written.
    induction text generalizing position chars with
    | nil =>
      cases taken
      rfl
    | cons a rest ih =>
      rw [characters] at taken
      split at taken
      · next c own =>
        obtain ⟨others, read, rfl⟩ := Outcome.map_ok taken
        rw [List.map_cons, ← ih read, point_eq_char.mp own]
      · cases taken
  · rintro rfl
    exact characters_ofChar position chars

theorem characters_succeeds : Outcome.Succeeds (characters position text) ↔ Spoken text := by
  simp only [Outcome.Succeeds, characters_eq_ok_iff]
  constructor
  · rintro ⟨chars, rfl⟩ a member
    obtain ⟨c, _, rfl⟩ := List.mem_map.mp member
    exact isSurrogate_eq_false_iff.mpr ⟨c, rfl⟩
  · intro spoken
    induction text with
    | nil => exact ⟨[], rfl⟩
    | cons a rest ih =>
      obtain ⟨own, others⟩ := spoken_cons.mp spoken
      obtain ⟨c, rfl⟩ := isSurrogate_eq_false_iff.mp own
      obtain ⟨chars, rfl⟩ := ih others
      exact ⟨c :: chars, rfl⟩

/-- Which surrogate is in the way. -/
theorem characters_error {failure : Utf8.Unencodable} (failed : characters position text = .error failure) :
    ∃ (front : Text) (a : α) (rest : List α), text = front.map ofChar ++ a :: rest ∧
      point a = .surrogate failure.first ∧ failure.position = position + front.length := by
  induction text generalizing position with
  | nil => cases failed
  | cons a rest ih =>
    rw [characters] at failed
    split at failed
    · next c own =>
      obtain ⟨front, b, others, rfl, lone, place⟩ := ih (Outcome.map_error failed)
      refine ⟨c :: front, b, others, ?_, lone, ?_⟩
      · rw [point_eq_char.mp own, List.map_cons, List.cons_append]
      · rw [place, List.length_cons]
        omega
    · next offset own =>
      cases failed
      exact ⟨[], a, rest, rfl, own, rfl⟩

/-! Of characters alone every text can be written. -/

@[simp] theorem map_ofChar (text : Text) : (text.map ofChar : Text) = text := List.map_id' text

@[simp] theorem characters_text (position : Nat) (text : Text) : characters position text = .ok text :=
  characters_eq_ok_iff.mpr (map_ofChar text).symm

end ServiceProbe.Letter
