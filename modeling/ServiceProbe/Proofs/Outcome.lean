/-!
Computations that give a result or an error, taken apart at their steps.
-/
namespace ServiceProbe.Outcome

variable {ε α β : Type}

theorem bind_ok {first : Except ε α} {next : α → Except ε β} {b : β}
    (whole : first >>= next = .ok b) : ∃ a, first = .ok a ∧ next a = .ok b := by
  cases first with
  | error error => cases whole
  | ok a => exact ⟨a, rfl, whole⟩

theorem bind_error {first : Except ε α} {next : α → Except ε β} {error : ε}
    (whole : first >>= next = .error error) :
    first = .error error ∨ ∃ a, first = .ok a ∧ next a = .error error := by
  cases first with
  | error early =>
    cases whole
    exact Or.inl rfl
  | ok a => exact Or.inr ⟨a, rfl, whole⟩

theorem map_ok {first : Except ε α} {f : α → β} {b : β} (whole : first.map f = .ok b) :
    ∃ a, first = .ok a ∧ f a = b := by
  cases first with
  | error error => cases whole
  | ok a => exact ⟨a, rfl, Except.ok.inj whole⟩

theorem map_error {first : Except ε α} {f : α → β} {error : ε}
    (whole : first.map f = .error error) : first = .error error := by
  cases first with
  | error early =>
    cases whole
    rfl
  | ok a => cases whole

/-- A result can be told from others even where errors cannot. -/
instance decidableEqOk [DecidableEq α] (outcome : Except ε α) (a : α) : Decidable (outcome = .ok a) :=
  match outcome with
  | .ok b => decidable_of_iff (b = a) ⟨congrArg Except.ok, Except.ok.inj⟩
  | .error _ => .isFalse nofun

/-- What holds of the result, if there is one. -/
def Gives (outcome : Except ε α) (holds : α → Prop) : Prop := ∀ a, outcome = .ok a → holds a

namespace Gives

variable {holds : α → Prop} {wanted : β → Prop}

theorem ok {a : α} (proof : holds a) : Gives (.ok a : Except ε α) holds := by
  intro b same
  cases same
  exact proof

theorem anything (outcome : Except ε α) : Gives outcome fun _ => True := fun _ _ => trivial

theorem bind {outcome : Except ε α} {next : α → Except ε β} (first : Gives outcome holds)
    (later : ∀ a, holds a → Gives (next a) wanted) : Gives (outcome >>= next) wanted := by
  intro b whole
  obtain ⟨a, found, rest⟩ := bind_ok whole
  exact later a (first a found) b rest

theorem map {outcome : Except ε α} {f : α → β} (first : Gives outcome fun a => wanted (f a)) :
    Gives (f <$> outcome) wanted := by
  intro b whole
  obtain ⟨a, found, rfl⟩ := map_ok whole
  exact first a found

theorem mapM {f : α → Except ε β} {items : List α} (each : ∀ a ∈ items, Gives (f a) wanted) :
    Gives (items.mapM f) fun results => ∀ result ∈ results, wanted result := by
  induction items with
  | nil => exact ok (by simp)
  | cons item items ih =>
    rw [List.mapM_cons]
    have later := ih fun a member => each a (List.mem_cons_of_mem _ member)
    refine (each item List.mem_cons_self).bind fun first proof => later.bind fun rest others => ok ?_
    intro result member
    rcases List.mem_cons.mp member with rfl | member
    · exact proof
    · exact others result member

end Gives

/-- There is a result. -/
def Succeeds (outcome : Except ε α) : Prop := ∃ a, outcome = .ok a

@[simp] theorem succeeds_ok (a : α) : Succeeds (.ok a : Except ε α) := ⟨a, rfl⟩

@[simp] theorem succeeds_pure (a : α) : Succeeds (pure a : Except ε α) := ⟨a, rfl⟩

@[simp] theorem not_succeeds_error (error : ε) : ¬ Succeeds (.error error : Except ε α) := by
  rintro ⟨a, same⟩
  cases same

theorem not_succeeds {outcome : Except ε α} :
    ¬ Succeeds outcome ↔ ∃ error, outcome = .error error := by
  cases outcome <;> simp

/-- Two steps succeed if the first does and so does the second, whatever it goes on with. -/
theorem succeeds_bind {outcome : Except ε α} {next : α → Except ε β} {condition : Prop}
    (later : ∀ a, outcome = .ok a → (Succeeds (next a) ↔ condition)) :
    Succeeds (outcome >>= next) ↔ Succeeds outcome ∧ condition := by
  cases outcome with
  | error error => exact ⟨fun whole => absurd whole (not_succeeds_error error),
      fun both => absurd both.1 (not_succeeds_error error)⟩
  | ok a => exact (later a rfl).trans (by simp)

/-- A step behind which nothing fails decides alone. -/
theorem succeeds_last {outcome : Except ε α} {next : α → Except ε β}
    (later : ∀ a, outcome = .ok a → Succeeds (next a)) :
    Succeeds (outcome >>= next) ↔ Succeeds outcome := by
  rw [succeeds_bind fun a found => iff_true_intro (later a found), and_true]

theorem succeeds_map {outcome : Except ε α} {f : α → β} :
    Succeeds (f <$> outcome) ↔ Succeeds outcome := by
  cases outcome with
  | error error => exact ⟨fun whole => absurd whole (not_succeeds_error error),
      fun first => absurd first (not_succeeds_error error)⟩
  | ok a => exact ⟨fun _ => succeeds_ok a, fun _ => succeeds_ok (f a)⟩

theorem succeeds_mapM {f : α → Except ε β} {items : List α} :
    Succeeds (items.mapM f) ↔ ∀ item ∈ items, Succeeds (f item) := by
  induction items with
  | nil => simp
  | cons item items ih =>
    rw [List.mapM_cons, List.forall_mem_cons, ← ih]
    exact succeeds_bind fun first _ => succeeds_last fun rest _ => succeeds_ok (first :: rest)

theorem mapM_cons_ok {f : α → Except ε β} {item : α} {items : List α} {results : List β}
    (whole : (item :: items).mapM f = .ok results) :
    ∃ first rest, f item = .ok first ∧ items.mapM f = .ok rest ∧ results = first :: rest := by
  rw [List.mapM_cons] at whole
  obtain ⟨first, found, whole⟩ := bind_ok whole
  obtain ⟨rest, others, whole⟩ := bind_ok whole
  cases whole
  exact ⟨first, rest, found, others, rfl⟩

theorem mem_of_mapM {f : α → Except ε β} {items : List α} {results : List β}
    (whole : items.mapM f = .ok results) {result : β} :
    result ∈ results ↔ ∃ item ∈ items, f item = .ok result := by
  induction items generalizing results with
  | nil =>
    cases whole
    simp
  | cons item items ih =>
    obtain ⟨first, rest, found, others, rfl⟩ := mapM_cons_ok whole
    simp [ih others, found, eq_comm]

/-- Steps of which each can give one result only. -/
theorem Gives.mapM_eq {f : α → Except ε β} {g : α → β} {items : List α}
    (each : ∀ a ∈ items, Gives (f a) (· = g a)) : Gives (items.mapM f) (· = items.map g) := by
  induction items with
  | nil => exact Gives.ok rfl
  | cons item items ih =>
    intro results whole
    obtain ⟨first, rest, found, others, rfl⟩ := mapM_cons_ok whole
    have head := each item List.mem_cons_self first found
    have tail := ih (fun a member => each a (List.mem_cons_of_mem _ member)) rest others
    rw [head, tail, List.map_cons]

theorem mapM_congr {f g : α → Except ε β} {items : List α} (each : ∀ a ∈ items, f a = g a) :
    items.mapM f = items.mapM g := by
  induction items with
  | nil => rfl
  | cons item items ih =>
    rw [List.mapM_cons, List.mapM_cons, each item List.mem_cons_self,
      ih fun a member => each a (List.mem_cons_of_mem _ member)]

end ServiceProbe.Outcome
