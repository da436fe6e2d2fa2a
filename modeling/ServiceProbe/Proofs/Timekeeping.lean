import ServiceProbe.Network.Script
import ServiceProbe.Proofs.Range
/-!
Clocks that stay in range. What is counted together with a double is a double, so that only whole
numbers can grow too large, and they do not as long as all that an exchange counts is small enough.
-/
namespace ServiceProbe

namespace Number

open Outcome (Succeeds succeeds_map)

/-- What a number adds to an exact count. -/
def size : Number → Nat
  | .int n => n.natAbs
  | .real _ => 0

theorem fits_of_size {a : Number} (small : a.size < Double.limit) : a.Fits := by
  cases a with
  | int n => exact small
  | real double => trivial

theorem toDouble_of_size (a : Number) (small : a.size < Double.limit) : Succeeds a.toDouble :=
  toDouble_succeeds.mpr (fits_of_size small)

/-- An operation that is exact on whole numbers, does not make them grow faster than a sum, and
gives a double where one of the two is a double. -/
structure Counts (operation : Number → Number → Except OutOfRange Number) : Prop where
  whole : ∀ m n, ∃ k, operation (.int m) (.int n) = .ok (.int k) ∧ k.natAbs ≤ m.natAbs + n.natAbs
  left : ∀ double b, ∃ f : Double → Double,
    operation (.real double) b = (fun second => .real (f second)) <$> b.toDouble
  right : ∀ a double, ∃ f : Double → Double,
    operation a (.real double) = (fun first => .real (f first)) <$> a.toDouble

theorem counts_add : Counts add where
  whole m n := ⟨m + n, rfl, Int.natAbs_add_le m n⟩
  left double b := ⟨double.add, by cases b <;> rfl⟩
  right a double := ⟨(·.add double), by cases a <;> rfl⟩

theorem counts_sub : Counts sub where
  whole m n := ⟨m - n, rfl, Int.natAbs_sub_le m n⟩
  left double b := ⟨double.sub, by cases b <;> rfl⟩
  right a double := ⟨(·.sub double), by cases a <;> rfl⟩

section Counts

variable {operation : Number → Number → Except OutOfRange Number} {a b result : Number}

theorem Counts.succeeds (counts : Counts operation) (left : a.Fits) (right : b.Fits) :
    Succeeds (operation a b) := by
  cases a with
  | real double =>
    obtain ⟨f, same⟩ := counts.left double b
    rw [same]
    exact succeeds_map.mpr (toDouble_succeeds.mpr right)
  | int m =>
    cases b with
    | int n =>
      obtain ⟨k, same, _⟩ := counts.whole m n
      exact ⟨.int k, same⟩
    | real double =>
      obtain ⟨f, same⟩ := counts.right (.int m) double
      rw [same]
      exact succeeds_map.mpr (toDouble_succeeds.mpr left)

theorem Counts.size_le (counts : Counts operation) (found : operation a b = .ok result) :
    result.size ≤ a.size + b.size := by
  cases a with
  | real double =>
    obtain ⟨f, same⟩ := counts.left double b
    rw [same] at found
    obtain ⟨second, _, rfl⟩ := Outcome.map_ok found
    exact Nat.zero_le _
  | int m =>
    cases b with
    | int n =>
      obtain ⟨k, same, bound⟩ := counts.whole m n
      rw [same] at found
      cases found
      exact bound
    | real double =>
      obtain ⟨f, same⟩ := counts.right (.int m) double
      rw [same] at found
      obtain ⟨first, _, rfl⟩ := Outcome.map_ok found
      exact Nat.zero_le _

theorem Counts.gives (counts : Counts operation) (a b : Number)
    (small : a.size + b.size < Double.limit) :
    ∃ result, operation a b = .ok result ∧ result.size ≤ a.size + b.size := by
  obtain ⟨result, found⟩ := counts.succeeds (a := a) (b := b) (fits_of_size (by omega))
    (fits_of_size (by omega))
  exact ⟨result, found, counts.size_le found⟩

end Counts
end Number

namespace Network

/-- The whole seconds that pass in some calls. -/
def counted : List Number → Nat
  | [] => 0
  | delay :: delays => delay.size + counted delays

@[simp] theorem counted_nil : counted [] = 0 := rfl

@[simp] theorem counted_cons (delay : Number) (delays : List Number) :
    counted (delay :: delays) = delay.size + counted delays := rfl

@[simp] theorem counted_append (delays others : List Number) :
    counted (delays ++ others) = counted delays + counted others := by
  induction delays with
  | nil => simp
  | cons delay delays ih =>
    rw [List.cons_append, counted_cons, counted_cons, ih, Nat.add_assoc]

/-- The rest of a long delivery comes without further delay. -/
theorem counted_portions (deliveries : List Delivery) :
    counted ((deliveries.flatMap Delivery.portions).map Delivery.delay) =
      counted (deliveries.map Delivery.delay) := by
  have still (rest : List Bytes) :
      counted (rest.map fun bytes => Delivery.delay { content := .ok bytes }) = 0 := by
    induction rest with
    | nil => rfl
    | cons bytes rest ih =>
      rw [List.map_cons, counted_cons, ih]
      rfl
  have own (delivery : Delivery) :
      counted (delivery.portions.map Delivery.delay) = delivery.delay.size := by
    rw [Delivery.portions]
    split
    · simp
    · split
      · simp
      · rw [List.map_cons, List.map_map, counted_cons]
        simpa [Function.comp_def] using still _
  induction deliveries with
  | nil => rfl
  | cons delivery deliveries ih => simp [own, ih]

/-- All times that an exchange counts. -/
def Script.times (script : Script) : List Number :=
  script.clock :: script.lookup.delay :: script.handshake.delay :: script.sending.delay ::
    script.addresses.map (·.connection.delay) ++ script.deliveries.map Delivery.delay

/-- The times of an exchange can be counted and told in doubles. -/
def Script.InRange (script : Script) (timeout : Number) : Prop :=
  2 * (counted script.times + timeout.size) < Double.limit

/-- A clock that counts in doubles is never out of range. -/
theorem Script.inRange_of_doubles {script : Script}
    (doubles : ∀ time ∈ script.times, ∃ double, time = .real double) (timeout : Double) :
    script.InRange (.real timeout) := by
  have none (times : List Number) (doubles : ∀ time ∈ times, ∃ double, time = .real double) :
      counted times = 0 := by
    induction times with
    | nil => rfl
    | cons time times ih =>
      obtain ⟨double, rfl⟩ := doubles time List.mem_cons_self
      rw [counted_cons, ih fun other member => doubles other (List.mem_cons_of_mem _ member)]
      rfl
  rw [InRange, none _ doubles]
  exact Number.zero_fits

end Network
end ServiceProbe
