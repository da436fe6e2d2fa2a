import ServiceProbe.Proofs.Reading
/-!
Exchanges that stay in range. Each step adds its delay to the clock, and as long as all that is added stays
below the range of a double, sockets that take any double keep no step from being made.
-/
namespace ServiceProbe.Network

/-- A step that is not out of range, with a clock of at most so many whole seconds behind it. -/
structure Timed.Counts {α : Type} (step : Timed α) (most : Nat) : Prop where
  counted : ¬ Uncountable step.outcome
  clock : step.clock.size ≤ most

@[simp] theorem not_uncountable_ok {α : Type} (value : α) : ¬ Uncountable (.ok value) := by
  rintro ⟨_, ⟨⟩⟩

@[simp] theorem not_uncountable_exchange {α : Type} (failure : ExchangeFailure) :
    ¬ Uncountable (.error (.exchange failure) : Except Fault α) := by
  rintro ⟨_, ⟨⟩⟩

@[simp] theorem not_uncountable_network {α : Type} (trouble : Trouble) :
    ¬ Uncountable (.error (.network trouble) : Except Fault α) := by
  rintro ⟨_, ⟨⟩⟩

theorem not_uncountable_faultOf {α : Type} (trouble : Trouble) (meaning : ExchangeFailure) :
    ¬ Uncountable (.error (faultOf trouble meaning) : Except Fault α) := by
  rw [faultOf]
  split <;> simp

namespace Timed

variable {α β : Type} {step : Timed α} {next : α → Number → Timed β} {between most : Nat}

theorem counts_done {clock : Number} (value : α) (small : clock.size ≤ most) :
    (done clock value).Counts most := ⟨not_uncountable_ok value, small⟩

theorem not_uncountable_andThen (first : step.Counts between)
    (later : ∀ value clock, clock.size ≤ between → ¬ Uncountable (next value clock).outcome) :
    ¬ Uncountable (step.andThen next).outcome := by
  cases found : step.outcome with
  | error fault =>
    rw [andThen_error found]
    rintro ⟨cause, ⟨⟩⟩
    exact first.counted ⟨cause, found⟩
  | ok value =>
    rw [andThen_ok found]
    exact later value _ first.clock

theorem Counts.andThen (first : step.Counts between)
    (later : ∀ value clock, clock.size ≤ between → (next value clock).Counts most)
    (more : between ≤ most) : (step.andThen next).Counts most := by
  refine ⟨not_uncountable_andThen first fun value clock small => (later value clock small).counted, ?_⟩
  cases found : step.outcome with
  | error fault =>
    rw [andThen_error found]
    exact Nat.le_trans first.clock more
  | ok value =>
    rw [andThen_ok found]
    exact (later value _ first.clock).clock

end Timed

section Steps

variable {clock : Number}

theorem counts_call {course : Course} (small : clock.size + course.delay.size < Double.limit)
    {meaning : Trouble → Fault}
    (plain : ∀ trouble, ¬ Uncountable (.error (meaning trouble) : Except Fault Unit)) (event : Event) :
    (call event course meaning clock).Counts (clock.size + course.delay.size) := by
  obtain ⟨later, passes, bound⟩ := Number.counts_add.gives clock course.delay small
  cases taken : course.trouble with
  | some trouble =>
    rw [call_error passes taken]
    exact ⟨plain trouble, bound⟩
  | none =>
    rw [call_ok passes taken]
    exact ⟨not_uncountable_ok (), bound⟩

theorem counts_setTimeout {seconds : Number} (small : seconds.size < Double.limit) (socket : Nat) :
    (setTimeout .noting socket seconds clock).Counts clock.size := by
  obtain ⟨double, fits⟩ := seconds.toDouble_of_size small
  have set : Sockets.noting.timeout? seconds = .ok double := by
    rw [Sockets.timeout?, fits]
  rw [setTimeout_eq set]
  exact ⟨not_uncountable_ok (), Nat.le_refl _⟩

end Steps

/-! Opening. -/

section Opening

variable {clock : Number}

theorem counts_attempt {address : Address} {remaining : Number}
    (fits : remaining.size < Double.limit)
    (small : clock.size + address.connection.delay.size < Double.limit) (socket : Nat) :
    (attempt .noting socket address remaining clock).Counts
      (clock.size + address.connection.delay.size) := by
  cases made : address.creation with
  | some trouble =>
    rw [attempt_uncreated made]
    exact ⟨not_uncountable_network trouble, Nat.le_add_right _ _⟩
  | none =>
    simp only [attempt, made]
    have noted : (Timed.note (.event (.create socket address.family true)) clock).Counts clock.size :=
      ⟨not_uncountable_ok (), Nat.le_refl _⟩
    refine noted.andThen ?_ (Nat.le_add_right _ _)
    intro _ clock' early
    refine (counts_setTimeout fits socket).andThen ?_ (by omega)
    intro _ clock' earlier
    refine (counts_call (by omega) not_uncountable_network _).andThen ?_ (by omega)
    intro _ clock' late
    exact Timed.counts_done _ (by omega)

theorem counts_openFrom {deadline : Number} {addresses : List Address}
    (small : deadline.size + clock.size + counted (addresses.map (·.connection.delay)) < Double.limit)
    (socket : Nat) (reasons : List Text) :
    (openFrom .noting deadline socket reasons addresses clock).Counts
      (clock.size + counted (addresses.map (·.connection.delay))) := by
  -- Along the addresses. The clock has moved by the delays of those that were tried.
  induction addresses generalizing clock socket reasons with
  | nil => exact ⟨not_uncountable_exchange _, Nat.le_add_right _ _⟩
  | cons address rest ih =>
    rw [List.map_cons, counted_cons] at small ⊢
    obtain ⟨remaining, left, bound⟩ := Number.counts_sub.gives deadline clock (by omega)
    rw [openFrom, left]
    dsimp only
    by_cases late : remaining.isAtMostZero
    · rw [if_pos late]
      exact ⟨not_uncountable_exchange _, Nat.le_add_right _ _⟩
    rw [if_neg late]
    have own : (attempt .noting socket address remaining clock).Counts
        (clock.size + address.connection.delay.size) := counts_attempt (by omega) (by omega) socket
    have most := own.clock
    have alone : (attempt .noting socket address remaining clock).Counts
        (clock.size + (address.connection.delay.size + counted (rest.map (·.connection.delay)))) :=
      ⟨own.counted, by omega⟩
    have later (reasons : List Text) : (openFrom .noting deadline (socket + 1) reasons rest
        (attempt .noting socket address remaining clock).clock).Counts
          ((attempt .noting socket address remaining clock).clock.size +
            counted (rest.map (·.connection.delay))) := ih (by omega) (socket + 1) reasons
    split
    · split
      · exact ⟨(later _).counted, Nat.le_trans (later _).clock (by omega)⟩
      · exact alone
    · exact alone

end Opening

/-! The exchange. -/

theorem counts_wrapTls {script : Script} {clock : Number}
    (small : clock.size + script.handshake.delay.size < Double.limit) (socket : Nat) (host : Text) :
    (wrapTls script socket host clock).Counts (clock.size + script.handshake.delay.size) := by
  rw [wrapTls]
  split
  · exact ⟨by rintro ⟨_, ⟨⟩⟩, Nat.le_add_right _ _⟩
  · exact counts_call small (fun trouble => not_uncountable_faultOf trouble (.handshake trouble)) _

section Exchange

variable {script : Script} {wire : Wire} {clock : Number} (noting : script.sockets = .noting)

include noting

theorem counts_secure (timeout : wire.timeout.size < Double.limit)
    (small : clock.size + script.handshake.delay.size < Double.limit) (opening : Opening) :
    (secure script wire opening clock).Counts (clock.size + script.handshake.delay.size) := by
  rw [secure, noting]
  split
  · refine (counts_setTimeout timeout opening.socket).andThen ?_ (Nat.le_add_right _ _)
    intro _ clock' early
    obtain ⟨counted, behind⟩ : (wrapTls script opening.socket wire.host clock').Counts
        (clock'.size + script.handshake.delay.size) := counts_wrapTls (by omega) _ _
    exact ⟨counted, by omega⟩
  · exact Timed.counts_done () (Nat.le_add_right _ _)

theorem counts_send {connection : Connection} (timeout : connection.timeout.size < Double.limit)
    (small : clock.size + script.sending.delay.size < Double.limit) (payload : Bytes) :
    (connection.send script payload clock).Counts (clock.size + script.sending.delay.size) := by
  rw [Connection.send, noting]
  refine (counts_setTimeout timeout connection.socket).andThen ?_ (Nat.le_add_right _ _)
  intro _ clock' early
  obtain ⟨counted, behind⟩ :
      (call (.send connection.socket payload script.sending.succeeds) script.sending
        (fun trouble => faultOf trouble (.sending connection.host connection.port trouble))
          clock').Counts (clock'.size + script.sending.delay.size) :=
    counts_call (by omega) (fun trouble => not_uncountable_faultOf trouble _) _
  exact ⟨counted, by omega⟩

theorem not_uncountable_converse
    (small : 2 * (clock.size + script.handshake.delay.size + script.sending.delay.size +
      counted (script.deliveries.map Delivery.delay) + wire.timeout.size) < Double.limit)
    (opening : Opening) : ¬ Uncountable (converse script wire opening clock).outcome := by
  refine Timed.not_uncountable_andThen (counts_secure noting (by omega) (by omega) opening) ?_
  intro _ secured early
  refine Timed.not_uncountable_andThen (counts_send noting ?_ (by omega) wire.payload) ?_
  · show wire.timeout.size < Double.limit
    omega
  intro _ sent late
  rw [noting]
  refine not_uncountable_readAll ?_
  show 2 * sent.size + wire.timeout.size + counted (script.deliveries.map Delivery.delay) < Double.limit
  omega

/-- Where all times of an exchange can be counted, it fails over none of them. -/
theorem not_uncountable_exchange_of_inRange (inRange : script.InRange wire.timeout) :
    ¬ Uncountable (exchange script wire).outcome := by
  have small := inRange
  simp only [Script.InRange, Script.times, counted_cons, counted_append] at small
  rw [exchange, noting, lookUp, Timed.andThen_assoc]
  -- Step by step, each with the bound that the steps before leave for its clock.
  refine Timed.not_uncountable_andThen
    (counts_call (by omega) (fun _ => not_uncountable_exchange _) _) ?_
  intro _ resolved early
  rw [Timed.andThen_ok rfl]
  dsimp only [Timed.done]
  rw [Timed.note_andThen]
  obtain ⟨deadline, starts, bound⟩ := Number.counts_add.gives resolved wire.timeout (by omega)
  rw [starts, Timed.compute_ok, openFirst]
  refine Timed.not_uncountable_andThen (counts_openFrom ?_ 0 []) ?_
  · omega
  intro opening connected late
  exact not_uncountable_converse noting (by omega) opening

end Exchange
end ServiceProbe.Network
