import ServiceProbe.Proofs.Closing
/-!
What arrives of a reply. However its bytes are cut into chunks, and however a socket cuts these
again, all of them arrive if the peer closes before the deadline.
-/
namespace ServiceProbe.Network

/-- Chunks in order, and behind them a close: a delivery of nothing, or no further one. -/
inductive Sends : List Delivery → List Bytes → Prop
  | ended : Sends [] []
  | close (delay : Number) (later : List Delivery) : Sends (⟨delay, .ok []⟩ :: later) []
  | chunk {bytes : Bytes} {deliveries : List Delivery} {chunks : List Bytes} (delay : Number)
      (some : bytes ≠ []) (rest : Sends deliveries chunks) :
    Sends (⟨delay, .ok bytes⟩ :: deliveries) (bytes :: chunks)

/-- Data can be asked for: there is time left, and it can be set as a timeout. -/
def TimeLeft (sockets : Sockets) (deadline clock : Number) : Prop :=
  ∃ remaining seconds, deadline.sub clock = .ok remaining ∧ remaining.isPositive = true ∧
    sockets.timeout? remaining = .ok seconds

/-- There is time left whenever data is asked for, up to the call that sees the close. -/
def InTime (sockets : Sockets) (deadline : Number) : (portions : List Delivery) → (clock : Number) → Prop
  | [], clock => TimeLeft sockets deadline clock
  | portion :: rest, clock =>
    TimeLeft sockets deadline clock ∧ ∃ later, clock.add portion.delay = .ok later ∧
      (portion.content = .ok [] ∨ InTime sockets deadline rest later)

variable {sockets : Sockets}

theorem setTimeout_eq {seconds : Number} {double : Double}
    (fits : sockets.timeout? seconds = .ok double) (socket : Nat) (clock : Number) :
    setTimeout sockets socket seconds clock = ⟨[.event (.setTimeout socket double)], clock, .ok ()⟩ := by
  rw [setTimeout, fits, Timed.compute_ok]
  rfl

/-- What is set is the time as a double, and only sockets that take any double take what is no number. -/
theorem Sockets.timeout?_ok {time : Number} {seconds : Double}
    (fits : sockets.timeout? time = .ok seconds) :
    time.toDouble = .ok seconds ∧ (time = .real .nan → sockets = .noting) := by
  cases sockets with
  | noting => exact ⟨fits, fun _ => rfl⟩
  | counting =>
    match time with
    | .int n =>
      rw [timeout?] at fits
      split at fits
      · cases fits
      split at fits
      · cases fits
      · exact ⟨fits, by rintro ⟨⟩⟩
    | .real .nan => cases fits
    | .real (.finite negative mantissa exponent) =>
      simp only [timeout?] at fits
      split at fits
      · cases fits
      split at fits
      · cases fits
      · exact ⟨fits, by rintro ⟨⟩⟩
    | .real (.infinite negative) => cases negative <;> cases fits

theorem await_outcome {deadline clock : Number} (left : TimeLeft sockets deadline clock)
    (connection : Connection) : (connection.await sockets deadline clock).outcome = .ok true := by
  obtain ⟨remaining, seconds, difference, positive, fits⟩ := left
  rw [Connection.await, difference, Timed.compute_ok, if_pos positive,
    setTimeout_eq fits]
  rfl

theorem receive_outcome {clock delay later : Number} (sum : clock.add delay = .ok later)
    (connection : Connection) (bytes : Bytes) :
    (connection.receive ⟨delay, .ok bytes⟩ clock).outcome = .ok bytes ∧
      (connection.receive ⟨delay, .ok bytes⟩ clock).clock = later := by
  rw [Connection.receive, sum]
  exact ⟨rfl, rfl⟩

/-- A network without delays never runs out of time. -/
theorem inTime_of_still {deadline clock : Number} {portions : List Delivery}
    (left : TimeLeft sockets deadline clock)
    (still : ∀ portion ∈ portions, clock.add portion.delay = .ok clock) :
    InTime sockets deadline portions clock := by
  induction portions with
  | nil => exact left
  | cons portion portions ih =>
    have later := ih fun other member => still other (List.mem_cons_of_mem _ member)
    exact ⟨left, clock, still portion List.mem_cons_self, Or.inr later⟩

/-- Reading gives all that was sent before the close. -/
theorem readFrom_sends {deadline : Number} {portions : List Delivery} {pieces : List Bytes}
    (sends : Sends portions pieces) {clock : Number} (inTime : InTime sockets deadline portions clock)
    (connection : Connection) (buffer : Bytes) :
    (connection.readFrom sockets deadline buffer portions clock).outcome =
      .ok (buffer ++ pieces.flatten) := by
  induction sends generalizing clock buffer with
  | ended => simp [Connection.readFrom, await_outcome inTime]
  | close delay later =>
    obtain ⟨left, clock', sum, _⟩ := inTime
    simp [Connection.readFrom, await_outcome left, receive_outcome sum]
  | @chunk bytes deliveries chunks delay some rest ih =>
    obtain ⟨left, clock', sum, later⟩ := inTime
    have going : InTime sockets deadline deliveries clock' :=
      later.resolve_left (by simpa using some)
    have void : bytes.isEmpty = false := by simpa using some
    simp [Connection.readFrom, await_outcome left, receive_outcome sum, void,
      Connection.Reading.after, ih going]

/-! A chunk that is too long for one call comes in several portions. -/

theorem portionsOf_flatten (bytes : Bytes) : (portionsOf bytes).flatten = bytes := by
  fun_induction portionsOf bytes with
  | case1 bytes short => simp
  | case2 bytes long ih => simp [ih]

theorem portions_short {bytes : Bytes} (short : bytes.length ≤ receiveSize) (delay : Number) :
    Delivery.portions ⟨delay, .ok bytes⟩ = [⟨delay, .ok bytes⟩] := by
  have whole : portionsOf bytes = [bytes] := by rw [portionsOf, if_pos short]
  simp [Delivery.portions, whole]

theorem nil_not_mem_portionsOf {bytes : Bytes} (some : bytes ≠ []) : [] ∉ portionsOf bytes := by
  fun_induction portionsOf bytes with
  | case1 bytes short => simpa using some.symm
  | case2 bytes long ih =>
    have size : 8192 < bytes.length := by simpa [receiveSize] using long
    have first : bytes.take receiveSize ≠ [] := by
      simpa [receiveSize] using some
    have rest : bytes.drop receiveSize ≠ [] := by
      simpa [receiveSize] using size
    simpa [first.symm] using ih rest

theorem sends_pieces {deliveries : List Delivery} {chunks : List Bytes}
    (rest : Sends deliveries chunks) {pieces : List Bytes} (some : [] ∉ pieces) :
    Sends (pieces.map (fun bytes => { content := .ok bytes }) ++ deliveries) (pieces ++ chunks) := by
  induction pieces with
  | nil => exact rest
  | cons piece pieces ih =>
    simp only [List.mem_cons, not_or] at some
    exact .chunk _ (Ne.symm some.1) (ih some.2)

theorem sends_portions {deliveries : List Delivery} {chunks : List Bytes}
    (sends : Sends deliveries chunks) :
    ∃ pieces, Sends (deliveries.flatMap Delivery.portions) pieces ∧
      pieces.flatten = chunks.flatten := by
  -- Cutting keeps the order, and only a delivery of nothing is cut into a close.
  induction sends with
  | ended => exact ⟨[], .ended, rfl⟩
  | close delay later =>
    have alone : portionsOf [] = [[]] := by simp [portionsOf, receiveSize]
    refine ⟨[], ?_, rfl⟩
    simpa [Delivery.portions, alone] using Sends.close delay _
  | @chunk bytes deliveries chunks delay some rest ih =>
    obtain ⟨pieces, later, same⟩ := ih
    have whole := portionsOf_flatten bytes
    have parts := nil_not_mem_portionsOf some
    cases cut : portionsOf bytes with
    | nil =>
      rw [cut] at whole
      exact absurd whole.symm some
    | cons first others =>
      rw [cut] at whole parts
      simp only [List.mem_cons, not_or] at parts
      refine ⟨first :: (others ++ pieces), ?_, ?_⟩
      · simpa [Delivery.portions, cut] using
          Sends.chunk delay (Ne.symm parts.1) (sends_pieces later parts.2)
      · simpa [same] using congrArg (· ++ chunks.flatten) whole

/-- A reply arrives as a whole, however it is cut. -/
theorem readAll_sends {deliveries : List Delivery} {chunks : List Bytes}
    (sends : Sends deliveries chunks) {connection : Connection} {clock deadline : Number}
    (starts : clock.add connection.timeout = .ok deadline)
    (inTime : InTime sockets deadline (deliveries.flatMap Delivery.portions) clock) :
    (connection.readAll none deliveries clock sockets).outcome = .ok chunks.flatten := by
  obtain ⟨pieces, cut, same⟩ := sends_portions sends
  have reads := readFrom_sends cut inTime connection []
  simpa [Connection.readAll, starts, same] using reads

/-! The exchange up to there. -/

namespace Timed

variable {α β γ : Type}

theorem andThen_assoc (step : Timed α) (next : α → Number → Timed β)
    (last : β → Number → Timed γ) :
    (step.andThen next).andThen last =
      step.andThen fun value clock => (next value clock).andThen last := by
  cases first : step.outcome with
  | error fault => rw [andThen_error first, andThen_error first, andThen_error rfl]
  | ok value =>
    rw [andThen_ok first, andThen_ok first]
    cases second : (next value step.clock).outcome with
    | error fault => rw [andThen_error second, andThen_error rfl]
    | ok value => rw [andThen_ok second, andThen_ok rfl, List.append_assoc]

theorem andThen_outcome_congr (step : Timed α) {next other : α → Number → Timed β}
    (same : ∀ value clock, (next value clock).outcome = (other value clock).outcome) :
    (step.andThen next).outcome = (step.andThen other).outcome := by
  cases first : step.outcome with
  | error fault => rw [andThen_error first, andThen_error first]
  | ok value =>
    rw [andThen_ok first, andThen_ok first]
    exact same value step.clock

end Timed

/-- The steps of an exchange up to the request: looking up, connecting, the handshake and sending.
The result is the connection on which the reply is awaited. -/
def asked (script : Script) (wire : Wire) : Timed Connection :=
  (lookUp script wire.host wire.port script.clock).andThen fun addresses clock =>
    (Timed.note (debugEntry (connectingText wire)) clock).andThen fun () clock =>
      (Timed.compute (clock.add wire.timeout) clock).andThen fun deadline clock =>
        (openFirst deadline addresses clock script.sockets).andThen fun opening clock =>
          (secure script wire opening clock).andThen fun () clock =>
            let connection : Connection := ⟨opening.socket, opening.host, opening.port, wire.timeout⟩
            (connection.send script wire.payload clock).andThen fun () clock =>
              .done clock connection

/-- An exchange asks and then reads. -/
theorem exchange_outcome (script : Script) (wire : Wire) :
    (exchange script wire).outcome =
      ((asked script wire).andThen fun connection clock =>
        (connection.readAll none script.deliveries clock script.sockets).timed).outcome := by
  simp only [exchange, asked, converse, Timed.andThen_assoc]
  iterate 4
    apply Timed.andThen_outcome_congr
    intro _ _
  rfl

theorem asked_timeout {script : Script} {wire : Wire} {connection : Connection}
    (reached : (asked script wire).outcome = .ok connection) :
    connection.timeout = wire.timeout := by
  obtain ⟨_, _, reached⟩ := Timed.andThen_gives reached
  obtain ⟨_, _, reached⟩ := Timed.andThen_gives reached
  obtain ⟨_, _, reached⟩ := Timed.andThen_gives reached
  obtain ⟨_, _, reached⟩ := Timed.andThen_gives reached
  obtain ⟨_, _, reached⟩ := Timed.andThen_gives reached
  obtain ⟨_, _, reached⟩ := Timed.andThen_gives reached
  cases reached
  rfl

/-- The network takes a request to its peer and brings the chunks of the reply and the close back
before the deadline. -/
structure Arrives (script : Script) (wire : Wire) (chunks : List Bytes) : Prop where
  reached : (asked script wire).outcome.isOk = true
  sends : Sends script.deliveries chunks
  inTime : ∃ deadline, (asked script wire).clock.add wire.timeout = .ok deadline ∧
    InTime script.sockets deadline (script.deliveries.flatMap Delivery.portions) (asked script wire).clock

theorem exchange_arrives {script : Script} {wire : Wire} {chunks : List Bytes}
    (arrives : Arrives script wire chunks) :
    (exchange script wire).outcome = .ok chunks.flatten := by
  obtain ⟨deadline, starts, inTime⟩ := arrives.inTime
  cases reached : (asked script wire).outcome with
  | error fault =>
    have absent := arrives.reached
    rw [reached] at absent
    cases absent
  | ok connection =>
    rw [← asked_timeout reached] at starts
    have reads := readAll_sends arrives.sends starts inTime
    rw [exchange_outcome, Timed.andThen_ok reached]
    exact reads

end ServiceProbe.Network
