import ServiceProbe.Proofs.Connecting
/-!
How a conversation over an open connection ends. The handshake, sending and reading follow each other,
and the first of them that fails tells how the conversation failed. A timeout ends reading, but it
is no failure.
-/
namespace ServiceProbe.Network

/-! Reading. -/

/-- A call for data that begins before the deadline fails with an error that is no timeout, before
the peer has closed. -/
inductive FailsReading (sockets : Sockets) (deadline : Number) : List Delivery → (clock : Number) → Prop
  | here {delay : Number} {trouble : Trouble} {clock later : Number}
      (left : TimeLeft sockets deadline clock) (refused : trouble.isTimeout = false)
      (passes : clock.add delay = .ok later) (rest : List Delivery) :
    FailsReading sockets deadline (⟨delay, .error trouble⟩ :: rest) clock
  | next {delay : Number} {bytes : Bytes} {rest : List Delivery} {clock later : Number}
      (left : TimeLeft sockets deadline clock) (some : bytes ≠ [])
      (passes : clock.add delay = .ok later) (fails : FailsReading sockets deadline rest later) :
    FailsReading sockets deadline (⟨delay, .ok bytes⟩ :: rest) clock

def Delivery.Ordinary (delivery : Delivery) : Prop :=
  ∀ trouble, delivery.content = .error trouble → trouble.isSystem = true

theorem Delivery.ordinary_portions {deliveries : List Delivery}
    (ordinary : ∀ delivery ∈ deliveries, delivery.Ordinary) :
    ∀ portion ∈ deliveries.flatMap Delivery.portions, portion.Ordinary := by
  intro portion member
  obtain ⟨delivery, known, part⟩ := List.mem_flatMap.mp member
  have own := ordinary delivery known
  -- An error stays in one portion, and the portions of data are data.
  cases content : delivery.content with
  | error trouble =>
    simp only [Delivery.portions, content, List.mem_singleton] at part
    exact part ▸ own
  | ok bytes =>
    simp only [Delivery.portions, content] at part
    split at part
    · rw [List.mem_singleton.mp part]
      exact own
    · rcases List.mem_cons.mp part with rfl | part
      · rintro _ ⟨⟩
      · obtain ⟨bytes, _, rfl⟩ := List.mem_map.mp part
        rintro _ ⟨⟩

section Reading

variable {sockets : Sockets} {deadline clock : Number} {portions : List Delivery}

/-- Either there is time left for a call, or the deadline is over, or this cannot be told. -/
theorem timeLeft_or_over (sockets : Sockets) (deadline clock : Number) (connection : Connection) :
    TimeLeft sockets deadline clock ∨
      (connection.await sockets deadline clock).outcome = .ok false ∨
      Uncountable (connection.await sockets deadline clock).outcome := by
  rw [Connection.await]
  cases left : deadline.sub clock with
  | error cause => exact Or.inr (Or.inr ⟨cause, rfl⟩)
  | ok remaining =>
    rw [Timed.compute_ok]
    cases positive : remaining.isPositive with
    | false => exact Or.inr (Or.inl rfl)
    | true =>
      cases fits : sockets.timeout? remaining with
      | ok seconds => exact Or.inl ⟨remaining, seconds, left, positive, fits⟩
      | error cause =>
        rw [if_pos rfl, setTimeout, fits, Timed.compute_error, Timed.andThen_error rfl]
        exact Or.inr (Or.inr ⟨cause, rfl⟩)

theorem receive_error {delay later : Number} (passes : clock.add delay = .ok later)
    (connection : Connection) (trouble : Trouble) :
    (connection.receive ⟨delay, .error trouble⟩ clock).outcome = .error (.network trouble) := by
  rw [Connection.receive, passes]
  rfl

theorem receive_uncountable {portion : Delivery} {cause : OutOfRange}
    (beyond : clock.add portion.delay = .error cause) (connection : Connection) :
    (connection.receive portion clock).outcome = .error (.outOfRange cause) := by
  rw [Connection.receive, beyond]

theorem readFrom_fails (fails : FailsReading sockets deadline portions clock)
    (ordinary : ∀ portion ∈ portions, portion.Ordinary) (connection : Connection)
    (buffer : Bytes) :
    ∃ trouble, (connection.readFrom sockets deadline buffer portions clock).outcome =
      .error (.exchange (.receiving trouble)) := by
  induction fails generalizing buffer with
  | @here delay trouble clock later left refused passes rest =>
    have isSystem : trouble.isSystem = true := ordinary _ List.mem_cons_self trouble rfl
    refine ⟨trouble, ?_⟩
    simp [Connection.readFrom, await_outcome left, receive_error passes, refused, faultOf, isSystem]
  | @next delay bytes rest clock later left some passes fails ih =>
    obtain ⟨trouble, failed⟩ :=
      ih (fun portion member => ordinary portion (List.mem_cons_of_mem _ member)) (buffer ++ bytes)
    refine ⟨trouble, ?_⟩
    have void : bytes.isEmpty = false := by simpa using some
    simpa [Connection.readFrom, await_outcome left, receive_outcome passes, void,
      Connection.Reading.after] using failed

/-- Reading that does not fail brings what arrived up to a close, a timeout or the deadline. -/
theorem readFrom_ends (fine : ¬ FailsReading sockets deadline portions clock) (connection : Connection)
    (buffer : Bytes) :
    (∃ bytes, (connection.readFrom sockets deadline buffer portions clock).outcome = .ok bytes) ∨
      Uncountable (connection.readFrom sockets deadline buffer portions clock).outcome := by
  -- Along the portions, for any clock and buffer. `fine` rules out the one way in which a call can
  -- fail.
  induction portions generalizing clock buffer with
  | nil =>
    rcases timeLeft_or_over sockets deadline clock connection with left | late | ⟨cause, beyond⟩
    · exact Or.inl ⟨buffer, by simp [Connection.readFrom, await_outcome left]⟩
    · exact Or.inl ⟨buffer, by simp [Connection.readFrom, late]⟩
    · exact Or.inr ⟨cause, by simp [Connection.readFrom, beyond]⟩
  | cons portion rest ih =>
    rcases timeLeft_or_over sockets deadline clock connection with left | late | ⟨cause, beyond⟩
    · cases passes : clock.add portion.delay with
      | error cause =>
        refine Or.inr ⟨cause, ?_⟩
        simp [Connection.readFrom, await_outcome left, receive_uncountable passes]
      | ok later =>
        obtain ⟨delay, content⟩ := portion
        cases content with
        | error trouble =>
          cases timeout : trouble.isTimeout with
          | false => exact absurd (.here left timeout passes rest) fine
          | true =>
            exact Or.inl ⟨buffer, by simp [Connection.readFrom, await_outcome left,
              receive_error passes, timeout]⟩
        | ok bytes =>
          by_cases void : bytes = []
          · exact Or.inl ⟨buffer, by simp [Connection.readFrom, await_outcome left,
              receive_outcome passes, void]⟩
          · have ends := ih (fun fails => fine (.next left void passes fails)) (buffer ++ bytes)
            simpa [Connection.readFrom, await_outcome left, receive_outcome passes, void,
              Connection.Reading.after] using ends
    · exact Or.inl ⟨buffer, by simp [Connection.readFrom, late]⟩
    · exact Or.inr ⟨cause, by simp [Connection.readFrom, beyond]⟩

end Reading

/-! A conversation over an open connection. -/

/-- What network calls raise, apart from looking up, are errors of the system, and there is a TLS
library. -/
structure Script.Ordinary (script : Script) : Prop where
  tls : script.tlsMissing = none
  addresses : ∀ address ∈ script.addresses, address.Ordinary
  handshake : ∀ trouble ∈ script.handshake.trouble, trouble.isSystem = true
  sending : ∀ trouble ∈ script.sending.trouble, trouble.isSystem = true
  deliveries : ∀ delivery ∈ script.deliveries, delivery.Ordinary

/-- TLS is asked for, and the handshake fails. -/
def Script.HandshakeFails (script : Script) (wire : Wire) : Prop :=
  wire.tls = true ∧ script.handshake.trouble ≠ none

/-- The clock behind the handshake, if there is one. -/
def Script.SecuredAt (script : Script) (tls : Bool) (connected clock : Number) : Prop :=
  if tls then connected.add script.handshake.delay = .ok clock else connected = clock

/-- Over a connection that is open from some time on, a call for the reply fails. -/
def Script.ReadingFails (script : Script) (wire : Wire) (connected : Number) : Prop :=
  ∃ secured sent deadline, script.SecuredAt wire.tls connected secured ∧
    secured.add script.sending.delay = .ok sent ∧ sent.add wire.timeout = .ok deadline ∧
    FailsReading script.sockets deadline (script.deliveries.flatMap Delivery.portions) sent

/-- How a conversation ends that begins at some time. -/
inductive Script.Finishes (script : Script) (wire : Wire) (clock : Number) :
    Except Fault Bytes → Prop
  | unsecured (trouble : Trouble) (fails : script.HandshakeFails wire) :
    Finishes script wire clock (.error (.exchange (.handshake trouble)))
  | unsent (host : Text) (port : Int) (trouble : Trouble) (secured : ¬ script.HandshakeFails wire)
      (fails : script.sending.trouble ≠ none) :
    Finishes script wire clock (.error (.exchange (.sending host port trouble)))
  | unread (trouble : Trouble) (secured : ¬ script.HandshakeFails wire)
      (sent : script.sending.trouble = none) (fails : script.ReadingFails wire clock) :
    Finishes script wire clock (.error (.exchange (.receiving trouble)))
  | read (bytes : Bytes) (secured : ¬ script.HandshakeFails wire)
      (sent : script.sending.trouble = none) (fine : ¬ script.ReadingFails wire clock) :
    Finishes script wire clock (.ok bytes)

theorem Script.SecuredAt.unique {script : Script} {tls : Bool} {connected clock other : Number}
    (first : script.SecuredAt tls connected clock) (second : script.SecuredAt tls connected other) :
    clock = other := by
  cases tls with
  | false => exact Eq.trans (Eq.symm first) second
  | true => exact Except.ok.inj (Eq.trans (Eq.symm first) second)

/-- There is one time for each stage of a conversation. -/
theorem Script.readingFails_iff {script : Script} {wire : Wire}
    {connected secured sent deadline : Number} (securedAt : script.SecuredAt wire.tls connected secured)
    (passes : secured.add script.sending.delay = .ok sent)
    (starts : sent.add wire.timeout = .ok deadline) :
    script.ReadingFails wire connected ↔
      FailsReading script.sockets deadline (script.deliveries.flatMap Delivery.portions) sent := by
  constructor
  · rintro ⟨_, _, _, securedAt', passes', starts', fails⟩
    obtain rfl := securedAt.unique securedAt'
    obtain rfl := Except.ok.inj (passes.symm.trans passes')
    obtain rfl := Except.ok.inj (starts.symm.trans starts')
    exact fails
  · intro fails
    exact ⟨secured, sent, deadline, securedAt, passes, starts, fails⟩

section Stages

variable {script : Script} (ordinary : script.Ordinary)

include ordinary

/-- The handshake fails, or it is done at some time, or not needed. -/
theorem secure_cases (wire : Wire) (opening : Opening) (clock : Number) :
    (script.HandshakeFails wire ∧ ∃ trouble, (secure script wire opening clock).outcome =
        .error (.exchange (.handshake trouble))) ∨
      (¬ script.HandshakeFails wire ∧ ∃ later, script.SecuredAt wire.tls clock later ∧
        (secure script wire opening clock).outcome = .ok () ∧
        (secure script wire opening clock).clock = later) ∨
      Uncountable (secure script wire opening clock).outcome := by
  cases tls : wire.tls with
  | false =>
    have fine : ¬ script.HandshakeFails wire := by simp [Script.HandshakeFails, tls]
    rw [secure, if_neg (by simp [tls])]
    exact Or.inr (Or.inl ⟨fine, clock, rfl, rfl, rfl⟩)
  | true =>
    rw [secure, if_pos tls]
    -- The timeout for the handshake is set first, and sockets may refuse it.
    cases fits : script.sockets.timeout? wire.timeout with
    | error cause =>
      rw [setTimeout, fits, Timed.compute_error, Timed.andThen_error rfl]
      exact Or.inr (Or.inr ⟨cause, rfl⟩)
    | ok seconds =>
      rw [setTimeout_eq fits, Timed.andThen_ok rfl, wrapTls, ordinary.tls]
      dsimp only
      cases passes : clock.add script.handshake.delay with
      | error cause =>
        rw [call_uncountable passes]
        exact Or.inr (Or.inr ⟨cause, rfl⟩)
      | ok later =>
        cases taken : script.handshake.trouble with
        | some trouble =>
          rw [call_error passes taken, faultOf, if_pos (ordinary.handshake trouble taken)]
          exact Or.inl ⟨⟨tls, by simp [taken]⟩, trouble, rfl⟩
        | none =>
          rw [call_ok passes taken]
          exact Or.inr (Or.inl ⟨fun fails => fails.2 taken, later, passes, rfl, rfl⟩)

/-- Sending fails, or it is done at some time. -/
theorem send_cases (connection : Connection) (payload : Bytes) (clock : Number) :
    (script.sending.trouble ≠ none ∧ ∃ trouble, (connection.send script payload clock).outcome =
        .error (.exchange (.sending connection.host connection.port trouble))) ∨
      (script.sending.trouble = none ∧ ∃ later, clock.add script.sending.delay = .ok later ∧
        (connection.send script payload clock).outcome = .ok () ∧
        (connection.send script payload clock).clock = later) ∨
      Uncountable (connection.send script payload clock).outcome := by
  rw [Connection.send]
  cases fits : script.sockets.timeout? connection.timeout with
  | error cause =>
    rw [setTimeout, fits, Timed.compute_error, Timed.andThen_error rfl]
    exact Or.inr (Or.inr ⟨cause, rfl⟩)
  | ok seconds =>
    rw [setTimeout_eq fits, Timed.andThen_ok rfl]
    cases passes : clock.add script.sending.delay with
    | error cause =>
      rw [call_uncountable passes]
      exact Or.inr (Or.inr ⟨cause, rfl⟩)
    | ok later =>
      cases taken : script.sending.trouble with
      | some trouble =>
        rw [call_error passes taken, faultOf, if_pos (ordinary.sending trouble taken)]
        exact Or.inl ⟨by simp, trouble, rfl⟩
      | none =>
        rw [call_ok passes taken]
        exact Or.inr (Or.inl ⟨rfl, later, rfl, rfl, rfl⟩)

/-- A conversation ends as its stages do, unless a time is out of range. -/
theorem converse_finishes (wire : Wire) (clock : Number) (opening : Opening) :
    script.Finishes wire clock (converse script wire opening clock).outcome ∨
      Uncountable (converse script wire opening clock).outcome := by
  rw [converse]
  generalize same : Connection.mk opening.socket opening.host opening.port wire.timeout = connection
  have timeout : connection.timeout = wire.timeout := by rw [← same]
  -- Each stage that does not fail hands its clock to the next one.
  rcases secure_cases ordinary wire opening clock with
    ⟨handshake, trouble, failed⟩ | ⟨handshake, secured, securedAt, taken, time⟩ | ⟨cause, beyond⟩
  · rw [Timed.andThen_error failed]
    exact Or.inl (.unsecured trouble handshake)
  · rw [Timed.andThen_ok taken, time]
    rcases send_cases ordinary connection wire.payload secured with
      ⟨sending, trouble, failed⟩ | ⟨sending, sent, passes, taken, time⟩ | ⟨cause, beyond⟩
    · rw [Timed.andThen_error failed]
      exact Or.inl (.unsent _ _ trouble handshake sending)
    · rw [Timed.andThen_ok taken, time]
      cases starts : sent.add wire.timeout with
      | error cause =>
        have beyond : (connection.readAll none script.deliveries sent script.sockets).outcome =
            .error (.outOfRange cause) := by simp [Connection.readAll, timeout, starts]
        exact Or.inr ⟨cause, beyond⟩
      | ok deadline =>
        have reading := Script.readingFails_iff securedAt passes starts
        have reads : connection.readAll none script.deliveries sent script.sockets =
            connection.readFrom script.sockets deadline []
              (script.deliveries.flatMap Delivery.portions) sent := by
          simp [Connection.readAll, timeout, starts]
        rw [reads]
        by_cases fails : script.ReadingFails wire clock
        · obtain ⟨trouble, failed⟩ := readFrom_fails (reading.mp fails)
            (Delivery.ordinary_portions ordinary.deliveries) connection []
          simp only [Connection.Reading.timed, failed]
          exact Or.inl (.unread trouble handshake sending fails)
        · rcases readFrom_ends (fun failing => fails (reading.mpr failing)) connection [] with
            ⟨bytes, ends⟩ | beyond
          · simp only [Connection.Reading.timed, ends]
            exact Or.inl (.read bytes handshake sending fails)
          · exact Or.inr beyond
    · rw [Timed.andThen_error beyond]
      exact Or.inr ⟨cause, rfl⟩
  · rw [Timed.andThen_error beyond]
    exact Or.inr ⟨cause, rfl⟩

end Stages

end ServiceProbe.Network
