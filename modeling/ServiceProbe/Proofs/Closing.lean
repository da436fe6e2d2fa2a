import ServiceProbe.Proofs.Sockets
/-!
Whatever an exchange meets, its sockets are closed. An attempt that fails is given up with its
socket, and a socket that was connected is closed behind all that is done on it.
-/
namespace ServiceProbe

namespace Journal

@[simp] theorem events_append (before behind : Journal) :
    events (before ++ behind) = before.events ++ behind.events := by
  simp [events]

@[simp] theorem events_nil : events [] = [] := rfl

@[simp] theorem events_event (event : Network.Event) (rest : Journal) :
    events (.event event :: rest) = event :: rest.events := rfl

@[simp] theorem events_debugEntry (text : Text) (rest : Journal) :
    events (Network.debugEntry text :: rest) = rest.events := rfl

@[simp] theorem events_map_event (calls : List Network.Event) : events (calls.map .event) = calls := by
  induction calls with
  | nil => rfl
  | cons call calls ih => rw [List.map_cons, events_event, ih]

/-- All calls are of an allowed kind. -/
def Only (allowed : Network.Event → Prop) (journal : Journal) : Prop :=
  ∀ event ∈ journal.events, allowed event

section Only

variable {allowed : Network.Event → Prop} {before behind : Journal}

@[simp] theorem only_nil : Only allowed [] := by
  simp [Only]

@[simp] theorem only_append :
    Only allowed (before ++ behind) ↔ Only allowed before ∧ Only allowed behind := by
  simp only [Only, events_append, List.forall_mem_append]

@[simp] theorem only_event {event : Network.Event} :
    Only allowed (.event event :: behind) ↔ allowed event ∧ Only allowed behind := by
  simp [Only]

@[simp] theorem only_debugEntry {text : Text} :
    Only allowed (Network.debugEntry text :: behind) ↔ Only allowed behind := by
  simp [Only]

end Only

/-- All calls are made on one open socket and leave it open. -/
def UsesOnly (socket : Nat) (journal : Journal) : Prop :=
  ∀ event ∈ journal.events, event.isUse = true ∧ event.socket? = some socket

variable {socket : Nat} {before behind : Journal}

@[simp] theorem usesOnly_nil : UsesOnly socket [] := only_nil

@[simp] theorem usesOnly_append :
    UsesOnly socket (before ++ behind) ↔ UsesOnly socket before ∧ UsesOnly socket behind :=
  only_append

@[simp] theorem usesOnly_event {event : Network.Event} :
    UsesOnly socket (.event event :: behind) ↔
      (event.isUse = true ∧ event.socket? = some socket) ∧ UsesOnly socket behind :=
  only_event

end Journal

namespace Network

namespace Timed

variable {α β : Type}

theorem andThen_ok {step : Timed α} {value : α} (result : step.outcome = .ok value)
    (next : α → Number → Timed β) :
    step.andThen next =
      ⟨step.journal ++ (next value step.clock).journal, (next value step.clock).clock,
        (next value step.clock).outcome⟩ := by
  simp [andThen, result]

theorem andThen_error {step : Timed α} {fault : Fault} (failed : step.outcome = .error fault)
    (next : α → Number → Timed β) : step.andThen next = ⟨step.journal, step.clock, .error fault⟩ := by
  simp [andThen, failed]

theorem note_andThen (entry : Entry) (clock : Number) (next : Unit → Number → Timed β) :
    (note entry clock).andThen next =
      ⟨entry :: (next () clock).journal, (next () clock).clock, (next () clock).outcome⟩ := rfl

theorem compute_ok (value : α) (clock : Number) (next : α → Number → Timed β) :
    (compute (.ok value) clock).andThen next = next value clock := rfl

theorem compute_error (cause : OutOfRange) (clock : Number) (next : α → Number → Timed β) :
    (compute (.error cause) clock).andThen next = ⟨[], clock, .error (.outOfRange cause)⟩ := rfl

theorem andThen_gives {step : Timed α} {next : α → Number → Timed β} {value : β}
    (whole : (step.andThen next).outcome = .ok value) :
    ∃ first, step.outcome = .ok first ∧ (next first step.clock).outcome = .ok value := by
  cases result : step.outcome with
  | error fault =>
    rw [andThen_error result] at whole
    cases whole
  | ok first =>
    rw [andThen_ok result] at whole
    exact ⟨first, rfl, whole⟩

theorem only_andThen {allowed : Event → Prop} {step : Timed α} {next : α → Number → Timed β}
    (first : step.journal.Only allowed)
    (later : ∀ value clock, (next value clock).journal.Only allowed) :
    (step.andThen next).journal.Only allowed := by
  cases result : step.outcome with
  | error fault =>
    rw [andThen_error result]
    exact first
  | ok value =>
    rw [andThen_ok result]
    exact Journal.only_append.mpr ⟨first, later value step.clock⟩

theorem usesOnly_andThen {socket : Nat} {step : Timed α} {next : α → Number → Timed β}
    (first : step.journal.UsesOnly socket)
    (later : ∀ value clock, (next value clock).journal.UsesOnly socket) :
    (step.andThen next).journal.UsesOnly socket :=
  only_andThen first later

end Timed

theorem call_journal (event : Event) (course : Course) (meaning : Trouble → Fault)
    (clock : Number) : (call event course meaning clock).journal = [.event event] := by
  unfold call
  split <;> rfl

section Calls

variable {sockets : Sockets} {socket : Nat}

theorem usesOnly_call {event : Event} (use : event.isUse = true)
    (own : event.socket? = some socket) (course : Course) (meaning : Trouble → Fault)
    (clock : Number) : (call event course meaning clock).journal.UsesOnly socket := by
  simp [call_journal, use, own]

theorem only_setTimeout {allowed : Event → Prop}
    (timeouts : ∀ seconds, allowed (.setTimeout socket seconds)) (seconds clock : Number) :
    (setTimeout sockets socket seconds clock).journal.Only allowed := by
  apply Timed.only_andThen
  · simp [Timed.compute]
  · simp [Timed.note, timeouts]

theorem usesOnly_setTimeout (seconds clock : Number) :
    (setTimeout sockets socket seconds clock).journal.UsesOnly socket :=
  only_setTimeout (fun _ => ⟨rfl, rfl⟩) seconds clock

/-! A connection, from its handshake to the end of the reply. -/

theorem usesOnly_wrapTls (script : Script) (host : Text) (clock : Number) :
    (wrapTls script socket host clock).journal.UsesOnly socket := by
  unfold wrapTls
  split
  · simp
  · exact usesOnly_call rfl rfl _ _ _

theorem usesOnly_send (script : Script) (connection : Connection) (payload : Bytes)
    (clock : Number) :
    (connection.send script payload clock).journal.UsesOnly connection.socket :=
  Timed.usesOnly_andThen (usesOnly_setTimeout _ _) fun _ _ => usesOnly_call rfl rfl _ _ _

/-! Reading sets timeouts and asks for data, and does nothing else. -/

section Reading

variable {connection : Connection} {allowed : Event → Prop}
  (timeouts : ∀ seconds, allowed (.setTimeout connection.socket seconds))

include timeouts

theorem only_await (sockets : Sockets) (deadline clock : Number) :
    (connection.await sockets deadline clock).journal.Only allowed := by
  apply Timed.only_andThen
  · simp [Timed.compute]
  · intro remaining clock
    split
    · exact Timed.only_andThen (only_setTimeout timeouts _ _) (by simp [Timed.done])
    · simp [Timed.done]

variable (receives : ∀ size delivered, allowed (.receive connection.socket size delivered))

include receives

omit timeouts in
theorem only_receive (portion : Delivery) (clock : Number) :
    (connection.receive portion clock).journal.Only allowed := by
  unfold Connection.receive
  dsimp only
  split <;> simp [receives]

theorem only_readFrom (deadline : Number) (buffer : Bytes) (portions : List Delivery)
    (clock : Number) :
    (connection.readFrom sockets deadline buffer portions clock).journal.Only allowed := by
  have waits (clock : Number) := only_await timeouts sockets deadline clock
  have called (portion : Delivery) (clock : Number) :=
    Journal.only_append.mpr ⟨waits clock, only_receive receives portion clock⟩
  -- Only a portion that is not empty leads to further calls.
  fun_induction Connection.readFrom sockets connection deadline buffer portions clock with
  | case1 | case4 => exact waits _
  | case2 | case5 => simp [Connection.timedOut]
  | case3 _ _ waiting => simp [waiting, waits, Connection.atEnd, receives]
  | case6 => exact Journal.only_append.mpr ⟨called _ _, by simp [Connection.timedOut]⟩
  | case7 | case8 | case9 => exact called _ _
  | case10 _ _ _ _ _ _ _ _ _ _ _ ih =>
    exact Journal.only_append.mpr ⟨called _ _, ih⟩

theorem only_readAll (timeout : Option Number) (deliveries : List Delivery) (clock : Number) :
    (connection.readAll timeout deliveries clock sockets).journal.Only allowed := by
  unfold Connection.readAll
  dsimp only
  split
  · exact Journal.only_nil
  · exact only_readFrom timeouts receives _ _ _ _

end Reading

end Calls

theorem run_of_usesOnly {journal : Journal} {socket : Nat} (uses : journal.UsesOnly socket)
    (next : Nat) : Watch.Run ⟨next, some socket⟩ journal.events ⟨next, some socket⟩ :=
  Watch.run_uses uses

/-! Attempts. One that fails with an error of the system is followed by the next. -/

/-- The error of the system with which a step fails. -/
def Timed.systemTrouble? {α : Type} (step : Timed α) : Option Trouble :=
  match step.outcome with
  | .error (.network trouble) => if trouble.isSystem then some trouble else none
  | _ => none

/-- A step that comes to its end, or fails with an error of the system. -/
def Timed.raisesSystemOnly {α : Type} (step : Timed α) : Bool :=
  step.outcome.isOk || step.systemTrouble?.isSome

/-- The attempts that are made, in order. -/
def attemptsFrom (sockets : Sockets) (deadline : Number) :
    (socket : Nat) → (addresses : List Address) → (clock : Number) → List (Timed Opening)
  | _, [], _ => []
  | socket, address :: rest, clock =>
    match deadline.sub clock with
    | .error _ => []
    | .ok remaining =>
      if remaining.isAtMostZero then []
      else
        let attempt := attempt sockets socket address remaining clock
        attempt :: match attempt.systemTrouble? with
          | some _ => attemptsFrom sockets deadline (socket + 1) rest attempt.clock
          | none => []

theorem systemTrouble_some {α : Type} {step : Timed α} {trouble : Trouble} :
    step.systemTrouble? = some trouble ↔
      step.outcome = .error (.network trouble) ∧ trouble.isSystem = true := by
  unfold Timed.systemTrouble?
  constructor
  · intro found
    split at found
    · next other outcome =>
      split at found
      · next isSystem =>
        cases found
        exact ⟨outcome, isSystem⟩
      · cases found
    · cases found
  · rintro ⟨outcome, isSystem⟩
    simp [outcome, isSystem]

section Attempts

variable {sockets : Sockets} {socket : Nat} {address : Address} {remaining clock : Number}

theorem attempt_uncreated {trouble : Trouble} (refused : address.creation = some trouble) :
    attempt sockets socket address remaining clock =
      ⟨[.event (.create socket address.family false)], clock, .error (.network trouble)⟩ := by
  simp [attempt, refused]

/-- An attempt with a socket creates it and then uses it. -/
theorem attempt_created (sockets : Sockets) (socket : Nat) (remaining clock : Number)
    (made : address.creation = none) :
    ∃ journal : Journal, (attempt sockets socket address remaining clock).journal =
        .event (.create socket address.family true) :: journal ∧
      journal.UsesOnly socket ∧
      ∀ opening, (attempt sockets socket address remaining clock).outcome = .ok opening →
        opening.socket = socket := by
  have attempt_eq : attempt sockets socket address remaining clock =
      (Timed.note (.event (.create socket address.family true)) clock).andThen fun () clock =>
        (setTimeout sockets socket remaining clock).andThen fun () clock =>
          (call (.connect socket address.host address.port address.connection.succeeds)
            address.connection .network clock).andThen fun () clock =>
              .done clock ⟨socket, address.host, address.port⟩ := by
    simp [attempt, made]
  rw [attempt_eq, Timed.andThen_ok rfl]
  refine ⟨_, rfl, ?uses, ?own⟩
  case uses =>
    apply Timed.usesOnly_andThen (usesOnly_setTimeout _ _)
    intro _ clock
    exact Timed.usesOnly_andThen (usesOnly_call rfl rfl _ _ _) (by simp [Timed.done])
  case own =>
    intro opening found
    obtain ⟨_, _, found⟩ := Timed.andThen_gives found
    obtain ⟨_, _, found⟩ := Timed.andThen_gives found
    cases found
    rfl

theorem attempt_opens {opening : Opening}
    (found : (attempt sockets socket address remaining clock).outcome = .ok opening) :
    Watch.Run ⟨socket, none⟩ (attempt sockets socket address remaining clock).journal.events
      ⟨socket + 1, some opening.socket⟩ := by
  cases creation : address.creation with
  | some trouble =>
    rw [attempt_uncreated creation] at found
    cases found
  | none =>
    obtain ⟨journal, journal_eq, uses, own⟩ := attempt_created sockets socket remaining clock creation
    rw [journal_eq, own opening found]
    exact .cons (.create _ _) (run_of_usesOnly uses _)

theorem attempt_givesUp (trouble : Trouble) :
    Watch.Run ⟨socket, none⟩
      ((attempt sockets socket address remaining clock).journal ++ giveUp socket address trouble).events
      ⟨socket + 1, none⟩ := by
  cases creation : address.creation with
  | some refusal =>
    simpa [attempt_uncreated creation, giveUp, creation, attemptFailed] using
      Watch.Run.cons (.refuse _ _) (.nil _)
  | none =>
    obtain ⟨journal, journal_eq, uses, _⟩ := attempt_created sockets socket remaining clock creation
    have closes : (giveUp socket address trouble).events = [.close socket] := by
      simp [giveUp, creation, attemptFailed]
    rw [journal_eq, List.cons_append, Journal.events_event, Journal.events_append, closes]
    exact .cons (.create _ _) ((run_of_usesOnly uses _).append (.cons (.close _ _) (.nil _)))

end Attempts

/-- Opening leaves the socket open that it gives, and no other. -/
theorem openFrom_run {sockets : Sockets} {deadline : Number} {socket : Nat} (reasons : List Text)
    {addresses : List Address} {clock : Number}
    (orderly : ∀ step ∈ attemptsFrom sockets deadline socket addresses clock, step.raisesSystemOnly) :
    ∃ next, Watch.Run ⟨socket, none⟩ (openFrom sockets deadline socket reasons addresses clock).journal.events
      ⟨next, (openFrom sockets deadline socket reasons addresses clock).outcome.toOption.map
        Opening.socket⟩ := by
  -- Along the addresses. Before each of them no socket is open.
  induction addresses generalizing socket reasons clock with
  | nil => exact ⟨socket, .nil _⟩
  | cons address rest ih =>
    rw [openFrom]
    rw [attemptsFrom] at orderly
    cases left : deadline.sub clock with
    | error cause => exact ⟨socket, .nil _⟩
    | ok remaining =>
      dsimp only
      by_cases late : remaining.isAtMostZero
      · rw [if_pos late]
        exact ⟨socket, .nil _⟩
      rw [if_neg late]
      simp only [left, if_neg late, List.forall_mem_cons] at orderly
      obtain ⟨here, later⟩ := orderly
      cases result : (attempt sockets socket address remaining clock).outcome with
      | ok opening =>
        refine ⟨socket + 1, ?_⟩
        dsimp only
        rw [result]
        exact attempt_opens result
      | error fault =>
        -- `orderly` leaves errors of the system only, after which the socket is closed.
        obtain ⟨trouble, found⟩ : ∃ trouble,
            (attempt sockets socket address remaining clock).systemTrouble? = some trouble := by
          simpa [Timed.raisesSystemOnly, result, Except.isOk, Except.toBool,
            Option.isSome_iff_exists] using here
        obtain ⟨outcome, isSystem⟩ := systemTrouble_some.mp found
        rw [result] at outcome
        cases outcome
        simp only [found] at later
        obtain ⟨next, run⟩ := ih (reasons ++ [attemptReason address trouble]) later
        refine ⟨next, ?_⟩
        simp only [isSystem, if_true, Journal.events_append]
        rw [← Journal.events_append]
        exact (attempt_givesUp trouble).append run

/-- All that is done on an open connection leaves it open. -/
theorem usesOnly_converse (script : Script) (wire : Wire) (opening : Opening) (clock : Number) :
    (converse script wire opening clock).journal.UsesOnly opening.socket := by
  have secures : (secure script wire opening clock).journal.UsesOnly opening.socket := by
    unfold secure
    split
    · exact Timed.usesOnly_andThen (usesOnly_setTimeout _ _) fun _ _ => usesOnly_wrapTls _ _ _
    · simp [Timed.done]
  apply Timed.usesOnly_andThen secures
  intro _ clock
  apply Timed.usesOnly_andThen (usesOnly_send _ _ _ _)
  intro _ clock
  exact only_readAll (fun _ => ⟨rfl, rfl⟩) (fun _ _ => ⟨rfl, rfl⟩) _ _ _

theorem openFirst_closes_run (script : Script) (wire : Wire) {sockets : Sockets} {deadline : Number}
    {addresses : List Address} {clock : Number}
    (orderly : ∀ step ∈ attemptsFrom sockets deadline 0 addresses clock, step.raisesSystemOnly) :
    ∃ next, Watch.Run ⟨0, none⟩
      ((openFirst deadline addresses clock sockets).andThen fun opening clock =>
        (converse script wire opening clock).thenAlways (closing opening)).journal.events
      ⟨next, none⟩ := by
  obtain ⟨next, opens⟩ := openFrom_run [] orderly
  refine ⟨next, ?_⟩
  unfold openFirst
  cases result : (openFrom sockets deadline 0 [] addresses clock).outcome with
  | error fault =>
    rw [result] at opens
    rw [Timed.andThen_error result]
    exact opens
  | ok opening =>
    rw [result] at opens
    rw [Timed.andThen_ok result, Journal.events_append]
    refine opens.append ?_
    have closes : (closing opening).events = [.close opening.socket] := rfl
    rw [Timed.thenAlways, Journal.events_append, closes]
    exact (run_of_usesOnly (usesOnly_converse _ _ _ _) _).append (.cons (.close _ _) (.nil _))

/-- The attempts that an exchange makes, in order. -/
def attempts (script : Script) (wire : Wire) : List (Timed Opening) :=
  let lookedUp := lookUp script wire.host wire.port script.clock
  match lookedUp.outcome, lookedUp.clock.add wire.timeout with
  | .ok addresses, .ok deadline => attemptsFrom script.sockets deadline 0 addresses lookedUp.clock
  | _, _ => []

theorem lookUp_journal (script : Script) (host : Text) (port : Int) (clock : Number) :
    (lookUp script host port clock).journal = [.event (.lookup host port true true)] := by
  unfold lookUp
  cases found : (call (.lookup host port true true) script.lookup
    (fun trouble => .exchange (.unresolved host trouble)) clock).outcome with
  | error fault => rw [Timed.andThen_error found, call_journal]
  | ok _ =>
    rw [Timed.andThen_ok found, call_journal]
    rfl

theorem exchange_run (script : Script) (wire : Wire)
    (orderly : ∀ step ∈ attempts script wire, step.raisesSystemOnly) :
    ∃ next, Watch.Run ⟨0, none⟩ (exchange script wire).journal.events ⟨next, none⟩ := by
  unfold attempts at orderly
  dsimp only at orderly
  have asks : Watch.Run ⟨0, none⟩
      (lookUp script wire.host wire.port script.clock).journal.events ⟨0, none⟩ := by
    rw [lookUp_journal]
    exact .cons (.lookup _ _ _ _ _) (.nil _)
  unfold exchange
  cases found : (lookUp script wire.host wire.port script.clock).outcome with
  | error fault =>
    rw [Timed.andThen_error found]
    exact ⟨0, asks⟩
  | ok addresses =>
    rw [Timed.andThen_ok found, Timed.note_andThen]
    cases sum : (lookUp script wire.host wire.port script.clock).clock.add wire.timeout with
    | error cause =>
      rw [Timed.compute_error]
      exact ⟨0, by simpa using asks⟩
    | ok deadline =>
      rw [found, sum] at orderly
      obtain ⟨next, run⟩ := openFirst_closes_run script wire orderly
      rw [Timed.compute_ok]
      exact ⟨next, by simpa using asks.append run⟩

end Network

/-- Every exchange closes each of its sockets once, does nothing on a closed one and has at most one
open, if creating sockets, setting their timeouts and connecting them fails with errors of the
system only. -/
theorem Transport.tcp_exchange_is_tidy (script : Network.Script) (wire : Wire)
    (orderly : ∀ step ∈ Network.attempts script wire, step.raisesSystemOnly) :
    Network.Tidy ((tcp script).exchange wire).journal.events := by
  obtain ⟨next, run⟩ := Network.exchange_run script wire orderly
  exact Network.tidy_of_run run

/-- No socket for the first address, no connection to the second, no handshake with the third. -/
theorem Transport.tcp_exchange_without_handshake_is_tidy :
    let refused : Network.Trouble := .system 111 "Connection refused"
    let script : Network.Script :=
      { addresses := [{ family := .inet6, host := "::1", port := 443, creation := some refused },
          { family := .inet, host := "192.0.2.1", port := 443,
            connection := { delay := .int 1, trouble := some refused } },
          { family := .inet, host := "192.0.2.2", port := 443 }]
        handshake := { trouble := some (.tls "handshake failure") } }
    let wire : Wire :=
      { host := "h", port := 443, payload := [], timeout := .int 10, tls := true }
    (∀ step ∈ Network.attempts script wire, step.raisesSystemOnly) ∧
      Network.created ((tcp script).exchange wire).journal.events = [1, 2] ∧
      Network.Tidy ((tcp script).exchange wire).journal.events := by
  intro refused script wire
  have orderly : ∀ step ∈ Network.attempts script wire, step.raisesSystemOnly := by
    rw [← List.all_eq_true]
    decide
  exact ⟨orderly, by decide, tcp_exchange_is_tidy script wire orderly⟩

end ServiceProbe
