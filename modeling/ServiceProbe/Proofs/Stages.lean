import ServiceProbe.Proofs.Exchange
import ServiceProbe.Proofs.InRange
/-!
Which family of failures an exchange ends in. Looking up, connecting, the handshake and the transport
of data follow each other, and the first that fails names the family. A client makes a response
without a status of it.
-/
namespace ServiceProbe

namespace Network

/-- A time at which the first address that takes the connection has taken it. -/
def Script.ConnectedAt (script : Script) (timeout clock : Number) : Prop :=
  ∃ resolved deadline, script.clock.add script.lookup.delay = .ok resolved ∧
    resolved.add timeout = .ok deadline ∧
      Connects script.sockets deadline script.addresses resolved clock

/-- How an exchange ends. -/
inductive Script.Ends (script : Script) (wire : Wire) : Except Fault Bytes → Prop
  | unresolved (trouble : Trouble) (fails : script.lookup.trouble ≠ none) :
    Ends script wire (.error (.exchange (.unresolved wire.host trouble)))
  | unconnected (reasons : List Text) (resolved : script.lookup.trouble = none)
      (refused : ¬ ∃ clock, script.ConnectedAt wire.timeout clock) :
    Ends script wire (.error (.exchange (.unconnected reasons)))
  | connected {outcome : Except Fault Bytes} (resolved : script.lookup.trouble = none)
      (connects : ∃ clock, script.ConnectedAt wire.timeout clock)
      (finishes : ∀ clock, script.ConnectedAt wire.timeout clock →
        script.Finishes wire clock outcome) :
    Ends script wire outcome

section Whole

variable {script : Script} {wire : Wire} {later : Number}
  (passes : script.clock.add script.lookup.delay = .ok later)

include passes

theorem lookUp_error {trouble : Trouble} (failed : script.lookup.trouble = some trouble) :
    (lookUp script wire.host wire.port script.clock).outcome =
      .error (.exchange (.unresolved wire.host trouble)) := by
  rw [lookUp, call_error passes failed, Timed.andThen_error rfl]

theorem lookUp_ok (found : script.lookup.trouble = none) (wire : Wire) :
    (lookUp script wire.host wire.port script.clock).outcome = .ok script.addresses ∧
      (lookUp script wire.host wire.port script.clock).clock = later := by
  rw [lookUp, call_ok passes found, Timed.andThen_ok rfl]
  exact ⟨rfl, rfl⟩

theorem exchange_resolved (found : script.lookup.trouble = none) {deadline : Number}
    (starts : later.add wire.timeout = .ok deadline) :
    (exchange script wire).outcome =
      ((openFirst deadline script.addresses later script.sockets).andThen fun opening clock =>
        (converse script wire opening clock).thenAlways (closing opening)).outcome := by
  obtain ⟨resolved, time⟩ := lookUp_ok passes found wire
  rw [exchange, Timed.andThen_ok resolved, time, Timed.note_andThen, starts, Timed.compute_ok]

end Whole

/-- An exchange ends as its stages do, unless a time is out of range. -/
theorem exchange_ends {script : Script} (ordinary : script.Ordinary) (wire : Wire) :
    script.Ends wire (exchange script wire).outcome ∨ Uncountable (exchange script wire).outcome := by
  cases passes : script.clock.add script.lookup.delay with
  | error cause =>
    have beyond : (lookUp script wire.host wire.port script.clock).outcome =
        .error (.outOfRange cause) := by
      rw [lookUp, call_uncountable passes, Timed.andThen_error rfl]
    rw [exchange, Timed.andThen_error beyond]
    exact Or.inr ⟨cause, rfl⟩
  | ok resolved =>
    cases lookup : script.lookup.trouble with
    | some trouble =>
      rw [exchange, Timed.andThen_error (lookUp_error passes lookup)]
      exact Or.inl (.unresolved trouble (by simp [lookup]))
    | none =>
      cases starts : resolved.add wire.timeout with
      | error cause =>
        obtain ⟨found, time⟩ := lookUp_ok passes lookup wire
        rw [exchange, Timed.andThen_ok found, time, Timed.note_andThen, starts, Timed.compute_error]
        exact Or.inr ⟨cause, rfl⟩
      | ok deadline =>
        rw [exchange_resolved passes lookup starts, openFirst]
        -- A connection is made at one time at most, so that the conversation starts from the clock of
        -- the search.
        by_cases connects : ∃ clock, script.ConnectedAt wire.timeout clock
        · have searched := connects
          obtain ⟨clock, _, _, passes', starts', searched⟩ := searched
          obtain rfl := Except.ok.inj (passes.symm.trans passes')
          obtain rfl := Except.ok.inj (starts.symm.trans starts')
          obtain ⟨opening, opened, time⟩ := openFrom_connects ordinary.addresses searched 0 []
          rw [Timed.andThen_ok opened, time]
          rcases converse_finishes ordinary wire clock opening with finishes | beyond
          · refine Or.inl (.connected lookup connects ?_)
            rintro other ⟨_, _, passes', starts', another⟩
            obtain rfl := Except.ok.inj (passes.symm.trans passes')
            obtain rfl := Except.ok.inj (starts.symm.trans starts')
            obtain ⟨_, _, same⟩ := openFrom_connects ordinary.addresses another 0 []
            rwa [← same, time]
          · exact Or.inr beyond
        · have refused (clock : Number) :
              ¬ Connects script.sockets deadline script.addresses resolved clock :=
            fun found => connects ⟨clock, resolved, deadline, passes, starts, found⟩
          rcases openFrom_refused ordinary.addresses refused 0 [] with ⟨reasons, failed⟩ | ⟨cause, beyond⟩
          · rw [Timed.andThen_error failed]
            exact Or.inl (.unconnected reasons lookup connects)
          · rw [Timed.andThen_error beyond]
            exact Or.inr ⟨cause, rfl⟩

/-! Families of failures. -/

/-- An exchange fails with a failure of a family, and not with one of a narrower family. -/
def Raises (outcome : Except Fault Bytes) (family : Family) : Prop :=
  ∃ failure : ExchangeFailure, outcome = .error (.exchange failure) ∧ failure.family = family

@[simp] theorem raises_exchange (failure : ExchangeFailure) (family : Family) :
    Raises (.error (.exchange failure)) family ↔ failure.family = family := by
  simp [Raises]

@[simp] theorem not_raises_ok (bytes : Bytes) (family : Family) : ¬ Raises (.ok bytes) family := by
  simp [Raises]

section Finishes

variable {script : Script} {wire : Wire} {clock : Number} {outcome : Except Fault Bytes}
  (finishes : script.Finishes wire clock outcome)

include finishes

/-- No failure of a conversation looks like one to look up or to connect. -/
theorem Script.Finishes.not_raises :
    ¬ Raises outcome .resolve ∧ ¬ Raises outcome .connect := by
  cases finishes <;> simp [ExchangeFailure.family]

theorem Script.Finishes.raises_handshake :
    Raises outcome .handshake ↔ script.HandshakeFails wire := by
  cases finishes <;> simp [ExchangeFailure.family, *]

theorem Script.Finishes.raises_transport (secured : ¬ script.HandshakeFails wire) :
    Raises outcome .transport ↔
      script.sending.trouble ≠ none ∨ script.ReadingFails wire clock := by
  cases finishes with
  | unsecured trouble fails => exact absurd fails secured
  | unsent host port trouble secured fails => simp [ExchangeFailure.family, fails]
  | unread trouble secured sent fails => simp [ExchangeFailure.family, fails]
  | read bytes secured sent fine => simp [sent, fine]

theorem Script.Finishes.reads (secured : ¬ script.HandshakeFails wire)
    (fine : ¬ (script.sending.trouble ≠ none ∨ script.ReadingFails wire clock)) :
    ∃ bytes, outcome = .ok bytes := by
  cases finishes with
  | unsecured trouble fails => exact absurd fails secured
  | unsent host port trouble secured fails => exact absurd (Or.inl fails) fine
  | unread trouble secured sent fails => exact absurd (Or.inr fails) fine
  | read bytes secured sent fine => exact ⟨bytes, rfl⟩

end Finishes

/-- An exchange brings bytes or fails with a failure of its own. -/
theorem Script.Ends.bytes_or_failure {script : Script} {wire : Wire} {outcome : Except Fault Bytes}
    (ends : script.Ends wire outcome) :
    (∃ bytes, outcome = .ok bytes) ∨ ∃ failure, outcome = .error (.exchange failure) := by
  cases ends with
  | unresolved trouble fails => exact Or.inr ⟨_, rfl⟩
  | unconnected reasons resolved refused => exact Or.inr ⟨_, rfl⟩
  | connected resolved connects finishes =>
    obtain ⟨clock, connected⟩ := connects
    cases finishes clock connected with
    | read bytes => exact Or.inl ⟨bytes, rfl⟩
    | _ => exact Or.inr ⟨_, rfl⟩

section Ends

variable {script : Script} {wire : Wire} {outcome : Except Fault Bytes} (ends : script.Ends wire outcome)

include ends

theorem Script.Ends.raises_resolve : Raises outcome .resolve ↔ script.lookup.trouble ≠ none := by
  cases ends with
  | unresolved trouble fails => simp [ExchangeFailure.family, fails]
  | unconnected reasons resolved refused => simp [ExchangeFailure.family, resolved]
  | connected resolved connects finishes =>
    obtain ⟨clock, connected⟩ := connects
    simp [(finishes clock connected).not_raises, resolved]

/-- The stages behind the one that finds addresses. -/
theorem Script.Ends.raises_later (found : script.lookup.trouble = none) :
    (Raises outcome .connect ↔ ¬ ∃ clock, script.ConnectedAt wire.timeout clock) ∧
      ∀ clock, script.ConnectedAt wire.timeout clock →
        (Raises outcome .handshake ↔ script.HandshakeFails wire) ∧
        (¬ script.HandshakeFails wire →
          (Raises outcome .transport ↔ script.sending.trouble ≠ none ∨ script.ReadingFails wire clock) ∧
          (¬ (script.sending.trouble ≠ none ∨ script.ReadingFails wire clock) →
            ∃ bytes, outcome = .ok bytes)) := by
  cases ends with
  | unresolved trouble fails => exact absurd found fails
  | unconnected reasons resolved refused =>
    exact ⟨by simp [ExchangeFailure.family, refused],
      fun clock connected => absurd ⟨clock, connected⟩ refused⟩
  | connected resolved connects finishes =>
    constructor
    · obtain ⟨clock, connected⟩ := connects
      have other := (finishes clock connected).not_raises.2
      exact iff_of_false other fun refused => refused ⟨clock, connected⟩
    · intro clock connected
      have here := finishes clock connected
      exact ⟨here.raises_handshake, fun secured =>
        ⟨here.raises_transport secured, here.reads secured⟩⟩

end Ends

/-- Where looking up fails, nothing else is done. -/
theorem exchange_unresolved {script : Script} {trouble : Trouble}
    (failed : script.lookup.trouble = some trouble) (wire : Wire) :
    (exchange script wire).journal = [.event (.lookup wire.host wire.port true true)] := by
  have journal := lookUp_journal script wire.host wire.port script.clock
  cases found : (lookUp script wire.host wire.port script.clock).outcome with
  | error fault => rw [exchange, Timed.andThen_error found, journal]
  | ok addresses =>
    obtain ⟨_, called, _⟩ := Timed.andThen_gives found
    rw [call] at called
    split at called
    · cases called
    · simp [failed] at called

end Network

namespace Transport

open Network (Raises)

theorem fitFor_tcp {script : Network.Script} (ordinary : script.Ordinary)
    (request : Http.Request CodePoint) : request.fitFor (tcp script).tls = request := by
  have available : (tcp script).tls.available = true := by
    simp [tcp, Capability.detect, ordinary.tls]
  simp [Http.Request.fitFor, available]

/-- What a client makes of an exchange on which its request was sent. -/
theorem get_answers {script : Network.Script} (ordinary : script.Ordinary)
    {request : Http.Request CodePoint} {payload : Bytes} (written : request.payload = .ok payload) :
    let exchanged := ((tcp script).exchange (request.carrying payload)).outcome
    let reply := (Http.get (tcp script) request).outcome
    (∃ bytes, exchanged = .ok bytes ∧ reply = .ok (.parse bytes)) ∨
      (∃ failure, exchanged = .error (.exchange failure) ∧ reply = .ok (.ofError failure.message)) ∨
      ∃ cause, exchanged = .error (.outOfRange cause) ∧ reply = .error (.outOfRange cause) := by
  intro exchanged reply
  have sent : (Http.send (tcp script) (request.fitFor (tcp script).tls)).outcome = exchanged := by
    rw [fitFor_tcp ordinary, Http.send_written written]
  have ends : script.Ends (request.carrying payload) exchanged ∨ Network.Uncountable exchanged :=
    Network.exchange_ends ordinary _
  -- Every failure of an exchange is one of the transport, which a client turns into a reply.
  rcases ends with ends | ⟨cause, beyond⟩
  · rcases ends.bytes_or_failure with ⟨bytes, received⟩ | ⟨failure, failed⟩
    · exact Or.inl ⟨bytes, received, Http.get_ok (sent.trans received)⟩
    · have family : (Fault.exchange failure).isTransport = true := by cases failure <;> rfl
      exact Or.inr (Or.inl ⟨failure, failed, Http.get_error (sent.trans failed) family⟩)
  · exact Or.inr (Or.inr ⟨cause, beyond, Http.get_fault (sent.trans beyond) rfl⟩)

/-- Each failure of an exchange is of the family of the stage that failed, unless a time is out of range,
which none is for sockets that take any double and times that can be counted. A client answers with the
message of the failure. It raises nothing else over a request that can be written, and over another it
raises why that is so before anything is exchanged. -/
theorem tcp_exchange_fails_by_stage {script : Network.Script} (ordinary : script.Ordinary) :
    (∀ wire : Wire,
      let run := (tcp script).exchange wire
      (script.lookup.trouble ≠ none → ∀ event ∈ run.journal.events, event.socket? = none) ∧
      (¬ Network.Uncountable run.outcome →
        (Raises run.outcome .resolve ↔ script.lookup.trouble ≠ none) ∧
        (script.lookup.trouble = none →
          (Raises run.outcome .connect ↔ ¬ ∃ clock, script.ConnectedAt wire.timeout clock) ∧
          ∀ clock, script.ConnectedAt wire.timeout clock →
            (Raises run.outcome .handshake ↔ script.HandshakeFails wire) ∧
            (¬ script.HandshakeFails wire →
              (Raises run.outcome .transport ↔
                script.sending.trouble ≠ none ∨ script.ReadingFails wire clock) ∧
              (¬ (script.sending.trouble ≠ none ∨ script.ReadingFails wire clock) →
                ∃ bytes, run.outcome = .ok bytes)))) ∧
      (script.sockets = .noting → script.InRange wire.timeout → ¬ Network.Uncountable run.outcome)) ∧
    ∀ request : Http.Request CodePoint,
      let run := Http.get (tcp script) request
      (request.Writable → ∃ payload, request.payload = .ok payload ∧
        let exchanged := ((tcp script).exchange (request.carrying payload)).outcome
        (∃ bytes, exchanged = .ok bytes ∧ run.outcome = .ok (.parse bytes)) ∨
          (∃ failure, exchanged = .error (.exchange failure) ∧
            run.outcome = .ok (.ofError failure.message)) ∨
          ∃ cause, exchanged = .error (.outOfRange cause) ∧ run.outcome = .error (.outOfRange cause)) ∧
      (¬ request.Writable → ∃ failure, run.outcome = .error (.unencodable failure) ∧
        run.journal.exchanges = []) := by
  constructor
  · intro wire run
    have ends : script.Ends wire run.outcome ∨ Network.Uncountable run.outcome :=
      Network.exchange_ends ordinary wire
    refine ⟨?silent, ?stages, ?counted⟩
    case silent =>
      intro failed event member
      obtain ⟨trouble, failed⟩ := Option.ne_none_iff_exists'.mp failed
      have journal : run.journal = .exchange wire :: (Network.exchange script wire).journal := rfl
      rw [journal, Network.exchange_unresolved failed] at member
      cases List.mem_singleton.mp member
      rfl
    case stages =>
      intro countable
      have ends := ends.resolve_right countable
      generalize run.outcome = outcome at ends
      exact ⟨ends.raises_resolve, ends.raises_later⟩
    case counted =>
      intro noting inRange
      exact Network.not_uncountable_exchange_of_inRange noting inRange
  · intro request run
    constructor
    · intro writable
      obtain ⟨payload, written⟩ := Http.Request.payload_succeeds.mpr writable
      exact ⟨payload, written, get_answers ordinary written⟩
    · intro unwritable
      cases written : request.payload with
      | ok payload => exact absurd (Http.Request.payload_succeeds.mp ⟨payload, written⟩) unwritable
      | error fault =>
        obtain ⟨failure, rfl⟩ := Http.Request.payload_error written
        exact ⟨failure, Http.get_unwritten (by rwa [fitFor_tcp ordinary])⟩

/-- The first address has no socket, and the peer at the second resets the connection. The clock is a
double. -/
theorem tcp_exchange_fails_reading :
    let unsupported : Network.Trouble := .system 97 "Address family not supported by protocol"
    let reset : Network.Trouble := .system 104 "Connection reset by peer"
    let now : Number := .real (.zero false)
    let script : Network.Script :=
      { clock := now, lookup := { delay := now }, handshake := { delay := now }
        sending := { delay := now }
        addresses :=
          [{ family := .inet6, host := "::1", port := 443, creation := some unsupported
             connection := { delay := now } },
            { family := .inet, host := "192.0.2.1", port := 443, connection := { delay := now } }]
        deliveries := [⟨now, .ok [72]⟩, ⟨now, .error reset⟩] }
    let request : Http.Request CodePoint :=
      { host := "h", port := 443, tls := true, timeout := .ofRatio false 10 1 }
    ∃ payload, request.payload = .ok payload ∧
      let wire := request.carrying payload
      script.Ordinary ∧ script.InRange wire.timeout ∧ script.ConnectedAt wire.timeout now ∧
        ¬ script.HandshakeFails wire ∧ script.ReadingFails wire now ∧
        Raises ((tcp script).exchange wire).outcome .transport ∧
        ∃ failure : ExchangeFailure, failure.family = .transport ∧
          (Http.get (tcp script) request).outcome = .ok (.ofError failure.message) := by
  intro unsupported reset now script request
  have ordinary : script.Ordinary := by
    refine ⟨rfl, ?_, by rintro _ ⟨⟩, by rintro _ ⟨⟩, ?_⟩
    · intro address member
      simp only [script, List.mem_cons, List.not_mem_nil, or_false] at member
      rcases member with rfl | rfl
      · exact ⟨by rintro _ ⟨⟩; rfl, by rintro _ ⟨⟩⟩
      · exact ⟨by rintro _ ⟨⟩, by rintro _ ⟨⟩⟩
    · intro delivery member
      simp only [script, List.mem_cons, List.not_mem_nil, or_false] at member
      rcases member with rfl | rfl
      · rintro _ ⟨⟩
      · rintro _ ⟨⟩
        rfl
  obtain ⟨stages, replies⟩ := tcp_exchange_fails_by_stage ordinary
  have writable : request.Writable := ⟨by decide, by rintro _ ⟨⟩⟩
  obtain ⟨payload, written, answers⟩ := (replies request).1 writable
  refine ⟨payload, written, ?_⟩
  intro wire
  have timeout : wire.timeout = .real request.timeout := rfl
  have starts : now.add wire.timeout = .ok wire.timeout := by
    rw [timeout]
    decide +kernel
  have remaining : Number.sub wire.timeout now = .ok wire.timeout := by
    rw [timeout]
    decide +kernel
  have positive : request.timeout.isPositive = true := by decide +kernel
  have inTime : request.timeout.isAtMostZero = false := by decide +kernel
  have inRange : script.InRange wire.timeout :=
    Network.Script.inRange_of_doubles (by simp [script, Network.Script.times, now]) _
  have begins : Network.Begins .noting wire.timeout now := ⟨_, _, remaining, inTime, rfl⟩
  have left : Network.TimeLeft .noting wire.timeout now := ⟨_, _, remaining, positive, rfl⟩
  have connected : script.ConnectedAt wire.timeout now :=
    ⟨now, wire.timeout, rfl, starts,
      .next begins (.uncreated rfl _) (.here begins ⟨rfl, rfl, rfl⟩ _)⟩
  have secured : ¬ script.HandshakeFails wire := fun fails => fails.2 rfl
  -- Deliveries this short come in one portion each.
  have portions : script.deliveries.flatMap Network.Delivery.portions = script.deliveries := by
    simp [script, Network.Delivery.portions, Network.portionsOf, Network.receiveSize]
  have fails : script.ReadingFails wire now := by
    refine ⟨now, now, wire.timeout, rfl, rfl, starts, ?_⟩
    rw [portions]
    exact .next left (by decide) rfl (.here left rfl rfl [])
  obtain ⟨_, resolved, counted⟩ := stages wire
  obtain ⟨_, later⟩ := ((resolved (counted rfl inRange)).2 rfl).2 _ connected
  have raises := (later secured).1.mpr (Or.inr fails)
  obtain ⟨failure, failed, family⟩ := raises
  refine ⟨ordinary, inRange, connected, secured, fails, ⟨failure, failed, family⟩, failure, family, ?_⟩
  rcases answers with ⟨bytes, received, _⟩ | ⟨other, same, told⟩ | ⟨cause, beyond, _⟩
  · cases failed.symm.trans received
  · cases failed.symm.trans same
    exact told
  · cases failed.symm.trans beyond

/-- Nothing is wrong with the fields of this request, but it cannot be written: the client raises why,
and the network is not asked for anything. -/
theorem get_raises_unencodable :
    let path : List CodePoint := [.char '/', .surrogate 0x4ff]
    let draft : Http.Draft CodePoint :=
      { host := .value [.char 'h'], port := .value (.int 80), path := .value path }
    let failure : Utf8.Unencodable := { position := 5, first := 0x4ff, count := 1 }
    ∃ request, draft.build = .ok request ∧
      let run := Http.get (tcp {}) request
      run.outcome = .error (.unencodable failure) ∧ run.journal.exchanges = [] ∧
        failure.message = ("'utf-8' codec can't encode character '\\udcff' in position 5: " ++
          "surrogates not allowed").toList := by
  intro path draft failure
  let request : Http.Request CodePoint := { host := "h", port := 80, path, timeout := .ofRatio false 10 1 }
  have unwritten : (request.fitFor (tcp {}).tls).payload = .error (.unencodable failure) := rfl
  obtain ⟨raised, unasked⟩ := Http.get_unwritten unwritten
  exact ⟨request, rfl, raised, unasked, by decide +kernel⟩

end Transport
end ServiceProbe
