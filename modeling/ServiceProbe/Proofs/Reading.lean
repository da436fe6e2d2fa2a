import ServiceProbe.Proofs.Conversation
import ServiceProbe.Proofs.Rounding
import ServiceProbe.Proofs.Timekeeping
import ServiceProbe.Proofs.Truncation
/-!
Reading, call by call. Each call begins before the deadline, with the time that is left as its timeout,
and adds what it brings to what arrived before. The deadline, a timeout or the close of the peer ends
reading with all that arrived; another error of the system fails it. How the peer cuts what it sends makes
no difference.
-/
namespace ServiceProbe.Network

variable {sockets : Sockets}

/-! Before a call. -/

/-- A call for data can begin: the clock is before the deadline, and what is left is set as the timeout. -/
structure Waits (sockets : Sockets) (deadline clock remaining : Number) (seconds : Double) : Prop where
  before : clock.lt deadline = true
  difference : deadline.sub clock = .ok remaining
  positive : remaining.isPositive = true
  fits : sockets.timeout? remaining = .ok seconds
  patient : seconds.isPositive = true

/-- Reading ends before a call: nothing is left of the time, or a time is out of range. -/
inductive Halts (sockets : Sockets) (deadline clock : Number) (buffer : Bytes) : Except Fault Bytes → Prop
  | late {remaining : Number} (difference : deadline.sub clock = .ok remaining)
    (passed : remaining.isPositive = false) : Halts sockets deadline clock buffer (.ok buffer)
  | uncountable {cause : OutOfRange} (beyond : deadline.sub clock = .error cause) :
    Halts sockets deadline clock buffer (.error (.outOfRange cause))
  | untimed {remaining : Number} {cause : OutOfRange} (difference : deadline.sub clock = .ok remaining)
    (positive : remaining.isPositive = true) (beyond : sockets.timeout? remaining = .error cause) :
    Halts sockets deadline clock buffer (.error (.outOfRange cause))

theorem waits_or_halts (sockets : Sockets) {deadline clock : Number}
    (matched : Number.Matched deadline clock) (buffer : Bytes) :
    (∃ remaining seconds, Waits sockets deadline clock remaining seconds) ∨
      ∃ outcome, Halts sockets deadline clock buffer outcome := by
  cases difference : deadline.sub clock with
  | error cause => exact Or.inr ⟨_, .uncountable difference⟩
  | ok remaining =>
    cases positive : remaining.isPositive with
    | false => exact Or.inr ⟨_, .late difference positive⟩
    | true =>
      cases fits : sockets.timeout? remaining with
      | error cause => exact Or.inr ⟨_, .untimed difference positive fits⟩
      | ok seconds =>
        exact Or.inl ⟨remaining, seconds, Number.lt_of_sub matched difference positive, difference,
          positive, fits, Number.toDouble_isPositive positive (Sockets.timeout?_ok fits).1⟩

/-! A call. -/

/-- A call for data and the setting of its timeout. -/
def callFor (socket : Nat) (seconds : Double) (delivered : Option Nat) : List Event :=
  [.setTimeout socket seconds, .receive socket receiveSize delivered]

/-- Calls that each bring some data, and all that they bring. -/
inductive Receives (sockets : Sockets) (socket : Nat) (deadline : Number) :
    List Delivery → (clock later : Number) → Bytes → List Event → Prop
  | nil (clock : Number) : Receives sockets socket deadline [] clock clock [] []
  | next {delay : Number} {bytes more : Bytes} {rest : List Delivery}
      {clock remaining between later : Number} {seconds : Double} {events : List Event}
      (waits : Waits sockets deadline clock remaining seconds) (some : bytes ≠ [])
      (passes : clock.add delay = .ok between)
      (receives : Receives sockets socket deadline rest between later more events) :
    Receives sockets socket deadline (⟨delay, .ok bytes⟩ :: rest) clock later (bytes ++ more)
      (callFor socket seconds (Option.some bytes.length) ++ events)

/-- How reading ends with the portions that are left, when some bytes have arrived. -/
inductive Stops (sockets : Sockets) (socket : Nat) (deadline clock : Number) (buffer : Bytes) :
    List Delivery → Except Fault Bytes → List Event → Prop
  | halted {portions : List Delivery} {outcome : Except Fault Bytes}
    (halts : Halts sockets deadline clock buffer outcome) :
    Stops sockets socket deadline clock buffer portions outcome []
  | exhausted {remaining : Number} {seconds : Double}
    (waits : Waits sockets deadline clock remaining seconds) :
    Stops sockets socket deadline clock buffer [] (.ok buffer) (callFor socket seconds (some 0))
  | closed {delay remaining later : Number} {seconds : Double} {rest : List Delivery}
    (waits : Waits sockets deadline clock remaining seconds) (passes : clock.add delay = .ok later) :
    Stops sockets socket deadline clock buffer (⟨delay, .ok []⟩ :: rest) (.ok buffer)
      (callFor socket seconds (some 0))
  | timedOut {delay remaining later : Number} {seconds : Double} {trouble : Trouble}
    {rest : List Delivery} (waits : Waits sockets deadline clock remaining seconds)
    (passes : clock.add delay = .ok later) (timeout : trouble.isTimeout = true) :
    Stops sockets socket deadline clock buffer (⟨delay, .error trouble⟩ :: rest) (.ok buffer)
      (callFor socket seconds none)
  | failed {delay remaining later : Number} {seconds : Double} {trouble : Trouble}
    {rest : List Delivery} (waits : Waits sockets deadline clock remaining seconds)
    (passes : clock.add delay = .ok later) (other : trouble.isTimeout = false)
    (isSystem : trouble.isSystem = true) :
    Stops sockets socket deadline clock buffer (⟨delay, .error trouble⟩ :: rest)
      (.error (.exchange (.receiving trouble))) (callFor socket seconds none)
  /-- An error that is none of the system goes on as it is. -/
  | foreign {delay remaining later : Number} {seconds : Double} {trouble : Trouble}
    {rest : List Delivery} (waits : Waits sockets deadline clock remaining seconds)
    (passes : clock.add delay = .ok later) (other : trouble.isSystem = false) :
    Stops sockets socket deadline clock buffer (⟨delay, .error trouble⟩ :: rest) (.error (.network trouble))
      (callFor socket seconds none)
  /-- The clock cannot be set past a call. -/
  | unclocked {portion : Delivery} {remaining : Number} {seconds : Double} {cause : OutOfRange}
    {rest : List Delivery} (waits : Waits sockets deadline clock remaining seconds)
    (beyond : clock.add portion.delay = .error cause) :
    Stops sockets socket deadline clock buffer (portion :: rest) (.error (.outOfRange cause))
      (callFor socket seconds (portion.content.toOption.map List.length))

/-- Some calls bring data, and reading ends with the portions behind them. -/
def Reads (sockets : Sockets) (socket : Nat) (deadline : Number) (buffer : Bytes) (portions : List Delivery)
    (clock : Number) (reading : Connection.Reading) : Prop :=
  ∃ taken rest later bytes calls ending,
    portions = taken ++ rest ∧ Receives sockets socket deadline taken clock later bytes calls ∧
      Stops sockets socket deadline later (buffer ++ bytes) rest reading.outcome ending ∧
      reading.journal.events = calls ++ ending

section Await

variable {deadline clock remaining : Number} {seconds : Double} (connection : Connection)

theorem await_waits (waits : Waits sockets deadline clock remaining seconds) :
    connection.await sockets deadline clock =
      ⟨[.event (.setTimeout connection.socket seconds)], clock, .ok true⟩ := by
  rw [Connection.await, waits.difference, Timed.compute_ok, if_pos waits.positive,
    setTimeout_eq waits.fits]
  rfl

/-- Where no call begins, it does not matter what the peer would do. -/
theorem readFrom_halts {buffer : Bytes} {outcome : Except Fault Bytes}
    (halts : Halts sockets deadline clock buffer outcome) (portions : List Delivery) :
    (connection.readFrom sockets deadline buffer portions clock).outcome = outcome ∧
      (connection.readFrom sockets deadline buffer portions clock).journal.events = [] := by
  have refuses {cause : OutOfRange}
      (awaited : connection.await sockets deadline clock = ⟨[], clock, .error (.outOfRange cause)⟩) :
      (connection.readFrom sockets deadline buffer portions clock).outcome = .error (.outOfRange cause) ∧
        (connection.readFrom sockets deadline buffer portions clock).journal.events = [] := by
    cases portions <;> simp [Connection.readFrom, awaited, Journal.events]
  cases halts with
  | late difference passed =>
    have awaited : connection.await sockets deadline clock = ⟨[], clock, .ok false⟩ := by
      rw [Connection.await, difference, Timed.compute_ok, if_neg (by simp [passed])]
      rfl
    cases portions <;>
      simp [Connection.readFrom, awaited, Connection.timedOut, debugEntry, Journal.events]
  | uncountable beyond =>
    apply refuses
    rw [Connection.await, beyond, Timed.compute_error]
  | untimed difference positive beyond =>
    apply refuses
    rw [Connection.await, difference, Timed.compute_ok, if_pos positive, setTimeout, beyond,
      Timed.compute_error, Timed.andThen_error rfl]

/-- What a call for data brings decides how reading goes on. -/
theorem readFrom_calls (waits : Waits sockets deadline clock remaining seconds) {delay later : Number}
    (passes : clock.add delay = .ok later) (content : Except Trouble Bytes) (buffer : Bytes)
    (rest : List Delivery) :
    connection.readFrom sockets deadline buffer (⟨delay, content⟩ :: rest) clock =
      let call := (callFor connection.socket seconds (content.toOption.map List.length)).map Entry.event
      match content with
      | .error trouble =>
        if trouble.isTimeout then
          ⟨call ++ [connection.timedOut buffer], later, rest, .ok buffer⟩
        else ⟨call, later, rest, .error (faultOf trouble (.receiving trouble))⟩
      | .ok bytes =>
        if bytes.isEmpty then ⟨call, later, rest, .ok buffer⟩
        else (connection.readFrom sockets deadline (buffer ++ bytes) rest later).after call := by
  simp only [Connection.readFrom, await_waits connection waits, Connection.receive, passes]
  cases content <;> rfl

end Await

theorem Stops.reads {socket : Nat} {deadline clock : Number} {buffer : Bytes}
    {portions : List Delivery} {reading : Connection.Reading} {ending : List Event}
    (stops : Stops sockets socket deadline clock buffer portions reading.outcome ending)
    (events : reading.journal.events = ending) :
    Reads sockets socket deadline buffer portions clock reading := by
  refine ⟨[], portions, clock, [], [], ending, rfl, .nil clock, ?_, events⟩
  rwa [List.append_nil]

/-- A call that brings data comes before all that follows. -/
theorem Reads.next {socket : Nat} {deadline clock remaining delay between : Number} {seconds : Double}
    {buffer bytes : Bytes} {rest : List Delivery} {reading : Connection.Reading}
    (waits : Waits sockets deadline clock remaining seconds) (some : bytes ≠ [])
    (passes : clock.add delay = .ok between)
    (reads : Reads sockets socket deadline (buffer ++ bytes) rest between reading) :
    Reads sockets socket deadline buffer (⟨delay, .ok bytes⟩ :: rest) clock
      (reading.after ((callFor socket seconds (Option.some bytes.length)).map .event)) := by
  obtain ⟨taken, others, later, more, calls, ending, rfl, receives, stops, events⟩ := reads
  refine ⟨⟨delay, .ok bytes⟩ :: taken, others, later, bytes ++ more, _, ending, rfl,
    .next waits some passes receives, ?_, ?_⟩
  · rwa [← List.append_assoc]
  · rw [Connection.Reading.after, Journal.events_append, Journal.events_map_event, events,
      List.append_assoc]

/-- A call that fails ends reading. -/
theorem readFrom_error (connection : Connection) {deadline clock remaining delay later : Number}
    {seconds : Double} (waits : Waits sockets deadline clock remaining seconds)
    (passes : clock.add delay = .ok later) (trouble : Trouble) (buffer : Bytes)
    (rest : List Delivery) :
    Reads sockets connection.socket deadline buffer (⟨delay, .error trouble⟩ :: rest) clock
      (connection.readFrom sockets deadline buffer (⟨delay, .error trouble⟩ :: rest) clock) := by
  rw [readFrom_calls connection waits passes]
  dsimp only
  cases timeout : trouble.isTimeout with
  | true =>
    refine Stops.reads (.timedOut waits passes timeout) ?_
    rw [if_pos rfl, Journal.events_append, Journal.events_map_event]
    rfl
  | false =>
    rw [if_neg Bool.false_ne_true]
    cases isSystem : trouble.isSystem with
    | true =>
      rw [faultOf, if_pos isSystem]
      exact Stops.reads (.failed waits passes timeout isSystem) (Journal.events_map_event _)
    | false =>
      rw [faultOf, if_neg (by simp [isSystem])]
      exact Stops.reads (.foreign waits passes isSystem) (Journal.events_map_event _)

/-- All that reading does. -/
theorem readFrom_reads (sockets : Sockets) (connection : Connection) {deadline clock : Number}
    (matched : Number.Matched deadline clock) (buffer : Bytes) (portions : List Delivery) :
    Reads sockets connection.socket deadline buffer portions clock
      (connection.readFrom sockets deadline buffer portions clock) := by
  -- Along the portions, for any clock and for all that arrived before. A clock that moves on is still one
  -- that the deadline can be compared with.
  induction portions generalizing clock buffer with
  | nil =>
    rcases waits_or_halts sockets matched buffer with ⟨remaining, seconds, waits⟩ | ⟨outcome, halts⟩
    · have reads : connection.readFrom sockets deadline buffer [] clock =
          ⟨(callFor connection.socket seconds (some 0)).map .event, clock, [], .ok buffer⟩ := by
        simp only [Connection.readFrom, await_waits connection waits]
        rfl
      rw [reads]
      exact Stops.reads (.exhausted waits) (Journal.events_map_event _)
    · obtain ⟨found, events⟩ := readFrom_halts connection halts []
      exact Stops.reads (.halted (found ▸ halts)) events
  | cons portion rest ih =>
    obtain ⟨delay, content⟩ := portion
    rcases waits_or_halts sockets matched buffer with ⟨remaining, seconds, waits⟩ | ⟨outcome, halts⟩
    · cases passes : clock.add delay with
      | error cause =>
        have reads : connection.readFrom sockets deadline buffer (⟨delay, content⟩ :: rest) clock =
            ⟨(callFor connection.socket seconds (content.toOption.map List.length)).map .event, clock,
              rest, .error (.outOfRange cause)⟩ := by
          simp only [Connection.readFrom, await_waits connection waits, Connection.receive, passes]
          rfl
        rw [reads]
        exact Stops.reads (.unclocked waits passes) (Journal.events_map_event _)
      | ok later =>
        cases content with
        | error trouble => exact readFrom_error connection waits passes trouble buffer rest
        | ok bytes =>
          rw [readFrom_calls connection waits passes]
          dsimp only
          by_cases void : bytes = []
          · subst void
            exact Stops.reads (.closed waits passes) (Journal.events_map_event _)
          · rw [if_neg (by simpa using void)]
            exact Reads.next waits void passes (ih (Number.matched_step matched passes) _)
    · obtain ⟨found, events⟩ := readFrom_halts connection halts (⟨delay, content⟩ :: rest)
      exact Stops.reads (.halted (found ▸ halts)) events

/-! How the peer cuts what it sends. -/

theorem Waits.timeLeft {deadline clock remaining : Number} {seconds : Double}
    (waits : Waits sockets deadline clock remaining seconds) : TimeLeft sockets deadline clock :=
  ⟨remaining, seconds, waits.difference, waits.positive, waits.fits⟩

/-- Data, or a close, without any delay. -/
structure Delivery.Prompt (delivery : Delivery) : Prop where
  delay : delivery.delay = .int 0
  brings : ∃ bytes, delivery.content = .ok bytes

theorem prompt_portions {deliveries : List Delivery} (prompt : ∀ delivery ∈ deliveries, delivery.Prompt) :
    ∀ portion ∈ deliveries.flatMap Delivery.portions, portion.delay = .int 0 := by
  intro portion member
  obtain ⟨delivery, known, part⟩ := List.mem_flatMap.mp member
  obtain ⟨delay, bytes, content⟩ := prompt delivery known
  simp only [Delivery.portions, content] at part
  split at part
  · rw [List.mem_singleton.mp part, delay]
  · rcases List.mem_cons.mp part with rfl | part
    · exact delay
    · obtain ⟨piece, _, rfl⟩ := List.mem_map.mp part
      rfl

theorem sends_of_prompt {deliveries : List Delivery}
    (prompt : ∀ delivery ∈ deliveries, delivery.Prompt) :
    ∃ chunks, Sends deliveries chunks ∧ chunks.flatten = sentBy deliveries := by
  induction deliveries with
  | nil => exact ⟨[], .ended, rfl⟩
  | cons delivery rest ih =>
    rw [List.forall_mem_cons] at prompt
    obtain ⟨chunks, sends, whole⟩ := ih prompt.2
    obtain ⟨delay, content⟩ := delivery
    obtain ⟨bytes, rfl⟩ : ∃ bytes, content = .ok bytes := prompt.1.brings
    by_cases void : bytes = []
    · subst void
      exact ⟨[], .close delay rest, rfl⟩
    · refine ⟨bytes :: chunks, .chunk delay void sends, ?_⟩
      rw [sentBy_some rfl void, List.flatten_cons, whole]

/-- The sign of a zero on the clock is no time. -/
theorem timeLeft_zero {deadline : Number} (left : TimeLeft sockets deadline (.real (Double.zero true))) :
    TimeLeft sockets deadline (.real (Double.zero false)) := by
  have combined (zero : Double) : deadline.sub (.real zero) =
      deadline.toDouble >>= fun double => .ok (.real (double.sub zero)) := by
    cases deadline <;> rfl
  obtain ⟨remaining, seconds, difference, positive, fits⟩ := left
  rw [combined] at difference
  obtain ⟨double, whole, found⟩ := Outcome.bind_ok difference
  cases found
  refine ⟨.real (double.sub (Double.zero true)), seconds, ?_, positive, fits⟩
  rw [combined, whole, Double.sub_zero_positive positive]
  rfl

/-- Without delays there is time for all calls if there is time for the first. -/
theorem inTime_of_prompt {deadline clock : Number} (left : TimeLeft sockets deadline clock)
    (regular : clock.Regular) {portions : List Delivery}
    (prompt : ∀ portion ∈ portions, portion.delay = .int 0) : InTime sockets deadline portions clock := by
  cases portions with
  | nil => exact left
  | cons portion rest =>
    rw [List.forall_mem_cons] at prompt
    obtain ⟨later, passes, steady, same⟩ := Number.add_zero_steady regular
    have leftLater : TimeLeft sockets deadline later := by
      rcases same with rfl | ⟨rfl, rfl⟩
      · exact left
      · exact timeLeft_zero left
    have still : ∀ portion ∈ rest, later.add portion.delay = .ok later := by
      intro portion member
      rw [prompt.2 portion member]
      exact steady
    exact ⟨left, later, prompt.1.symm ▸ passes, Or.inr (inTime_of_still leftLater still)⟩

/-- The deadline of a reading that begins now. -/
def Connection.deadline? (connection : Connection) (timeout : Option Number) (clock : Number) :
    Except OutOfRange Number :=
  clock.add (timeout.getD connection.timeout)

section ReadAll

variable {connection : Connection} {timeout : Option Number} {clock deadline : Number}

theorem readAll_of_deadline (starts : connection.deadline? timeout clock = .ok deadline)
    (deliveries : List Delivery) :
    connection.readAll timeout deliveries clock sockets =
      connection.readFrom sockets deadline [] (deliveries.flatMap Delivery.portions) clock := by
  rw [Connection.deadline?] at starts
  rw [Connection.readAll, starts]

theorem readAll_beyond {cause : OutOfRange}
    (beyond : connection.deadline? timeout clock = .error cause) (deliveries : List Delivery) :
    (connection.readAll timeout deliveries clock sockets).outcome = .error (.outOfRange cause) ∧
      (connection.readAll timeout deliveries clock sockets).journal = [] := by
  rw [Connection.deadline?] at beyond
  rw [Connection.readAll, beyond]
  exact ⟨rfl, rfl⟩

theorem readAll_prompt (starts : connection.deadline? timeout clock = .ok deadline)
    (regular : clock.Regular) (left : TimeLeft sockets deadline clock) {deliveries : List Delivery}
    (prompt : ∀ delivery ∈ deliveries, delivery.Prompt) :
    (connection.readAll timeout deliveries clock sockets).outcome = .ok (sentBy deliveries) := by
  obtain ⟨chunks, sends, whole⟩ := sends_of_prompt prompt
  obtain ⟨pieces, cut, same⟩ := sends_portions sends
  rw [readAll_of_deadline starts, ← whole, ← same]
  exact readFrom_sends cut (inTime_of_prompt left regular (prompt_portions prompt)) connection []

/-- Of data without delays and errors it is read as a whole or not at all. -/
theorem readAll_uncut (regular : clock.Regular) {deliveries others : List Delivery}
    (prompt : ∀ delivery ∈ deliveries, delivery.Prompt) (prompt' : ∀ delivery ∈ others, delivery.Prompt)
    (same : sentBy deliveries = sentBy others) :
    (connection.readAll timeout deliveries clock sockets).outcome =
      (connection.readAll timeout others clock sockets).outcome := by
  cases starts : connection.deadline? timeout clock with
  | error cause => rw [(readAll_beyond starts _).1, (readAll_beyond starts _).1]
  | ok deadline =>
    rcases waits_or_halts sockets (Number.matched_start starts) [] with ⟨_, _, waits⟩ | ⟨outcome, halts⟩
    · rw [readAll_prompt starts regular waits.timeLeft prompt,
        readAll_prompt starts regular waits.timeLeft prompt', same]
    · rw [readAll_of_deadline starts, readAll_of_deadline starts,
        (readFrom_halts connection halts _).1, (readFrom_halts connection halts _).1]

theorem readAll_prefix {deliveries : List Delivery} {bytes : Bytes}
    (reads : (connection.readAll timeout deliveries clock sockets).outcome = .ok bytes) :
    bytes <+: sentBy deliveries := by
  cases starts : connection.deadline? timeout clock with
  | error cause =>
    rw [(readAll_beyond starts _).1] at reads
    cases reads
  | ok deadline =>
    rw [readAll_of_deadline starts] at reads
    obtain ⟨more, rfl, shorter⟩ := readFrom_prefix reads
    rwa [sentBy_portions] at shorter

end ReadAll

/-! Timeouts that are refused. -/

/-- A call for data would begin in time, but the sockets do not take what is left as a timeout. -/
def Connection.Untimed (sockets : Sockets) (connection : Connection) (deadline : Number)
    (portions : List Delivery) (clock : Number) : Prop :=
  ∃ taken rest later bytes calls remaining cause, portions = taken ++ rest ∧
    Receives sockets connection.socket deadline taken clock later bytes calls ∧
    deadline.sub later = .ok remaining ∧ remaining.isPositive = true ∧
    sockets.timeout? remaining = .error cause

section Untimed

variable {deadline clock later : Number} {taken portions : List Delivery} {bytes : Bytes}
  {calls : List Event}

/-- Calls that bring data change nothing for those behind them but the time and what has arrived. -/
theorem readFrom_receives_append {connection : Connection}
    (receives : Receives sockets connection.socket deadline taken clock later bytes calls)
    (buffer : Bytes) (rest : List Delivery) :
    (connection.readFrom sockets deadline buffer (taken ++ rest) clock).outcome =
      (connection.readFrom sockets deadline (buffer ++ bytes) rest later).outcome := by
  induction receives generalizing buffer with
  | nil => simp
  | next waits some passes receives ih =>
    rw [List.cons_append, readFrom_calls connection waits passes]
    dsimp only
    rw [if_neg (by simpa using some)]
    exact (ih _).trans (by rw [List.append_assoc])

theorem Receives.size_le {socket : Nat}
    (receives : Receives sockets socket deadline taken clock later bytes calls) :
    later.size ≤ clock.size + counted (taken.map Delivery.delay) := by
  induction receives with
  | nil => exact Nat.le_add_right _ _
  | next waits some passes receives ih =>
    have passed := Number.counts_add.size_le passes
    simp only [List.map_cons, counted_cons]
    omega

theorem Connection.Untimed.uncountable {connection : Connection}
    (untimed : connection.Untimed sockets deadline portions clock) :
    Uncountable (connection.readFrom sockets deadline [] portions clock).outcome := by
  obtain ⟨taken, rest, later, bytes, calls, remaining, cause, rfl, receives, difference, positive,
    beyond⟩ := untimed
  refine ⟨cause, ?_⟩
  rw [readFrom_receives_append receives]
  exact (readFrom_halts connection (.untimed difference positive beyond) rest).1

/-- Where all times can be counted, only a timeout that is refused keeps reading from bringing what
arrived, or from failing over the network. -/
theorem readFrom_uncountable (connection : Connection) (matched : Number.Matched deadline clock)
    (small : deadline.size + clock.size + counted (portions.map Delivery.delay) < Double.limit) :
    Uncountable (connection.readFrom sockets deadline [] portions clock).outcome ↔
      connection.Untimed sockets deadline portions clock := by
  refine ⟨?_, Connection.Untimed.uncountable⟩
  rintro ⟨cause, failed⟩
  obtain ⟨taken, rest, later, bytes, calls, ending, rfl, receives, stops, _⟩ :=
    readFrom_reads sockets connection matched [] portions
  rw [failed] at stops
  have counts := receives.size_le
  rw [List.map_append, counted_append] at small
  -- The other ends bring what arrived or fail over the network.
  cases stops with
  | halted halts =>
    cases halts with
    | uncountable beyond =>
      obtain ⟨remaining, left, _⟩ := Number.counts_sub.gives deadline later (by omega)
      rw [left] at beyond
      cases beyond
    | untimed difference positive beyond =>
      exact ⟨taken, rest, later, bytes, calls, _, _, rfl, receives, difference, positive, beyond⟩
  | @unclocked portion _ _ _ _ waits beyond =>
    rw [List.map_cons, counted_cons] at small
    obtain ⟨between, passes, _⟩ := Number.counts_add.gives later portion.delay (by omega)
    rw [passes] at beyond
    cases beyond

end Untimed

/-- How reading with a timeout ends. -/
theorem readAll_ends (sockets : Sockets) {deliveries : List Delivery}
    (ordinary : ∀ delivery ∈ deliveries, delivery.Ordinary) (connection : Connection)
    (timeout : Option Number) (clock : Number) :
    (∃ bytes, (connection.readAll timeout deliveries clock sockets).outcome = .ok bytes) ∨
      (∃ trouble, (connection.readAll timeout deliveries clock sockets).outcome =
        .error (.exchange (.receiving trouble))) ∨
      Uncountable (connection.readAll timeout deliveries clock sockets).outcome := by
  cases starts : connection.deadline? timeout clock with
  | error cause => exact Or.inr (Or.inr ⟨cause, (readAll_beyond starts deliveries).1⟩)
  | ok deadline =>
    rw [readAll_of_deadline starts]
    by_cases fails : FailsReading sockets deadline (deliveries.flatMap Delivery.portions) clock
    · exact Or.inr (Or.inl (readFrom_fails fails (Delivery.ordinary_portions ordinary) connection []))
    · rcases readFrom_ends fails connection [] with read | uncountable
      · exact Or.inl read
      · exact Or.inr (Or.inr uncountable)

theorem readAll_uncountable (sockets : Sockets) {connection : Connection} {timeout : Option Number}
    {clock : Number} {deliveries : List Delivery}
    (small : 2 * clock.size + (timeout.getD connection.timeout).size +
      counted (deliveries.map Delivery.delay) < Double.limit) :
    ∃ deadline, connection.deadline? timeout clock = .ok deadline ∧
      (Uncountable (connection.readAll timeout deliveries clock sockets).outcome ↔
        connection.Untimed sockets deadline (deliveries.flatMap Delivery.portions) clock) := by
  obtain ⟨deadline, starts, bound⟩ :=
    Number.counts_add.gives clock (timeout.getD connection.timeout) (by omega)
  refine ⟨deadline, starts, ?_⟩
  rw [readAll_of_deadline starts]
  refine readFrom_uncountable connection (Number.matched_start starts) ?_
  rw [counted_portions]
  omega

/-- Sockets that take any double refuse no timeout that can be counted. -/
theorem not_uncountable_readAll {connection : Connection} {timeout : Option Number} {clock : Number}
    {deliveries : List Delivery}
    (small : 2 * clock.size + (timeout.getD connection.timeout).size +
      counted (deliveries.map Delivery.delay) < Double.limit) :
    ¬ Uncountable (connection.readAll timeout deliveries clock).outcome := by
  obtain ⟨deadline, starts, untimed⟩ := readAll_uncountable .noting small
  rw [untimed]
  rintro ⟨taken, rest, later, bytes, calls, remaining, cause, parts, receives, difference, _, beyond⟩
  have arrived := receives.size_le
  have start := Number.counts_add.size_le starts
  have left := Number.counts_sub.size_le difference
  -- Each time up to the refused one is part of the sum.
  rw [← counted_portions, parts, List.map_append, counted_append] at small
  obtain ⟨double, fits⟩ := remaining.toDouble_of_size (by omega)
  rw [Sockets.timeout?, fits] at beyond
  cases beyond

/-- Reading calls for data as long as the clock is before the deadline, each time with what is left as the
timeout. The deadline, a timeout or a close ends it with all that the calls brought, in order, and another
error of the system fails it. It ends in no other way, unless the sockets refuse what is left as a timeout
or an integer is too large for a double, and what is read of prompt data does not depend on how the data
is cut. -/
theorem readAll_reads (sockets : Sockets) (connection : Connection) (timeout : Option Number)
    (deliveries : List Delivery) (clock : Number) :
    let reading := connection.readAll timeout deliveries clock sockets
    let portions := deliveries.flatMap Delivery.portions
    (∀ deadline, connection.deadline? timeout clock = .ok deadline →
      Reads sockets connection.socket deadline [] portions clock reading) ∧
    (∀ cause, connection.deadline? timeout clock = .error cause →
      reading.outcome = .error (.outOfRange cause) ∧ reading.journal = []) ∧
    (∀ bytes, reading.outcome = .ok bytes → bytes <+: sentBy deliveries) ∧
    ((∀ delivery ∈ deliveries, delivery.Ordinary) →
      (∃ bytes, reading.outcome = .ok bytes) ∨
        (∃ trouble, reading.outcome = .error (.exchange (.receiving trouble))) ∨
          Uncountable reading.outcome) ∧
    (2 * clock.size + (timeout.getD connection.timeout).size +
        counted (deliveries.map Delivery.delay) < Double.limit →
      (∃ deadline, connection.deadline? timeout clock = .ok deadline ∧
        (Uncountable reading.outcome ↔ connection.Untimed sockets deadline portions clock)) ∧
      (sockets = .noting → ¬ Uncountable reading.outcome)) ∧
    (∀ others, clock.Regular → (∀ delivery ∈ deliveries, delivery.Prompt) →
      (∀ delivery ∈ others, delivery.Prompt) → sentBy deliveries = sentBy others →
        reading.outcome = (connection.readAll timeout others clock sockets).outcome) := by
  refine ⟨?reads, fun _ beyond => readAll_beyond beyond deliveries, fun _ reads => readAll_prefix reads,
    fun ordinary => readAll_ends sockets ordinary connection timeout clock, ?small,
    fun _ regular prompt prompt' same => readAll_uncut regular prompt prompt' same⟩
  case reads =>
    intro deadline starts
    rw [readAll_of_deadline starts]
    exact readFrom_reads sockets connection (Number.matched_start starts) [] _
  case small =>
    intro small
    refine ⟨readAll_uncountable sockets small, ?_⟩
    rintro rfl
    exact not_uncountable_readAll small

/-- Data for which the call began in time counts, and then reading is over. -/
theorem readAll_reads_past_deadline :
    let connection : Connection := ⟨3, "192.0.2.1", 80, .int 10⟩
    let slow : List Delivery := [{ delay := .int 4, content := .ok [97, 98] },
      { delay := .int 7, content := .ok [99, 100] }, { content := .ok [101] }]
    let whole : List Delivery := [{ content := .ok [97, 98, 99] }]
    let cut : List Delivery := [{ content := .ok [97] }, { content := .ok [98, 99] }]
    let reading := connection.readAll none slow (.int 0) .counting
    Reads .counting 3 (.int 10) [] (slow.flatMap Delivery.portions) (.int 0) reading ∧
      reading.outcome = .ok [97, 98, 99, 100] ∧ [97, 98, 99, 100] <+: sentBy slow ∧
      ¬ connection.Untimed .counting (.int 10) (slow.flatMap Delivery.portions) (.int 0) ∧
      (connection.readAll none whole (.int 0) .counting).outcome =
        (connection.readAll none cut (.int 0) .counting).outcome := by
  intro connection slow whole cut reading
  have arrived : reading.outcome = .ok [97, 98, 99, 100] := by decide +kernel
  have prompt (bytes : Bytes) : Delivery.Prompt { content := .ok bytes } := ⟨rfl, bytes, rfl⟩
  obtain ⟨reads, _, shorter, _, small, _⟩ := readAll_reads .counting connection none slow (.int 0)
  obtain ⟨_, _, _, _, _, uncut⟩ := readAll_reads .counting connection none whole (.int 0)
  refine ⟨reads (.int 10) rfl, arrived, shorter _ arrived, ?_, uncut cut trivial ?_ ?_ rfl⟩
  · obtain ⟨⟨_, ⟨⟩, uncountable⟩, _⟩ := small (by decide +kernel)
    intro untimed
    obtain ⟨cause, failed⟩ := uncountable.mpr untimed
    cases arrived.symm.trans failed
  · simpa [whole] using prompt [97, 98, 99]
  · simpa [cut] using ⟨prompt [97], prompt [98, 99]⟩

/-- Sockets that count nanoseconds take no timeout of ten thousand million seconds and none without end, and
an integer too large for a double cannot be combined with a clock that is one: reading neither brings what
the peer sends nor fails with an error of the network. -/
theorem readAll_beyond_doubles :
    let connection : Connection := ⟨0, "192.0.2.1", 80, .real (Double.ofRatio false 1 1)⟩
    let sent : List Delivery := [{ content := .ok [104] }]
    let start : Number := .real (.zero false)
    let far := connection.readAll (some (.real (.ofRatio false (Power.ten 10) 1))) sent start .counting
    let endless := connection.readAll (some (.real (.infinite false))) sent start .counting
    let beyond := connection.readAll (some (.int Double.limit)) sent start
    far.outcome = .error (.outOfRange .doubleAsTime) ∧
      endless.outcome = .error (.outOfRange .doubleAsTime) ∧
      beyond.outcome = .error (.outOfRange .tooLargeForDouble) ∧ beyond.journal = [] := by
  intro connection sent start far endless beyond
  -- As much is left as the timeout says.
  have refused {timeout : Double} (starts : connection.deadline? (some timeout) start = .ok timeout)
      (difference : (Number.real timeout).sub start = .ok timeout) (positive : timeout.isPositive = true)
      (refused : Sockets.counting.timeout? timeout = .error .doubleAsTime) :
      (connection.readAll (some timeout) sent start .counting).outcome =
        .error (.outOfRange .doubleAsTime) := by
    rw [readAll_of_deadline starts]
    exact (readFrom_halts connection (.untimed difference positive refused) _).1
  have uncountable : connection.deadline? (some (.int Double.limit)) start =
      .error .tooLargeForDouble := by
    show Number.add (.real (.zero false)) (.int Double.limit) = .error .tooLargeForDouble
    rw [Number.add, Number.toDouble_beyond (Nat.le_of_eq (Int.natAbs_natCast _).symm)]
    · rfl
    · rintro _ _ ⟨⟩
  refine ⟨refused ?_ ?_ ?_ rfl, refused rfl rfl rfl rfl, readAll_beyond uncountable sent⟩
  all_goals decide +kernel

end ServiceProbe.Network
