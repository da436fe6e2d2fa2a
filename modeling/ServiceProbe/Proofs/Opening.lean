import ServiceProbe.Proofs.InRange
import ServiceProbe.Proofs.Search
/-!
The search for an address, call by call. Addresses are tried in their order until one takes the
connection, the deadline is over or none is left, and each one that refuses leaves a reason. All that
happens is told by the addresses that refused and by how the search ends with the others.
-/
namespace ServiceProbe

namespace Network

/-! An attempt. -/

/-- What is left until a deadline that is not over. A difference that is not a number is none of the
times at which it is over. -/
structure Left (deadline clock remaining : Number) : Prop where
  difference : deadline.sub clock = .ok remaining
  inTime : remaining.isAtMostZero = false

/-- The calls of an attempt that has a socket. -/
def Address.calls (address : Address) (socket : Nat) (seconds : Double) (succeeded : Bool) :
    List Event :=
  [.create socket address.family true, .setTimeout socket seconds,
    .connect socket address.host address.port succeeded]

/-- How an attempt at an address fares. -/
inductive Address.Fares (address : Address) (sockets : Sockets) (socket : Nat) (remaining clock : Number) :
    Timed Opening → Prop
  | uncreated {trouble : Trouble} (refused : address.creation = some trouble) :
    Fares address sockets socket remaining clock
      ⟨[.event (.create socket address.family false)], clock, .error (.network trouble)⟩
  | untimed {cause : OutOfRange} (made : address.creation = none)
      (beyond : sockets.timeout? remaining = .error cause) :
    Fares address sockets socket remaining clock
      ⟨[.event (.create socket address.family true)], clock, .error (.outOfRange cause)⟩
  | uncounted {seconds : Double} {cause : OutOfRange} (made : address.creation = none)
      (fits : sockets.timeout? remaining = .ok seconds)
      (beyond : clock.add address.connection.delay = .error cause) :
    Fares address sockets socket remaining clock
      ⟨(address.calls socket seconds address.connection.succeeds).map .event, clock,
        .error (.outOfRange cause)⟩
  | unconnected {seconds : Double} {trouble : Trouble} {later : Number}
      (made : address.creation = none) (fits : sockets.timeout? remaining = .ok seconds)
      (refused : address.connection.trouble = some trouble)
      (passes : clock.add address.connection.delay = .ok later) :
    Fares address sockets socket remaining clock
      ⟨(address.calls socket seconds false).map .event, later, .error (.network trouble)⟩
  | connected {seconds : Double} {later : Number} (fits : sockets.timeout? remaining = .ok seconds)
      (accepts : address.Accepts clock later) :
    Fares address sockets socket remaining clock
      ⟨(address.calls socket seconds true).map .event, later,
        .ok ⟨socket, address.host, address.port⟩⟩

variable {sockets : Sockets}

theorem attempt_fares (sockets : Sockets) (address : Address) (socket : Nat)
    (remaining clock : Number) :
    address.Fares sockets socket remaining clock (attempt sockets socket address remaining clock) := by
  cases made : address.creation with
  | some trouble =>
    rw [attempt_uncreated made]
    exact .uncreated made
  | none =>
    simp only [attempt, made]
    rw [Timed.note_andThen]
    cases fits : sockets.timeout? remaining with
    | error cause =>
      rw [setTimeout, fits, Timed.compute_error, Timed.andThen_error rfl]
      exact .untimed made fits
    | ok seconds =>
      rw [setTimeout_eq fits, Timed.andThen_ok rfl]
      cases passes : clock.add address.connection.delay with
      | error cause =>
        rw [call, passes, Timed.andThen_error rfl]
        exact .uncounted made fits passes
      | ok later =>
        cases taken : address.connection.trouble with
        | some trouble =>
          rw [call_error passes taken, Timed.andThen_error rfl, Course.succeeds, taken]
          exact .unconnected made fits taken passes
        | none =>
          rw [call_ok passes taken, Timed.andThen_ok rfl, Course.succeeds, taken]
          exact .connected fits ⟨made, taken, passes⟩

/-- An attempt at an address is refused, and its socket closed if it had one. -/
inductive Address.Refusal (address : Address) (sockets : Sockets) (socket : Nat)
    (remaining clock : Number) :
    (later : Number) → Trouble → List Event → Prop
  | uncreated {trouble : Trouble} (refused : address.creation = some trouble) :
    Refusal address sockets socket remaining clock clock trouble [.create socket address.family false]
  | unconnected {seconds : Double} {trouble : Trouble} {later : Number}
      (made : address.creation = none) (fits : sockets.timeout? remaining = .ok seconds)
      (refused : address.connection.trouble = some trouble)
      (passes : clock.add address.connection.delay = .ok later) :
    Refusal address sockets socket remaining clock later trouble
      (address.calls socket seconds false ++ [.close socket])

theorem Address.Refusal.attempt {address : Address} {socket : Nat} {remaining clock later : Number}
    {trouble : Trouble} {events : List Event}
    (refusal : address.Refusal sockets socket remaining clock later trouble events) :
    let attempt := attempt sockets socket address remaining clock
    attempt.outcome = .error (.network trouble) ∧ attempt.clock = later ∧
      (attempt.journal ++ giveUp socket address trouble).events = events := by
  cases refusal with
  | uncreated refused =>
    rw [attempt_uncreated refused]
    refine ⟨rfl, rfl, ?_⟩
    simp [giveUp, refused, attemptFailed]
  | unconnected made fits refused passes =>
    have closes : giveUp socket address trouble =
        [.event (.close socket), attemptFailed address trouble] := by
      simp [giveUp, made]
    rw [closes]
    simp only [Network.attempt, made]
    rw [Timed.note_andThen, setTimeout_eq fits, Timed.andThen_ok rfl, call_error passes refused,
      Timed.andThen_error rfl, Course.succeeds, refused]
    exact ⟨rfl, rfl, rfl⟩

theorem attempt_refusal {address : Address} {socket : Nat} {remaining clock : Number}
    {trouble : Trouble}
    (failed : (attempt sockets socket address remaining clock).outcome = .error (.network trouble)) :
    ∃ later events, address.Refusal sockets socket remaining clock later trouble events := by
  have fares := attempt_fares sockets address socket remaining clock
  generalize attempt sockets socket address remaining clock = step at fares failed
  cases fares with
  | uncreated refused =>
    cases failed
    exact ⟨_, _, .uncreated refused⟩
  | unconnected made fits refused passes =>
    cases failed
    exact ⟨_, _, .unconnected made fits refused passes⟩
  | untimed | uncounted | connected => cases failed

theorem attempt_taken {address : Address} {socket : Nat} {remaining clock : Number} {opening : Opening}
    (found : (attempt sockets socket address remaining clock).outcome = .ok opening) :
    ∃ seconds later, sockets.timeout? remaining = .ok seconds ∧ address.Accepts clock later ∧
      opening = ⟨socket, address.host, address.port⟩ ∧
      (attempt sockets socket address remaining clock).journal.events =
        address.calls socket seconds true := by
  have fares := attempt_fares sockets address socket remaining clock
  generalize attempt sockets socket address remaining clock = step at fares found
  cases fares with
  | connected fits accepts =>
    cases found
    exact ⟨_, _, fits, accepts, rfl, Journal.events_map_event _⟩
  | uncreated | untimed | uncounted | unconnected => cases found

/-! The search. -/

/-- Addresses that are refused one after the other, each in time and for an error of the system. Each
leaves one reason. -/
inductive Refused (sockets : Sockets) (deadline : Number) :
    (socket : Nat) → List Address → (clock later : Number) → List Text → List Event → Prop
  | nil (socket : Nat) (clock : Number) : Refused sockets deadline socket [] clock clock [] []
  | next {socket : Nat} {address : Address} {rest : List Address}
      {clock remaining between later : Number} {trouble : Trouble} {reasons : List Text}
      {events others : List Event} (left : Left deadline clock remaining)
      (refusal : address.Refusal sockets socket remaining clock between trouble events)
      (isSystem : trouble.isSystem = true)
      (refused : Refused sockets deadline (socket + 1) rest between later reasons others) :
    Refused sockets deadline socket (address :: rest) clock later (attemptReason address trouble :: reasons)
      (events ++ others)

/-- How a search ends with the addresses that are left, behind others that left their reasons. -/
inductive Ends (sockets : Sockets) (deadline : Number) (socket : Nat) (clock : Number)
    (reasons : List Text) : List Address → Except Fault Opening → List Event → Prop
  | exhausted : Ends sockets deadline socket clock reasons [] (.error (.exchange (.unconnected reasons))) []
  | late {address : Address} {rest : List Address} {remaining : Number}
      (difference : deadline.sub clock = .ok remaining) (ended : remaining.isAtMostZero = true) :
    Ends sockets deadline socket clock reasons (address :: rest)
      (.error (.exchange (.unconnected (reasons ++ ["timed out".toList])))) []
  | taken {address : Address} {rest : List Address} {remaining later : Number} {seconds : Double}
      (left : Left deadline clock remaining) (fits : sockets.timeout? remaining = .ok seconds)
      (accepts : address.Accepts clock later) :
    Ends sockets deadline socket clock reasons (address :: rest) (.ok ⟨socket, address.host, address.port⟩)
      (address.calls socket seconds true)
  /-- A time that is no double cannot be combined with one. -/
  | uncountable {address : Address} {rest : List Address} {cause : OutOfRange}
      (beyond : deadline.sub clock = .error cause) :
    Ends sockets deadline socket clock reasons (address :: rest) (.error (.outOfRange cause)) []
  /-- An attempt fails with anything but an error of the system. -/
  | broken {address : Address} {rest : List Address} {remaining : Number} {step : Timed Opening}
      {fault : Fault} (left : Left deadline clock remaining)
      (fares : address.Fares sockets socket remaining clock step) (failed : step.outcome = .error fault)
      (foreign : step.systemTrouble? = none) :
    Ends sockets deadline socket clock reasons (address :: rest) (.error fault) step.journal.events

/-- Some addresses are refused, and a search ends with the others. -/
def Searches (sockets : Sockets) (deadline : Number) (socket : Nat) (reasons : List Text)
    (addresses : List Address) (clock : Number) (search : Timed Opening) : Prop :=
  ∃ tried rest later more refusals ending,
    addresses = tried ++ rest ∧ Refused sockets deadline socket tried clock later more refusals ∧
      Ends sockets deadline (socket + tried.length) later (reasons ++ more) rest search.outcome ending ∧
      search.journal.events = refusals ++ ending

section Search

variable {deadline clock remaining : Number} {address : Address} (left : Left deadline clock remaining)

include left

theorem openFrom_next {socket : Nat} {trouble : Trouble}
    (refused : (attempt sockets socket address remaining clock).systemTrouble? = some trouble)
    (reasons : List Text) (rest : List Address) :
    openFrom sockets deadline socket reasons (address :: rest) clock =
      let attempt := attempt sockets socket address remaining clock
      let later := openFrom sockets deadline (socket + 1) (reasons ++ [attemptReason address trouble]) rest
        attempt.clock
      ⟨attempt.journal ++ giveUp socket address trouble ++ later.journal, later.clock,
        later.outcome⟩ := by
  obtain ⟨failed, isSystem⟩ := systemTrouble_some.mp refused
  rw [openFrom, left.difference]
  dsimp only
  rw [if_neg (by simp [left.inTime]), failed]
  simp only [isSystem, if_true]

theorem openFrom_last {socket : Nat}
    (foreign : (attempt sockets socket address remaining clock).systemTrouble? = none) (reasons : List Text)
    (rest : List Address) :
    openFrom sockets deadline socket reasons (address :: rest) clock =
      attempt sockets socket address remaining clock := by
  rw [openFrom, left.difference]
  dsimp only
  rw [if_neg (by simp [left.inTime])]
  split
  · next trouble failed =>
    rw [if_neg]
    intro isSystem
    rw [systemTrouble_some.mpr ⟨failed, isSystem⟩] at foreign
    cases foreign
  · rfl

end Search

/-- Addresses that are refused change nothing for those behind them but the time and the reasons. -/
theorem openFrom_refused_append {deadline : Number} {socket : Nat} {tried : List Address}
    {clock later : Number} {more : List Text} {refusals : List Event}
    (refused : Refused sockets deadline socket tried clock later more refusals) (reasons : List Text)
    (rest : List Address) :
    let search := openFrom sockets deadline socket reasons (tried ++ rest) clock
    let others := openFrom sockets deadline (socket + tried.length) (reasons ++ more) rest later
    search.outcome = others.outcome ∧ search.journal.events = refusals ++ others.journal.events := by
  induction refused generalizing reasons with
  | nil => simp
  | @next socket address others clock remaining between later trouble more events calls left refusal
      isSystem _ ih =>
    obtain ⟨failed, passes, own⟩ := refusal.attempt
    obtain ⟨outcome, behind⟩ := ih (reasons ++ [attemptReason address trouble])
    have place : socket + (address :: others).length = socket + 1 + others.length := by
      rw [List.length_cons]
      omega
    rw [List.cons_append, openFrom_next left (systemTrouble_some.mpr ⟨failed, isSystem⟩)]
    dsimp only
    rw [passes, place, outcome, Journal.events_append, own, behind]
    simp

/-- All that a search does. -/
theorem openFrom_searches (sockets : Sockets) (deadline : Number) (socket : Nat) (reasons : List Text)
    (addresses : List Address) (clock : Number) :
    Searches sockets deadline socket reasons addresses clock
      (openFrom sockets deadline socket reasons addresses clock) := by
  induction addresses generalizing socket reasons clock with
  | nil =>
    refine ⟨[], [], clock, [], [], [], rfl, .nil socket clock, ?_, rfl⟩
    rw [List.append_nil]
    exact .exhausted
  | cons address rest ih =>
    -- A search that ends here has refused nothing.
    have here {ending : List Event} {search : Timed Opening}
        (ends : Ends sockets deadline socket clock reasons (address :: rest) search.outcome ending)
        (events : search.journal.events = ending) :
        Searches sockets deadline socket reasons (address :: rest) clock search :=
      ⟨[], address :: rest, clock, [], [], ending, rfl, .nil socket clock,
        by rwa [List.append_nil], events⟩
    cases difference : deadline.sub clock with
    | error cause =>
      rw [openFrom, difference]
      exact here (.uncountable difference) rfl
    | ok remaining =>
      cases ended : remaining.isAtMostZero with
      | true =>
        rw [openFrom, difference]
        dsimp only
        rw [if_pos ended]
        exact here (.late difference ended) rfl
      | false =>
        have left : Left deadline clock remaining := ⟨difference, ended⟩
        have fares := attempt_fares sockets address socket remaining clock
        cases refused : (attempt sockets socket address remaining clock).systemTrouble? with
        | some trouble =>
          obtain ⟨failed, isSystem⟩ := systemTrouble_some.mp refused
          obtain ⟨between, own, refusal⟩ := attempt_refusal failed
          obtain ⟨_, passes, calls⟩ := refusal.attempt
          obtain ⟨tried, others, later, more, refusals, ending, parts, refusedBefore, ends, events⟩ :=
            ih (socket + 1) (reasons ++ [attemptReason address trouble]) between
          refine ⟨address :: tried, others, later, _, own ++ refusals, ending, ?_,
            .next left refusal isSystem refusedBefore, ?_, ?_⟩
          · rw [parts, List.cons_append]
          · have place : socket + (address :: tried).length = socket + 1 + tried.length := by
              rw [List.length_cons]
              omega
            rw [openFrom_next left refused, place]
            dsimp only
            rw [passes]
            simpa using ends
          · rw [openFrom_next left refused]
            dsimp only
            rw [passes, Journal.events_append, calls, events, List.append_assoc]
        | none =>
          rw [openFrom_last left refused]
          cases result : (attempt sockets socket address remaining clock).outcome with
          | error fault => exact here (by rw [result]; exact .broken left fares result refused) rfl
          | ok opening =>
            obtain ⟨seconds, later, fits, accepts, rfl, calls⟩ := attempt_taken result
            exact here (by rw [result]; exact .taken left fits accepts) calls

/-! What is set, said and tried. -/

/-- The deadline is over before the addresses are. -/
def Stopped (sockets : Sockets) (deadline : Number) (addresses : List Address) (clock : Number) : Prop :=
  ∃ tried address others later reasons refusals remaining,
    addresses = tried ++ address :: others ∧
      Refused sockets deadline 0 tried clock later reasons refusals ∧
      deadline.sub later = .ok remaining ∧ remaining.isAtMostZero = true

/-- A timeout is positive. Only sockets that take any double take one that is no number. -/
def Sockets.Waits (sockets : Sockets) (seconds : Double) : Prop :=
  seconds.isPositive = true ∨ sockets = .noting ∧ seconds = .nan

/-- A timeout that is set is one for which the sockets wait. -/
def Event.Patient (sockets : Sockets) (event : Event) : Prop :=
  ∀ socket seconds, event = .setTimeout socket seconds → sockets.Waits seconds

section Patient

variable {deadline clock later remaining : Number} {address : Address} {addresses : List Address}
  {socket : Nat} {reasons : List Text} {events : List Event}

theorem Address.patient_calls {seconds : Double} (left : Left deadline clock remaining)
    (fits : sockets.timeout? remaining = .ok seconds) (succeeded : Bool) :
    ∀ event ∈ address.calls socket seconds succeeded, event.Patient sockets := by
  simp only [Address.calls, List.forall_mem_cons, List.not_mem_nil, false_implies, implies_true,
    and_true]
  refine ⟨by simp [Event.Patient], ?_, by simp [Event.Patient]⟩
  rintro _ _ ⟨⟩
  obtain ⟨whole, noting⟩ := Sockets.timeout?_ok fits
  rcases Number.toDouble_positive left.inTime whole with rfl | positive
  · exact Or.inr ⟨noting rfl, (Except.ok.inj whole).symm⟩
  · exact Or.inl positive

theorem Refused.patient (refused : Refused sockets deadline socket addresses clock later reasons events) :
    ∀ event ∈ events, event.Patient sockets := by
  induction refused with
  | nil => simp
  | next left refusal isSystem _ ih =>
    rw [List.forall_mem_append]
    refine ⟨?_, ih⟩
    cases refusal with
    | uncreated refused => simp [Event.Patient]
    | unconnected made fits refused passes =>
      rw [List.forall_mem_append]
      exact ⟨Address.patient_calls left fits false, by simp [Event.Patient]⟩

theorem Ends.patient {outcome : Except Fault Opening}
    (ends : Ends sockets deadline socket clock reasons addresses outcome events) :
    ∀ event ∈ events, event.Patient sockets := by
  cases ends with
  | exhausted | late | uncountable => simp
  | taken left fits accepts => exact Address.patient_calls left fits true
  | broken left fares failed foreign =>
    cases fares with
    | uncreated | untimed => simp [Event.Patient]
    | uncounted made fits | unconnected made fits | connected fits =>
      rw [Journal.events_map_event]
      exact Address.patient_calls left fits _

end Patient

/-- A reason tells the address, so that it is not mistaken for the end of the time. -/
theorem Refused.colon_mem_reason {deadline clock later : Number} {socket : Nat}
    {addresses : List Address} {reasons : List Text} {events : List Event}
    (refused : Refused sockets deadline socket addresses clock later reasons events) :
    ∀ reason ∈ reasons, ':' ∈ reason := by
  induction refused with
  | nil => simp
  | next _ _ _ _ ih =>
    rw [List.forall_mem_cons]
    exact ⟨by simp [attemptReason], ih⟩

theorem Refused.length_reasons {deadline clock later : Number} {socket : Nat}
    {addresses : List Address} {reasons : List Text} {events : List Event}
    (refused : Refused sockets deadline socket addresses clock later reasons events) :
    reasons.length = addresses.length := by
  induction refused with
  | nil => rfl
  | next _ _ _ _ ih => rw [List.length_cons, List.length_cons, ih]

theorem openFrom_late {deadline clock remaining : Number}
    (difference : deadline.sub clock = .ok remaining) (ended : remaining.isAtMostZero = true)
    (socket : Nat) (reasons : List Text) (address : Address) (rest : List Address) :
    (openFrom sockets deadline socket reasons (address :: rest) clock).outcome =
      .error (.exchange (.unconnected (reasons ++ ["timed out".toList]))) := by
  rw [openFrom, difference]
  dsimp only
  rw [if_pos ended]

/-- An address whose turn comes in time is tried. -/
theorem openFrom_tries (sockets : Sockets) {deadline clock remaining : Number}
    (left : Left deadline clock remaining) (socket : Nat) (reasons : List Text) (address : Address) (rest : List Address) :
    .create socket address.family address.creation.isNone ∈
      (openFrom sockets deadline socket reasons (address :: rest) clock).journal.events := by
  have tries : .create socket address.family address.creation.isNone ∈
      (attempt sockets socket address remaining clock).journal.events := by
    have fares := attempt_fares sockets address socket remaining clock
    generalize attempt sockets socket address remaining clock = step at fares
    cases fares with
    | uncreated refused => simp [refused]
    | untimed made => simp [made]
    | uncounted made | unconnected made => simp [made, Address.calls]
    | connected _ accepts => simp [accepts.made, Address.calls]
  cases refused : (attempt sockets socket address remaining clock).systemTrouble? with
  | some trouble =>
    rw [openFrom_next left refused]
    dsimp only
    rw [Journal.events_append, Journal.events_append]
    exact List.mem_append_left _ (List.mem_append_left _ tries)
  | none =>
    rw [openFrom_last left refused]
    exact tries

section Message

variable {deadline clock : Number} {addresses : List Address} {reasons : List Text}
  (failed : (openFirst deadline addresses clock sockets).outcome =
    .error (.exchange (.unconnected reasons)))

include failed

/-- The reasons with which a search fails. -/
theorem openFirst_reasons : ∃ tried rest later more refusals,
    addresses = tried ++ rest ∧ Refused sockets deadline 0 tried clock later more refusals ∧
      (rest = [] ∧ reasons = more ∨
        rest ≠ [] ∧ reasons = more ++ ["timed out".toList] ∧ Stopped sockets deadline addresses clock) := by
  obtain ⟨tried, rest, later, more, refusals, ending, parts, refused, ends, _⟩ :=
    openFrom_searches sockets deadline 0 [] addresses clock
  rw [openFirst] at failed
  rw [failed, List.nil_append] at ends
  refine ⟨tried, rest, later, more, refusals, parts, refused, ?_⟩
  cases ends with
  | exhausted => exact Or.inl ⟨rfl, rfl⟩
  | late difference ended =>
    have stopped : Stopped sockets deadline addresses clock :=
      ⟨tried, _, _, later, more, refusals, _, parts, refused, difference, ended⟩
    exact Or.inr ⟨by simp, rfl, stopped⟩
  | broken left fares broken foreign =>
    cases fares <;> cases broken

theorem openFirst_stopped : "timed out".toList ∈ reasons ↔ Stopped sockets deadline addresses clock := by
  constructor
  · intro member
    obtain ⟨tried, rest, later, more, refusals, _, refused, ⟨_, same⟩ | ⟨_, _, stopped⟩⟩ :=
      openFirst_reasons failed
    · rw [same] at member
      exact absurd (refused.colon_mem_reason _ member) (by decide)
    · exact stopped
  · rintro ⟨tried, address, others, later, more, refusals, remaining, parts, refused, difference, ended⟩
    obtain ⟨outcome, _⟩ := openFrom_refused_append refused [] (address :: others)
    rw [openFirst, parts, outcome, openFrom_late difference ended] at failed
    cases failed
    simp

/-- No reason reads as if there were no address. -/
theorem openFirst_reason_tells :
    ∀ reason ∈ reasons, ∃ c ∈ reason, c ∉ "; ".toList ∧ c ∉ "no address".toList := by
  obtain ⟨tried, rest, later, more, refusals, _, refused, ends⟩ := openFirst_reasons failed
  have own : ∀ reason ∈ more, ∃ c ∈ reason, c ∉ "; ".toList ∧ c ∉ "no address".toList :=
    fun reason member => ⟨':', refused.colon_mem_reason reason member, by decide, by decide⟩
  rcases ends with ⟨_, rfl⟩ | ⟨_, rfl, _⟩
  · exact own
  · rw [List.forall_mem_append, List.forall_mem_singleton]
    exact ⟨own, 'm', by decide, by decide, by decide⟩

theorem openFirst_reasons_nil : reasons = [] ↔ addresses = [] := by
  obtain ⟨tried, rest, later, more, refusals, rfl, refused, ends⟩ := openFirst_reasons failed
  have size := refused.length_reasons
  rcases ends with ⟨rfl, rfl⟩ | ⟨some, rfl, _⟩
  · rw [List.append_nil, ← List.length_eq_zero_iff, size, List.length_eq_zero_iff]
  · simp [some]

theorem openFirst_message_some (some : addresses ≠ []) :
    (ExchangeFailure.unconnected reasons).message =
      "Connection failed (" ++ List.intercalate "; " reasons ++ ")" := by
  have listed : reasons ≠ [] := fun void => some ((openFirst_reasons_nil failed).mp void)
  unfold ExchangeFailure.message
  dsimp only
  rw [if_neg (by simpa using listed)]

theorem openFirst_message :
    (ExchangeFailure.unconnected reasons).message = "Connection failed (no address)" ↔
      addresses = [] := by
  constructor
  · intro message
    apply Classical.byContradiction
    intro some
    obtain ⟨reason, others, listed⟩ :=
      List.exists_cons_of_ne_nil fun void => some ((openFirst_reasons_nil failed).mp void)
    have first : reason ∈ reasons := by rw [listed]; exact List.mem_cons_self
    -- Some character of a reason stands neither between two of them nor in the other message.
    obtain ⟨c, member, between, absent⟩ := openFirst_reason_tells failed reason first
    have told := (Text.mem_intercalate between).mpr ⟨reason, first, member⟩
    have parts : "Connection failed (no address)".toList =
        "Connection failed (".toList ++ "no address".toList ++ ")".toList := by decide
    have whole := openFirst_message_some failed some
    rw [message, parts] at whole
    rw [← List.append_cancel_left (List.append_cancel_right whole)] at told
    exact absurd told absent
  · intro void
    obtain rfl := (openFirst_reasons_nil failed).mpr void
    rfl

end Message

/-! Timeouts that are refused. -/

/-- An address gets its turn in time and a socket, but the sockets do not take what is left as a
timeout. -/
def Untimed (sockets : Sockets) (deadline : Number) (addresses : List Address) (clock : Number) :
    Prop :=
  ∃ tried address others later reasons refusals remaining cause,
    addresses = tried ++ address :: others ∧
      Refused sockets deadline 0 tried clock later reasons refusals ∧ Left deadline later remaining ∧
      address.creation = none ∧ sockets.timeout? remaining = .error cause

theorem Refused.size_le {deadline clock later : Number} {socket : Nat} {addresses : List Address}
    {reasons : List Text} {events : List Event}
    (refused : Refused sockets deadline socket addresses clock later reasons events) :
    later.size ≤ clock.size + counted (addresses.map (·.connection.delay)) := by
  induction refused with
  | nil => exact Nat.le_add_right _ _
  | next left refusal isSystem _ ih =>
    rw [List.map_cons, counted_cons]
    cases refusal with
    | uncreated => omega
    | unconnected made fits refused passes =>
      have passed := Number.counts_add.size_le passes
      omega

theorem openFrom_unset {deadline clock remaining : Number} {address : Address} {cause : OutOfRange}
    (left : Left deadline clock remaining) (made : address.creation = none)
    (beyond : sockets.timeout? remaining = .error cause) (socket : Nat) (reasons : List Text)
    (rest : List Address) :
    (openFrom sockets deadline socket reasons (address :: rest) clock).outcome =
      .error (.outOfRange cause) := by
  have failed : (attempt sockets socket address remaining clock).outcome = .error (.outOfRange cause) :=
    attempt_untimed made beyond socket
  have foreign : (attempt sockets socket address remaining clock).systemTrouble? = none := by
    rw [Timed.systemTrouble?, failed]
  rw [openFrom_last left foreign, failed]

section Untimed

variable {deadline clock : Number} {addresses : List Address}

theorem Untimed.uncountable (untimed : Untimed sockets deadline addresses clock) :
    Uncountable (openFirst deadline addresses clock sockets).outcome := by
  obtain ⟨tried, address, others, later, reasons, refusals, remaining, cause, rfl, refused, left, made,
    beyond⟩ := untimed
  obtain ⟨outcome, _⟩ := openFrom_refused_append refused [] (address :: others)
  refine ⟨cause, ?_⟩
  rw [openFirst, outcome, openFrom_unset left made beyond]

/-- Where all times can be counted, only a timeout that is refused keeps a search from telling why it
failed. -/
theorem openFirst_uncountable (sockets : Sockets)
    (small : deadline.size + clock.size + counted (addresses.map (·.connection.delay)) < Double.limit) :
    Uncountable (openFirst deadline addresses clock sockets).outcome ↔
      Untimed sockets deadline addresses clock := by
  refine ⟨?_, Untimed.uncountable⟩
  rintro ⟨cause, failed⟩
  obtain ⟨tried, rest, later, more, refusals, ending, rfl, refused, ends, _⟩ :=
    openFrom_searches sockets deadline 0 [] addresses clock
  rw [openFirst] at failed
  rw [failed] at ends
  have counts := refused.size_le
  -- A search that told why it failed, or found an address, has not ended in this fault.
  cases ends with
  | uncountable beyond =>
    simp only [List.map_append, List.map_cons, counted_append, counted_cons] at small
    obtain ⟨remaining, left, _⟩ := Number.counts_sub.gives deadline later (by omega)
    rw [left] at beyond
    cases beyond
  | @broken address _ _ _ _ left fares broken foreign =>
    simp only [List.map_append, List.map_cons, counted_append, counted_cons] at small
    cases fares with
    | untimed made beyond =>
      exact ⟨tried, _, _, later, more, refusals, _, _, rfl, refused, left, made, beyond⟩
    | uncounted made fits beyond =>
      obtain ⟨between, passes, _⟩ := Number.counts_add.gives later address.connection.delay (by omega)
      rw [passes] at beyond
      cases beyond
    | uncreated | unconnected | connected => cases broken

end Untimed

/-- Addresses are tried in their order, each as long as time is left, and the first that takes the
connection is the result. One that refuses leaves one reason and keeps none behind it from being
tried. A search ends in no other way than with an address or with the reasons, unless the sockets refuse
what is left as a timeout, or an integer is too large for a double. -/
theorem openFirst_tries_in_order (sockets : Sockets) (deadline : Number) (addresses : List Address)
    (clock : Number) :
    let search := openFirst deadline addresses clock sockets
    Searches sockets deadline 0 [] addresses clock search ∧
    (∀ socket seconds, .setTimeout socket seconds ∈ search.journal.events →
      seconds.isPositive = true ∨ sockets = .noting ∧ seconds = .nan) ∧
    (∀ reasons, search.outcome = .error (.exchange (.unconnected reasons)) →
      let message := (ExchangeFailure.unconnected reasons).message
      ("timed out".toList ∈ reasons ↔ Stopped sockets deadline addresses clock) ∧
      (message = "Connection failed (no address)" ↔ addresses = []) ∧
      (addresses ≠ [] →
        message = "Connection failed (" ++ List.intercalate "; " reasons ++ ")")) ∧
    (∀ tried address others later reasons refusals remaining,
      addresses = tried ++ address :: others →
      Refused sockets deadline 0 tried clock later reasons refusals → Left deadline later remaining →
        .create tried.length address.family address.creation.isNone ∈ search.journal.events) ∧
    ((∀ address ∈ addresses, address.Ordinary) →
      (∃ opening, search.outcome = .ok opening) ∨
        (∃ reasons, search.outcome = .error (.exchange (.unconnected reasons))) ∨
          Uncountable search.outcome) ∧
    (deadline.size + clock.size + counted (addresses.map (·.connection.delay)) < Double.limit →
      (Uncountable search.outcome ↔ Untimed sockets deadline addresses clock) ∧
        (sockets = .noting → ¬ Uncountable search.outcome)) := by
  have searches := openFrom_searches sockets deadline 0 [] addresses clock
  refine ⟨searches, ?positive, ?reasons, ?tried, ?ends, ?small⟩
  case positive =>
    intro socket seconds member
    obtain ⟨tried, rest, later, more, refusals, ending, _, refused, ends, events⟩ := searches
    rw [openFirst, events] at member
    rcases List.mem_append.mp member with early | late
    · exact refused.patient _ early socket seconds rfl
    · exact ends.patient _ late socket seconds rfl
  case reasons =>
    intro reasons failed message
    exact ⟨openFirst_stopped failed, openFirst_message failed, openFirst_message_some failed⟩
  case tried =>
    rintro tried address others later reasons refusals remaining rfl refused left
    obtain ⟨_, events⟩ := openFrom_refused_append refused [] (address :: others)
    rw [openFirst, events]
    have tries := openFrom_tries sockets left (0 + tried.length) ([] ++ reasons) address others
    rw [Nat.zero_add] at tries ⊢
    exact List.mem_append_right _ tries
  case ends =>
    intro ordinary
    -- Whether some address would take the connection in time decides between the first two ends.
    by_cases connects : ∃ later, Connects sockets deadline addresses clock later
    · obtain ⟨later, connects⟩ := connects
      obtain ⟨opening, opened, _⟩ := openFrom_connects ordinary connects 0 []
      exact Or.inl ⟨opening, opened⟩
    · exact Or.inr (openFrom_refused ordinary (fun later found => connects ⟨later, found⟩) 0 [])
  case small =>
    intro small
    refine ⟨openFirst_uncountable sockets small, ?_⟩
    rintro rfl
    exact (counts_openFrom small 0 []).counted

/-- No socket for the first address, no connection to the second, and the third is tried in time. -/
theorem openFirst_tries_third :
    let unsupported : Trouble := .system 97 "Address family not supported by protocol"
    let refusal : Trouble := .system 111 "Connection refused"
    let first : Address :=
      { family := .inet6, host := "::1", port := 80, creation := some unsupported }
    let second : Address :=
      { family := .inet, host := "192.0.2.1", port := 80,
        connection := { delay := .int 2, trouble := some refusal } }
    let third : Address := { family := .inet, host := "192.0.2.2", port := 80 }
    let reasons := [attemptReason first unsupported, attemptReason second refusal]
    let seconds : Double := .ofRatio false 10 1
    let refusals := [.create 0 .inet6 false] ++ (second.calls 1 seconds false ++ [.close 1] ++ [])
    let search := openFirst (.int 10) [first, second, third] (.int 0) .counting
    Refused .counting (.int 10) 0 [first, second] (.int 0) (.int 2) reasons refusals ∧
      Left (.int 10) (.int 2) (.int 8) ∧ .create 2 .inet true ∈ search.journal.events ∧
      (∀ socket seconds, .setTimeout socket seconds ∈ search.journal.events →
        seconds.isPositive = true) ∧
      ¬ Untimed .counting (.int 10) [first, second, third] (.int 0) ∧
      search.outcome = .ok ⟨2, "192.0.2.2", 80⟩ := by
  intro unsupported refusal first second third reasons seconds refusals search
  have ten : Left (.int 10) (.int 0) (.int 10) := ⟨rfl, rfl⟩
  have eight : Left (.int 10) (.int 2) (.int 8) := ⟨rfl, rfl⟩
  have fits : Sockets.counting.timeout? (.int 10) = .ok seconds := by decide +kernel
  have refused : Refused .counting (.int 10) 0 [first, second] (.int 0) (.int 2) reasons refusals :=
    .next ten (.uncreated rfl) rfl (.next ten (.unconnected rfl fits rfl rfl) rfl (.nil 2 (.int 2)))
  have found : search.outcome = .ok ⟨2, "192.0.2.2", 80⟩ := by decide +kernel
  obtain ⟨_, positive, _, tried, _, small⟩ :=
    openFirst_tries_in_order .counting (.int 10) [first, second, third] (.int 0)
  have tries :=
    tried [first, second] third [] (.int 2) reasons refusals (.int 8) rfl refused eight
  refine ⟨refused, eight, tries, ?_, ?_, found⟩
  · intro socket seconds member
    simpa using positive socket seconds member
  · rw [← (small (by decide +kernel)).1]
    rintro ⟨cause, failed⟩
    cases found.symm.trans failed

/-- Sockets that count nanoseconds take no timeout of ten thousand million seconds and none without end:
the search neither finds the address nor tells why it did not. Sockets that take any double wait a time
that is no number for an undefined deadline, which is never over, and an integer too large for a double
cannot be compared with a clock that is one. -/
theorem openFirst_without_positive_timeout :
    let address : Address := { family := .inet, host := "192.0.2.1", port := 80 }
    let start : Number := .real (.zero false)
    let far := openFirst (.real (.ofRatio false (Power.ten 10) 1)) [address] start .counting
    let endless := openFirst (.real (.infinite false)) [address] start .counting
    let undefined := openFirst (.real .nan) [address] (.int 0)
    let beyond := openFirst (.int Double.limit) [address] start
    far.outcome = .error (.outOfRange .doubleAsTime) ∧
      endless.outcome = .error (.outOfRange .doubleAsTime) ∧
      undefined.journal.events =
        [.create 0 .inet true, .setTimeout 0 .nan, .connect 0 "192.0.2.1" 80 true] ∧
      Double.isPositive .nan = false ∧
      beyond.outcome = .error (.outOfRange .tooLargeForDouble) := by
  intro address start far endless undefined beyond
  have uncountable :
      (Number.int Double.limit).sub (.real (.zero false)) = .error .tooLargeForDouble := by
    rw [Number.sub, Number.toDouble_beyond (Nat.le_of_eq (Int.natAbs_natCast _).symm)]
    · rfl
    · intro _ _ _ integer
      cases integer
  have far_refused : Sockets.counting.timeout? (.real (.ofRatio false (Power.ten 10) 1)) =
      .error .doubleAsTime := rfl
  have endless_refused : Sockets.counting.timeout? (.real (.infinite false)) =
      .error .doubleAsTime := rfl
  refine ⟨?_, ?_, by decide +kernel, rfl, ?_⟩
  · exact openFrom_unset ⟨by decide +kernel, by decide +kernel⟩ rfl far_refused 0 [] []
  · exact openFrom_unset ⟨rfl, rfl⟩ rfl endless_refused 0 [] []
  unfold beyond openFirst
  rw [openFrom, uncountable]

end Network
end ServiceProbe
