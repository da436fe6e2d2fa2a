import ServiceProbe.Proofs.Arrival
/-!
Which address takes the connection. Addresses are tried in order, each as long as the deadline is not
over when its attempt begins, and the first that takes the connection ends the search.
-/
namespace ServiceProbe.Network

/-- An attempt begins: the deadline is not over, and what is left of it can be set as a timeout. -/
def Begins (sockets : Sockets) (deadline clock : Number) : Prop :=
  ∃ remaining seconds, deadline.sub clock = .ok remaining ∧ remaining.isAtMostZero = false ∧
    sockets.timeout? remaining = .ok seconds

/-- An attempt at an address fails, at once without a socket or else when connecting ends. -/
inductive Address.Refuses (address : Address) : (clock later : Number) → Prop
  | uncreated {trouble : Trouble} (refused : address.creation = some trouble) (clock : Number) :
    Refuses address clock clock
  | unconnected {trouble : Trouble} {clock later : Number} (made : address.creation = none)
      (refused : address.connection.trouble = some trouble)
      (passes : clock.add address.connection.delay = .ok later) :
    Refuses address clock later

/-- An attempt at an address succeeds. -/
structure Address.Accepts (address : Address) (clock later : Number) : Prop where
  made : address.creation = none
  taken : address.connection.trouble = none
  passes : clock.add address.connection.delay = .ok later

/-- An attempt that begins before the deadline succeeds, behind others that failed. -/
inductive Connects (sockets : Sockets) (deadline : Number) : List Address → (clock later : Number) → Prop
  | here {address : Address} {clock later : Number} (begins : Begins sockets deadline clock)
      (accepts : address.Accepts clock later) (rest : List Address) :
    Connects sockets deadline (address :: rest) clock later
  | next {address : Address} {rest : List Address} {clock between later : Number}
      (begins : Begins sockets deadline clock) (refuses : address.Refuses clock between)
      (connects : Connects sockets deadline rest between later) :
    Connects sockets deadline (address :: rest) clock later

/-- Without a socket or a connection there is an error of the system. -/
structure Address.Ordinary (address : Address) : Prop where
  creation : ∀ trouble ∈ address.creation, trouble.isSystem = true
  connection : ∀ trouble ∈ address.connection.trouble, trouble.isSystem = true

/-- A step failed over a time that cannot be counted, or over a timeout that cannot be set. -/
def Uncountable {α : Type} (outcome : Except Fault α) : Prop :=
  ∃ cause, outcome = .error (.outOfRange cause)

variable {sockets : Sockets}

/-! A call. -/

section Call

variable {course : Course} {clock later : Number} (passes : clock.add course.delay = .ok later)

include passes

theorem call_ok (fine : course.trouble = none) (event : Event) (meaning : Trouble → Fault) :
    call event course meaning clock = ⟨[.event event], later, .ok ()⟩ := by
  rw [call, passes]
  simp [fine]

theorem call_error {trouble : Trouble} (failed : course.trouble = some trouble) (event : Event)
    (meaning : Trouble → Fault) :
    call event course meaning clock = ⟨[.event event], later, .error (meaning trouble)⟩ := by
  rw [call, passes]
  simp [failed]

omit passes in
theorem call_uncountable {cause : OutOfRange} (beyond : clock.add course.delay = .error cause)
    (event : Event) (meaning : Trouble → Fault) :
    call event course meaning clock = ⟨[.event event], clock, .error (.outOfRange cause)⟩ := by
  rw [call, beyond]

end Call

/-! An attempt. -/

section Attempt

variable {address : Address} {clock later remaining : Number} {seconds : Double}

theorem attempt_accepts (accepts : address.Accepts clock later)
    (fits : sockets.timeout? remaining = .ok seconds) (socket : Nat) :
    (attempt sockets socket address remaining clock).outcome = .ok ⟨socket, address.host, address.port⟩ ∧
      (attempt sockets socket address remaining clock).clock = later := by
  simp only [attempt, accepts.made]
  rw [Timed.note_andThen, setTimeout_eq fits, Timed.andThen_ok rfl,
    call_ok accepts.passes accepts.taken, Timed.andThen_ok rfl]
  exact ⟨rfl, rfl⟩

theorem attempt_refuses (refuses : address.Refuses clock later) (ordinary : address.Ordinary)
    (fits : sockets.timeout? remaining = .ok seconds) (socket : Nat) :
    ∃ trouble, trouble.isSystem = true ∧
      (attempt sockets socket address remaining clock).outcome = .error (.network trouble) ∧
      (attempt sockets socket address remaining clock).clock = later := by
  cases refuses with
  | uncreated refused =>
    rw [attempt_uncreated refused]
    exact ⟨_, ordinary.creation _ refused, rfl, rfl⟩
  | unconnected made refused passes =>
    simp only [attempt, made]
    rw [Timed.note_andThen, setTimeout_eq fits, Timed.andThen_ok rfl, call_error passes refused,
      Timed.andThen_error rfl]
    exact ⟨_, ordinary.connection _ refused, rfl, rfl⟩

/-- An attempt ends in one way or the other, unless the clock cannot be set past it. -/
theorem Address.accepts_or_refuses (address : Address) (clock : Number) :
    (∃ later, address.Accepts clock later ∨ address.Refuses clock later) ∨
      ∃ cause, address.creation = none ∧ clock.add address.connection.delay = .error cause := by
  cases made : address.creation with
  | some trouble => exact Or.inl ⟨clock, Or.inr (.uncreated made clock)⟩
  | none =>
    cases passes : clock.add address.connection.delay with
    | error cause => exact Or.inr ⟨cause, rfl, rfl⟩
    | ok later =>
      refine Or.inl ⟨later, ?_⟩
      cases taken : address.connection.trouble with
      | some trouble => exact Or.inr (.unconnected made taken passes)
      | none => exact Or.inl ⟨made, taken, passes⟩

theorem attempt_untimed {cause : OutOfRange} (made : address.creation = none)
    (beyond : sockets.timeout? remaining = .error cause) (socket : Nat) :
    (attempt sockets socket address remaining clock).outcome = .error (.outOfRange cause) := by
  simp only [attempt, made]
  rw [Timed.note_andThen, setTimeout, beyond, Timed.compute_error, Timed.andThen_error rfl]

theorem attempt_uncounted {cause : OutOfRange} (made : address.creation = none)
    (fits : sockets.timeout? remaining = .ok seconds)
    (beyond : clock.add address.connection.delay = .error cause) (socket : Nat) :
    (attempt sockets socket address remaining clock).outcome = .error (.outOfRange cause) := by
  simp only [attempt, made]
  rw [Timed.note_andThen, setTimeout_eq fits, Timed.andThen_ok rfl, call_uncountable beyond,
    Timed.andThen_error rfl]

end Attempt

/-! The search. -/

section Search

variable {deadline : Number} {addresses : List Address}
  (ordinary : ∀ address ∈ addresses, address.Ordinary)

include ordinary

theorem openFrom_connects {clock later : Number}
    (connects : Connects sockets deadline addresses clock later) (socket : Nat) (reasons : List Text) :
    ∃ opening, (openFrom sockets deadline socket reasons addresses clock).outcome = .ok opening ∧
      (openFrom sockets deadline socket reasons addresses clock).clock = later := by
  induction connects generalizing socket reasons with
  | here begins accepts rest =>
    obtain ⟨remaining, seconds, left, inTime, fits⟩ := begins
    obtain ⟨found, time⟩ := attempt_accepts accepts fits socket
    rw [openFrom, left]
    dsimp only
    rw [if_neg (by simp [inTime]), found]
    exact ⟨_, found, time⟩
  | next begins refuses connects ih =>
    obtain ⟨remaining, seconds, left, inTime, fits⟩ := begins
    obtain ⟨own, others⟩ := List.forall_mem_cons.mp ordinary
    obtain ⟨trouble, isSystem, failed, time⟩ := attempt_refuses refuses own fits socket
    rw [openFrom, left]
    dsimp only
    rw [if_neg (by simp [inTime]), failed]
    dsimp only
    rw [if_pos isSystem, time]
    exact ih others _ _

/-- What is left of the time cannot be set: the first socket that is created ends the search. -/
theorem openFrom_untimed {clock remaining : Number} {cause : OutOfRange}
    (left : deadline.sub clock = .ok remaining) (inTime : remaining.isAtMostZero = false)
    (beyond : sockets.timeout? remaining = .error cause) (socket : Nat) (reasons : List Text) :
    (∃ reasons', (openFrom sockets deadline socket reasons addresses clock).outcome =
        .error (.exchange (.unconnected reasons'))) ∨
      Uncountable (openFrom sockets deadline socket reasons addresses clock).outcome := by
  induction addresses generalizing socket reasons with
  | nil => exact Or.inl ⟨reasons, rfl⟩
  | cons address rest ih =>
    obtain ⟨own, others⟩ := List.forall_mem_cons.mp ordinary
    rw [openFrom, left]
    dsimp only
    rw [if_neg (by simp [inTime])]
    cases made : address.creation with
    | some trouble =>
      rw [attempt_uncreated made]
      dsimp only
      rw [if_pos (own.creation trouble made)]
      exact ih others _ _
    | none =>
      rw [attempt_untimed made beyond]
      exact Or.inr ⟨cause, attempt_untimed made beyond socket⟩

/-- If no attempt succeeds that begins before the deadline, all that is left are the reasons, or a time
was out of range. -/
theorem openFrom_refused {clock : Number}
    (refused : ∀ later, ¬ Connects sockets deadline addresses clock later) (socket : Nat)
    (reasons : List Text) :
    (∃ reasons', (openFrom sockets deadline socket reasons addresses clock).outcome =
        .error (.exchange (.unconnected reasons'))) ∨
      Uncountable (openFrom sockets deadline socket reasons addresses clock).outcome := by
  induction addresses generalizing clock socket reasons with
  | nil => exact Or.inl ⟨reasons, rfl⟩
  | cons address rest ih =>
    obtain ⟨own, others⟩ := List.forall_mem_cons.mp ordinary
    cases left : deadline.sub clock with
    | error cause =>
      rw [openFrom, left]
      exact Or.inr ⟨cause, rfl⟩
    | ok remaining =>
      cases inTime : remaining.isAtMostZero with
      | true =>
        rw [openFrom, left]
        dsimp only
        rw [if_pos inTime]
        exact Or.inl ⟨_, rfl⟩
      | false =>
        cases fits : sockets.timeout? remaining with
        | error cause => exact openFrom_untimed ordinary left inTime fits socket reasons
        | ok seconds =>
          have begins : Begins sockets deadline clock := ⟨remaining, seconds, left, inTime, fits⟩
          rw [openFrom, left]
          dsimp only
          rw [if_neg (by simp [inTime])]
          rcases address.accepts_or_refuses clock with ⟨between, accepts | refuses⟩ | ⟨cause, made, beyond⟩
          · exact absurd (.here begins accepts rest) (refused between)
          · obtain ⟨trouble, isSystem, failed, time⟩ := attempt_refuses refuses own fits socket
            rw [failed]
            dsimp only
            rw [if_pos isSystem, time]
            -- The next address is refused too: if it took the connection, so would the search from
            -- here.
            exact ih others (fun later connects => refused later (.next begins refuses connects)) _ _
          · have failed := attempt_uncounted made fits beyond socket
            rw [failed]
            exact Or.inr ⟨cause, failed⟩

end Search

end ServiceProbe.Network
