import ServiceProbe.Proofs.Opening
/-!
The order of the calls of an exchange. An exchange goes through stages: it searches for an address,
makes the connection secure if asked to, sends and reads. Each call is a step from one stage to a
stage that is not before it, so that the stage at a call tells what was done before it and what can
still be done.
-/
namespace ServiceProbe

namespace Network

namespace Event

def isSend : Event → Bool
  | .send _ _ _ => true
  | _ => false

/-- Whether a call tries an address. -/
def isAttempt : Event → Bool
  | .create _ _ _ => true
  | .connect _ _ _ _ => true
  | _ => false

/-- Whether a call is made to talk to the peer of a connection. -/
def isTalk : Event → Bool
  | .wrap _ _ _ _ => true
  | .send _ _ _ => true
  | .receive _ _ _ => true
  | _ => false

/-- Whether a call is a handshake or a sending that failed. -/
def breaksOff : Event → Bool
  | .wrap _ _ _ false => true
  | .send _ _ false => true
  | _ => false

end Event

/-- Of the sockets created before, the last one is connected. `since` is what was done after that. -/
def Connected (socket : Nat) (before since : List Event) : Prop :=
  ∃ earlier family between host port,
    before = earlier ++ .create socket family true :: between ++
      .connect socket host port true :: since ∧
    ∀ event ∈ between ++ since, event.opened? = none

/-- The last socket is connected, and secured without checks if TLS is asked for. -/
def Prepared (wire : Wire) (socket : Nat) (before : List Event) : Prop :=
  ∃ since, Connected socket before since ∧
    (wire.tls = true → ∃ name, .wrap socket name ⟨false, false⟩ true ∈ since)

/-- Calls in the order of an exchange. -/
structure Orderly (wire : Wire) (events : List Event) : Prop where
  once : events.countP Event.isSend ≤ 1
  sends : ∀ before socket payload succeeded after,
    events = before ++ .send socket payload succeeded :: after →
      payload = wire.payload ∧ Prepared wire socket before
  settles : ∀ before socket host port after,
    events = before ++ .connect socket host port true :: after →
      ∀ later ∈ after, later.isAttempt = false
  stops : ∀ before event after, events = before ++ event :: after → event.breaksOff = true →
    ∀ later ∈ after, later.isAttempt = false ∧ later.isTalk = false
  asks : ∀ before socket size delivered after,
    events = before ++ .receive socket size delivered :: after →
      .send socket wire.payload true ∈ before

/-! Stages. -/

inductive Stage where
  | searching
  | created (socket : Nat)
  /-- Connected, with TLS asked for. -/
  | unsecured (socket : Nat)
  | ready (socket : Nat)
  | asked (socket : Nat)
  /-- Closed with an answer. -/
  | answered
  | finished

namespace Stage

/-- An address that refuses leads back to the search, so that both are of one rank. -/
def rank : Stage → Nat
  | searching => 0
  | created _ => 0
  | unsecured _ => 1
  | ready _ => 2
  | asked _ => 3
  | answered => 4
  | finished => 4

theorem rank_le_finished (stage : Stage) : stage.rank ≤ finished.rank := by
  cases stage <;> simp [rank]

/-- The stage with a connection that was just made. -/
def opened (wire : Wire) (socket : Nat) : Stage := if wire.tls then unsecured socket else ready socket

theorem rank_opened (wire : Wire) (socket : Nat) : 0 < (opened wire socket).rank := by
  unfold opened
  split <;> simp [rank]

end Stage

inductive Step (wire : Wire) : Stage → Event → Stage → Prop
  | lookup (host : Text) (port : Int) (anyFamily stream : Bool) :
    Step wire .searching (.lookup host port anyFamily stream) .searching
  | uncreated (socket : Nat) (family : AddressFamily) :
    Step wire .searching (.create socket family false) .searching
  | created (socket : Nat) (family : AddressFamily) :
    Step wire .searching (.create socket family true) (.created socket)
  | timed (stage : Stage) (socket : Nat) (seconds : Double) :
    Step wire stage (.setTimeout socket seconds) stage
  | unconnected (socket : Nat) (host : Text) (port : Int) :
    Step wire (.created socket) (.connect socket host port false) (.created socket)
  | connected (socket : Nat) (host : Text) (port : Int) :
    Step wire (.created socket) (.connect socket host port true) (.opened wire socket)
  | givenUp (socket : Nat) : Step wire (.created socket) (.close socket) .searching
  | insecure (socket : Nat) (name : Option Text) :
    Step wire (.unsecured socket) (.wrap socket name noChecks false) .finished
  | secured (socket : Nat) (name : Option Text) :
    Step wire (.unsecured socket) (.wrap socket name noChecks true) (.ready socket)
  | unsent (socket : Nat) : Step wire (.ready socket) (.send socket wire.payload false) .finished
  | sent (socket : Nat) : Step wire (.ready socket) (.send socket wire.payload true) (.asked socket)
  | received (socket size : Nat) (delivered : Option Nat) :
    Step wire (.asked socket) (.receive socket size delivered) (.asked socket)
  | answered (socket other : Nat) : Step wire (.asked socket) (.close other) .answered
  | closed {stage : Stage} (settled : 0 < stage.rank) (socket : Nat) :
    Step wire stage (.close socket) .finished

/-- Calls that lead step by step from one stage to another. -/
def Along (wire : Wire) : Stage → List Event → Stage → Prop
  | stage, [], last => stage = last
  | stage, event :: rest, last => ∃ next, Step wire stage event next ∧ Along wire next rest last

variable {wire : Wire} {stage next last : Stage} {event : Event} {events : List Event}

theorem along_append {before after : List Event} :
    Along wire stage (before ++ after) last ↔
      ∃ between, Along wire stage before between ∧ Along wire between after last := by
  induction before generalizing stage with
  | nil => simp [Along]
  | cons event rest ih =>
    simp only [List.cons_append, Along, ih]
    constructor
    · rintro ⟨next, step, between, early, late⟩
      exact ⟨between, ⟨next, step, early⟩, late⟩
    · rintro ⟨between, ⟨next, step, early⟩, late⟩
      exact ⟨next, step, between, early, late⟩

theorem Along.append {before after : List Event} (early : Along wire stage before next)
    (late : Along wire next after last) : Along wire stage (before ++ after) last :=
  along_append.mpr ⟨next, early, late⟩

theorem along_single : Along wire stage [event] last ↔ Step wire stage event last := by
  simp [Along]

theorem along_of_stays (stays : ∀ event ∈ events, Step wire stage event stage) :
    Along wire stage events stage := by
  induction events with
  | nil => rfl
  | cons event rest ih =>
    rw [List.forall_mem_cons] at stays
    exact ⟨stage, stays.1, ih stays.2⟩

/-! What was done before a stage. -/

/-- Of the sockets created before, this is the last. -/
def Latest (socket : Nat) (before : List Event) : Prop :=
  ∃ earlier family since, before = earlier ++ .create socket family true :: since ∧
    ∀ event ∈ since, event.opened? = none

def Past (wire : Wire) (before : List Event) : Stage → Prop
  | .searching => True
  | .created socket => Latest socket before
  | .unsecured socket => ∃ since, Connected socket before since
  | .ready socket => Prepared wire socket before
  | .asked socket => .send socket wire.payload true ∈ before
  | .answered => ∃ socket, .send socket wire.payload true ∈ before
  | .finished => True

section Past

variable {socket : Nat} {before since : List Event}

theorem Latest.snoc (latest : Latest socket before) (other : event.opened? = none) :
    Latest socket (before ++ [event]) := by
  obtain ⟨earlier, family, since, rfl, none⟩ := latest
  refine ⟨earlier, family, since ++ [event], by simp, ?_⟩
  rw [List.forall_mem_append]
  exact ⟨none, by simpa using other⟩

theorem Latest.connected (latest : Latest socket before) (host : Text) (port : Int) :
    Connected socket (before ++ [.connect socket host port true]) [] := by
  obtain ⟨earlier, family, since, rfl, none⟩ := latest
  exact ⟨earlier, family, since, host, port, by simp, by simpa using none⟩

theorem Connected.snoc (connected : Connected socket before since) (other : event.opened? = none) :
    Connected socket (before ++ [event]) (since ++ [event]) := by
  obtain ⟨earlier, family, between, host, port, rfl, none⟩ := connected
  refine ⟨earlier, family, between, host, port, by simp, ?_⟩
  rw [← List.append_assoc, List.forall_mem_append]
  exact ⟨none, by simpa using other⟩

theorem Prepared.snoc (prepared : Prepared wire socket before) (other : event.opened? = none) :
    Prepared wire socket (before ++ [event]) := by
  obtain ⟨since, connected, secured⟩ := prepared
  refine ⟨since ++ [event], connected.snoc other, fun tls => ?_⟩
  obtain ⟨name, wrapped⟩ := secured tls
  exact ⟨name, List.mem_append_left _ wrapped⟩

theorem Step.past (step : Step wire stage event next) (past : Past wire before stage) :
    Past wire (before ++ [event]) next := by
  -- What has been done stays done; only the latest socket and what was done since can change.
  cases step with
  | lookup | uncreated | givenUp | insecure | unsent | closed => trivial
  | created socket family => exact ⟨before, family, [], rfl, by simp⟩
  | timed =>
    cases stage with
    | searching | finished => trivial
    | created => exact Latest.snoc past rfl
    | unsecured =>
      obtain ⟨since, connected⟩ := past
      exact ⟨_, connected.snoc rfl⟩
    | ready => exact Prepared.snoc past rfl
    | asked => exact List.mem_append_left _ past
    | answered =>
      obtain ⟨socket, sent⟩ := past
      exact ⟨socket, List.mem_append_left _ sent⟩
  | unconnected => exact Latest.snoc past rfl
  | connected socket host port =>
    have connected := Latest.connected past host port
    unfold Stage.opened
    split
    · exact ⟨[], connected⟩
    · next plain => exact ⟨[], connected, fun tls => absurd tls plain⟩
  | secured socket name =>
    obtain ⟨since, connected⟩ := past
    exact ⟨_, connected.snoc rfl, fun _ => ⟨name, by simp [noChecks]⟩⟩
  | sent => exact List.mem_append_right _ List.mem_cons_self
  | received => exact List.mem_append_left _ past
  | answered => exact ⟨_, List.mem_append_left _ past⟩

theorem Along.past (along : Along wire stage events last) (past : Past wire before stage) :
    Past wire (before ++ events) last := by
  induction events generalizing stage before with
  | nil =>
    cases along
    rwa [List.append_nil]
  | cons event rest ih =>
    obtain ⟨next, step, later⟩ := along
    rw [List.append_cons]
    exact ih later (step.past past)

end Past

/-! What can be done after a stage. -/

theorem Step.rank_le (step : Step wire stage event next) : stage.rank ≤ next.rank := by
  cases step with
  | timed => exact Nat.le_refl _
  | closed => exact stage.rank_le_finished
  | connected => exact Nat.zero_le _
  | _ => simp [Stage.rank]

theorem Step.rank_of_isAttempt (step : Step wire stage event next)
    (attempts : event.isAttempt = true) : stage.rank = 0 := by
  cases step with
  | uncreated | created | unconnected | connected => rfl
  | _ => cases attempts

theorem Step.rank_of_isTalk (step : Step wire stage event next) (talks : event.isTalk = true) :
    stage.rank < Stage.finished.rank := by
  cases step with
  | insecure | secured | unsent | sent | received => simp [Stage.rank]
  | _ => cases talks

theorem Step.rank_of_isSend (step : Step wire stage event next) (sends : event.isSend = true) :
    stage.rank = 2 ∧ 2 < next.rank := by
  cases step with
  | unsent | sent => simp [Stage.rank]
  | _ => cases sends

theorem Step.finished_of_breaksOff (step : Step wire stage event next)
    (breaks : event.breaksOff = true) : next = .finished := by
  cases step with
  | insecure | unsent => rfl
  | _ => cases breaks

theorem Along.rank_le (along : Along wire stage events last) : stage.rank ≤ last.rank := by
  induction events generalizing stage with
  | nil => exact Nat.le_of_eq (congrArg Stage.rank along)
  | cons event rest ih =>
    obtain ⟨next, step, later⟩ := along
    exact Nat.le_trans step.rank_le (ih later)

/-- A call behind a stage is a step from a stage that is not before it. -/
theorem Along.step_of_mem (along : Along wire stage events last) (member : event ∈ events) :
    ∃ here next, Step wire here event next ∧ stage.rank ≤ here.rank := by
  obtain ⟨before, after, rfl⟩ := List.append_of_mem member
  obtain ⟨here, early, next, step, _⟩ := along_append.mp along
  exact ⟨here, next, step, early.rank_le⟩

theorem Along.no_attempt (along : Along wire stage events last) (settled : 0 < stage.rank) :
    ∀ event ∈ events, event.isAttempt = false := by
  intro event member
  obtain ⟨here, next, step, rank⟩ := along.step_of_mem member
  rw [Bool.eq_false_iff]
  intro attempts
  have none := step.rank_of_isAttempt attempts
  omega

theorem Along.no_talk (along : Along wire .finished events last) :
    ∀ event ∈ events, event.isTalk = false := by
  intro event member
  obtain ⟨here, next, step, rank⟩ := along.step_of_mem member
  rw [Bool.eq_false_iff]
  intro talks
  have before := step.rank_of_isTalk talks
  omega

theorem Along.sends_le (along : Along wire stage events last) : events.countP Event.isSend ≤ 1 := by
  -- The rank of a stage never falls, and a request is sent at one rank only.
  induction events generalizing stage with
  | nil => simp
  | cons event rest ih =>
    obtain ⟨next, step, later⟩ := along
    cases sends : event.isSend with
    | false =>
      rw [List.countP_cons_of_neg (by simp [sends])]
      exact ih later
    | true =>
      have rank := (step.rank_of_isSend sends).2
      have none : rest.countP Event.isSend = 0 := by
        rw [List.countP_eq_zero]
        intro other member again
        obtain ⟨here, _, step, behind⟩ := later.step_of_mem member
        have same := (step.rank_of_isSend again).1
        omega
      exact Nat.le_of_eq (by rw [List.countP_cons_of_pos sends, none])

/-- The stage at a call tells what was done before it, and the stage behind it what is still to come. -/
theorem orderly_of_along (along : Along wire .searching events last) : Orderly wire events where
  once := along.sends_le
  sends := by
    rintro before socket payload succeeded after rfl
    obtain ⟨here, early, next, step, _⟩ := along_append.mp along
    have past : Past wire ([] ++ before) here := early.past trivial
    cases step with
    | unsent | sent => exact ⟨rfl, past⟩
  settles := by
    rintro before socket host port after rfl
    obtain ⟨here, _, next, step, late⟩ := along_append.mp along
    cases step with
    | connected => exact late.no_attempt (Stage.rank_opened wire socket)
  stops := by
    rintro before event after rfl breaks
    obtain ⟨here, _, next, step, late⟩ := along_append.mp along
    obtain rfl := step.finished_of_breaksOff breaks
    exact fun later member => ⟨late.no_attempt (by decide) later member, late.no_talk later member⟩
  asks := by
    rintro before socket size delivered after rfl
    obtain ⟨here, early, next, step, _⟩ := along_append.mp along
    have past : Past wire ([] ++ before) here := early.past trivial
    cases step with
    | received => exact past

/-! The steps of an exchange. -/

/-- Whatever a step does is done in order, and where it gives a value, it has come to a stage. -/
def Timed.Leads {α : Type} (wire : Wire) (stage : Stage) (step : Timed α) (reached : α → Stage) :
    Prop :=
  ∃ last, Along wire stage step.journal.events last ∧
    ∀ value, step.outcome = .ok value → last = reached value

section Leads

variable {α β : Type} {socket : Nat}

theorem Timed.leads_andThen {step : Timed α} {next : α → Number → Timed β} {between : α → Stage}
    {reached : β → Stage} (first : step.Leads wire stage between)
    (later : ∀ value clock, (next value clock).Leads wire (between value) reached) :
    (step.andThen next).Leads wire stage reached := by
  obtain ⟨middle, along, arrives⟩ := first
  cases result : step.outcome with
  | error fault =>
    rw [andThen_error result]
    exact ⟨middle, along, by rintro _ ⟨⟩⟩
  | ok value =>
    obtain rfl := arrives value result
    obtain ⟨last, behind, ends⟩ := later value step.clock
    rw [andThen_ok result]
    exact ⟨last, by simpa using along.append behind, ends⟩

theorem Timed.leads_of_only {step : Timed α}
    (only : step.journal.Only fun event => Step wire stage event stage) :
    step.Leads wire stage fun _ => stage :=
  ⟨stage, along_of_stays only, fun _ _ => rfl⟩

theorem leads_call {event : Bool → Event} {good bad : Stage}
    (succeeds : Step wire stage (event true) good) (fails : Step wire stage (event false) bad)
    (course : Course) (meaning : Trouble → Fault) (clock : Number) :
    (call (event course.succeeds) course meaning clock).Leads wire stage fun _ => good := by
  unfold Timed.Leads
  rw [call_journal, Course.succeeds]
  cases failed : course.trouble with
  | none => exact ⟨good, along_single.mpr succeeds, fun _ _ => rfl⟩
  | some trouble =>
    refine ⟨bad, along_single.mpr fails, fun value found => ?_⟩
    unfold call at found
    split at found
    · cases found
    · simp [failed] at found

theorem leads_setTimeout (sockets : Sockets) (seconds clock : Number) :
    (setTimeout sockets socket seconds clock).Leads wire stage fun _ => stage :=
  Timed.leads_of_only (only_setTimeout (fun _ => .timed _ _ _) seconds clock)

theorem leads_lookUp (script : Script) (host : Text) (port : Int) (clock : Number) :
    (lookUp script host port clock).Leads wire .searching fun _ => .searching := by
  refine ⟨.searching, ?_, fun _ _ => rfl⟩
  rw [lookUp_journal]
  exact along_single.mpr (.lookup _ _ _ _)

theorem leads_secure (script : Script) (opening : Opening) (clock : Number) :
    (secure script wire opening clock).Leads wire (.opened wire opening.socket)
      fun _ => .ready opening.socket := by
  unfold secure Stage.opened
  split
  · apply Timed.leads_andThen (leads_setTimeout _ _ _)
    intro _ clock
    unfold wrapTls
    split
    · exact ⟨_, rfl, by rintro _ ⟨⟩⟩
    · exact leads_call (.secured _ _) (.insecure _ _) _ _ _
  · exact ⟨_, rfl, fun _ _ => rfl⟩

theorem leads_send (script : Script) (connection : Connection) (clock : Number) :
    (connection.send script wire.payload clock).Leads wire (.ready connection.socket)
      fun _ => .asked connection.socket :=
  Timed.leads_andThen (leads_setTimeout _ _ _) fun _ _ => leads_call (.sent _) (.unsent _) _ _ _

theorem leads_converse (script : Script) (wire : Wire) (opening : Opening) (clock : Number) :
    (converse script wire opening clock).Leads wire (.opened wire opening.socket)
      fun _ => .asked opening.socket := by
  apply Timed.leads_andThen (leads_secure _ _ _)
  intro _ clock
  apply Timed.leads_andThen (leads_send script ⟨_, _, _, _⟩ clock)
  intro _ clock
  exact Timed.leads_of_only (only_readAll (fun _ => .timed _ _ _) (fun _ _ => .received _ _ _) _ _ _)

/-- A connection is closed at whatever stage it is left. -/
theorem leads_closing (script : Script) (opening : Opening) (clock : Number) :
    ((converse script wire opening clock).thenAlways (closing opening)).Leads wire
      (.opened wire opening.socket) fun _ => .answered := by
  obtain ⟨last, along, arrives⟩ := leads_converse script wire opening clock
  have settled : 0 < last.rank :=
    Nat.lt_of_lt_of_le (Stage.rank_opened wire opening.socket) along.rank_le
  have closes : (closing opening).events = [.close opening.socket] := rfl
  unfold Timed.Leads
  rw [Timed.thenAlways, Journal.events_append, closes]
  dsimp only
  cases result : (converse script wire opening clock).outcome with
  | error fault => exact ⟨_, along.append (along_single.mpr (.closed settled _)), by rintro _ ⟨⟩⟩
  | ok bytes =>
    obtain rfl := arrives bytes result
    exact ⟨_, along.append (along_single.mpr (.answered _ _)), fun _ _ => rfl⟩

end Leads

/-! The search for an address. -/

section Search

variable {sockets : Sockets} {deadline clock later : Number} {socket : Nat} {address : Address}
  {addresses : List Address} {reasons : List Text}

theorem Address.along_calls (wire : Wire) (address : Address) (socket : Nat) (seconds : Double)
    (succeeded : Bool) :
    Along wire .searching (address.calls socket seconds succeeded)
      (if succeeded then .opened wire socket else .created socket) := by
  refine ⟨_, .created _ _, _, .timed _ _ _, ?_⟩
  cases succeeded with
  | false => exact along_single.mpr (.unconnected _ _ _)
  | true => exact along_single.mpr (.connected _ _ _)

theorem Address.Refusal.along {remaining : Number} {trouble : Trouble}
    (refusal : address.Refusal sockets socket remaining clock later trouble events) :
    Along wire .searching events .searching := by
  cases refusal with
  | uncreated => exact along_single.mpr (.uncreated _ _)
  | unconnected =>
    exact (address.along_calls wire socket _ false).append (along_single.mpr (.givenUp _))

theorem Refused.along (refused : Refused sockets deadline socket addresses clock later reasons events) :
    Along wire .searching events .searching := by
  induction refused with
  | nil => rfl
  | next _ refusal _ _ ih => exact refusal.along.append ih

theorem Ends.along {outcome : Except Fault Opening} (wire : Wire)
    (ends : Ends sockets deadline socket clock reasons addresses outcome events) :
    ∃ last, Along wire .searching events last ∧
      ∀ opening, outcome = .ok opening → last = .opened wire opening.socket := by
  cases ends with
  | exhausted | late | uncountable => exact ⟨_, rfl, by rintro _ ⟨⟩⟩
  | taken =>
    refine ⟨_, Address.along_calls wire _ socket _ true, ?_⟩
    rintro _ ⟨⟩
    rfl
  | broken _ fares failed =>
    cases fares with
    | uncreated => exact ⟨_, along_single.mpr (.uncreated _ _), by rintro _ ⟨⟩⟩
    | untimed => exact ⟨_, along_single.mpr (.created _ _), by rintro _ ⟨⟩⟩
    | uncounted | unconnected =>
      rw [Journal.events_map_event]
      exact ⟨_, Address.along_calls wire _ socket _ _, by rintro _ ⟨⟩⟩
    | connected => cases failed

theorem leads_openFirst (wire : Wire) (deadline : Number) (addresses : List Address) (clock : Number)
    (sockets : Sockets) :
    (openFirst deadline addresses clock sockets).Leads wire .searching
      fun opening => .opened wire opening.socket := by
  obtain ⟨tried, rest, later, more, refusals, ending, _, refused, ends, events⟩ :=
    openFrom_searches sockets deadline 0 [] addresses clock
  obtain ⟨last, along, reached⟩ := ends.along wire
  refine ⟨last, ?_, reached⟩
  rw [openFirst, events]
  exact refused.along.append along

end Search

theorem leads_exchange (script : Script) (wire : Wire) :
    (exchange script wire).Leads wire .searching fun _ => .answered := by
  apply Timed.leads_andThen (leads_lookUp _ _ _ _)
  intro addresses clock
  apply Timed.leads_andThen (Timed.leads_of_only (by simp [Timed.note]))
  intro _ clock
  apply Timed.leads_andThen (Timed.leads_of_only (by simp [Timed.compute]))
  intro deadline clock
  exact Timed.leads_andThen (leads_openFirst wire _ _ _ _) fun opening clock => leads_closing _ _ _

end Network

/-- Whatever the network does, an exchange sends at most once, nothing but its payload, and only
on a connection that is ready for it. Where a handshake or the sending fails, nothing follows but the
end, and nothing is read before all is sent. No answer comes to what was not sent. -/
theorem Transport.tcp_exchange_is_orderly (script : Network.Script) (wire : Wire) :
    let run := (tcp script).exchange wire
    Network.Orderly wire run.journal.events ∧
      ∀ bytes, run.outcome = .ok bytes →
        ∃ socket, .send socket wire.payload true ∈ run.journal.events := by
  obtain ⟨last, along, arrives⟩ := Network.leads_exchange script wire
  refine ⟨Network.orderly_of_along along, fun bytes answer => ?_⟩
  obtain rfl := arrives bytes answer
  have past : Network.Past wire ([] ++ (Network.exchange script wire).journal.events) .answered :=
    along.past trivial
  exact past

example :
    let refused : Network.Trouble := .system 111 "Connection refused"
    let script : Network.Script :=
      { addresses :=
          [{ family := .inet6, host := "::1", port := 443, connection := { trouble := some refused } },
            { family := .inet, host := "192.0.2.1", port := 443 }] }
    let wire : Wire := { host := "h", port := 443, payload := [71], timeout := .int 1, tls := true }
    let second : Double := .ofRatio false 1 1
    ((Transport.tcp script).exchange wire).journal.events =
      [.lookup "h" 443 true true,
        .create 0 .inet6 true, .setTimeout 0 second, .connect 0 "::1" 443 false, .close 0,
        .create 1 .inet true, .setTimeout 1 second, .connect 1 "192.0.2.1" 443 true,
        .setTimeout 1 second, .wrap 1 (some "h") ⟨false, false⟩ true,
        .setTimeout 1 second, .send 1 [71] true,
        .setTimeout 1 second, .receive 1 8192 (some 0), .close 1] := by
  decide +kernel

end ServiceProbe
