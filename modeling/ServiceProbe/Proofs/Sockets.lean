import ServiceProbe.Network.Transport
/-!
The life of sockets. A list of calls is watched call by call: which number the next socket has, and
which socket is open. What one call may do keeps sockets apart, and so does a whole run of calls.
-/
namespace ServiceProbe.Network

namespace Event

/-- The socket that a call is made on. -/
def socket? : Event → Option Nat
  | .lookup _ _ _ _ => none
  | .create socket _ _ => some socket
  | .setTimeout socket _ => some socket
  | .connect socket _ _ _ => some socket
  | .wrap socket _ _ _ => some socket
  | .send socket _ _ => some socket
  | .receive socket _ _ => some socket
  | .close socket => some socket

def opened? : Event → Option Nat
  | .create socket _ true => some socket
  | _ => none

/-- Whether a call neither creates a socket nor closes one. -/
def isUse : Event → Bool
  | .lookup _ _ _ _ => false
  | .create _ _ _ => false
  | .close _ => false
  | _ => true

theorem opened_of_isUse {event : Event} (use : event.isUse = true) : event.opened? = none := by
  cases event <;> simp [isUse, opened?] at use ⊢

end Event

/-- The sockets that were created. -/
def created (events : List Event) : List Nat := events.filterMap Event.opened?

/-- The sockets that were created and not closed. -/
def stillOpen (events : List Event) : List Nat :=
  (created events).filter fun socket => !events.contains (.close socket)

/-- Calls that leave no socket open and never have two open at once. -/
structure Tidy (events : List Event) : Prop where
  distinct : (created events).Nodup
  closed : ∀ socket ∈ created events, events.count (.close socket) = 1
  silent : ∀ before after socket, events = before ++ .close socket :: after →
    ∀ event ∈ after, event.socket? ≠ some socket
  alone : ∀ head, head <+: events → (stillOpen head).length ≤ 1

/-! What is known after some calls. -/

structure Watch where
  /-- All sockets before this number were created, or could not be. -/
  next : Nat
  current : Option Nat

namespace Watch

inductive Step : Watch → Event → Watch → Prop
  | lookup (watch : Watch) (host : Text) (port : Int) (anyFamily stream : Bool) :
    Step watch (.lookup host port anyFamily stream) watch
  | refuse (socket : Nat) (family : AddressFamily) :
    Step ⟨socket, none⟩ (.create socket family false) ⟨socket + 1, none⟩
  | create (socket : Nat) (family : AddressFamily) :
    Step ⟨socket, none⟩ (.create socket family true) ⟨socket + 1, some socket⟩
  | use {next socket : Nat} {event : Event} (use : event.isUse = true)
      (own : event.socket? = some socket) :
    Step ⟨next, some socket⟩ event ⟨next, some socket⟩
  | close (next socket : Nat) : Step ⟨next, some socket⟩ (.close socket) ⟨next, none⟩

inductive Run : Watch → List Event → Watch → Prop
  | nil (watch : Watch) : Run watch [] watch
  | cons {watch middle last : Watch} {event : Event} {rest : List Event}
      (first : Step watch event middle) (later : Run middle rest last) :
    Run watch (event :: rest) last

/-- The open socket is one of those that were created. -/
def Sound (watch : Watch) : Prop := ∀ socket, watch.current = some socket → socket < watch.next

theorem Run.append {watch middle last : Watch} {first second : List Event}
    (early : Run watch first middle) (late : Run middle second last) :
    Run watch (first ++ second) last := by
  induction early with
  | nil => exact late
  | cons step _ ih => exact .cons step (ih late)

theorem Run.split {watch last : Watch} {first second : List Event}
    (run : Run watch (first ++ second) last) :
    ∃ middle, Run watch first middle ∧ Run middle second last := by
  induction first generalizing watch with
  | nil => exact ⟨watch, .nil watch, run⟩
  | cons event first ih =>
    cases run with
    | cons step later =>
      obtain ⟨middle, early, late⟩ := ih later
      exact ⟨middle, .cons step early, late⟩

theorem run_uses {next socket : Nat} {events : List Event}
    (uses : ∀ event ∈ events, event.isUse = true ∧ event.socket? = some socket) :
    Run ⟨next, some socket⟩ events ⟨next, some socket⟩ := by
  induction events with
  | nil => exact .nil _
  | cons event rest ih =>
    obtain ⟨use, own⟩ := uses event List.mem_cons_self
    exact .cons (.use use own) (ih fun event member => uses event (List.mem_cons_of_mem _ member))

variable {watch after : Watch} {event : Event} {events : List Event} {socket : Nat}

/-! One call. -/

theorem Step.sound (step : Step watch event after) (sound : watch.Sound) : after.Sound := by
  cases step with
  | lookup | use => exact sound
  | refuse | close => simp [Sound]
  | create socket => simp [Sound]

theorem Step.next_le (step : Step watch event after) : watch.next ≤ after.next := by
  cases step <;> simp

/-- A call is made on the open socket or on a new one. -/
theorem Step.mentions (step : Step watch event after) (own : event.socket? = some socket) :
    watch.current = some socket ∨ watch.next ≤ socket := by
  cases step with
  | lookup => cases own
  | refuse | create =>
    cases own
    exact Or.inr (Nat.le_refl _)
  | use _ same =>
    rw [same] at own
    exact Or.inl own
  | close => exact Or.inl own

/-- An open socket stays open until it is closed. -/
theorem Step.keeps (step : Step watch event after)
    (here : watch.current = some socket ∨ event.opened? = some socket) :
    event = .close socket ∨ after.current = some socket := by
  cases step with
  | lookup => exact Or.inr (here.resolve_right (by simp [Event.opened?]))
  | refuse => simp [Event.opened?] at here
  | create => exact Or.inr (here.resolve_left (by simp))
  | use use => exact Or.inr (here.resolve_right (by simp [Event.opened_of_isUse use]))
  | close => exact Or.inl (by simpa [Event.opened?, eq_comm] using here)

theorem Step.opens (step : Step watch event after) (opens : event.opened? = some socket) :
    socket = watch.next ∧ after.next = socket + 1 := by
  cases step with
  | create =>
    cases opens
    exact ⟨rfl, rfl⟩
  | use use => simp [Event.opened_of_isUse use] at opens
  | lookup | refuse | close => cases opens

/-! A run of calls. -/

theorem Run.sound (run : Run watch events after) (sound : watch.Sound) : after.Sound := by
  induction run with
  | nil => exact sound
  | cons step _ ih => exact ih (step.sound sound)

theorem Run.mentions (run : Run watch events after) {event : Event} (member : event ∈ events)
    (own : event.socket? = some socket) : watch.current = some socket ∨ watch.next ≤ socket := by
  induction run with
  | nil => cases member
  | cons step _ ih =>
    rcases List.mem_cons.mp member with rfl | member
    · exact step.mentions own
    · rcases ih member with later | new
      · -- A socket that is open after a call was open before, or the call created it.
        cases step with
        | lookup | use => exact Or.inl later
        | refuse | close => cases later
        | create =>
          cases later
          exact Or.inr (Nat.le_refl _)
      · exact Or.inr (Nat.le_trans step.next_le new)

theorem mem_created_cons {rest : List Event} :
    socket ∈ created (event :: rest) ↔ event.opened? = some socket ∨ socket ∈ created rest := by
  simp [created]

theorem Run.keeps (run : Run watch events after)
    (here : watch.current = some socket ∨ socket ∈ created events) :
    .close socket ∈ events ∨ after.current = some socket := by
  induction run with
  | nil => exact Or.inr (here.resolve_right (by simp [created]))
  | cons step _ ih =>
    rw [mem_created_cons, ← or_assoc] at here
    rcases here with here | later
    · rcases step.keeps here with rfl | still
      · exact Or.inl List.mem_cons_self
      · exact (ih (Or.inl still)).imp_left (List.mem_cons_of_mem _)
    · exact (ih (Or.inr later)).imp_left (List.mem_cons_of_mem _)

theorem Run.created_ge (run : Run watch events after) (member : socket ∈ created events) :
    watch.next ≤ socket := by
  induction run with
  | nil => cases member
  | cons step _ ih =>
    rcases mem_created_cons.mp member with opens | member
    · exact Nat.le_of_eq (step.opens opens).1.symm
    · exact Nat.le_trans step.next_le (ih member)

theorem Run.distinct (run : Run watch events after) : (created events).Nodup := by
  induction run with
  | nil => exact List.nodup_nil
  | @cons _ _ _ event rest step later ih =>
    cases opens : event.opened? with
    | none => simpa [created, opens] using ih
    | some socket =>
      have fresh : socket ∉ created rest := by
        intro member
        have higher := later.created_ge member
        rw [(step.opens opens).2] at higher
        exact Nat.not_succ_le_self socket higher
      simpa [created, opens] using ⟨by simpa [created] using fresh, ih⟩

theorem Run.silent (run : Run watch events after) (sound : watch.Sound) {before behind : List Event}
    (parts : events = before ++ .close socket :: behind) :
    ∀ event ∈ behind, event.socket? ≠ some socket := by
  subst parts
  intro event member own
  obtain ⟨middle, early, late⟩ := run.split
  have middleSound := early.sound sound
  cases late with
  | cons step later =>
    cases step with
    | use use => cases use
    | close next =>
      -- Behind the close no socket is open, and the new ones have higher numbers.
      have known : socket < next := middleSound socket rfl
      rcases later.mentions member own with here | new
      · cases here
      · exact Nat.not_le_of_lt known new

end Watch

/-- Calls that begin and end without an open socket are tidy. -/
theorem tidy_of_run {events : List Event} {start last : Nat}
    (run : Watch.Run ⟨start, none⟩ events ⟨last, none⟩) : Tidy events := by
  have sound : Watch.Sound ⟨start, none⟩ := by simp [Watch.Sound]
  refine ⟨run.distinct, ?closed, fun _ _ _ parts => run.silent sound parts, ?alone⟩
  case closed =>
    intro socket member
    have close : .close socket ∈ events := (run.keeps (Or.inr member)).resolve_right (by simp)
    obtain ⟨before, behind, parts, absent⟩ := List.eq_append_cons_of_mem close
    have silent := run.silent sound parts
    have later : .close socket ∉ behind := fun again => silent _ again rfl
    rw [parts, List.count_append, List.count_cons_self, List.count_eq_zero_of_not_mem absent,
      List.count_eq_zero_of_not_mem later]
  case alone =>
    rintro head ⟨rest, parts⟩
    rw [← parts] at run
    obtain ⟨middle, early, _⟩ := run.split
    have only : ∀ socket ∈ stillOpen head, middle.current = some socket := by
      intro socket member
      obtain ⟨member, unclosed⟩ := List.mem_filter.mp member
      exact (early.keeps (Or.inr member)).resolve_left (by simpa using unclosed)
    have distinct : (stillOpen head).Nodup := early.distinct.filter _
    match still : stillOpen head with
    | [] => simp
    | [_] => simp
    | a :: b :: _ =>
      rw [still] at only distinct
      have same : a = b := Option.some.inj ((only a (by simp)).symm.trans (only b (by simp)))
      simp [same] at distinct

end ServiceProbe.Network
