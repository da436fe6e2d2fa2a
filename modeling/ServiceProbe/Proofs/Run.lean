import ServiceProbe.Service.Basic
/-!
What the steps of a run write on the output stream. Everything up to the judgement of a reply is
silent there, so that the one status line at the end is all there is.
-/
namespace ServiceProbe

/-- The texts on the output stream, one for each time that something is written there. -/
def Journal.outputs (journal : Journal) : List Text :=
  journal.filterMap fun
    | .output text => some text
    | _ => none

namespace Journal

@[simp] theorem outputs_append (before behind : Journal) :
    outputs (before ++ behind) = before.outputs ++ behind.outputs := by
  simp [outputs]

theorem output_eq_flatten (journal : Journal) : journal.output = journal.outputs.flatten := by
  induction journal with
  | nil => rfl
  | cons entry rest ih =>
    simp only [output, outputs, List.flatMap_cons] at ih ⊢
    cases entry <;> simp [ih]

@[simp] theorem exchanges_append (before behind : Journal) :
    exchanges (before ++ behind) = before.exchanges ++ behind.exchanges := by
  simp [exchanges]

end Journal

namespace Run

variable {α β : Type}

/-- Nothing is written on the output stream. -/
def Silent (run : Run α) : Prop := run.journal.outputs = []

theorem bind_error {run : Run α} {fault : Fault} (failed : run.outcome = .error fault)
    (next : α → Run β) : run >>= next = ⟨run.journal, .error fault⟩ := by
  simp [bind, andThen, failed]

theorem bind_ok {run : Run α} {a : α} (result : run.outcome = .ok a) (next : α → Run β) :
    run >>= next = ⟨run.journal ++ (next a).journal, (next a).outcome⟩ := by
  simp [bind, andThen, result]

@[simp] theorem outcome_pure (a : α) : (pure a : Run α).outcome = .ok a := rfl

@[simp] theorem journal_pure (a : α) : (pure a : Run α).journal = [] := rfl

@[simp] theorem note_bind (entry : Entry) (next : Unit → Run β) :
    (note entry >>= next) = ⟨entry :: (next ()).journal, (next ()).outcome⟩ := rfl

@[simp] theorem record_bind (source : Text) (level : Int) (text : Text) (traced : Bool)
    (next : Unit → Run β) :
    (record source level text traced >>= next) =
      ⟨.record { source, level, text, traced } :: (next ()).journal, (next ()).outcome⟩ := rfl

@[simp] theorem ofExcept_ok_bind (a : α) (next : α → Run β) :
    (ofExcept (.ok a) >>= next) = next a := by
  simp [bind, andThen, ofExcept]

@[simp] theorem ofExcept_error_bind (fault : Fault) (next : α → Run β) :
    (ofExcept (.error fault) >>= next) = throw fault := rfl

theorem orElse_ok {run : Run α} {a : α} (result : run.outcome = .ok a)
    (handle : Fault → Run α) : run.orElse handle = run := by
  simp [orElse, result]

theorem orElse_error {run : Run α} {fault : Fault} (failed : run.outcome = .error fault)
    (handle : Fault → Run α) :
    run.orElse handle = ⟨run.journal ++ (handle fault).journal, (handle fault).outcome⟩ := by
  simp [orElse, failed]

/-- Nothing but entries of one kind is noted. -/
def Only (kind : Entry → Prop) (run : Run α) : Prop := ∀ entry ∈ run.journal, kind entry

section Only

variable {kind : Entry → Prop}

theorem only_pure (a : α) : (pure a : Run α).Only kind := by
  intro entry member
  cases member

theorem only_ofExcept (outcome : Except Fault α) : (ofExcept outcome).Only kind := by
  intro entry member
  cases member

theorem only_throw (fault : Fault) : (throw fault : Run α).Only kind := by
  intro entry member
  cases member

theorem only_note {entry : Entry} (own : kind entry) : (note entry).Only kind := by
  intro other member
  rw [List.mem_singleton.mp member]
  exact own

theorem only_bind {run : Run α} {next : α → Run β} (first : run.Only kind)
    (later : ∀ a, run.outcome = .ok a → (next a).Only kind) : (run >>= next).Only kind := by
  cases result : run.outcome with
  | error fault =>
    rw [bind_error result]
    exact first
  | ok a =>
    rw [bind_ok result]
    intro entry member
    rcases List.mem_append.mp member with here | behind
    · exact first entry here
    · exact later a result entry behind

theorem only_orElse {run : Run α} {handle : Fault → Run α} (first : run.Only kind)
    (later : ∀ fault, (handle fault).Only kind) : (run.orElse handle).Only kind := by
  cases result : run.outcome with
  | ok a =>
    rw [orElse_ok result]
    exact first
  | error fault =>
    rw [orElse_error result]
    intro entry member
    rcases List.mem_append.mp member with here | behind
    · exact first entry here
    · exact later fault entry behind

end Only

/-! A silent run notes anything but output. -/

theorem silent_iff {run : Run α} :
    run.Silent ↔ run.Only fun entry => ∀ text, entry ≠ .output text := by
  rw [Silent, Journal.outputs, List.filterMap_eq_nil_iff]
  constructor
  · rintro quiet entry member text rfl
    cases quiet _ member
  · intro quiet entry member
    cases entry with
    | output text => exact absurd rfl (quiet _ member text)
    | _ => rfl

theorem silent_pure (a : α) : (pure a : Run α).Silent := rfl

theorem silent_ofExcept (outcome : Except Fault α) : (ofExcept outcome).Silent := rfl

theorem silent_throw (fault : Fault) : (throw fault : Run α).Silent := rfl

theorem silent_record (source : Text) (level : Int) (text : Text) (traced : Bool) :
    (record source level text traced).Silent := rfl

theorem silent_remark (text : Text) : (note (.remark text)).Silent := rfl

theorem silent_bind {run : Run α} {next : α → Run β} (first : run.Silent)
    (later : ∀ a, (next a).Silent) : (run >>= next).Silent :=
  silent_iff.mpr (only_bind (silent_iff.mp first) fun a _ => silent_iff.mp (later a))

theorem silent_orElse {run : Run α} {handle : Fault → Run α} (first : run.Silent)
    (later : ∀ fault, (handle fault).Silent) : (run.orElse handle).Silent :=
  silent_iff.mpr (only_orElse (silent_iff.mp first) fun fault => silent_iff.mp (later fault))

end Run

/-- Bringing bytes to a peer and back writes nothing on the output stream. -/
def Transport.Silent (transport : Transport) : Prop :=
  ∀ wire, (transport.exchange wire).Silent

namespace Transport

theorem scripted_silent (tls : Capability) (replies : Replies) : (scripted tls replies).Silent := by
  intro wire
  show ((Run.note (.exchange wire) >>= fun _ => _).Silent)
  apply Run.silent_bind
  · rfl
  · intro _
    split
    · exact Run.silent_pure _
    · exact Run.silent_throw _

end Transport

namespace Http

variable {α : Type} [Letter α]

theorem withoutMissingTls_silent (transport : Transport) (request : Request α) :
    (withoutMissingTls transport request).Silent := by
  unfold withoutMissingTls
  split
  · exact Run.silent_bind (Run.silent_remark _) fun _ => Run.silent_pure _
  · exact Run.silent_pure _

theorem receive_silent (request : Request α) {exchange : Run Bytes} (quiet : exchange.Silent) :
    (receive request exchange).Silent := by
  apply Run.silent_orElse
  · apply Run.silent_bind quiet
    intro bytes
    exact Run.silent_bind (Run.silent_record _ _ _ _) fun _ => Run.silent_pure _
  · intro fault
    split
    · exact Run.silent_bind (Run.silent_record _ _ _ _) fun _ => Run.silent_pure _
    · exact Run.silent_throw _

theorem send_silent {transport : Transport} (quiet : transport.Silent) (request : Request α) :
    (send transport request).Silent :=
  Run.silent_bind (Run.silent_ofExcept _) fun _ => quiet _

theorem get_silent {transport : Transport} (quiet : transport.Silent) (request : Request α) :
    (get transport request).Silent := by
  apply Run.silent_bind (withoutMissingTls_silent transport request)
  intro request
  exact Run.silent_bind (Run.silent_record _ _ _ _) fun _ =>
    receive_silent _ (send_silent quiet request)

end Http

theorem Fallback.toPlain_silent (plugin : Text) (tls : Bool) (port : Int)
    (capability : Capability) : (toPlain plugin tls port capability).Silent := by
  unfold toPlain
  split
  · exact Run.silent_pure _
  · exact Run.silent_bind (Run.silent_remark _) fun _ => Run.silent_pure _

theorem Service.check_silent (service : Service) (files : Files) {transport : Transport}
    (quiet : transport.Silent) (options : Probe.Options) :
    (service.check files transport options).Silent := by
  apply Run.silent_bind (Run.silent_ofExcept _)
  intro request
  exact Run.silent_bind (Http.get_silent quiet request) fun _ => Run.silent_ofExcept _

end ServiceProbe
