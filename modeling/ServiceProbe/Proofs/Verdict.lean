import ServiceProbe.Proofs.Exchange
import ServiceProbe.Proofs.Reply
/-!
No result but a critical one without an answer. A service has answered if the exchange brought a
whole reply with a body and with a status that is accepted.
-/
namespace ServiceProbe

open Transport (Reply Replies requestedPath)
open Http (Response)
open Http.Response (FirstAt Announces headEnd)

/-- Why the outcome of an exchange is no answer. -/
inductive Unanswered (accepts : Int → Prop) : Reply → Prop where
  | failed {family : Family} (message : Text) (ofTransport : family.isTransport = true) :
    Unanswered accepts (.failure family message)
  | unfinished {raw : Bytes} (headless : ¬ headEnd <:+: raw) : Unanswered accepts (.bytes raw)
  | unannounced {raw : Bytes} (silent : ¬ ∃ status, status ≠ 0 ∧ Announces raw status) :
    Unanswered accepts (.bytes raw)
  | bodiless {head raw : Bytes} (cut : FirstAt headEnd head [] raw) : Unanswered accepts (.bytes raw)
  | refused {raw : Bytes} {status : Int} (announced : Announces raw status)
    (foreign : ¬ accepts status) : Unanswered accepts (.bytes raw)

/-- A whole reply with a body and an accepted status. -/
def Answers (accepts : Int → Prop) (raw : Bytes) : Prop :=
  ∃ head body status, FirstAt headEnd head body raw ∧ body ≠ [] ∧
    Announces raw status ∧ status ≠ 0 ∧ accepts status

section Parsed

variable {accepts : Int → Prop} {raw : Bytes}

theorem parse_of_unanswered (unanswered : Unanswered accepts (.bytes raw)) :
    (Response.parse raw).failed = true ∨ ¬ accepts (Response.parse raw).status := by
  -- Only a reply with a whole head is taken apart; its status line is read before its body.
  by_cases whole : headEnd <:+: raw
  · obtain ⟨head, body, cut⟩ : ∃ head body, FirstAt headEnd head body raw := by
      cases found : Response.cutBytes? headEnd raw with
      | none => exact absurd whole (Response.cutBytes_none.mp found)
      | some pair => exact ⟨pair.1, pair.2, Response.cutBytes_some.mp found⟩
    rw [Response.parse_cut cut]
    by_cases usable : Response.statusOf (Response.statusLine head) = 0
    · exact Or.inl (by simp [Response.failed, usable])
    have announced := (Response.statusOf_eq cut usable).mp rfl
    cases unanswered with
    | unfinished headless => exact absurd whole headless
    | unannounced silent => exact absurd ⟨_, usable, announced⟩ silent
    | bodiless empty =>
      obtain ⟨_, rfl⟩ := cut.unique empty
      exact Or.inl (by simp [Response.failed, Response.decodeLossy_nil])
    | refused stated foreign =>
      rw [stated.unique announced] at foreign
      exact Or.inr foreign
  · exact Or.inl (Response.parse_unfinished whole)

theorem answers_of_parse (complete : (Response.parse raw).failed = false)
    (accepted : accepts (Response.parse raw).status) : Answers accepts raw := by
  cases found : Response.cutBytes? headEnd raw with
  | none =>
    rw [Response.parse_unfinished (Response.cutBytes_none.mp found)] at complete
    cases complete
  | some pair =>
    obtain ⟨head, body⟩ := pair
    have cut := Response.cutBytes_some.mp found
    rw [Response.parse_cut cut] at complete accepted
    simp only [Response.failed, Bool.or_eq_false_iff, beq_eq_false_iff_ne, ne_eq,
      List.isEmpty_eq_false_iff, Response.decodeLossy_nil] at complete
    exact ⟨head, body, _, cut, complete.2, (Response.statusOf_eq cut complete.1).mp rfl,
      complete.1, accepted⟩

end Parsed

/-! What is asked for is what was offered. -/

namespace Probe

theorem Options.apply_subject (options : Options) (setting : Setting) :
    (options.apply setting).subject = options.subject ∨
      setting = .subject (options.apply setting).subject := by
  cases setting <;> simp [Options.apply, Options.fill]

theorem Options.ofSettings_subject (options : Options) (settings : List Setting) :
    (options.ofSettings settings).subject = options.subject ∨
      Setting.subject (options.ofSettings settings).subject ∈ settings := by
  induction settings generalizing options with
  | nil => exact Or.inl rfl
  | cons setting rest ih =>
    have later : (options.ofSettings (setting :: rest)) =
        (options.apply setting).ofSettings rest := rfl
    rw [later]
    rcases ih (options.apply setting) with kept | chosen
    · rw [kept]
      rcases Options.apply_subject options setting with same | this
      · exact Or.inl same
      · exact Or.inr (by rw [← this]; exact List.mem_cons_self)
    · exact Or.inr (List.mem_cons_of_mem _ chosen)

/-- The options of every probe choose no subject. -/
theorem Offer.common_subject {defaults : Options} {opt : ProbeOption} {subject : Subject}
    (offered : opt ∈ Offer.common defaults) : ¬ opt.Yields (.subject subject) := by
  simp only [Offer.common, List.mem_cons, List.not_mem_nil, or_false] at offered
  rcases offered with rfl | rfl | rfl | rfl | rfl | rfl | rfl | rfl | rfl | rfl <;>
    simp [CommandLine.Opt.Yields, Offer.help, Offer.hostname, Offer.port, Offer.timeout, Offer.tls,
      Offer.username, Offer.password, Offer.reference, Offer.louder, Offer.debug, Offer.text]

theorem Offer.subject_yields {subjects : List Subject} {help : Text} {subject : Subject}
    (yields : (Offer.subject subjects help).Yields (.subject subject)) : subject ∈ subjects := by
  simpa [CommandLine.Opt.Yields, Offer.subject] using yields

end Probe

namespace Service

theorem vault_subject {words : List Text} {options : Probe.Options}
    (accepted : vault.offer.parse words = .ok options) : options.subject ∈ Vault.subjects := by
  obtain ⟨settings, read, rfl⟩ := Probe.Offer.parse_ok accepted
  rcases Probe.Options.ofSettings_subject vault.offer.defaults settings with same | chosen
  · rw [same]
    exact List.mem_cons_self
  · obtain ⟨opt, offered, yields⟩ := CommandLine.parse_yields read _ chosen
    simp only [Probe.Offer.options, vault, Option.map_none, Option.getD_none, List.append_nil,
      List.mem_append, List.mem_singleton] at offered
    rcases offered with common | rfl
    · exact absurd yields (Probe.Offer.common_subject common)
    · exact Probe.Offer.subject_yields yields

/-- The statuses with which a service answers. Nodes of Vault in operation have some of their own. -/
def Accepts (service : Service) (options : Probe.Options) (status : Int) : Prop :=
  status = 200 ∨
    (service.offer.program = "check_vault" ∧ options.subject = .health ∧ status ∈ [429, 472, 473])

variable {service : Service} {options : Probe.Options} {response : Response}

theorem not_isUsable (unfit : response.failed = true ∨ response.status ≠ 200) :
    isUsable response = false := by
  rcases unfit with failed | status
  · simp [isUsable, failed]
  · simp [isUsable, status]

theorem vault_judge_critical (offered : options.subject ∈ Vault.subjects)
    (unfit : response.failed = true ∨ ¬ vault.Accepts options response.status) :
    ∃ result, vault.judge options response = .ok result ∧ result.state = .critical := by
  refine ⟨_, rfl, ?_⟩
  -- A response that failed is looked at first, whatever its status.
  by_cases failed : response.failed = true
  · rw [if_pos failed]
    rfl
  have foreign : ¬ vault.Accepts options response.status := unfit.resolve_left failed
  have other : response.status ≠ 200 := fun same => foreign (Or.inl same)
  rw [if_neg failed]
  simp only [Vault.subjects, List.mem_cons, List.not_mem_nil, or_false] at offered
  rcases offered with subject | subject | subject
  · -- A status that no node in operation has leaves only the two critical ends.
    have inactive : Vault.standby? response.status = none := by
      unfold Vault.standby?
      split
      · next same => exact absurd (Or.inr ⟨rfl, subject, by simp [same]⟩) foreign
      · next same => exact absurd (Or.inr ⟨rfl, subject, by simp [same]⟩) foreign
      · next same => exact absurd (Or.inr ⟨rfl, subject, by simp [same]⟩) foreign
      · rfl
    simp only [subject, Vault.judgeHealth, other, ↓reduceIte, inactive]
    split <;> rfl
  · simp [subject, Vault.judgeSeal, other]
  · simp [subject, Vault.judgeStatus, other]

/-- Every service but Vault has the same result for all that is not usable. -/
theorem judge_unusable (known : service ∈ all) (unfit : isUsable response = false) :
    (∃ what, service.judge options response = .ok (unusable response what)) ∨ service = vault := by
  rcases mem_all.mp known with rfl | rfl | rfl | rfl | rfl | rfl | rfl
  · exact Or.inl ⟨_, if_neg (by simp [unfit])⟩
  · exact Or.inl ⟨_, if_neg (by simp [unfit])⟩
  · exact Or.inl ⟨_, if_neg (by simp [unfit])⟩
  · exact Or.inl ⟨_, congrArg Except.ok (if_neg (by simp [unfit]))⟩
  · exact Or.inl ⟨_, if_neg (by simp [unfit])⟩
  · exact Or.inl ⟨_, if_neg (by simp [unfit])⟩
  · exact Or.inr rfl

theorem judge_critical (known : service ∈ all) {words : List Text} {parsed : Probe.Options}
    (accepted : service.offer.parse words = .ok parsed) (same : options.subject = parsed.subject)
    (unfit : response.failed = true ∨ ¬ service.Accepts parsed response.status) :
    ∃ result, service.judge options response = .ok result ∧ result.state = .critical := by
  have unusable : isUsable response = false :=
    not_isUsable (unfit.imp_right fun foreign status => foreign (Or.inl status))
  rcases judge_unusable known unusable with ⟨what, found⟩ | rfl
  · exact ⟨_, found, rfl⟩
  · -- Vault accepts more statuses than others, and only for a subject that it offers.
    have offered : options.subject ∈ Vault.subjects := same ▸ vault_subject accepted
    have transferred : vault.Accepts options = vault.Accepts parsed := by
      funext status
      simp only [Accepts, same]
    exact vault_judge_critical offered (transferred ▸ unfit)

/-- A response that failed is judged all the same, with no number that could be out of range. -/
theorem judge_failed (known : service ∈ all) (failed : response.failed = true) :
    ∃ result, service.judge options response = .ok result := by
  rcases judge_unusable known (not_isUsable (Or.inl failed)) with ⟨what, found⟩ | rfl
  · exact ⟨_, found⟩
  · exact ⟨_, rfl⟩

theorem judged_bytes (raw : Bytes) :
    service.judged options (.bytes raw) =
      Fault.ofNumber (service.judge options (Response.parse raw)) := rfl

theorem judged_failure {family : Family} (ofTransport : family.isTransport = true)
    (message : Text) :
    service.judged options (.failure family message) =
      Fault.ofNumber (service.judge options (.ofError message)) := by
  unfold judged
  rw [Response.ofReply, if_pos ofTransport]
  rfl

theorem judged_reported {family : Family} (other : ¬ family.isTransport = true) (message : Text) :
    service.judged options (.failure family message) = .error (.reported family message) := by
  unfold judged
  rw [Response.ofReply, if_neg other]
  rfl

theorem judged_critical (known : service ∈ all) {words : List Text} {parsed : Probe.Options}
    (accepted : service.offer.parse words = .ok parsed) (same : options.subject = parsed.subject)
    {reply : Reply} (unanswered : Unanswered (service.Accepts parsed) reply) :
    ∃ result, service.judged options reply = .ok result ∧ result.state = .critical := by
  cases reply with
  | bytes raw =>
    obtain ⟨result, found, critical⟩ :=
      judge_critical known accepted same (parse_of_unanswered unanswered)
    exact ⟨result, by rw [judged_bytes, found, Fault.ofNumber], critical⟩
  | failure family message =>
    cases unanswered with
    | failed _ ofTransport =>
      have noReply : (Response.ofError message).failed = true := rfl
      obtain ⟨result, found, critical⟩ := judge_critical known accepted same (Or.inl noReply)
      refine ⟨result, ?_, critical⟩
      rw [judged_failure ofTransport, found, Fault.ofNumber]

theorem fitFor_subject (options : Probe.Options) (capability : Capability) :
    (options.fitFor capability).subject = options.subject := by
  unfold Probe.Options.fitFor
  split <;> rfl

theorem fitFor_levels (options : Probe.Options) (capability : Capability) :
    (options.fitFor capability).levels = options.levels := by
  unfold Probe.Options.fitFor
  split <;> rfl

/-- A run that asked and got no answer is critical, so that a run with any other result did get one.
It asked once. -/
theorem run_without_answer_is_critical (service : Service) (known : service ∈ all)
    (tls : Capability) (replies : Replies) (files : Files) (words : List Text)
    (options : Probe.Options) (accepted : service.offer.parse words = .ok options)
    (fit : service.offer.rejections options = []) (noDebug : options.debug = false) (wire : Wire)
    (exchanged :
      wire ∈ (service.probe.run files (.scripted tls replies) words).journal.exchanges) :
    let run := service.probe.run files (.scripted tls replies) words
    let reply := replies.find (requestedPath wire.payload)
    run.journal.exchanges = [wire] ∧
      (Unanswered (service.Accepts options) reply → run.outcome = .ok (.returned 2)) ∧
      ((∀ family message, reply = .failure family message → family.isTransport = true) →
        ∀ code ∈ [0, 1, 3], run.outcome = .ok (.returned code) →
          ∃ raw, reply = .bytes raw ∧ Answers (service.Accepts options) raw) := by
  intro run reply
  rcases run_scripted accepted fit noDebug with
    ⟨_, _, unasked, _⟩ | ⟨request, sent, built, one, returns⟩
  · -- A run that gives up before it asks has no exchange at all.
    rw [unasked] at exchanged
    cases exchanged
  have first : wire = sent := by simpa [one] using exchanged
  subst sent
  have same : (options.fitFor tls).subject = options.subject := fitFor_subject options tls
  have critical {result : CheckResult} (found : service.judged (options.fitFor tls) reply = .ok result)
      (state : result.state = .critical) : run.outcome = .ok (.returned 2) := by
    have outcome := returns.outcome
    rw [found] at outcome
    simpa [Probe.resultOf, state, State.code] using outcome
  have silence (unanswered : Unanswered (service.Accepts options) reply) :
      run.outcome = .ok (.returned 2) := by
    obtain ⟨result, found, state⟩ := judged_critical known accepted same unanswered
    exact critical found state
  refine ⟨one, silence, ?_⟩
  intro ofTransport code other returned
  have alarmless : run.outcome ≠ .ok (.returned 2) := by
    intro alarm
    rw [alarm] at returned
    cases returned
    simp at other
  cases heard : reply with
  | failure family message =>
    exact absurd (silence (heard ▸ .failed message (ofTransport family message heard))) alarmless
  | bytes raw =>
    refine ⟨raw, rfl, ?_⟩
    by_cases unfit : (Response.parse raw).failed = true ∨
        ¬ service.Accepts options (Response.parse raw).status
    · obtain ⟨result, found, state⟩ := judge_critical known accepted same unfit
      refine absurd (critical ?_ state) alarmless
      rw [heard, judged_bytes, found, Fault.ofNumber]
    · rw [not_or, Bool.not_eq_true, Classical.not_not] at unfit
      exact answers_of_parse unfit.1 unfit.2

/-- A reply of a sealed node to a probe of its health. -/
theorem vault_without_answer_is_critical :
    let words : List Text := ["-H", "vault", "--check=health", "-v"]
    let options : Probe.Options := { vault.offer.defaults with hostname := "vault", verbosity := 1 }
    let raw := Utf8.encode "HTTP/1.1 503 Service Unavailable\r\nServer: x\r\n\r\n\x7b\x7d"
    let run := vault.probe.run [] (.scripted { available := true }
      { otherwise := some (.bytes raw) }) words
    vault ∈ all ∧ vault.offer.parse words = .ok options ∧ vault.offer.rejections options = [] ∧
      options.debug = false ∧
      ∃ wire ∈ run.journal.exchanges, run.journal.exchanges = [wire] ∧
        Unanswered (vault.Accepts options) (.bytes raw) ∧ run.outcome = .ok (.returned 2) := by
  intro words options raw run
  have known : vault ∈ all := by simp [all, named]
  have accepted : vault.offer.parse words = .ok options := rfl
  have fit : vault.offer.rejections options = [] := by decide
  have announced : Announces raw 503 :=
    ⟨Utf8.encode "HTTP/1.1 503 Service Unavailable", Utf8.encode "Server: x\r\n\r\n\x7b\x7d",
      Response.cutBytes_some.mp (by decide), ⟨"1.1 503 Service Unavailable", by decide⟩,
      "HTTP/1.1", "503", ["Service", "Unavailable"], by decide, by decide⟩
  have foreign : ¬ vault.Accepts options 503 := by
    simp [Accepts]
  obtain ⟨wire, exchanged⟩ : ∃ wire, wire ∈ run.journal.exchanges :=
    List.exists_mem_of_ne_nil _ (by decide)
  obtain ⟨once, silence, _⟩ := run_without_answer_is_critical vault known _ _ _ words options
    accepted fit rfl wire exchanged
  exact ⟨known, accepted, fit, rfl, wire, exchanged, once, .refused announced foreign,
    silence (.refused announced foreign)⟩

end Service
end ServiceProbe
