import ServiceProbe.Proofs.Overload
/-!
Checks that fail. Whatever the bytes of a reply are, a check has a result if and only if the reply does
not overload the service.
-/
namespace ServiceProbe

open Outcome
open Http (Response)

/-! Levels on a command line are doubles. -/

theorem Bound.parse_double {text : Text} {bound : Bound} (read : parse? text = some bound) :
    ∃ double, bound.value = .real double := by
  unfold parse? at read
  obtain ⟨⟨mantissa, rest⟩, _, read⟩ := Option.bind_eq_some_iff.mp read
  obtain ⟨value, _, read⟩ := Option.bind_eq_some_iff.mp read
  split at read
  · cases read
    exact ⟨value, rfl⟩
  · split at read
    · cases read
      exact ⟨value, rfl⟩
    · cases read
  · cases read

namespace Probe

/-- A setting that is no level, or a level that is a double. -/
def Setting.IsDouble : Setting → Prop
  | .warning bound => ∃ double, bound.value = .real double
  | .critical bound => ∃ double, bound.value = .real double
  | _ => True

/-- A setting that only some probes have. -/
def Setting.IsParticular : Setting → Prop
  | .url _ | .subject _ | .ping | .statusPath _ | .pingPath _ | .queue _ | .vhost _ | .void _ => True
  | _ => False

theorem Options.apply_doubles {options : Options} (doubles : options.levels.AreDoubles)
    {setting : Setting} (double : setting.IsDouble) :
    (options.apply setting).levels.AreDoubles := by
  cases setting with
  | warning bound =>
    intro other member
    rcases List.mem_append.mp member with warn | crit
    · cases Option.mem_toList.mp warn
      exact double
    · exact doubles other (List.mem_append_right _ crit)
  | critical bound =>
    intro other member
    rcases List.mem_append.mp member with warn | crit
    · exact doubles other (List.mem_append_left _ warn)
    · cases Option.mem_toList.mp crit
      exact double
  | _ => exact doubles

theorem Options.ofSettings_doubles {options : Options} (doubles : options.levels.AreDoubles)
    {settings : List Setting} (each : ∀ setting ∈ settings, setting.IsDouble) :
    (options.ofSettings settings).levels.AreDoubles := by
  induction settings generalizing options with
  | nil => exact doubles
  | cons setting rest ih =>
    exact ih (apply_doubles doubles (each setting List.mem_cons_self))
      fun other member => each other (List.mem_cons_of_mem _ member)

namespace Offer

/-- An option that sets no level. -/
def Levelless (opt : ProbeOption) : Prop :=
  ∀ bound, ¬ opt.Yields (.warning bound) ∧ ¬ opt.Yields (.critical bound)

theorem Levelless.isDouble {opt : ProbeOption} (levelless : Levelless opt) {setting : Setting}
    (yields : opt.Yields setting) : setting.IsDouble := by
  cases setting with
  | warning bound => exact absurd yields (levelless bound).1
  | critical bound => exact absurd yields (levelless bound).2
  | _ => trivial

theorem common_levelless {defaults : Options} {opt : ProbeOption} (offered : opt ∈ common defaults) :
    Levelless opt := by
  intro bound
  simp only [common, List.mem_cons, List.not_mem_nil, or_false] at offered
  rcases offered with rfl | rfl | rfl | rfl | rfl | rfl | rfl | rfl | rfl | rfl <;>
    simp [CommandLine.Opt.Yields, help, hostname, port, timeout, tls, username, password, reference,
      louder, debug, text]

theorem text_particular {opt : ProbeOption} {field : Field} {placeholder : Text}
    (make : Text → Setting) (takes : opt.takes = text field make placeholder)
    (makes : ∀ given, (make given).IsParticular) {setting : Setting} (yields : opt.Yields setting) : setting.IsParticular := by
  simp only [CommandLine.Opt.Yields, takes, text] at yields
  rcases yields with rfl | ⟨given, read⟩
  · trivial
  · cases read
    exact makes given

theorem subject_particular {subjects : List Subject} {help : Text} {setting : Setting}
    (yields : (subject subjects help).Yields setting) : setting.IsParticular := by
  rcases yields with rfl | ⟨name, offered⟩
  · trivial
  · obtain ⟨subject, _, same⟩ := List.mem_map.mp offered
    cases same
    trivial

theorem level_isDouble {field : Field} {make : Bound → Setting} {names : List Text} {help : Text}
    (makes : ∀ {text bound}, Bound.parse? text = some bound → (make bound).IsDouble)
    {setting : Setting} (yields : (level field make names help).Yields setting) :
    setting.IsDouble := by
  rcases yields with rfl | ⟨text, read⟩
  · trivial
  · obtain ⟨bound, parsed, rfl⟩ := Option.map_eq_some_iff.mp read
    exact makes parsed

theorem levels_isDouble {what : Text} {opt : ProbeOption} (offered : opt ∈ levels what)
    {setting : Setting} (yields : opt.Yields setting) : setting.IsDouble := by
  simp only [levels, List.mem_cons, List.not_mem_nil, or_false] at offered
  rcases offered with rfl | rfl
  · exact level_isDouble Bound.parse_double yields
  · exact level_isDouble Bound.parse_double yields

/-- The levels of a probe are doubles if no option of its own sets a level. -/
theorem parse_doubles {offer : Offer} (own : ∀ opt ∈ offer.own, Levelless opt)
    (defaults : offer.defaults.levels.AreDoubles) {words : List Text} {options : Options}
    (accepted : offer.parse words = .ok options) : options.levels.AreDoubles := by
  obtain ⟨settings, read, rfl⟩ := parse_ok accepted
  apply Options.ofSettings_doubles defaults
  intro setting member
  obtain ⟨opt, offered, yields⟩ := CommandLine.parse_yields read setting member
  simp only [Offer.options, List.mem_append] at offered
  rcases offered with (common | here) | measured
  · exact (common_levelless common).isDouble yields
  · exact (own opt here).isDouble yields
  · cases what : offer.measured with
    | none => simp [what] at measured
    | some text =>
      rw [what] at measured
      exact levels_isDouble measured yields

end Offer
end Probe

namespace Service

/-- Options of its own set a service nothing that all services have. -/
theorem own_particular {service : Service} (known : service ∈ all) {opt : Probe.ProbeOption}
    (offered : opt ∈ service.offer.own) {setting : Probe.Setting} (yields : opt.Yields setting) :
    setting.IsParticular := by
  rcases mem_all.mp known with rfl | rfl | rfl | rfl | rfl | rfl | rfl
  · cases List.mem_singleton.mp offered
    exact Probe.Offer.text_particular .url rfl (fun _ => trivial) yields
  · cases List.mem_singleton.mp offered
    exact Probe.Offer.subject_particular yields
  · cases offered
  · cases List.mem_singleton.mp offered
    exact Probe.Offer.subject_particular yields
  · replace offered : opt ∈ PhpFpm.options := offered
    simp only [PhpFpm.options, List.mem_cons, List.not_mem_nil, or_false] at offered
    rcases offered with rfl | rfl | rfl
    · cases yields
      trivial
    · exact Probe.Offer.text_particular .statusPath rfl (fun _ => trivial) yields
    · exact Probe.Offer.text_particular .pingPath rfl (fun _ => trivial) yields
  · replace offered : opt ∈ RabbitMq.options := offered
    simp only [RabbitMq.options, List.mem_cons, List.not_mem_nil, or_false] at offered
    rcases offered with rfl | rfl
    · exact Probe.Offer.text_particular .queue rfl (fun _ => trivial) yields
    · exact Probe.Offer.text_particular .vhost rfl (fun _ => trivial) yields
  · cases List.mem_singleton.mp offered
    exact Probe.Offer.subject_particular yields

theorem own_levelless {service : Service} (known : service ∈ all) {opt : Probe.ProbeOption}
    (offered : opt ∈ service.offer.own) : Probe.Offer.Levelless opt :=
  fun _ => ⟨own_particular known offered, own_particular known offered⟩

theorem parse_doubles {service : Service} (known : service ∈ all) {words : List Text}
    {options : Probe.Options} (accepted : service.offer.parse words = .ok options) :
    options.levels.AreDoubles := by
  refine Probe.Offer.parse_doubles (fun _ => own_levelless known) ?_ accepted
  rcases mem_all.mp known with rfl | rfl | rfl | rfl | rfl | rfl | rfl <;>
    (intro bound member; cases member)

/-! All services. -/

/-- What a service cannot do with in a usable reply. Grafana and Vault look at no numbers. -/
def overloads : List (Service × (Probe.Options → Text → Prop)) :=
  [(apache, Apache.Overloads), (consul, Consul.Overloads),
    (elasticsearch, Elasticsearch.Overloads), (grafana, fun _ _ => False),
    (phpFpm, PhpFpm.Overloads), (rabbitMq, RabbitMq.Overloads), (vault, fun _ _ => False)]

theorem overloads_all : overloads.map (·.1) = all := rfl

variable {service : Service} {Overloads : Probe.Options → Text → Prop} {options : Probe.Options}

theorem mem_all_of_overloads (known : (service, Overloads) ∈ overloads) : service ∈ all := by
  rw [← overloads_all]
  exact List.mem_map_of_mem known

theorem judge_succeeds (known : (service, Overloads) ∈ overloads)
    (doubles : options.levels.AreDoubles) (response : Response) :
    Succeeds (service.judge options response) ↔
      ¬ (isUsable response = true ∧ Overloads options response.body) := by
  cases usable : isUsable response with
  | false =>
    have unfit : (∃ what, service.judge options response = .ok (unusable response what)) ∨
        service = vault := judge_unusable (mem_all_of_overloads known) usable
    simp only [Bool.false_eq_true, false_and, not_false_eq_true, iff_true]
    rcases unfit with ⟨what, found⟩ | rfl
    · exact ⟨_, found⟩
    · exact ⟨_, rfl⟩
  | true =>
    simp only [true_and]
    simp only [overloads, List.mem_cons, Prod.mk.injEq, List.not_mem_nil, or_false] at known
    rcases known with ⟨rfl, rfl⟩ | ⟨rfl, rfl⟩ | ⟨rfl, rfl⟩ | ⟨rfl, rfl⟩ | ⟨rfl, rfl⟩ | ⟨rfl, rfl⟩ |
      ⟨rfl, rfl⟩
    · exact Apache.judge_succeeds doubles usable
    · exact Consul.judge_succeeds doubles usable
    · exact Elasticsearch.judge_succeeds doubles usable
    · exact iff_of_true ⟨_, rfl⟩ id
    · exact PhpFpm.judge_succeeds usable
    · exact RabbitMq.judge_succeeds doubles usable
    · exact iff_of_true ⟨_, rfl⟩ id

/-- A check of a reply of any bytes has a result, unless the reply overloads the service; then it
fails over a number that is out of range. -/
theorem check_fails_iff (known : (service, Overloads) ∈ overloads) {files : Files}
    {transport : Transport} (doubles : options.levels.AreDoubles) {request : Http.Request}
    (built : options.request files (service.path options) = .ok request) {raw : Bytes}
    (received : (transport.exchange (request.fitFor transport.tls).wire).outcome = .ok raw) :
    let response := Response.parse raw
    let check := service.check files transport options
    ((∃ result, check.outcome = .ok result) ↔
        ¬ (isUsable response = true ∧ Overloads options response.body)) ∧
      ((∃ cause, check.outcome = .error (.outOfRange cause)) ↔
        isUsable response = true ∧ Overloads options response.body) := by
  intro response check
  have outcome : check.outcome = Fault.ofNumber (service.judge options response) := by
    show (Service.check _ _ _ _).outcome = _
    rw [← Http.send_text] at received
    rw [Service.check, built, Run.ofExcept_ok_bind, Run.bind_ok (Http.get_ok received)]
    rfl
  have succeeds := judge_succeeds known doubles response
  rw [outcome]
  cases judged : service.judge options response with
  | ok result =>
    have able := succeeds.mp ⟨result, judged⟩
    exact ⟨iff_of_true ⟨result, rfl⟩ able, iff_of_false (by rintro ⟨cause, ⟨⟩⟩) able⟩
  | error cause =>
    have overloaded : isUsable response = true ∧ Overloads options response.body := by
      apply Classical.not_not.mp
      rw [← succeeds, not_succeeds]
      exact ⟨cause, judged⟩
    exact ⟨iff_of_false (by rintro ⟨result, ⟨⟩⟩) (not_not_intro overloaded),
      iff_of_true ⟨cause, rfl⟩ overloaded⟩

/-- A peer that has more queues than a double can count. -/
theorem rabbitMq_check_fails :
    let body : Text := "\x7b\"object_totals\":\x7b\"queues\":1e999\x7d\x7d"
    let raw := Utf8.encode ("HTTP/1.1 200 OK\r\n\r\n" ++ body)
    let transport := Transport.scripted { available := true } { otherwise := some (.bytes raw) }
    let options : Probe.Options := { rabbitMq.offer.defaults with hostname := "h" }
    let request : Http.Request :=
      { host := "h", port := 15672, path := "/api/overview", timeout := .ofRatio false 10 1
        username := some "guest", password := some "guest" }
    (rabbitMq, RabbitMq.Overloads) ∈ overloads ∧ options.levels.AreDoubles ∧
      options.request [] (rabbitMq.path options) = .ok request ∧
      (transport.exchange (request.fitFor transport.tls).wire).outcome = .ok raw ∧
      isUsable (Response.parse raw) = true ∧
      RabbitMq.Overloads options (Response.parse raw).body ∧
      ∃ cause, (rabbitMq.check [] transport options).outcome = .error (.outOfRange cause) := by
  intro body raw transport options request
  have known : (rabbitMq, RabbitMq.Overloads) ∈ overloads := by simp [overloads]
  have doubles : options.levels.AreDoubles := by
    intro bound member
    cases member
  have built : options.request [] (rabbitMq.path options) = .ok request := rfl
  have received : (transport.exchange (request.fitFor transport.tls).wire).outcome = .ok raw := by
    rw [Transport.scripted_exchange]
    rfl
  have usable : isUsable (Response.parse raw) = true := by decide +kernel
  have overloaded : RabbitMq.Overloads options (Response.parse raw).body := by
    have infinite : Numeral.readDouble?
        (Field.nested (Response.parse raw).body "object_totals.queues") =
          some (.infinite false) := by decide +kernel
    exact ⟨"queues", by simp [RabbitMq.totals], .infinite false, infinite, trivial⟩
  have fails := check_fails_iff known doubles built received
  exact ⟨known, doubles, built, received, usable, overloaded, fails.2.mpr ⟨usable, overloaded⟩⟩

/-- The run of such a check. -/
theorem rabbitMq_run_reports_failed_check :
    let words : List Text := ["-H", "h"]
    let raw := Utf8.encode
      "HTTP/1.1 200 OK\r\n\r\n\x7b\"object_totals\":\x7b\"queues\":1e999\x7d\x7d"
    let run := rabbitMq.probe.run [] (.scripted { available := true }
      { otherwise := some (.bytes raw) }) words
    rabbitMq ∈ all ∧ run.journal.output =
      "UNKNOWN: RabbitMQ check failed: cannot convert float infinity to integer\n".toList := by
  intro words raw run
  have known : rabbitMq ∈ all := by simp [all, named]
  refine ⟨known, ?_⟩
  rw [String.toList_ofList]
  decide +kernel

end Service
end ServiceProbe
