import ServiceProbe.Proofs.Decoding
import ServiceProbe.Proofs.Gauge
import ServiceProbe.Proofs.Hearing
import ServiceProbe.Proofs.Nested
import ServiceProbe.Proofs.Rearrangement
/-!
What is counted and looked for in the replies of a registry. The patterns match where the document has the
key and nowhere else, so that their number is the number of those keys, and the order of records and
fields is of no account.
-/
namespace ServiceProbe.Service.Consul

open Json Outcome
open ServiceProbe.Field
open Transport (Replies)
open Http (Response)

variable {key : Text} {document : Json .value} {text : Text}

/-! Counting keys. -/

theorem countFrom_skip (key : Text) (skip : Nat) (text : Text) :
    countFrom key skip text = countFrom key 0 (text.drop skip) := by
  induction text generalizing skip with
  | nil => cases skip <;> rfl
  | cons c rest ih =>
    cases skip with
    | zero => rfl
    | succ skip => exact ih skip

theorem skips_countFrom (key : Text) : Skips key (countFrom key 0) := by
  intro c rest absent
  simp [countFrom, absent]

theorem weighs_countFrom (key : Text) (value : Json .value) :
    Weighs key (countFrom key 0) (fun _ count => count + 1) value := by
  intro gap rest behind blank _
  -- The search goes on behind the colon, since all before it belongs to the pattern.
  have whole : key ++ ['"'] ++ (gap ++ ':' :: rest) = (key ++ ['"'] ++ gap ++ [':']) ++ rest := by simp
  have here := @behindKey_here key gap blank rest
  rw [List.cons_append] at here ⊢
  simp only [countFrom, here, countFrom_skip key (List.length _ - _)]
  rw [whole, List.length_append, Nat.add_sub_cancel, List.drop_left]

/-- The pattern of a key matches as often as the document has the key. -/
theorem countKeys_eq_count (word : IsKey key) (plain : ∀ token ∈ document.tokens, token.Plain)
    (written : Written document.tokens text) : countKeys text key = document.keys.count key := by
  have counted (values : List (Json .value)) :
      values.foldr (fun _ count => count + 1) (countFrom key 0 []) = values.length := by
    induction values with
    | nil => rfl
    | cons _ _ ih => rw [List.foldr_cons, ih, List.length_cons]
  rw [countKeys, (skips_countFrom key).written word plain (fun value _ => weighs_countFrom key value)
    written, counted, length_valuesOf]

/-! Looking for a key with a value in quotes. -/

variable {value : Text}

def pair? (key value text : Text) : Option Text := do
  Text.after? ('"' :: value ++ ['"']) (Text.skipBlanks (← behindKey? key text))

theorem onKey_pair (key value : Text) : OnKey key (pair? key value) := by
  intro text absent
  simp [pair?, absent]

def isString (value : Text) : Json .value → Bool
  | .string content => content == value
  | _ => false

theorem isString_iff {found : Json .value} : isString value found = true ↔ found = .string value := by
  cases found <;> simp [isString]

theorem after_quoted (plain : '"' ∉ value) {content : Text} (other : '"' ∉ content) (left : Text) :
    (Text.after? ('"' :: value ++ ['"']) ('"' :: (content ++ ['"']) ++ left)).isSome =
      (content == value) := by
  by_cases same : content = value
  · subst same
    rw [beq_self_eq_true]
    exact Option.isSome_of_mem (Text.after_append _ left)
  · rw [beq_false_of_ne same, Option.isSome_eq_false_iff, Option.isNone_iff_eq_none,
      Option.eq_none_iff_forall_not_mem]
    intro rest found
    have stands := Text.after_some.mp found
    simp only [List.cons_append, List.append_assoc, List.cons.injEq, true_and,
      List.nil_append] at stands
    exact same (same_content other plain stands).1

theorem after_unquoted {token : Token} (plain : token.Plain) (bare : ∀ content, token ≠ .string content)
    (left : Text) : Text.after? ('"' :: value ++ ['"']) (token.text ++ left) = none := by
  cases token with
  | string content => exact absurd rfl (bare content)
  | mark c =>
    have other : '"' ≠ c := by
      rintro rfl
      revert plain
      decide
    simp [Text.after?, Token.text, other]
  | bare text =>
    obtain ⟨c, others, rfl⟩ := List.exists_cons_of_ne_nil plain.1
    have other := (isBare_solid (plain.2 c List.mem_cons_self)).2.1
    simp [Text.after?, Token.text, Ne.symm other]

theorem pair_at {place rest : Text} {behind : List Token} (quoteless : '"' ∉ value)
    (found : behindKey? key place = some rest) {here : Json .value}
    (plain : ∀ token ∈ here.tokens, token.Plain) (written : Written (here.tokens ++ behind) rest) :
    (pair? key value place).isSome = isString value here := by
  have step : pair? key value place =
      Text.after? ('"' :: value ++ ['"']) (Text.skipBlanks rest) := by
    simp [pair?, found]
  rw [step]
  cases here with
  | string content =>
    have other : (Token.string content).Plain := plain _ List.mem_cons_self
    obtain ⟨left, _, head⟩ := skipBlanks_token written other
    rw [head]
    exact after_quoted quoteless other left
  | bare | object | array =>
    obtain ⟨left, _, head⟩ := skipBlanks_token written (plain _ List.mem_cons_self)
    rw [head, after_unquoted (plain _ List.mem_cons_self) nofun]
    rfl

theorem weighs_pair (word : IsKey key) (quoteless : '"' ∉ value) {here : Json .value}
    (plain : ∀ token ∈ here.tokens, token.Plain) :
    Weighs key (fun text => (Text.leftmost? (pair? key value) text).isSome)
      (fun found later => isString value found || later) here := by
  intro gap rest behind blank written
  have found := pair_at quoteless (@behindKey_here key gap blank rest) plain written
  show Option.isSome _ = _
  rw [leftmost_place (onKey_pair key value) word blank, Option.isSome_or, found]

/-- The pattern of a key and a value matches if and only if the document has the key with that value. -/
theorem holds_iff (word : IsKey key) (quoteless : '"' ∉ value)
    (plain : ∀ token ∈ document.tokens, token.Plain) (written : Written document.tokens text) :
    holds text key value = true ↔ document.Has key (.string value) := by
  have skips : Skips key fun text => (Text.leftmost? (pair? key value) text).isSome :=
    fun c rest absent => congrArg Option.isSome ((onKey_pair key value).skips c rest absent)
  have weighs : ∀ here ∈ document.valuesOf key, Weighs key
      (fun text => (Text.leftmost? (pair? key value) text).isSome)
      (fun found later => isString value found || later) here := by
    intro here member
    have has := has_of_mem_valuesOf member
    have inside := has.tokens_infix.subset
    exact weighs_pair word quoteless fun token token_mem => plain token (inside token_mem)
  have found (values : List (Json .value)) :
      values.foldr (fun found later => isString value found || later) false = true ↔
        .string value ∈ values := by
    induction values with
    | nil => simp
    | cons first values ih =>
      rw [List.foldr_cons, Bool.or_eq_true, isString_iff, ih, List.mem_cons, eq_comm]
  have whole : holds text key value = (document.valuesOf key).foldr
      (fun found later => isString value found || later) false :=
    skips.written word plain weighs written
  rw [whole, found, mem_valuesOf]

/-! What is told of a document. -/

/-- The state of all health checks in a document. -/
structure Health (document : Json .value) (state : State) : Prop where
  critical : state = .critical ↔ document.Has "Status" (.string "critical")
  warning : state = .warning ↔ ¬ document.Has "Status" (.string "critical") ∧
    document.Has "Status" (.string "warning")
  ok : state = .ok ↔ ¬ document.Has "Status" (.string "critical") ∧
    ¬ document.Has "Status" (.string "warning")

/-- There is one metric, and it shows a count under a name. -/
def Counts (name : Text) (count : Nat) (metrics : List Text) : Prop :=
  ∃ token, metrics = [token] ∧ (Reading.ofToken token).name = name ∧
    (Reading.ofToken token).measured = Text.ofNat count

theorem isKey_status : IsKey "Status" ∧ IsKey "Name" ∧ IsKey "ID" := by decide +kernel

theorem judgeHealth_health (plain : ∀ token ∈ document.tokens, token.Plain)
    (written : Written document.tokens text) : Health document (judgeHealth text).state := by
  have critical := holds_iff isKey_status.1 (show '"' ∉ ("critical" : Text) by decide) plain written
  have warning := holds_iff isKey_status.1 (show '"' ∉ ("warning" : Text) by decide) plain written
  have state : (judgeHealth text).state = if holds text "Status" "critical" then .critical
      else if holds text "Status" "warning" then .warning else .ok := by
    unfold judgeHealth
    split
    · rfl
    · split <;> rfl
  constructor <;> simp only [state, ← critical, ← warning] <;>
    cases holds text "Status" "critical" <;> cases holds text "Status" "warning" <;> decide

/-! One whole number is shown. -/

theorem counts_of_token {name : Text} {n : Nat} {levels : NumberPair} {token : Text}
    (quoteless : '\'' ∉ name) (written : Metric.token name (.int n) [] levels = .ok token) :
    Counts name n [token] := by
  let source : Metric.Source := { name, value := some (.int n), levels }
  have clean : source.Clean .ofNames := ⟨quoteless, by simp [source], nofun⟩
  obtain ⟨read, _⟩ := Metric.Source.reading_of_token clean written
  obtain ⟨measured, placed, read⟩ := bind_ok read
  obtain ⟨warn, _, read⟩ := bind_ok read
  obtain ⟨crit, _, read⟩ := bind_ok read
  obtain ⟨least, _, read⟩ := bind_ok read
  obtain ⟨greatest, _, read⟩ := bind_ok read
  have whole := Except.ok.inj read
  have shown : measured = Text.ofNat n := Metric.number_int n measured placed
  refine ⟨token, rfl, ?_, ?_⟩ <;> rw [← whole]
  rw [shown]
  exact List.append_nil _

theorem check_counts {m : Measurement} {name : Text} {n : Nat} (named : m.metric = some name)
    (quoteless : '\'' ∉ name) (whole : m.value = .int n) (unitless : m.unit = [])
    (unbounded : m.boundaries = (none, none)) {result : CheckResult} (checked : m.check = .ok result) :
    m.state = .ok result.state ∧ Counts name n result.metrics := by
  refine ⟨Measurement.state_of_check checked, ?_⟩
  obtain ⟨state, _, checked⟩ := bind_ok checked
  obtain ⟨message, _, checked⟩ := bind_ok checked
  obtain ⟨metrics, shown, checked⟩ := bind_ok checked
  cases checked
  rw [Measurement.metrics, named] at shown
  obtain ⟨warn, _, shown⟩ := bind_ok shown
  obtain ⟨crit, _, shown⟩ := bind_ok shown
  obtain ⟨token, written, shown⟩ := bind_ok shown
  cases shown
  rw [whole, unitless, unbounded] at written
  exact counts_of_token quoteless written

/-- The members are held against levels below which they are too few. -/
theorem judgeMembers_counts {levels : Levels} (doubles : levels.AreDoubles)
    (fits : countKeys text "Name" < Double.limit) :
    ∃ result, judgeMembers text levels = .ok result ∧
      levels.evaluate .lower none (.int (countKeys text "Name")) = .ok result.state ∧
      Counts "members" (countKeys text "Name") result.metrics := by
  obtain ⟨result, judged⟩ := (judgeMembers_succeeds doubles).mpr (Nat.not_le.mpr fits)
  refine ⟨result, judged, ?_⟩
  have quoteless : '\'' ∉ ("members" : Text) := by decide
  rw [judgeMembers] at judged
  split at judged
  · next empty =>
    obtain ⟨token, written, judged⟩ := bind_ok judged
    cases judged
    refine ⟨?_, counts_of_token quoteless written⟩
    exact (Levels.evaluate_eq_ok_iff).mpr (Levels.passed_of_isEmpty empty)
  · exact check_counts rfl quoteless rfl rfl rfl judged

theorem judgeServices_counts (fits : countKeys text "ID" < Double.limit) :
    ∃ result, judgeServices text = .ok result ∧ result.state = .ok ∧
      result.message = Text.ofNat (countKeys text "ID") ++ " services registered" ∧
      Counts "services" (countKeys text "ID") result.metrics := by
  have succeeds : Succeeds (judgeServices text) := by
    rw [judgeServices, succeeds_last fun _ _ => succeeds_pure _]
    exact Metric.token_succeeds.mpr fits
  obtain ⟨result, judged⟩ := succeeds
  refine ⟨result, judged, ?_⟩
  obtain ⟨token, written, made⟩ := bind_ok judged
  cases made
  exact ⟨rfl, rfl, counts_of_token (by decide) written⟩

/-! Runs. -/

variable {tls : Capability} {replies : Replies} {files : Files} {words : List Text}
  {options : Probe.Options} {response : Response}

theorem judge_fitFor (answered : response.status = 200) (some : response.body ≠ []) :
    consul.judge (options.fitFor tls) response = judgeBody options response.body := by
  show judge _ _ = _
  rw [judge, if_pos (usable_of_body answered some), judgeBody, judgeBody, fitFor_subject,
    fitFor_levels]

/-- Only the leader depends on more than what the document has and how often. -/
theorem judgeBody_rearranged {other : Json .value} {body : Text}
    (plain : ∀ token ∈ document.tokens, token.Plain) (written : Written document.tokens text)
    (rearranged : Rearranged document other) (rewritten : Written other.tokens body)
    (leaderless : options.subject ≠ .leader) : judgeBody options body = judgeBody options text := by
  obtain ⟨status, name, id⟩ := isKey_status
  have otherPlain := rearranged.plain plain
  have counts {key : Text} (word : IsKey key) : countKeys body key = countKeys text key := by
    rw [countKeys_eq_count word plain written, countKeys_eq_count word otherPlain rewritten]
    exact rearranged.symm.keys_perm.count_eq key
  have found {value : Text} (quoteless : '"' ∉ value) :
      holds body "Status" value = holds text "Status" value := by
    rw [Bool.eq_iff_iff, holds_iff status quoteless plain written,
      holds_iff status quoteless otherPlain rewritten]
    exact rearranged.symm.has_leaf_iff trivial
  have health : judgeHealth body = judgeHealth text := by
    rw [judgeHealth, judgeHealth, found (by decide), found (by decide)]
  have members (levels : Levels) : judgeMembers body levels = judgeMembers text levels := by
    rw [judgeMembers, judgeMembers, counts name]
  have services : judgeServices body = judgeServices text := by
    rw [judgeServices, judgeServices, counts id]
  rw [judgeBody, judgeBody]
  cases subject : options.subject with
  | leader => exact absurd subject leaderless
  | members => exact members _
  | services => exact services
  | _ => exact congrArg _ health

/-- What is reported of the health checks, the members and the services of a document depends on its keys
and on the values that it has for them, not on their order or on the white space between them. -/
theorem run_tells_document (hears : consul.Hears tls replies files words options response)
    (answered : response.status = 200) (document : Json .value)
    (plain : ∀ token ∈ document.tokens, token.Plain)
    (written : Written document.tokens response.body) :
    let run := consul.probe.run files (.scripted tls replies) words
    let members := document.keys.count ("Name" : Text)
    let services := document.keys.count ("ID" : Text)
    countKeys response.body "Name" = members ∧ countKeys response.body "ID" = services ∧
      (options.subject = .health → ∃ result, Probe.Returns run result ∧
        Health document result.state) ∧
      (options.subject = .members → members < Double.limit → ∃ result, Probe.Returns run result ∧
        options.levels.evaluate .lower none (.int members) = .ok result.state ∧
        Counts "members" members result.metrics) ∧
      (options.subject = .services → services < Double.limit → ∃ result, Probe.Returns run result ∧
        result.state = .ok ∧ result.message = Text.ofNat services ++ " services registered" ∧
        Counts "services" services result.metrics) ∧
      ∀ (other : Json .value) (body : Text), Rearranged document other → Written other.tokens body →
        options.subject ≠ .leader → judgeBody options body = judgeBody options response.body := by
  intro run members services
  obtain ⟨_, name, id⟩ := isKey_status
  have counted : countKeys response.body "Name" = members := countKeys_eq_count name plain written
  have registered : countKeys response.body "ID" = services := countKeys_eq_count id plain written
  have returns {result : CheckResult} (judged : judgeBody options response.body = .ok result) :
      Probe.Returns run result :=
    hears.returns ((judge_fitFor answered (ne_nil_of_written plain written)).trans judged)
  refine ⟨counted, registered, fun subject => ?_, fun subject fits => ?_, fun subject fits => ?_, ?_⟩
  · exact ⟨_, returns (by rw [judgeBody, subject]), judgeHealth_health plain written⟩
  · have doubles : options.levels.AreDoubles :=
      parse_doubles (mem_all.mpr (by simp)) hears.accepted
    rw [← counted] at fits ⊢
    obtain ⟨result, judged, evaluated, shown⟩ := judgeMembers_counts doubles fits
    exact ⟨result, returns (by rw [judgeBody, subject, judged]), evaluated, shown⟩
  · rw [← registered] at fits ⊢
    obtain ⟨result, judged, fine, message, shown⟩ := judgeServices_counts fits
    exact ⟨result, returns (by rw [judgeBody, subject, judged]), fine, message, shown⟩
  · intro other body rearranged rewritten leaderless
    exact judgeBody_rearranged plain written rearranged rewritten leaderless

/-- Two checks with texts that look like what is searched for. -/
theorem run_tells_checks :
    let first : Json .members :=
      .member "Name" (.string "Status: critical") (.member "ID" (.string "critical") .noMember)
    let second : Json .members :=
      .member "Status-ID" (.string "critical") (.member "Status" (.string "warning") .noMember)
    let document : Json .value := .array (.item (.object first) (.item (.object second) .noItem))
    let body : Text := "[\x7b\"Name\":\"Status: critical\",\"ID\":\"critical\"\x7d,\n" ++
      "\x7b\"Status-ID\":\"critical\",\"Status\" : \"warning\"\x7d]"
    let words : List Text := ["-H", "c"]
    let options : Probe.Options := { consul.offer.defaults with hostname := "c" }
    let response : Response := .parse (Utf8.encode ("HTTP/1.1 200 OK\r\n\r\n" ++ body))
    let tls : Capability := { available := true }
    let replies : Replies :=
      { otherwise := some (.bytes (Utf8.encode ("HTTP/1.1 200 OK\r\n\r\n" ++ body))) }
    consul.Hears tls replies [] words options response ∧ response.status = 200 ∧
      (∀ token ∈ document.tokens, token.Plain) ∧ Written document.tokens response.body ∧
      options.subject = .health ∧
      (consul.probe.run [] (.scripted tls replies) words).outcome = .ok (.returned 1) := by
  intro first second document body words options response tls replies
  have hears : consul.Hears tls replies [] words options response :=
    hears_of_bytes rfl (by decide) (by decide +kernel)
  have answered : response.status = 200 := by decide +kernel
  have plain : ∀ token ∈ document.tokens, token.Plain := by decide
  have written : Written document.tokens response.body := by
    have layout : response.body = laidOut (List.replicate 11 [] ++ [['\n']] ++ List.replicate 5 [] ++
        [[' '], [' ']]) document.tokens := by decide +kernel
    rw [layout]
    exact laidOut_written (by simp [isSpace]) _
  obtain ⟨_, _, health, _⟩ := run_tells_document hears answered document plain written
  obtain ⟨result, returns, state⟩ := health rfl
  have values : document.valuesOf "Status" = [.string "warning"] := by rfl
  have warned : result.state = .warning := by
    rw [state.warning, ← mem_valuesOf, ← mem_valuesOf, values]
    exact ⟨by simp, List.mem_singleton_self _⟩
  refine ⟨hears, answered, plain, written, rfl, ?_⟩
  rw [returns.outcome, warned]
  rfl

end ServiceProbe.Service.Consul
