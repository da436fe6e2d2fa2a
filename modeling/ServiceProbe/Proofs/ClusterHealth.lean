import ServiceProbe.Proofs.Aggregation
import ServiceProbe.Proofs.Hearing
import ServiceProbe.Proofs.Rearrangement
import ServiceProbe.Proofs.WholeNumber
/-!
The health of a cluster as an object tells it: the worse of what its status says and of what the levels say
of its unassigned shards, whatever else the object has and in whatever order.
-/
namespace ServiceProbe.Service.Elasticsearch

open Json Outcome
open Transport (Replies)
open Http (Response)

/-- A key has a natural number of at most 53 bits. -/
def HasNumber (document : Json .value) (key : Text) (n : Nat) : Prop :=
  n < Power.two 53 ∧ ∃ text, Field.Spells n text ∧ document.Has key (.bare text)

/-- What an object tells of a cluster. The number of unassigned shards may be missing. -/
structure Describes (document : Json .value) (status : Text) (count : Option Nat) : Prop where
  ordinary : document.Ordinary
  status : document.Has "status" (.string status)
  nodes : ∃ n, HasNumber document "number_of_nodes" n
  dataNodes : ∃ n, HasNumber document "number_of_data_nodes" n
  counted : ∀ n ∈ count, HasNumber document "unassigned_shards" n
  uncounted : count = none → "unassigned_shards".toList ∉ document.keys

/-- The state of the unassigned shards. Without their number there is nothing to hold against levels. -/
def shardState (levels : Levels) : Option Nat → Except OutOfRange State
  | none => .ok .ok
  | some n => levels.evaluate .upper none (.int n)

variable {document other : Json .value} {text body status key : Text} {count : Option Nat} {n : Nat}

theorem HasNumber.value (has : HasNumber document key n) (ordinary : document.Ordinary)
    (written : Written document.tokens text) :
    Number.value? (.real (Field.number text key)) = some (n : ℚ) := by
  obtain ⟨short, spelled, spells, has⟩ := has
  exact Field.number_value ordinary written has spells short

theorem HasNumber.rearranged (rearranged : Rearranged document other)
    (has : HasNumber document key n) : HasNumber other key n := by
  obtain ⟨short, spelled, spells, has⟩ := has
  exact ⟨short, spelled, spells, rearranged.has_leaf trivial has⟩

theorem Describes.rearranged (rearranged : Rearranged document other)
    (describes : Describes document status count) : Describes other status count where
  ordinary := rearranged.ordinary describes.ordinary
  status := rearranged.has_leaf trivial describes.status
  nodes := describes.nodes.imp fun _ => HasNumber.rearranged rearranged
  dataNodes := describes.dataNodes.imp fun _ => HasNumber.rearranged rearranged
  counted n told := (describes.counted n told).rearranged rearranged
  uncounted untold member := describes.uncounted untold (rearranged.keys_perm.mem_iff.mpr member)

variable {levels : Levels}

theorem Describes.succeeds (describes : Describes document status count)
    (written : Written document.tokens text) (doubles : levels.AreDoubles) :
    Succeeds (judgeBody text levels) := by
  have finite (key : Text) (some : ∃ n, HasNumber document key n) :
      ¬ (Field.number text key).IsInfinite := by
    obtain ⟨n, has⟩ := some
    exact Number.not_infinite_of_value (has.value describes.ordinary written)
  exact (judgeBody_succeeds doubles).mpr (summary_succeeds.mpr
    ⟨finite _ describes.nodes, finite _ describes.dataNodes⟩)

theorem summary_state (describes : Describes document status count)
    (written : Written document.tokens text) {result : CheckResult}
    (summed : summary text = .ok result) : result.state = stateOf status := by
  obtain ⟨nodes, _, summed⟩ := bind_ok summed
  obtain ⟨dataNodes, _, summed⟩ := bind_ok summed
  obtain ⟨first, _, summed⟩ := bind_ok summed
  obtain ⟨second, _, summed⟩ := bind_ok summed
  cases summed
  exact congrArg stateOf (Field.value_string describes.ordinary written describes.status)

theorem isPresent_shards (describes : Describes document status count)
    (written : Written document.tokens text) :
    Field.isPresent text "unassigned_shards" = count.isSome := by
  have word : IsKey "unassigned_shards" := by decide +kernel
  rw [Bool.eq_iff_iff, Field.isPresent_document word describes.ordinary.plain written]
  cases told : count with
  | none => exact iff_of_false (describes.uncounted told) (by decide)
  | some n =>
    obtain ⟨_, _, _, has⟩ := describes.counted n told
    exact iff_of_true has.mem_keys rfl

/-- The number of shards is a double where it is measured, and is held against levels like the integer. -/
theorem shards_state (describes : Describes document status (some n))
    (written : Written document.tokens text) {result : CheckResult}
    (measured : (shards text levels).check = .ok result) :
    shardState levels (some n) = .ok result.state := by
  have value := (describes.counted n rfl).value describes.ordinary written
  have integer : Number.value? (.int n) = some (n : ℚ) := by simp [Number.value?]
  have alike := Number.compare_congr value integer
  rw [shardState, ← Levels.evaluate_congr levels .upper alike]
  exact Measurement.state_of_check measured

/-- The summary stands alone without a level or without a number of shards, and then there is nothing that
could be worse. -/
theorem judgeBody_state (describes : Describes document status count)
    (written : Written document.tokens text) {result : CheckResult}
    (found : judgeBody text levels = .ok result) :
    ∃ level, shardState levels count = .ok level ∧
      result.state = State.worse (stateOf status) level := by
  obtain ⟨summed, said, found⟩ := bind_ok found
  rw [isPresent_shards describes written] at found
  rw [← summary_state describes written said]
  cases count with
  | none =>
    rw [Option.isSome_none, Bool.not_false, Bool.or_true, if_pos rfl] at found
    cases found
    exact ⟨.ok, rfl, (State.worse_ok _).symm⟩
  | some n =>
    rw [Option.isSome_some, Bool.not_true, Bool.or_false] at found
    by_cases empty : levels.isEmpty = true
    · rw [if_pos empty] at found
      cases found
      exact ⟨.ok, Levels.evaluate_eq_ok_iff.mpr (Levels.passed_of_isEmpty empty),
        (State.worse_ok _).symm⟩
    · rw [if_neg empty] at found
      obtain ⟨measured, checked, found⟩ := bind_ok found
      cases found
      exact ⟨_, shards_state describes written checked, rfl⟩

/-! Runs. -/

variable {tls : Capability} {replies : Replies} {files : Files} {words : List Text}
  {options : Probe.Options} {response : Response}

/-- The verdict on a cluster is the worse of the state that its status names and of that of its unassigned
shards. Neither hides the other, and the order of the fields is of no account. -/
theorem run_tells_worse (hears : elasticsearch.Hears tls replies files words options response)
    (answered : response.status = 200) (document : Json .value) (status : Text) (count : Option Nat)
    (describes : Describes document status count)
    (written : Written document.tokens response.body) :
    let run := elasticsearch.probe.run files (.scripted tls replies) words
    ∃ result level, Probe.Returns run result ∧ shardState options.levels count = .ok level ∧
      result.state = State.worse (stateOf status) level ∧
      result.state.badness = max (stateOf status).badness level.badness ∧
      ∀ (other : Json .value) (body : Text), Rearranged document other → Written other.tokens body →
        ∃ another, judgeBody body options.levels = .ok another ∧ another.state = result.state := by
  intro run
  have doubles : options.levels.AreDoubles := parse_doubles (mem_all.mpr (by simp)) hears.accepted
  obtain ⟨result, found⟩ := describes.succeeds written doubles
  obtain ⟨level, evaluated, worse⟩ := judgeBody_state describes written found
  have judges : elasticsearch.judge (options.fitFor tls) response = .ok result := by
    have some := Field.ne_nil_of_written describes.ordinary.plain written
    show judge _ _ = _
    rw [judge, if_pos (usable_of_body answered some), fitFor_levels, found]
  refine ⟨result, level, hears.returns judges, evaluated, worse, ?_, ?_⟩
  · rw [worse, State.badness_worse]
  · intro other body rearranged rewritten
    have describesToo := describes.rearranged rearranged
    obtain ⟨another, foundToo⟩ := describesToo.succeeds rewritten doubles
    obtain ⟨levelToo, evaluatedToo, worseToo⟩ := judgeBody_state describesToo rewritten foundToo
    refine ⟨another, foundToo, ?_⟩
    rw [evaluated, Except.ok.injEq] at evaluatedToo
    rw [worse, worseToo, evaluatedToo]

/-- A cluster without replicas that has lost a node: its status alone would be a warning. -/
theorem run_tells_lost_shards :
    let counts : Json .members :=
      .member "number_of_data_nodes" (.bare "2") (.member "unassigned_shards" (.bare "12") .noMember)
    let members : Json .members :=
      .member "cluster_name" (.string "status")
        (.member "number_of_nodes" (.bare "3") (.member "status" (.string "yellow") counts))
    let body : Text := "\x7b\"cluster_name\":\"status\",\n\"number_of_nodes\": 3,\"status\":\"yellow\"," ++
      "\"number_of_data_nodes\": 2,\"unassigned_shards\": 12 \x7d"
    let words : List Text := ["-H", "e", "-w", "5", "-c", "10"]
    let levels : Levels :=
      { warn := some ⟨.real (.ofRatio false 5 1), false⟩
        crit := some ⟨.real (.ofRatio false 10 1), false⟩ }
    let options : Probe.Options := { elasticsearch.offer.defaults with hostname := "e", levels }
    let raw := Utf8.encode ("HTTP/1.1 200 OK\r\n\r\n" ++ body)
    let response : Response := .parse raw
    let tls : Capability := { available := true }
    let replies : Replies := { otherwise := some (.bytes raw) }
    elasticsearch.Hears tls replies [] words options response ∧ response.status = 200 ∧
      Describes (.object members) "yellow" (some 12) ∧
      Written (Json.object members).tokens response.body ∧
      shardState levels (some 12) = .ok .critical ∧
      (elasticsearch.probe.run [] (.scripted tls replies) words).outcome = .ok (.returned 2) := by
  intro counts members body words levels options raw response tls replies
  have hears : elasticsearch.Hears tls replies [] words options response :=
    hears_of_bytes (by rfl) (by decide) (by decide +kernel)
  have answered : response.status = 200 := by decide +kernel
  have spelled (n : Nat) : Field.Spells n (Text.ofNat n) := Or.inl rfl
  have describes : Describes (.object members) "yellow" (some 12) :=
    { ordinary := by decide +kernel
      status := .object (.later (.later .here))
      nodes := ⟨3, by decide, _, spelled 3, .object (.later .here)⟩
      dataNodes := ⟨2, by decide, _, spelled 2, .object (.later (.later (.later .here)))⟩
      counted := by
        rintro n ⟨⟩
        exact ⟨by decide, _, spelled 12, .object (.later (.later (.later (.later .here))))⟩
      uncounted := nofun }
  have written : Written (Json.object members).tokens response.body := by
    have layout : response.body = laidOut (List.replicate 5 [] ++ [['\n'], [], [' ']] ++
        List.replicate 7 [] ++ [[' ']] ++ List.replicate 3 [] ++ [[' '], [' ']])
        (Json.object members).tokens := by decide +kernel
    rw [layout]
    exact laidOut_written (by simp [isSpace]) _
  have beyond : shardState levels (some 12) = .ok .critical := by decide +kernel
  obtain ⟨result, level, returns, evaluated, worse, _⟩ :=
    run_tells_worse hears answered _ _ _ describes written
  rw [beyond, Except.ok.injEq] at evaluated
  refine ⟨hears, answered, describes, written, beyond, ?_⟩
  rw [returns.outcome, worse, ← evaluated]
  rfl

end ServiceProbe.Service.Elasticsearch
