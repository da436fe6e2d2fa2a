import ServiceProbe.Proofs.Census
import ServiceProbe.Proofs.FirstKey
/-!
The leader of a cluster, alone in quotes or in a field of an object. A field that is there and empty goes
the way of one that is missing: the whole reply is taken for the leader.
-/
namespace ServiceProbe.Service.Consul

open Json
open ServiceProbe.Field
open Transport (Replies)
open Http (Response)

/-! A string alone. -/

section Lone

variable {key before content behind : Text} (blank : ∀ c ∈ before, Text.isBlank c = true)
  (plain : '"' ∉ content) (blankBehind : ∀ c ∈ behind, Text.isBlank c = true)

/-- A quotation mark behind which no other stands opens no key. -/
theorem behindKey_last (free : '"' ∉ behind) : behindKey? key ('"' :: behind) = none := by
  rw [behindKey_eq_none_iff]
  rintro rest ⟨gap, _, same⟩
  apply free
  rw [List.cons_append, List.cons_append, List.cons.injEq] at same
  simp [same.2]

include blank plain blankBehind

theorem leftmost_lone {α : Type} {read : Text → Option α} (onKey : OnKey key read)
    (word : IsKey key) :
    Text.leftmost? read (before ++ '"' :: (content ++ '"' :: behind)) = none := by
  have skips := onKey.skips
  have free := quote_not_mem_blank blankBehind
  have colonless : (Text.skipBlanks behind).head? ≠ some ':' := by
    have void := Text.skipBlanks_blank blankBehind []
    rw [List.append_nil] at void
    rw [void]
    simp [Text.skipBlanks]
  have ended := skips.quoteless free []
  rw [List.append_nil] at ended
  rw [skips.quoteless (quote_not_mem_blank blank),
    skips _ _ (behindKey_string word plain (Or.inr colonless)), skips.quoteless plain,
    skips _ _ (behindKey_last free), ended]
  exact onKey [] rfl

theorem leader_lone : leader (before ++ '"' :: (content ++ '"' :: behind)) = content := by
  have word : IsKey "leader" := by decide +kernel
  have unnamed : Field.value (before ++ '"' :: (content ++ '"' :: behind)) "leader" = [] := by
    rw [Field.value, leftmost_lone blank plain blankBehind (onKey_quotedValue _) word,
      leftmost_lone blank plain blankBehind (onKey_bareValue _) word]
    rfl
  have stripped : Text.strip (before ++ '"' :: (content ++ '"' :: behind)) =
      '"' :: (content ++ ['"']) :=
    Text.trim_enclosed blank (by decide) (by decide) blankBehind
  have unquoted : Text.trim (· == '"') (['"'] ++ (content ++ ['"'])) = content := by
    refine Text.trim_between (by simp) (fun c head => ?_) (fun c last => ?_) (by simp)
    · exact beq_false_of_ne fun same => plain (same ▸ List.mem_of_mem_head? head)
    · exact beq_false_of_ne fun same => plain (same ▸ List.mem_of_mem_getLast? last)
  rw [leader, unnamed, stripped]
  exact unquoted

end Lone

/-! An object. -/

variable {members : Json .members} {text content : Text}

theorem tokens_members : (members : Json .members) → ∃ front, members.tokens = front ++ [.mark '}']
  | .noMember => ⟨[], rfl⟩
  | .member key value rest => by
    obtain ⟨front, tokens⟩ := tokens_members rest
    exact ⟨.string key :: .mark ':' :: (value.tokens ++ (rest.comma ++ front)), by
      simp [Json.tokens, tokens]⟩

/-- Without the white space around it an object begins and ends with its braces. -/
theorem strip_object (written : Written (Json.object members).tokens text) :
    ∃ inner, Text.strip text = '{' :: (inner ++ ['}']) := by
  obtain ⟨front, tokens⟩ := tokens_members members
  cases written with
  | @token gap rest _ _ blank later =>
    rw [tokens] at later
    obtain ⟨head, left, rfl, _, closing⟩ := later.split
    cases closing with
    | @token space behind _ _ spaceBlank ended =>
      cases ended with
      | nothing behindBlank =>
        refine ⟨head ++ space, ?_⟩
        have whole : gap ++ (Token.text (.mark '{') ++
            (head ++ (space ++ (Token.text (.mark '}') ++ behind)))) =
            gap ++ '{' :: ((head ++ space) ++ '}' :: behind) := by simp [Token.text]
        rw [whole]
        exact Text.trim_enclosed (fun c member => isBlank_of_isSpace (blank c member)) (by decide)
          (by decide) fun c member => isBlank_of_isSpace (behindBlank c member)

/-- An empty field counts as none, and an object has no quotation marks around it. -/
theorem leader_object (ordinary : (Json.object members).Ordinary)
    (written : Written (Json.object members).tokens text)
    (has : (Json.object members).Has "leader" (.string content)) :
    leader text = if content = [] then Text.strip text else content := by
  rw [leader, value_string ordinary written has]
  cases content with
  | nil =>
    obtain ⟨inner, stripped⟩ := strip_object written
    have whole : Text.trim (· == '"') ([] ++ '{' :: (inner ++ '}' :: [])) = '{' :: (inner ++ ['}']) :=
      Text.trim_enclosed (by simp) (by decide) (by decide) (by simp)
    rw [stripped]
    exact whole
  | cons c content => rfl

/-! Runs. -/

variable {tls : Capability} {replies : Replies} {files : Files} {words : List Text}
  {options : Probe.Options} {response : Response}

theorem judgeLeader_eq {body who : Text} (found : leader body = who) :
    judgeLeader body = if who = [] then { state := .critical, message := "No leader elected" }
      else { message := "Leader: " ++ who } := by
  rw [judgeLeader, found]
  cases who <;> rfl

/-- Who is reported as the leader. A string alone tells it, and so does a field that is not empty; an empty
field has the whole reply reported. -/
theorem run_tells_leader (hears : consul.Hears tls replies files words options response)
    (answered : response.status = 200) (subject : options.subject = .leader) :
    let run := consul.probe.run files (.scripted tls replies) words
    (∀ before content behind : Text, (∀ c ∈ before, Text.isBlank c = true) → '"' ∉ content →
      (∀ c ∈ behind, Text.isBlank c = true) →
      response.body = before ++ '"' :: (content ++ '"' :: behind) →
      Probe.Returns run
        (if content = [] then { state := .critical, message := "No leader elected" }
          else { message := "Leader: " ++ content })) ∧
      ∀ (members : Json .members) (content : Text), (Json.object members).Ordinary →
        (Json.object members).Has "leader" (.string content) →
        Written (Json.object members).tokens response.body →
        Probe.Returns run
          { message := "Leader: " ++ if content = [] then Text.strip response.body else content } := by
  intro run
  have returns (some : response.body ≠ []) : Probe.Returns run (judgeLeader response.body) :=
    hears.returns ((judge_fitFor answered some).trans (by rw [judgeBody, subject]))
  constructor
  · intro before content behind blank plain blankBehind body
    rw [← judgeLeader_eq (leader_lone blank plain blankBehind), ← body]
    exact returns (by simp [body])
  · intro members content ordinary has written
    obtain ⟨inner, stripped⟩ := strip_object written
    have some : (if content = [] then Text.strip response.body else content) ≠ [] := by
      split
      · simp [stripped]
      · assumption
    have told := judgeLeader_eq (leader_object ordinary written has)
    rw [if_neg some] at told
    rw [← told]
    exact returns (ne_nil_of_written ordinary.plain written)

/-- A leader among other fields. -/
theorem run_tells_named_leader :
    let members : Json .members :=
      .member "term" (.bare "7") (.member "leader" (.string "10.0.0.1:8300") .noMember)
    let body : Text := "\x7b\"term\": 7, \"leader\": \"10.0.0.1:8300\"\x7d"
    let words : List Text := ["-H", "c", "--check", "leader"]
    let options : Probe.Options :=
      { consul.offer.defaults with hostname := "c", subject := .leader }
    let raw := Utf8.encode ("HTTP/1.1 200 OK\r\n\r\n" ++ body)
    let response : Response := .parse raw
    let tls : Capability := { available := true }
    let replies : Replies := { otherwise := some (.bytes raw) }
    consul.Hears tls replies [] words options response ∧ response.status = 200 ∧
      options.subject = .leader ∧ (Json.object members).Ordinary ∧
      (Json.object members).Has "leader" (.string "10.0.0.1:8300") ∧
      Written (Json.object members).tokens response.body ∧
      Probe.Returns (consul.probe.run [] (.scripted tls replies) words)
        { message := "Leader: 10.0.0.1:8300" } := by
  intro members body words options raw response tls replies
  have hears : consul.Hears tls replies [] words options response :=
    hears_of_bytes rfl (by decide) (by decide +kernel)
  have answered : response.status = 200 := by decide +kernel
  have ordinary : (Json.object members).Ordinary := by decide +kernel
  have has : (Json.object members).Has "leader" (.string "10.0.0.1:8300") := .object (.later .here)
  have written : Written (Json.object members).tokens response.body := by
    have layout : response.body = laidOut ([[], [], [], [' '], [], [' '], [], [' ']])
        (Json.object members).tokens := by decide +kernel
    rw [layout]
    exact laidOut_written (by simp [isSpace]) _
  obtain ⟨_, named⟩ := run_tells_leader hears answered rfl
  exact ⟨hears, answered, rfl, ordinary, has, written, named members _ ordinary has written⟩

/-- A field that is there and empty is not reported as a missing leader. -/
theorem empty_leader_is_not_missed :
    let members : Json .members := .member "leader" (.string []) .noMember
    let body : Text := "\x7b\"leader\":\"\"\x7d"
    let words : List Text := ["-H", "h", "--check", "leader"]
    let raw := Utf8.encode ("HTTP/1.1 200 OK\r\n\r\n" ++ body)
    let run := consul.probe.run []
      (.scripted { available := true } { otherwise := some (.bytes raw) }) words
    (Json.object members).Ordinary ∧ (Json.object members).Has "leader" (.string []) ∧
      Written (Json.object members).tokens body ∧ (Response.parse raw).body = body ∧
      run.outcome = .ok (.returned 0) ∧
      run.journal.outputs = ["OK: Leader: \x7b\"leader\":\"\"\x7d\n"] := by
  intro members body words raw run
  have ordinary : (Json.object members).Ordinary := by decide +kernel
  have written : Written (Json.object members).tokens body := by
    have layout : body = laidOut [] (Json.object members).tokens := by decide
    rw [layout]
    exact laidOut_written (by simp) _
  exact ⟨ordinary, .object .here, written, by decide +kernel, by decide +kernel, by decide +kernel⟩

end ServiceProbe.Service.Consul
