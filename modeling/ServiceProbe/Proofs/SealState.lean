import ServiceProbe.Proofs.Hearing
import ServiceProbe.Proofs.Nested
/-!
The state of a node as an object tells it. Whether it is sealed and whether it is initialized are two truth
values of the object, found wherever they stand in it and whatever stands around them.
-/
namespace ServiceProbe.Service.Vault

open Json
open Transport (Replies)
open Http (Response)

/-- A truth value as it stands in a document. -/
def truth (holds : Bool) : Text := if holds then "true" else "false"

/-- What an object tells of a node. -/
structure Describes (document : Json .value) (isSealed initialized : Bool) : Prop where
  ordinary : document.Ordinary
  isSealed : document.Has "sealed" (.bare (truth isSealed))
  initialized : document.Has "initialized" (.bare (truth initialized))

theorem truth_is_true (holds : Bool) : (truth holds == "true".toList) = holds := by
  cases holds <;> decide

theorem truth_is_false (holds : Bool) : (truth holds == "false".toList) = !holds := by
  cases holds <;> decide

section Body

variable {document : Json .value} {isSealed initialized : Bool} {text : Text}
  (describes : Describes document isSealed initialized) (written : Written document.tokens text)

include describes written

theorem Describes.sealed_eq : Vault.isSealed text = isSealed := by
  rw [Vault.isSealed, Field.value_bare describes.ordinary written describes.isSealed]
  exact truth_is_true isSealed

theorem Describes.uninitialized_eq : isUninitialized text = !initialized := by
  rw [isUninitialized, Field.value_bare describes.ordinary written describes.initialized]
  exact truth_is_false initialized

end Body

/-! Runs. -/

variable {tls : Capability} {replies : Replies} {files : Files} {words : List Text}
  {options : Probe.Options} {response : Response}

/-- A reply with status 200 and a body is judged by what is asked for. -/
theorem judge_answered (answered : response.status = 200) (some : response.body ≠ []) :
    judge (options.fitFor tls) response = .ok (match options.subject with
      | .seal => judgeSeal response
      | .status => judgeStatus response
      | _ => judgeHealth response) := by
  have complete : response.failed = false := by simp [Response.failed, answered, some]
  rw [judge, complete, fitFor_subject]
  rfl

/-- The verdict on a node that answers follows the two truth values of its document. No other field and no
order of the fields is of any account. -/
theorem run_tells_seal (hears : vault.Hears tls replies files words options response)
    (answered : response.status = 200) (document : Json .value) (isSealed initialized : Bool)
    (describes : Describes document isSealed initialized)
    (written : Written document.tokens response.body) :
    let run := vault.probe.run files (.scripted tls replies) words
    (options.subject = .health → Probe.Returns run
        (if isSealed then { state := .critical, message := "Vault is sealed" }
          else if initialized then { message := "Vault is healthy, initialized and unsealed" }
          else { state := .warning, message := "Vault is not initialized" })) ∧
      (options.subject = .seal → Probe.Returns run
        (if isSealed then { state := .critical, message := "Vault is sealed" }
          else { message := "Vault is unsealed" })) := by
  intro run
  have some : response.body ≠ [] := Field.ne_nil_of_written describes.ordinary.plain written
  have judges := @judge_answered tls options response answered some
  constructor
  · intro subject
    refine hears.returns (judges.trans ?_)
    rw [subject]
    show Except.ok (judgeHealth response) = _
    rw [judgeHealth, if_pos answered, judgeHealthBody, describes.sealed_eq written,
      describes.uninitialized_eq written]
    cases isSealed <;> cases initialized <;> rfl
  · intro subject
    refine hears.returns (judges.trans ?_)
    rw [subject]
    show Except.ok (judgeSeal response) = _
    rw [judgeSeal, if_pos answered, describes.sealed_eq written]
    rfl

/-- A field that is called like the value of another one, and a last field with a line break behind it. -/
theorem run_tells_uninitialized :
    let members : Json .members :=
      .member "note" (.string "sealed")
        (.member "initialized" (.bare "false") (.member "sealed" (.bare "false") .noMember))
    let body : Text := "\x7b\"note\": \"sealed\", \"initialized\" :false,\n\"sealed\": false\n\x7d\n"
    let words : List Text := ["-H", "v"]
    let options : Probe.Options := { vault.offer.defaults with hostname := "v" }
    let raw := Utf8.encode ("HTTP/1.1 200 OK\r\n\r\n" ++ body)
    let response : Response := .parse raw
    let tls : Capability := { available := true }
    let replies : Replies := { otherwise := some (.bytes raw) }
    vault.Hears tls replies [] words options response ∧ response.status = 200 ∧
      options.subject = .health ∧ Describes (.object members) false false ∧
      Written (Json.object members).tokens response.body ∧
      Probe.Returns (vault.probe.run [] (.scripted tls replies) words)
        { state := .warning, message := "Vault is not initialized" } := by
  intro members body words options raw response tls replies
  have hears : vault.Hears tls replies [] words options response :=
    hears_of_bytes rfl (by decide) (by decide +kernel)
  have answered : response.status = 200 := by decide +kernel
  have describes : Describes (.object members) false false :=
    { ordinary := by decide +kernel
      isSealed := .object (.later (.later .here))
      initialized := .object (.later .here) }
  have written : Written (Json.object members).tokens response.body := by
    have layout : response.body = laidOut
        [[], [], [], [' '], [], [' '], [' '], [], [], ['\n'], [], [' '], ['\n'], ['\n']]
        (Json.object members).tokens := by decide +kernel
    rw [layout]
    exact laidOut_written (by simp [isSpace]) _
  obtain ⟨healthy, _⟩ := run_tells_seal hears answered _ _ _ describes written
  exact ⟨hears, answered, rfl, describes, written, healthy rfl⟩

end ServiceProbe.Service.Vault
