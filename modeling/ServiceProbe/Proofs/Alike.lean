import Mathlib.Data.List.Forall2
import ServiceProbe.Proofs.Exchange
import ServiceProbe.Proofs.Search
import ServiceProbe.Proofs.Utf8
/-!
Two runs that differ only in what they send as a password. Everything else that they do is the same,
entry by entry, and so is all that is read off their journals.
-/
namespace ServiceProbe

open Http (Request)

/-- A head of a request, line by line. -/
def Http.headOf (lines : List Text) : Bytes :=
  Utf8.encode (List.intercalate Request.lineEnd lines ++ Request.lineEnd ++ Request.lineEnd)

/-- Wires that are the same but for the password in an authorization line. -/
inductive Wire.Alike : Wire → Wire → Prop
  | same (wire : Wire) : Alike wire wire
  | authorization (wire : Wire) (lines : List Text) (username first second : Text) :
    Alike
      { wire with
        payload := Http.headOf (lines ++ ["Authorization: " ++ Request.basicAuth username first]) }
      { wire with
        payload := Http.headOf (lines ++ ["Authorization: " ++ Request.basicAuth username second]) }

inductive Entry.Alike : Entry → Entry → Prop
  | same (entry : Entry) : Alike entry entry
  | exchange {one other : Wire} (wires : one.Alike other) : Alike (.exchange one) (.exchange other)

def Journal.Alike (one other : Journal) : Prop := List.Forall₂ Entry.Alike one other

namespace Journal

theorem alike_refl (journal : Journal) : journal.Alike journal :=
  List.forall₂_same.mpr fun entry _ => .same entry

theorem alike_append {one other before behind : Journal} (first : one.Alike other)
    (second : before.Alike behind) : Alike (one ++ before) (other ++ behind) :=
  List.rel_append first second

variable {one other : Journal} (alike : one.Alike other)

include alike

theorem output_of_alike : one.output = other.output := by
  induction alike with
  | nil => rfl
  | cons entries _ ih =>
    cases entries <;> simp_all [output]

theorem errorText_of_alike (settings : Log.Settings) :
    one.errorText settings = other.errorText settings := by
  induction alike generalizing settings with
  | nil => rfl
  | cons entries _ ih =>
    cases entries <;> simp [errorText, errorTextOf, settingsAfter, ih]

theorem exchanges_of_alike : List.Forall₂ Wire.Alike one.exchanges other.exchanges := by
  induction alike with
  | nil => exact .nil
  | @cons entry _ _ _ entries _ ih =>
    cases entries with
    | same =>
      cases entry with
      | exchange wire => exact .cons (.same wire) ih
      | _ => exact ih
    | exchange wires => exact .cons wires ih

end Journal

/-- Runs that come to the same end, with journals that are alike. -/
structure Run.Alike {α : Type} (one other : Run α) : Prop where
  journal : one.journal.Alike other.journal
  outcome : one.outcome = other.outcome

namespace Run

variable {α β : Type}

theorem alike_refl (run : Run α) : run.Alike run := ⟨Journal.alike_refl _, rfl⟩

theorem alike_bind {one other : Run α} (first : one.Alike other) {next later : α → Run β}
    (rest : ∀ a, (next a).Alike (later a)) : (one >>= next).Alike (other >>= later) := by
  cases result : one.outcome with
  | error fault =>
    rw [bind_error result, bind_error (first.outcome ▸ result)]
    exact ⟨first.journal, rfl⟩
  | ok a =>
    rw [bind_ok result, bind_ok (first.outcome ▸ result)]
    exact ⟨Journal.alike_append first.journal (rest a).journal, (rest a).outcome⟩

/-- The results of the first steps may differ if nothing shows how. -/
theorem alike_bind_ok {one other : Run α} (journals : one.journal.Alike other.journal) {a b : α}
    (first : one.outcome = .ok a) (second : other.outcome = .ok b) {next later : α → Run β}
    (rest : (next a).Alike (later b)) : (one >>= next).Alike (other >>= later) := by
  rw [bind_ok first, bind_ok second]
  exact ⟨Journal.alike_append journals rest.journal, rest.outcome⟩

theorem alike_orElse {one other : Run α} (first : one.Alike other) {handle : Fault → Run α} :
    (one.orElse handle).Alike (other.orElse handle) := by
  cases result : one.outcome with
  | ok a =>
    rw [orElse_ok result, orElse_ok (first.outcome ▸ result)]
    exact first
  | error fault =>
    rw [orElse_error result, orElse_error (first.outcome ▸ result)]
    exact ⟨Journal.alike_append first.journal (Journal.alike_refl _), rfl⟩

end Run

/-! Requests that differ in the password. -/

namespace Http

theorem wire_alike (request : Request) (first second : Option Text) :
    Wire.Alike { request with password := first }.wire { request with password := second }.wire := by
  obtain ⟨host, port, path, tls, timeout, username, password⟩ := request
  match username with
  | none => exact .same _
  | some [] => exact .same _
  | some (c :: name) => exact .authorization ⟨host, port, [], .real timeout, tls⟩ _ _ _ _

/-- A request asks for its path, whatever else it says. -/
theorem requestedPath_render {request : Request} (solid : ' ' ∉ request.path) :
    Transport.requestedPath request.render = request.path := by
  obtain ⟨rest, head⟩ : ∃ rest, List.intercalate Request.lineEnd request.lines ++ Request.lineEnd ++
      Request.lineEnd = "GET".toList ++ ' ' :: (request.path ++ ' ' :: rest) := by
    refine ⟨"HTTP/1.1".toList ++ (Request.lineEnd ++ (List.intercalate Request.lineEnd
      request.lines.tail ++ Request.lineEnd ++ Request.lineEnd)), ?_⟩
    simp [Request.lines, List.intercalate_cons_cons]
  rw [Transport.requestedPath, Request.render, Utf8.decodeLossy_encode, head,
    Text.cut_append (by decide)]
  show (Text.cut ' ' (request.path ++ ' ' :: rest)).1 = request.path
  rw [Text.cut_append solid]

theorem receive_alike (request : Request) {one other : Run Bytes} (alike : one.Alike other)
    (first second : Option Text) :
    (receive { request with password := first } one).Alike
      (receive { request with password := second } other) :=
  Run.alike_orElse (Run.alike_bind alike fun _ => Run.alike_refl _)

theorem send_alike (tls : Capability) (replies : Transport.Replies) {request : Request}
    (solid : ' ' ∉ request.path) (first second : Option Text) :
    (send (.scripted tls replies) { request with password := first }).Alike
      (send (.scripted tls replies) { request with password := second }) := by
  have path (password : Option Text) :
      Transport.requestedPath { request with password }.wire.payload = request.path := by
    show Transport.requestedPath (Request.render { request with password }) = request.path
    exact requestedPath_render solid
  rw [send_text, send_text, Transport.scripted_exchange, Transport.scripted_exchange, path, path]
  exact ⟨.cons (.exchange (wire_alike request first second)) .nil, rfl⟩

theorem fitFor_password (request : Request) (capability : Capability) (password : Option Text) :
    Request.fitFor { request with password } capability =
      { request.fitFor capability with password } := by
  unfold Request.fitFor
  dsimp only
  split <;> rfl

theorem get_alike (tls : Capability) (replies : Transport.Replies) {request : Request}
    (solid : ' ' ∉ request.path) (first second : Option Text) :
    (get (.scripted tls replies) { request with password := first }).Alike
      (get (.scripted tls replies) { request with password := second }) := by
  have journals : (withoutMissingTls (.scripted tls replies) { request with password := first }).journal =
      (withoutMissingTls (.scripted tls replies) { request with password := second }).journal := by
    unfold withoutMissingTls
    dsimp only
    split <;> rfl
  have solid' : ' ' ∉ (request.fitFor tls).path := by
    unfold Request.fitFor
    split <;> exact solid
  apply Run.alike_bind_ok (journals ▸ Journal.alike_refl _) (withoutMissingTls_outcome _ _)
    (withoutMissingTls_outcome _ _)
  rw [fitFor_password request _ first, fitFor_password request _ second]
  exact Run.alike_bind (Run.alike_refl _) fun _ =>
    receive_alike (request.fitFor tls) (send_alike tls replies solid' first second) first second

end Http
end ServiceProbe
