import ServiceProbe.Proofs.Percent
import ServiceProbe.Proofs.StoreFailure
import ServiceProbe.Service.RabbitMq
/-!
The path of a queue. Virtual host and queue are one part of it each, whatever characters their names
have: the parts give the names back, no request is refused over such a path, and no two queues share one.
-/
namespace ServiceProbe

open Percent (Escaped Unreserved)

namespace Service.RabbitMq

section Path

variable (vhost queue : Text)

/-- The parts of a path between its slashes. -/
def queueParts : List Text :=
  [[], "api", "queues", Percent.encode vhost, Percent.encode queue]

theorem queuePath_eq : queuePath vhost queue = ['/'].intercalate (queueParts vhost queue) := by
  have front : ("/api/queues/" : Text) = '/' :: "api".toList ++ '/' :: "queues".toList ++ ['/'] := by
    decide
  unfold queuePath
  rw [queueParts, front]
  simp only [List.intercalate_cons_cons, List.intercalate_singleton, List.nil_append,
    List.append_assoc, List.cons_append]

theorem slash_not_mem_escaped {text : Text} (escaped : Escaped text) : '/' ∉ text := by
  intro member
  exact absurd (escaped.mem member) (by decide)

theorem splitOn_queuePath : (queuePath vhost queue).splitOn '/' = queueParts vhost queue := by
  have whole : ∀ part ∈ queueParts vhost queue, '/' ∉ part := by
    simp only [queueParts, List.forall_mem_cons, List.not_mem_nil, false_implies, implies_true,
      and_true]
    refine ⟨by simp, by decide, by decide, ?_, ?_⟩
    · exact slash_not_mem_escaped (Percent.escaped_encode vhost)
    · exact slash_not_mem_escaped (Percent.escaped_encode queue)
  rw [queuePath_eq]
  exact List.splitOn_intercalate '/' whole (by simp [queueParts])

theorem mem_queuePath {c : Char} (member : c ∈ queuePath vhost queue) :
    Unreserved c ∨ c = '%' ∨ c = '/' := by
  have letters : "/api/queues/".toList.all (fun c => c.isAlphanum || c == '/') = true := by decide
  unfold queuePath at member
  simp only [List.mem_append, List.mem_cons] at member
  rcases member with (front | host) | rfl | name
  · have kind := List.all_eq_true.mp letters c front
    rw [Bool.or_eq_true, beq_iff_eq] at kind
    exact kind.imp Or.inl Or.inr
  · exact ((Percent.escaped_encode vhost).mem host).imp_right Or.inl
  · exact Or.inr (Or.inr rfl)
  · exact ((Percent.escaped_encode queue).mem name).imp_right Or.inl

/-- No character of such a path is one that a path is refused for. -/
theorem acceptPath_queuePath :
    Http.Draft.acceptPath (queuePath vhost queue) = .ok (queuePath vhost queue) := by
  have foreign {c : Char} (other : ¬(Unreserved c ∨ c = '%' ∨ c = '/')) : c ∉ queuePath vhost queue :=
    fun member => other (mem_queuePath vhost queue member)
  have oneLine : Http.Draft.holdsLineBreak (queuePath vhost queue) = false := by
    simp [Http.Draft.holdsLineBreak, foreign (c := '\r') (by decide), foreign (c := '\n') (by decide)]
  have absolute : Http.Draft.isAbsolute (queuePath vhost queue) = true := by
    have begins : (queuePath vhost queue).head? = some '/' := rfl
    simp [Http.Draft.isAbsolute, begins, foreign (c := ' ') (by decide)]
  rw [Http.Draft.acceptPath, oneLine, absolute]
  rfl

end Path

/-- The names are read back from the path. -/
theorem queuePath_injective {vhost queue vhost' queue' : Text}
    (same : queuePath vhost queue = queuePath vhost' queue') : vhost = vhost' ∧ queue = queue' := by
  have parts := congrArg (List.splitOn '/') same
  rw [splitOn_queuePath, splitOn_queuePath, queueParts, queueParts] at parts
  simp only [List.cons.injEq, true_and, and_true] at parts
  exact ⟨Percent.encode_injective parts.1, Percent.encode_injective parts.2⟩

theorem path_of_queue {options : Probe.Options} {queue : Text} (named : options.queue = some queue)
    (some : queue ≠ []) : path options = queuePath options.vhost queue := by
  have kept : queue? options = Option.some queue := by
    rw [queue?, named]
    exact Option.filter_some_pos (by simpa using some)
  rw [path, kept]

end Service.RabbitMq

/-! Requests for such a path. -/

namespace Http.Draft

theorem field_of_rejection {α : Type} {field : Text} {outcome : Except Reason α}
    {rejection : Rejection} (refused : rejection? field outcome = some rejection) :
    rejection.field = field := by
  cases outcome with
  | error reason =>
    cases refused
    rfl
  | ok value => cases refused

/-- A path that is accepted is not among what is refused. -/
theorem path_not_rejected {draft : Draft} {path : Text} (accepted : draft.path? = .ok path) :
    ∀ rejection ∈ draft.rejections, rejection.field ≠ "path" := by
  intro rejection member
  have other {α : Type} {field : Text} (apart : field ≠ "path") {outcome : Except Reason α}
      (refused : rejection? field outcome = some rejection) : rejection.field ≠ "path" := by
    rw [field_of_rejection refused]
    exact apart
  -- Each entry of the list refuses under the name of its own field.
  obtain ⟨entry, listed, refused⟩ := List.mem_filterMap.mp member
  simp only [List.mem_cons, List.not_mem_nil, or_false] at listed
  rcases listed with rfl | rfl | rfl | rfl | rfl | rfl | rfl
  · exact other (by decide) refused
  · exact other (by decide) refused
  · rw [accepted] at refused
    cases refused
  all_goals exact other (by decide) refused

end Http.Draft

namespace Probe.Options

variable {options : Options} {files : Files}

/-- What keeps a password from being found is no refused request. -/
theorem neededPassword_error {fault : Fault} (failed : options.neededPassword files = .error fault)
    (model : Text) (rejections : List Rejection) : fault ≠ .rejected model rejections := by
  rintro rfl
  unfold neededPassword resolvePassword at failed
  split at failed
  · split at failed
    · cases failed
    split at failed
    · cases failed
    · have why := PasswordStore.lookup_error_iff.mp (Outcome.map_error failed)
      rcases why.kinds with general | ⟨nul, _⟩ | ⟨_, _, _, _, undecodable⟩
      · cases general
      · cases nul
      · cases undecodable
  · cases failed

theorem request_rejected {path model : Text} {rejections : List Rejection}
    (accepted : Http.Draft.acceptPath path = .ok path)
    (refused : options.request files path = .error (.rejected model rejections)) :
    ∀ rejection ∈ rejections, rejection.field ≠ "path" := by
  rw [request_eq] at refused
  rcases Outcome.bind_error refused with failed | ⟨password, _, refused⟩
  · exact absurd rfl (neededPassword_error failed model rejections)
  · obtain ⟨same, _⟩ := Http.Draft.build_error refused
    cases same
    exact Http.Draft.path_not_rejected accepted

end Probe.Options

/-- A check with a scripted transport asks for the path of its options or for nothing. -/
theorem Service.check_asks_for_path (service : Service) (files : Files) (tls : Capability)
    (replies : Transport.Replies) (options : Probe.Options) :
    ∀ wire ∈ (service.check files (.scripted tls replies) options).journal.exchanges,
      Transport.requestedPath wire.payload = service.path options := by
  intro wire member
  cases built : options.request files (service.path options) with
  | error fault =>
    rw [check_refused built] at member
    cases member
  | ok request =>
    rw [(check_scripted built).1] at member
    obtain rfl := List.mem_singleton.mp member
    obtain ⟨password, _, rfl, sound⟩ := Probe.Options.asking_of_request built
    have kept : ((options.asking (service.path options) password).fitFor tls).path =
        service.path options := by
      unfold Http.Request.fitFor
      split <;> rfl
    have solid : ' ' ∉ ((options.asking (service.path options) password).fitFor tls).path := by
      rw [kept]
      exact sound.word
    exact (Http.requestedPath_render solid).trans kept

namespace Service.RabbitMq

/-- The path of a queue has one part for the virtual host and one for the queue. Each has unreserved
characters and escapes only and gives the name back; no request is refused over the path, the path is what
the broker is asked for, and no other queue has it. -/
theorem check_asks_for_queue {options : Probe.Options} {queue : Text}
    (named : options.queue = some queue) (some : queue ≠ []) :
    (∃ host name, path options = "/api/queues/" ++ host ++ '/' :: name ∧
      Escaped host ∧ Escaped name ∧
      Percent.decode host = .ok options.vhost ∧ Percent.decode name = .ok queue ∧
      (path options).splitOn '/' = [[], "api", "queues", host, name]) ∧
    (∀ files model rejections,
      options.request files (path options) = .error (.rejected model rejections) →
        ∀ rejection ∈ rejections, rejection.field ≠ "path") ∧
    (∀ files tls replies, ∀ wire ∈
      (rabbitMq.check files (.scripted tls replies) options).journal.exchanges,
        Transport.requestedPath wire.payload = path options) ∧
    ∀ (others : Probe.Options) (other : Text), others.queue = Option.some other → other ≠ [] →
      path others = path options → others.vhost = options.vhost ∧ other = queue := by
  have whole : path options = queuePath options.vhost queue :=
    path_of_queue named some
  refine ⟨⟨Percent.encode options.vhost, Percent.encode queue, whole, ?_⟩, ?_, ?_, ?_⟩
  · rw [whole, splitOn_queuePath]
    exact ⟨Percent.escaped_encode _, Percent.escaped_encode _, Percent.decode_encode _,
      Percent.decode_encode _, rfl⟩
  · intro files model rejections refused
    have accepted : Http.Draft.acceptPath (path options) = .ok (path options) := by
      rw [whole]
      exact acceptPath_queuePath options.vhost queue
    exact Probe.Options.request_rejected accepted refused
  · exact fun files tls replies => check_asks_for_path rabbitMq files tls replies options
  · intro others other named' some' same
    rw [whole, path_of_queue named' some'] at same
    exact queuePath_injective same

/-- Blanks and slashes in a name part nothing. -/
theorem check_asks_for_spaced_queue :
    let options : Probe.Options := { port := 15672, queue := some "a b/é".toList }
    path options = "/api/queues/%2F/a%20b%2F%C3%A9" ∧
      ∃ host name, path options = "/api/queues/" ++ host ++ '/' :: name ∧
        Percent.decode host = .ok "/".toList ∧ Percent.decode name = .ok "a b/é".toList := by
  intro options
  have some : ("a b/é" : Text) ≠ [] := by decide
  obtain ⟨⟨host, name, whole, _, _, first, second, _⟩, _⟩ :=
    @check_asks_for_queue options _ rfl some
  exact ⟨by decide +kernel, host, name, whole, first, second⟩

end Service.RabbitMq

end ServiceProbe
