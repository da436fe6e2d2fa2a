import ServiceProbe.Http.Client
import ServiceProbe.Proofs.Arrival
import ServiceProbe.Proofs.Exchange
import ServiceProbe.Proofs.Reply
import ServiceProbe.Proofs.Utf8
/-!
A reply that breaks off. What is left of its bytes has the status of the whole, or none at all if the
end of the head is lost, and its body is the beginning of the whole body. A character that the cut goes
through leaves one replacement behind.
-/
namespace ServiceProbe

namespace Utf8

theorem decodeLossy_flawed {byte : UInt8} {size : Nat} {flaw : Flaw} {rest left : Bytes}
    (read : part byte rest = .flawed size flaw left) :
    decodeLossy (byte :: rest) = replacement :: decodeLossy left := by
  rw [decodeLossy]
  split
  · next read' =>
    rw [read] at read'
    cases read'
  · next read' =>
    rw [read] at read'
    cases read'
    rfl

/-- A part of bytes that break off, beside the part of the whole: it is the same with less behind it,
or the bytes end inside it. -/
inductive Part.BrokenOff : (broken whole : Part) → Prop
  | char (c : Char) {left more : Bytes} (shorter : left <+: more) :
    BrokenOff (.char c left) (.char c more)
  | flawed (size : Nat) (flaw : Flaw) {left more : Bytes} (shorter : left <+: more) :
    BrokenOff (.flawed size flaw left) (.flawed size flaw more)
  | inside (size : Nat) (whole : Part) : BrokenOff (.flawed size .cutOff []) whole

theorem partFrom_brokenOff (size trailing low high code : Nat) {broken whole : Bytes}
    (cut : broken <+: whole) :
    Part.BrokenOff (partFrom size trailing low high code broken)
      (partFrom size trailing low high code whole) := by
  induction trailing generalizing size low high code broken whole with
  | zero => exact .char _ cut
  | succ trailing ih =>
    cases broken with
    | nil => exact .inside size _
    | cons byte broken =>
      obtain ⟨rest, rfl⟩ := cut
      have shorter : broken <+: broken ++ rest := List.prefix_append _ _
      rw [List.cons_append, partFrom, partFrom]
      split
      · exact ih _ _ _ _ shorter
      · exact .flawed size _ ((List.prefix_cons_inj byte).mpr shorter)

theorem part_brokenOff (byte : UInt8) {broken whole : Bytes} (cut : broken <+: whole) :
    Part.BrokenOff (part byte broken) (part byte whole) := by
  rw [part, part]
  split
  · exact .char _ cut
  · split
    · exact partFrom_brokenOff _ _ _ _ _ cut
    · exact .flawed 1 _ cut

/-- A text that breaks off is the beginning of the whole, with at most one replacement behind it. -/
def BreaksOff (broken whole : Text) : Prop :=
  ∃ head, head <+: whole ∧ (broken = head ∨ broken = head ++ [replacement])

theorem BreaksOff.cons {broken whole : Text} (c : Char) (later : BreaksOff broken whole) :
    BreaksOff (c :: broken) (c :: whole) := by
  obtain ⟨head, shorter, same | replaced⟩ := later
  · exact ⟨c :: head, (List.prefix_cons_inj c).mpr shorter, Or.inl (congrArg _ same)⟩
  · exact ⟨c :: head, (List.prefix_cons_inj c).mpr shorter, Or.inr (congrArg _ replaced)⟩

theorem decodeLossy_breaksOff {broken whole : Bytes} (cut : broken <+: whole) :
    BreaksOff (decodeLossy broken) (decodeLossy whole) := by
  -- Part by part along the bytes that are left; only the last part can differ.
  induction size : broken.length using Nat.strongRecOn generalizing broken whole with
  | ind n ih =>
    cases broken with
    | nil => exact ⟨[], List.nil_prefix, Or.inl (by rw [decodeLossy])⟩
    | cons byte broken =>
      obtain ⟨rest, rfl⟩ := cut
      have bound := length_part_le byte broken
      have parts := part_brokenOff byte (List.prefix_append broken rest)
      rw [List.cons_append]
      generalize read : part byte broken = here at parts bound
      generalize readWhole : part byte (broken ++ rest) = there at parts
      rw [List.length_cons] at size
      cases parts with
      | char c shorter =>
        rw [decodeLossy_char read, decodeLossy_char readWhole]
        exact (ih _ (by simp only [Part.rest] at bound; omega) shorter rfl).cons c
      | flawed flawSize flaw shorter =>
        rw [decodeLossy_flawed read, decodeLossy_flawed readWhole]
        exact (ih _ (by simp only [Part.rest] at bound; omega) shorter rfl).cons replacement
      | inside flawSize =>
        have alone : decodeLossy (byte :: broken) = [replacement] := by
          rw [decodeLossy_flawed read, decodeLossy]
        exact ⟨[], List.nil_prefix, Or.inr alone⟩

end Utf8

namespace Http.Response

open Utf8 (BreaksOff)

/-! Where the head ends. -/

/-- Bytes that break off behind a mark have it in the same place. -/
theorem FirstAt.within {mark before behind broken raw : Bytes}
    (here : FirstAt mark before behind broken) (cut : broken <+: raw) :
    ∃ more, behind <+: more ∧ FirstAt mark before more raw := by
  obtain ⟨rest, rfl⟩ := cut
  exact ⟨behind ++ rest, List.prefix_append _ _, here.extend rest⟩

theorem parse_unfinished_eq {raw : Bytes} (unfinished : ¬ headEnd <:+: raw) :
    ∃ error, error ≠ [] ∧ parse raw = ofError error := by
  rw [parse, cutBytes_none.mpr unfinished]
  split
  · exact ⟨_, by decide, rfl⟩
  · exact ⟨_, by simp, rfl⟩

theorem parse_finished_breaksOff {broken raw : Bytes} (finished : headEnd <:+: broken)
    (cut : broken <+: raw) :
    (parse broken).status = (parse raw).status ∧ (parse broken).error = none ∧
      BreaksOff (parse broken).body (parse raw).body := by
  cases found : cutBytes? headEnd broken with
  | none => exact absurd finished (cutBytes_none.mp found)
  | some pair =>
    obtain ⟨more, shorter, whole⟩ := (firstAt_of_cutBytes found).within cut
    rw [parse_cut (firstAt_of_cutBytes found), parse_cut whole]
    exact ⟨rfl, rfl, Utf8.decodeLossy_breaksOff shorter⟩

end Http.Response

/-! Reading up to a deadline. -/

namespace Network

/-- All that a peer sends before it closes. A call that fails brings nothing. -/
def sentBy : List Delivery → Bytes
  | [] => []
  | delivery :: rest =>
    match delivery.content with
    | .error _ => sentBy rest
    | .ok [] => []
    | .ok bytes => bytes ++ sentBy rest

def Script.reply (script : Script) : Bytes := sentBy script.deliveries

theorem sentBy_error {delivery : Delivery} {trouble : Trouble}
    (failed : delivery.content = .error trouble) (rest : List Delivery) :
    sentBy (delivery :: rest) = sentBy rest := by
  rw [sentBy, failed]

theorem sentBy_close {delivery : Delivery} (closed : delivery.content = .ok [])
    (rest : List Delivery) : sentBy (delivery :: rest) = [] := by
  rw [sentBy, closed]

theorem sentBy_some {delivery : Delivery} {bytes : Bytes} (content : delivery.content = .ok bytes)
    (some : bytes ≠ []) (rest : List Delivery) :
    sentBy (delivery :: rest) = bytes ++ sentBy rest := by
  obtain ⟨byte, bytes, rfl⟩ := List.exists_cons_of_ne_nil some
  rw [sentBy, content]

theorem sentBy_pieces {pieces : List Bytes} (some : [] ∉ pieces) (rest : List Delivery) :
    sentBy (pieces.map (fun bytes => { content := .ok bytes }) ++ rest) =
      pieces.flatten ++ sentBy rest := by
  induction pieces with
  | nil => rfl
  | cons piece pieces ih =>
    simp only [List.mem_cons, not_or] at some
    rw [List.map_cons, List.cons_append, sentBy_some rfl (Ne.symm some.1), ih some.2,
      List.flatten_cons, List.append_assoc]

/-- Cutting what is sent into portions changes nothing of it. -/
theorem sentBy_portions (deliveries : List Delivery) :
    sentBy (deliveries.flatMap Delivery.portions) = sentBy deliveries := by
  induction deliveries with
  | nil => rfl
  | cons delivery rest ih =>
    rw [List.flatMap_cons]
    cases content : delivery.content with
    | error trouble =>
      have alone : delivery.portions = [delivery] := by rw [Delivery.portions, content]
      rw [alone, List.singleton_append, sentBy_error content, sentBy_error content, ih]
    | ok bytes =>
      by_cases void : bytes = []
      · subst void
        have cut : portionsOf [] = [[]] := by simp [portionsOf, receiveSize]
        have alone : delivery.portions = [⟨delivery.delay, .ok []⟩] := by
          simp [Delivery.portions, content, cut]
        rw [alone, List.singleton_append, sentBy_close rfl, sentBy_close content]
      · have parts := nil_not_mem_portionsOf void
        have whole := portionsOf_flatten bytes
        cases cut : portionsOf bytes with
        | nil =>
          rw [cut] at whole
          exact absurd whole.symm void
        | cons first others =>
          rw [cut] at parts whole
          simp only [List.mem_cons, not_or] at parts
          -- No portion of something is nothing, so that no portion is mistaken for a close.
          have pieces : delivery.portions =
              ⟨delivery.delay, .ok first⟩ :: others.map fun bytes => { content := .ok bytes } := by
            simp [Delivery.portions, content, cut]
          rw [pieces, List.cons_append, sentBy_some rfl (Ne.symm parts.1), sentBy_pieces parts.2, ih,
            sentBy_some content void, ← whole, List.flatten_cons, List.append_assoc]

theorem receive_ok {connection : Connection} {portion : Delivery} {clock : Number} {bytes : Bytes}
    (received : (connection.receive portion clock).outcome = .ok bytes) :
    portion.content = .ok bytes := by
  rw [Connection.receive] at received
  split at received
  · cases received
  · cases content : portion.content with
    | error trouble =>
      rw [content] at received
      cases received
    | ok own =>
      rw [content] at received
      cases received
      rfl

/-- Reading adds to the buffer what the peer sends, in order and from its beginning. -/
theorem readFrom_prefix {sockets : Sockets} {connection : Connection} {deadline : Number} {buffer : Bytes}
    {portions : List Delivery} {clock : Number} {bytes : Bytes}
    (reads : (connection.readFrom sockets deadline buffer portions clock).outcome = .ok bytes) :
    ∃ more, bytes = buffer ++ more ∧ more <+: sentBy portions := by
  have nothing (own : Bytes) (rest : List Delivery) :
      ∃ more, own = own ++ more ∧ more <+: sentBy rest :=
    ⟨[], (List.append_nil own).symm, List.nil_prefix⟩
  fun_induction Connection.readFrom sockets connection deadline buffer portions clock with
  | case1 | case4 | case7 | case8 => cases reads
  | case2 | case3 | case5 | case6 | case9 =>
    cases reads
    exact nothing _ _
  | case10 buffer portion rest clock waiting ready call journal own received some ih =>
    obtain ⟨more, rfl, shorter⟩ := ih reads
    have solid : own ≠ [] := by simpa using some
    refine ⟨own ++ more, by rw [List.append_assoc], ?_⟩
    rw [sentBy_some (receive_ok received) solid]
    exact (List.prefix_append_right_inj own).mpr shorter

/-- What an exchange brings is the beginning of what the peer sends. -/
theorem exchange_prefix {script : Script} {wire : Wire} {bytes : Bytes}
    (received : (exchange script wire).outcome = .ok bytes) : bytes <+: script.reply := by
  rw [exchange_outcome] at received
  obtain ⟨connection, _, reads⟩ := Timed.andThen_gives received
  rw [Connection.Reading.timed, Connection.readAll] at reads
  dsimp only at reads
  split at reads
  · cases reads
  · obtain ⟨more, rfl, shorter⟩ := readFrom_prefix reads
    rwa [sentBy_portions] at shorter

end Network

namespace Http.Response

open Utf8 (BreaksOff)

/-- Bytes that break off inside the head are no response, and others are a response with the status
of the whole and the beginning of its body. What an exchange brings before its deadline is such a
beginning of what the peer sends. -/
theorem parse_breaksOff :
    (∀ broken raw : Bytes, broken <+: raw →
      (¬ headEnd <:+: broken → ∃ error, error ≠ [] ∧ parse broken = ofError error) ∧
      (headEnd <:+: broken →
        (parse broken).status = (parse raw).status ∧ (parse broken).error = none ∧
          BreaksOff (parse broken).body (parse raw).body)) ∧
    ∀ (script : Network.Script) (wire : Wire) (bytes : Bytes),
      ((Transport.tcp script).exchange wire).outcome = .ok bytes → bytes <+: script.reply :=
  ⟨fun _ _ cut => ⟨parse_unfinished_eq, fun finished => parse_finished_breaksOff finished cut⟩,
    fun _ _ _ => Network.exchange_prefix⟩

/-- The deadline passes before the last byte of a character arrives. -/
theorem parse_breaksOff_in_character :
    let raw := Utf8.encode "HTTP/1.1 200 OK\r\n\r\né€"
    let broken := raw.dropLast
    let script : Network.Script :=
      { addresses := [{ family := .inet, host := "192.0.2.1", port := 80 }]
        deliveries := [{ delay := .int 11, content := .ok broken },
          { content := .ok (raw.drop broken.length) }] }
    let wire : Wire := { host := "h", port := 80, payload := [], timeout := .int 10, tls := false }
    script.reply = raw ∧ ((Transport.tcp script).exchange wire).outcome = .ok broken ∧
      broken <+: script.reply ∧ headEnd <:+: broken ∧
      (parse broken).status = (parse raw).status ∧ BreaksOff (parse broken).body (parse raw).body := by
  intro raw broken script wire
  have received : ((Transport.tcp script).exchange wire).outcome = .ok broken := by decide +kernel
  have whole : script.reply = raw := by decide +kernel
  have finished : headEnd <:+: broken := by decide +kernel
  have cut : broken <+: script.reply := parse_breaksOff.2 script wire broken received
  obtain ⟨status, _, body⟩ := (parse_breaksOff.1 broken raw (whole ▸ cut)).2 finished
  exact ⟨whole, received, cut, finished, status, body⟩

end Http.Response
end ServiceProbe
