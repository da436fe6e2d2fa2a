import ServiceProbe.Http.Response
import ServiceProbe.Proofs.Search
/-!
How a reply is taken apart. Head and body part at the first empty line, and the status stands in the
first line. Places are described by what stands before and behind them, not by how they are found.
-/
namespace ServiceProbe.Http.Response

/-- The first place in some bytes where `mark` stands. -/
structure FirstAt (mark before behind raw : Bytes) : Prop where
  parts : raw = before ++ mark ++ behind
  first : ∀ early late, raw = early ++ mark ++ late → before.length ≤ early.length

namespace FirstAt

variable {mark before behind raw : Bytes}

theorem unique {otherBefore otherBehind : Bytes} (here : FirstAt mark before behind raw)
    (there : FirstAt mark otherBefore otherBehind raw) :
    before = otherBefore ∧ behind = otherBehind := by
  have same : before.length = otherBefore.length :=
    Nat.le_antisymm (here.first _ _ there.parts) (there.first _ _ here.parts)
  have parts := here.parts.symm.trans there.parts
  rw [List.append_assoc, List.append_assoc] at parts
  obtain ⟨heads, tails⟩ := List.append_inj parts same
  exact ⟨heads, List.append_cancel_left tails⟩

theorem at_head (behind : Bytes) : FirstAt mark [] behind (mark ++ behind) :=
  ⟨rfl, fun _ _ _ => Nat.zero_le _⟩

theorem cons {byte : UInt8} (foreign : ¬ mark <+: byte :: raw)
    (later : FirstAt mark before behind raw) :
    FirstAt mark (byte :: before) behind (byte :: raw) := by
  refine ⟨by simp [later.parts], ?_⟩
  intro early late parts
  cases early with
  | nil => exact absurd ⟨late, parts.symm⟩ foreign
  | cons first early =>
    simp only [List.cons_append, List.cons.injEq] at parts
    simpa using later.first early late parts.2

/-- More bytes behind the first place leave it where it is. -/
theorem extend (here : FirstAt mark before behind raw) (more : Bytes) :
    FirstAt mark before (behind ++ more) (raw ++ more) := by
  refine ⟨by simp [here.parts], ?_⟩
  intro early late parts
  apply Nat.le_of_not_lt
  intro shorter
  have room : (early ++ mark).length ≤ raw.length := by
    simp only [here.parts, List.length_append]
    omega
  have inside : early ++ mark <+: raw :=
    List.prefix_of_prefix_length_le ⟨late, parts.symm⟩ (List.prefix_append raw more) room
  obtain ⟨rest, equal⟩ := inside
  exact Nat.not_le_of_lt shorter (here.first early rest equal.symm)

end FirstAt

theorem cutBytes_none {mark raw : Bytes} : cutBytes? mark raw = none ↔ ¬ mark <:+: raw := by
  induction raw with
  | nil => simp [cutBytes?]
  | cons byte rest ih =>
    rw [List.infix_cons_iff, cutBytes?]
    by_cases here : mark <+: byte :: rest
    · simp [here]
    · simp [here, ih]

theorem firstAt_of_cutBytes {mark before behind raw : Bytes}
    (cut : cutBytes? mark raw = some (before, behind)) : FirstAt mark before behind raw := by
  induction raw generalizing before with
  | nil =>
    by_cases void : mark = []
    · simp only [cutBytes?, void, List.isEmpty_nil, ↓reduceIte, Option.some.injEq,
        Prod.mk.injEq] at cut
      obtain ⟨rfl, rfl⟩ := cut
      subst mark
      exact FirstAt.at_head []
    · simp [cutBytes?, void] at cut
  | cons byte rest ih =>
    rw [cutBytes?] at cut
    by_cases here : mark <+: byte :: rest
    · obtain ⟨others, equal⟩ := here
      have stands : mark.isPrefixOf (byte :: rest) = true :=
        List.isPrefixOf_iff_prefix.mpr ⟨others, equal⟩
      rw [if_pos stands, ← equal, List.drop_left] at cut
      cases cut
      rw [← equal]
      exact FirstAt.at_head _
    · simp only [List.isPrefixOf_iff_prefix, here, ↓reduceIte, Option.map_eq_some_iff,
        Prod.exists, Prod.mk.injEq] at cut
      obtain ⟨early, _, later, rfl, rfl⟩ := cut
      exact FirstAt.cons here (ih later)

theorem cutBytes_some {mark before behind raw : Bytes} :
    cutBytes? mark raw = some (before, behind) ↔ FirstAt mark before behind raw := by
  constructor
  · exact firstAt_of_cutBytes
  · intro here
    cases cut : cutBytes? mark raw with
    | none =>
      have absent := cutBytes_none.mp cut
      exact absurd ⟨before, behind, here.parts.symm⟩ absent
    | some pair =>
      obtain ⟨rfl, rfl⟩ := here.unique (firstAt_of_cutBytes cut)
      rfl

/-- One character for each byte, without the blanks around them. -/
def lineText (line : Bytes) : Text := Text.strip (line.map fun byte => Char.ofNat byte.toNat)

/-- The first line of the head of a reply is the first line of the reply. -/
theorem statusLine_eq {head body line rest raw : Bytes} (whole : FirstAt headEnd head body raw)
    (first : FirstAt lineEnd line rest raw) : statusLine head = lineText line := by
  unfold statusLine lineText
  cases cut : cutBytes? lineEnd head with
  | some pair =>
    -- A line end inside the head stays the first one when the rest of the reply follows.
    obtain ⟨line', rest'⟩ := pair
    have longer := (firstAt_of_cutBytes cut).extend (headEnd ++ body)
    have parts : raw = head ++ (headEnd ++ body) := by rw [whole.parts, List.append_assoc]
    rw [← parts] at longer
    obtain ⟨rfl, _⟩ := first.unique longer
    rfl
  | none =>
    -- The line end that closes the head is the first one: an earlier one would stand in the head,
    -- or begin with its last byte and end where a carriage return stands.
    have unbroken := cutBytes_none.mp cut
    have alone : FirstAt lineEnd head (lineEnd ++ body) raw := by
      refine ⟨by rw [whole.parts]; simp [headEnd, lineEnd], ?_⟩
      intro early late parts
      apply Nat.le_of_not_lt
      intro shorter
      rw [whole.parts] at parts
      rcases Nat.lt_or_ge head.length (early ++ lineEnd).length with beyond | within
      · have size : head.length = early.length + 1 := by
          simp [lineEnd] at beyond
          omega
        have byte := congrArg (·[head.length]?) parts
        simp [headEnd, lineEnd, size] at byte
      · have inside : early ++ lineEnd <+: head :=
          List.prefix_of_prefix_length_le ⟨late, parts.symm⟩
            (by rw [List.append_assoc]; exact List.prefix_append _ _) within
        exact unbroken ((List.suffix_append early lineEnd).isInfix.trans inside.isInfix)
    obtain ⟨rfl, _⟩ := first.unique alone
    rfl

/-! The status. -/

/-- A status line with a status in it. -/
def Announces (raw : Bytes) (status : Int) : Prop :=
  ∃ line rest, FirstAt lineEnd line rest raw ∧ ("HTTP/" : Text) <+: lineText line ∧
    ∃ protocol word others, Text.words (lineText line) = protocol :: word :: others ∧
      Numeral.readInt? word = some status

theorem Announces.unique {raw : Bytes} {status other : Int} (one : Announces raw status)
    (two : Announces raw other) : status = other := by
  obtain ⟨line, rest, first, _, protocol, word, others, words, read⟩ := one
  obtain ⟨line', rest', first', _, protocol', word', others', words', read'⟩ := two
  obtain ⟨rfl, _⟩ := first.unique first'
  rw [words] at words'
  cases words'
  rw [read] at read'
  exact Option.some.inj read'

/-- A status other than 0 is one that the first line of the reply announces. -/
theorem statusOf_eq {head body raw : Bytes} (whole : FirstAt headEnd head body raw) {status : Int}
    (usable : status ≠ 0) : statusOf (statusLine head) = status ↔ Announces raw status := by
  obtain ⟨line, rest, first⟩ : ∃ line rest, FirstAt lineEnd line rest raw := by
    cases cut : cutBytes? lineEnd raw with
    | none =>
      have absent := cutBytes_none.mp cut
      refine absurd ⟨head, lineEnd ++ body, ?_⟩ absent
      rw [whole.parts]
      simp [headEnd, lineEnd]
    | some pair => exact ⟨pair.1, pair.2, firstAt_of_cutBytes cut⟩
  rw [statusLine_eq whole first, statusOf]
  constructor
  · intro found
    split at found
    · next behind protocol word others begins words =>
      have read : Numeral.readInt? word = some status := by
        cases value : Numeral.readInt? word with
        | none => simp [value, usable.symm] at found
        | some n => simpa [value] using found
      exact ⟨line, rest, first, ⟨behind, (Text.after_some.mp begins).symm⟩, protocol, word, others,
        words, read⟩
    · exact absurd found.symm usable
  · rintro ⟨line', rest', first', ⟨behind, begins⟩, protocol, word, others, words, read⟩
    obtain ⟨rfl, _⟩ := first.unique first'
    rw [Text.after_some.mpr begins.symm, words]
    simp [read]

/-! The reply as a whole. -/

theorem decodeLossy_nil {raw : Bytes} : Utf8.decodeLossy raw = [] ↔ raw = [] := by
  constructor
  · intro void
    cases raw with
    | nil => rfl
    | cons byte rest =>
      unfold Utf8.decodeLossy at void
      split at void <;> simp at void
  · rintro rfl
    simp [Utf8.decodeLossy]

theorem parse_unfinished {raw : Bytes} (unfinished : ¬ headEnd <:+: raw) :
    (parse raw).failed = true := by
  unfold parse
  rw [cutBytes_none.mpr unfinished]
  split <;> rfl

theorem parse_cut {head body raw : Bytes} (whole : FirstAt headEnd head body raw) :
    parse raw = { status := statusOf (statusLine head), body := Utf8.decodeLossy body } := by
  have some_bytes : raw.isEmpty = false := by
    rw [whole.parts]
    simp [headEnd]
  simp [parse, some_bytes, cutBytes_some.mpr whole]

end ServiceProbe.Http.Response
