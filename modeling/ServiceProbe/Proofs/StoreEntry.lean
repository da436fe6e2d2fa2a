import Mathlib.Data.List.TakeWhile
import ServiceProbe.PasswordStore
import ServiceProbe.Proofs.Files
import ServiceProbe.Proofs.Outcome
import ServiceProbe.Proofs.Search
import ServiceProbe.Proofs.Utf8
/-!
What a store tells of an id: what the last of its lines says that is an entry of that id. A store that
is written row by row is read back row by row, as long as no row has a character that ends a line.
-/
namespace ServiceProbe

namespace Text

theorem lines_break {c : Char} {rest : Text} (ends : isLineBreak c = true)
    (separate : c = '\r' → rest.head? ≠ some '\n') : lines (c :: rest) = [] :: lines rest := by
  rw [lines, if_pos ends]
  rintro behind rfl rfl
  exact separate rfl rfl

/-- A character that ends no line is at the beginning of one. -/
theorem lines_keep {c : Char} (keeps : isLineBreak c = false) (rest : Text) :
    lines (c :: rest) = (c :: (lines rest).headD []) :: (lines rest).tail := by
  rw [lines, if_neg (by simp [keeps])]
  · cases lines rest <;> rfl
  · rintro _ rfl
    cases keeps

theorem lines_ne_nil {text : Text} (some : text ≠ []) : lines text ≠ [] := by
  induction text using lines.induct with
  | case1 => exact absurd rfl some
  | case2 => simp [lines]
  | case3 c rest separate ends => simp [lines, ends]
  | case4 c rest _ keeps => simp [lines_keep (Bool.eq_false_iff.mpr keeps)]
  | case5 c rest _ keeps => simp [lines_keep (Bool.eq_false_iff.mpr keeps)]

theorem lines_newline (rest : Text) : lines ('\n' :: rest) = [] :: lines rest :=
  lines_break (by decide) (by simp)

/-- No line goes on behind a line feed. -/
theorem lines_append_newline (text rest : Text) :
    lines (text ++ '\n' :: rest) = lines (text ++ ['\n']) ++ lines rest := by
  have keep {c : Char} (keeps : ¬isLineBreak c = true) {text : Text}
      (ih : lines (text ++ '\n' :: rest) = lines (text ++ ['\n']) ++ lines rest) :
      lines (c :: (text ++ '\n' :: rest)) = lines (c :: (text ++ ['\n'])) ++ lines rest := by
    rw [lines_keep (Bool.eq_false_iff.mpr keeps), lines_keep (Bool.eq_false_iff.mpr keeps), ih]
    have ended : text ++ ['\n'] ≠ [] := by simp
    obtain ⟨line, others, some⟩ := List.exists_cons_of_ne_nil (lines_ne_nil ended)
    rw [some]
    rfl
  induction text using lines.induct with
  | case1 => exact lines_newline rest
  | case2 text ih => simpa [lines] using ih
  | case3 c text separate ends ih =>
    -- What follows a carriage return can be the line feed that is added, or one of the text.
    by_cases alone : c = '\r' ∧ text = []
    · -- The line feed ends the same line as the carriage return before it.
      obtain ⟨rfl, rfl⟩ := alone
      simp [lines]
    · have apart (behind : Text) : c = '\r' → (text ++ '\n' :: behind).head? ≠ some '\n' := by
        rintro rfl
        cases text with
        | nil => exact absurd ⟨rfl, rfl⟩ alone
        | cons d text =>
          rintro same
          cases same
          exact separate text rfl rfl
      simp only [List.cons_append]
      rw [lines_break ends (apart rest), lines_break ends (apart []), ih, List.cons_append]
  | case4 c text _ keeps _ ih => exact keep keeps ih
  | case5 c text _ keeps _ _ _ ih => exact keep keeps ih

/-- No character ends a line. -/
def OneLine (text : Text) : Prop := ∀ c ∈ text, isLineBreak c = false

instance (text : Text) : Decidable (OneLine text) :=
  List.decidableBAll (fun c => isLineBreak c = false) text

/-- The lines have no other characters than the text, and none that ends a line. -/
theorem lines_plain (text : Text) : ∀ line ∈ lines text, line ⊆ text ∧ OneLine line := by
  have empty {text : Text} : [] ⊆ text ∧ OneLine [] := ⟨List.nil_subset text, List.forall_mem_nil _⟩
  have longer {line text : Text} (c : Char) (plain : line ⊆ text ∧ OneLine line) :
      line ⊆ c :: text ∧ OneLine line :=
    ⟨List.subset_cons_of_subset c plain.1, plain.2⟩
  have keep {c : Char} (keeps : ¬isLineBreak c = true) {text : Text}
      (ih : ∀ line ∈ lines text, line ⊆ text ∧ OneLine line) :
      ∀ line ∈ lines (c :: text), line ⊆ c :: text ∧ OneLine line := by
    have first : (lines text).headD [] ⊆ text ∧ OneLine ((lines text).headD []) := by
      cases parts : lines text with
      | nil => exact empty
      | cons line others => exact ih line (by simp [parts])
    rw [lines_keep (Bool.eq_false_iff.mpr keeps), List.forall_mem_cons]
    constructor
    · exact ⟨List.cons_subset_cons c first.1,
        List.forall_mem_cons.mpr ⟨Bool.eq_false_iff.mpr keeps, first.2⟩⟩
    · exact fun line later => longer c (ih line (List.mem_of_mem_tail later))
  induction text using lines.induct with
  | case1 => exact List.forall_mem_nil _
  | case2 text ih =>
    rw [lines, List.forall_mem_cons]
    exact ⟨empty, fun line later => longer '\r' (longer '\n' (ih line later))⟩
  | case3 c text separate ends ih =>
    rw [lines, if_pos ends, List.forall_mem_cons]
    · exact ⟨empty, fun line later => longer c (ih line later)⟩
    · exact separate
  | case4 c text _ keeps _ ih => exact keep keeps ih
  | case5 c text _ keeps _ _ _ ih => exact keep keeps ih

theorem lines_of_oneLine {text : Text} (one : OneLine text) (rest : Text) :
    lines (text ++ '\n' :: rest) = text :: lines rest := by
  induction text with
  | nil => exact lines_newline rest
  | cons c text ih =>
    have later : OneLine text := fun d member => one d (List.mem_cons_of_mem c member)
    rw [List.cons_append, lines_keep (one c List.mem_cons_self), ih later]
    rfl

theorem mem_strip {c : Char} {text : Text} (solid : isBlank c = false) (member : c ∈ text) :
    c ∈ strip text := by
  have kept {text : Text} (member : c ∈ text) : c ∈ text.dropWhile isBlank := by
    rw [← List.takeWhile_append_dropWhile (p := isBlank) (l := text), List.mem_append] at member
    refine member.resolve_left fun blank => ?_
    exact absurd (List.mem_takeWhile_imp blank) (by simp [solid])
  rw [strip, trim, dropEnd, List.mem_reverse]
  exact kept (List.mem_reverse.mpr (kept member))

theorem strip_of_blank {text : Text} (blank : ∀ c ∈ text, isBlank c = true) : strip text = [] := by
  rw [strip, trim, List.dropWhile_eq_nil_iff.mpr blank]
  rfl

theorem cut_of_not_mem {mark : Char} {text : Text} (free : mark ∉ text) :
    cut mark text = (text, none) := by
  induction text with
  | nil => rfl
  | cons c text ih =>
    simp only [List.mem_cons, not_or] at free
    simp [cut, ih free.2, Ne.symm free.1]

end Text

namespace PasswordStore

theorem find?_cons (id other kept : Text) (rest : PasswordStore) :
    find? ((other, kept) :: rest) id = if other = id then some kept else find? rest id := by
  by_cases same : other = id <;> simp [find?, same]

theorem find?_put (store : PasswordStore) (id other password : Text) :
    (store.put other password).find? id = if other = id then some password else store.find? id := by
  induction store with
  | nil => exact find?_cons id other password []
  | cons entry rest ih =>
    obtain ⟨first, kept⟩ := entry
    by_cases replaced : first = other
    · subst replaced
      rw [put, if_pos rfl, find?_cons, find?_cons]
      by_cases same : first = id <;> simp [same]
    · rw [put, if_neg replaced, find?_cons, find?_cons, ih]
      by_cases same : first = id
      · rw [if_pos same, if_pos same, if_neg (fun later => replaced (same.trans later.symm))]
      · rw [if_neg same, if_neg same]

/-! A line says nothing, is an entry, or is neither. -/

/-- An entry of an id. The id is what stands before the first colon. -/
structure Enters (id password line : Text) : Prop where
  speaks : isSilent line = false
  whole : ':' ∉ id
  parts : line = id ++ ':' :: password

def Malformed (line : Text) : Prop := isSilent line = false ∧ ':' ∉ line

instance (line : Text) : Decidable (Malformed line) :=
  inferInstanceAs (Decidable (isSilent line = false ∧ ':' ∉ line))

def Lacks (lines : List Text) (id : Text) : Prop :=
  ∀ line ∈ lines, ∀ password, ¬Enters id password line

/-- The last entry of an id has this password. -/
inductive Tells (id password : Text) : List Text → Prop
  | last {line : Text} {rest : List Text} (entry : Enters id password line) (lacks : Lacks rest id) :
    Tells id password (line :: rest)
  | later {line : Text} {rest : List Text} (told : Tells id password rest) :
    Tells id password (line :: rest)

theorem line_cases (line : Text) :
    isSilent line = true ∨ (∃ id password, Enters id password line) ∨ Malformed line := by
  by_cases silent : isSilent line = true
  · exact Or.inl silent
  have speaks := Bool.eq_false_iff.mpr silent
  by_cases colon : ':' ∈ line
  · obtain ⟨id, password, parts, whole⟩ := List.eq_append_cons_of_mem colon
    exact Or.inr (Or.inl ⟨id, password, speaks, whole, parts⟩)
  · exact Or.inr (Or.inr ⟨speaks, colon⟩)

theorem Enters.unique {id other password kept line : Text} (entry : Enters id password line)
    (again : Enters other kept line) : id = other ∧ password = kept := by
  have same := congrArg (Text.cut ':') (entry.parts.symm.trans again.parts)
  rw [Text.cut_append entry.whole, Text.cut_append again.whole] at same
  cases same
  exact ⟨rfl, rfl⟩

section Lines

variable (store : PasswordStore) (number : Nat) {line : Text} (rest : List Text)

theorem ofLines_silent (silent : isSilent line = true) :
    ofLines store number (line :: rest) = ofLines store (number + 1) rest := by
  rw [ofLines, if_pos silent]

theorem ofLines_entry {id password : Text} (entry : Enters id password line) :
    ofLines store number (line :: rest) = ofLines (store.put id password) (number + 1) rest := by
  rw [ofLines, if_neg (by simp [entry.speaks]), entry.parts, Text.cut_append entry.whole]

theorem ofLines_malformed (malformed : Malformed line) :
    ofLines store number (line :: rest) = .error number := by
  rw [ofLines, if_neg (by simp [malformed.1]), Text.cut_of_not_mem malformed.2]

end Lines

theorem not_enters_of_silent {id password line : Text} (silent : isSilent line = true) :
    ¬Enters id password line :=
  fun entry => absurd silent (Bool.eq_false_iff.mp entry.speaks)

theorem not_malformed_of_silent {line : Text} (silent : isSilent line = true) : ¬Malformed line :=
  fun malformed => absurd silent (Bool.eq_false_iff.mp malformed.1)

theorem Enters.not_malformed {id password line : Text} (entry : Enters id password line) :
    ¬Malformed line := by
  rintro ⟨_, noColon⟩
  rw [entry.parts] at noColon
  simp at noColon

section Cons

variable {id password line : Text} {rest : List Text}

theorem tells_cons : Tells id password (line :: rest) ↔
    Tells id password rest ∨ Enters id password line ∧ Lacks rest id := by
  constructor
  · intro told
    cases told with
    | last entry lacks => exact Or.inr ⟨entry, lacks⟩
    | later told => exact Or.inl told
  · rintro (told | ⟨entry, lacks⟩)
    · exact .later told
    · exact .last entry lacks

theorem lacks_cons : Lacks (line :: rest) id ↔ (∀ password, ¬Enters id password line) ∧ Lacks rest id :=
  List.forall_mem_cons

/-- An id that has an entry has a last one. -/
theorem lacks_or_tells (id : Text) (lines : List Text) :
    Lacks lines id ∨ ∃ password, Tells id password lines := by
  induction lines with
  | nil => exact Or.inl (List.forall_mem_nil _)
  | cons line rest ih =>
    rcases ih with lacks | ⟨password, told⟩
    · by_cases entry : ∃ password, Enters id password line
      · obtain ⟨password, entry⟩ := entry
        exact Or.inr ⟨password, .last entry lacks⟩
      · exact Or.inl (lacks_cons.mpr ⟨not_exists.mp entry, lacks⟩)
    · exact Or.inr ⟨password, .later told⟩

theorem Tells.not_lacks {lines : List Text} (told : Tells id password lines) : ¬Lacks lines id := by
  induction told with
  | last entry _ => exact fun lacks => (lacks_cons.mp lacks).1 _ entry
  | later _ ih => exact fun lacks => ih (lacks_cons.mp lacks).2

end Cons

/-! What the lines come to. -/

/-- A store has what its last entries say; an id without an entry is as it was before. -/
theorem find?_ofLines {store result : PasswordStore} {number : Nat} {lines : List Text}
    (read : ofLines store number lines = .ok result) (id password : Text) :
    result.find? id = some password ↔
      Tells id password lines ∨ Lacks lines id ∧ store.find? id = some password := by
  -- Along the lines, for any store that they are added to: what an entry puts there counts unless a
  -- later line has the same id.
  induction lines generalizing store number with
  | nil =>
    cases read
    have untold : ¬Tells id password [] := by
      rintro ⟨⟩
    simp [untold, Lacks]
  | cons line rest ih =>
    rw [tells_cons, lacks_cons]
    rcases line_cases line with silent | ⟨other, kept, entry⟩ | malformed
    · rw [ofLines_silent store number rest silent] at read
      simp [ih read, not_enters_of_silent silent]
    · rw [ofLines_entry store number rest entry] at read
      rw [ih read, find?_put]
      by_cases same : other = id
      · subst same
        have own : Enters other password line ↔ kept = password :=
          ⟨fun again => (entry.unique again).2, fun same => same ▸ entry⟩
        have some : ¬∀ password, ¬Enters other password line := fun none => none kept entry
        simp [own, some, and_comm]
      · have foreign (password : Text) : ¬Enters id password line :=
          fun again => same (entry.unique again).1
        simp [same, foreign]
    · rw [ofLines_malformed store number rest malformed] at read
      cases read

/-- Reading stops at the first line that is malformed. -/
theorem ofLines_stops {store : PasswordStore} {number : Nat} {before : List Text} {line : Text}
    (fit : ∀ earlier ∈ before, ¬Malformed earlier) (malformed : Malformed line) (rest : List Text) :
    ofLines store number (before ++ line :: rest) = .error (number + before.length) := by
  induction before generalizing store number with
  | nil => exact ofLines_malformed store number rest malformed
  | cons first before ih =>
    have later : ∀ earlier ∈ before, ¬Malformed earlier := fun earlier member =>
      fit earlier (List.mem_cons_of_mem first member)
    rw [List.cons_append, List.length_cons, Nat.add_comm before.length, ← Nat.add_assoc]
    rcases line_cases first with silent | ⟨id, password, entry⟩ | unfit
    · rw [ofLines_silent store number _ silent]
      exact ih later
    · rw [ofLines_entry store number _ entry]
      exact ih later
    · exact absurd unfit (fit first List.mem_cons_self)

theorem ofLines_succeeds (store : PasswordStore) (number : Nat) {lines : List Text}
    (fit : ∀ line ∈ lines, ¬Malformed line) : Outcome.Succeeds (ofLines store number lines) := by
  induction lines generalizing store number with
  | nil => exact ⟨store, rfl⟩
  | cons line rest ih =>
    rw [List.forall_mem_cons] at fit
    rcases line_cases line with silent | ⟨id, password, entry⟩ | malformed
    · rw [ofLines_silent store number rest silent]
      exact ih _ _ fit.2
    · rw [ofLines_entry store number rest entry]
      exact ih _ _ fit.2
    · exact absurd malformed fit.1

/-- The line with this number is the first one that is malformed. -/
def BreaksAt (number : Nat) (lines : List Text) : Prop :=
  ∃ before line rest, lines = before ++ line :: rest ∧ (∀ earlier ∈ before, ¬Malformed earlier) ∧
    Malformed line ∧ number = before.length + 1

theorem fit_or_breaks (lines : List Text) :
    (∀ line ∈ lines, ¬Malformed line) ∨ ∃ number, BreaksAt number lines := by
  induction lines with
  | nil => exact Or.inl (List.forall_mem_nil _)
  | cons line rest ih =>
    by_cases malformed : Malformed line
    · exact Or.inr ⟨1, [], line, rest, rfl, List.forall_mem_nil _, malformed, rfl⟩
    rcases ih with fit | ⟨number, before, broken, behind, rfl, fit, unfit, rfl⟩
    · exact Or.inl (List.forall_mem_cons.mpr ⟨malformed, fit⟩)
    · exact Or.inr ⟨_, line :: before, broken, behind, rfl, List.forall_mem_cons.mpr ⟨malformed, fit⟩,
        unfit, rfl⟩

section Files

variable {files : Files} {path : Path} {content id password : Text}

/-- A file that can be read as text. -/
structure Holds (files : Files) (path : Path) (content : Text) : Prop where
  plain : '\x00' ∉ path.text
  kept : ∃ bytes, files.read path = .ok bytes ∧ Utf8.decode bytes = .ok content

/-- A store stands where it is put, from the root or from the current directory. -/
theorem holds_holding (plain : '\x00' ∉ path.text) (leads : Files.Leads path) (content : Text) :
    Holds (Files.holding path (Utf8.encode content)) path content :=
  ⟨plain, _, Files.read_holding leads _, Utf8.decode_encode content⟩

theorem load_of_holds (holds : Holds files path content) :
    load files path =
      (parse content).mapError fun line => .store (.malformedLine path.text line) := by
  obtain ⟨bytes, read, decoded⟩ := holds.kept
  rw [load, if_neg (by simpa using holds.plain), read]
  dsimp only
  rw [decoded]
  dsimp only
  cases parse content <;> rfl

theorem load_of_breaks (holds : Holds files path content) {number : Nat}
    (breaks : BreaksAt number (Text.lines content)) :
    load files path = .error (.store (.malformedLine path.text number)) := by
  obtain ⟨before, line, rest, parts, fit, malformed, rfl⟩ := breaks
  rw [load_of_holds holds, parse, parts, ofLines_stops fit malformed, Nat.add_comm]
  rfl

/-- The password of an id is what its last entry says, if no line is malformed. -/
theorem lookup_of_holds (holds : Holds files path content)
    (fit : ∀ line ∈ Text.lines content, ¬Malformed line) (id : Text) :
    (∀ password, Tells id password (Text.lines content) → lookup files path id = .ok password) ∧
      (Lacks (Text.lines content) id →
        lookup files path id = .error (.store (.unknownId path.text id))) := by
  obtain ⟨store, read⟩ := ofLines_succeeds [] 1 fit
  have found := find?_ofLines read id
  have loaded : load files path = .ok store := by
    rw [load_of_holds holds, parse, read]
    rfl
  constructor
  · intro password told
    have entry := (found password).mpr (Or.inl told)
    rw [lookup, loaded]
    simp [bind, Except.bind, entry, pure, Except.pure]
  · intro lacks
    have none : store.find? id = none := by
      rw [Option.eq_none_iff_forall_not_mem]
      intro password entry
      rcases (found password).mp entry with told | ⟨_, empty⟩
      · exact told.not_lacks lacks
      · cases empty
    rw [lookup, loaded]
    simp [bind, Except.bind, none, throw, throwThe, MonadExceptOf.throw]

theorem lookup_iff_tells (holds : Holds files path content) :
    lookup files path id = .ok password ↔
      (∀ line ∈ Text.lines content, ¬Malformed line) ∧ Tells id password (Text.lines content) := by
  constructor
  · intro found
    -- A malformed line anywhere fails the look-up, also behind the entry.
    rcases fit_or_breaks (Text.lines content) with fit | ⟨number, breaks⟩
    · obtain ⟨tells, lacking⟩ := lookup_of_holds holds fit id
      rcases lacks_or_tells id (Text.lines content) with lacks | ⟨kept, told⟩
      · rw [lacking lacks] at found
        cases found
      · rw [tells kept told] at found
        cases found
        exact ⟨fit, told⟩
    · rw [lookup, load_of_breaks holds breaks] at found
      cases found
  · rintro ⟨fit, told⟩
    exact (lookup_of_holds holds fit id).1 password told

theorem Tells.oneLine {lines : List Text} (told : Tells id password lines)
    (one : ∀ line ∈ lines, Text.OneLine line) : Text.OneLine password := by
  induction told with
  | last entry _ =>
    intro c member
    refine one _ List.mem_cons_self c ?_
    rw [entry.parts]
    simp [member]
  | later _ ih => exact ih fun line member => one line (List.mem_cons_of_mem _ member)

theorem oneLine_of_lookup (holds : Holds files path content)
    (found : lookup files path id = .ok password) : Text.OneLine password := by
  obtain ⟨_, told⟩ := (lookup_iff_tells holds).mp found
  exact told.oneLine fun line member => (Text.lines_plain content line member).2

end Files

/-! A store as it is written. -/

inductive Row where
  | entry (id password : Text)
  | blank (text : Text)
  | comment (text : Text)

namespace Row

def text : Row → Text
  | .entry id password => id ++ ':' :: password
  | .blank text => text
  | .comment text => '#' :: text

/-- An id is not empty, has no colon and does not look like a comment. -/
def Sound : Row → Prop
  | .entry id _ => id ≠ [] ∧ ':' ∉ id ∧ id.head? ≠ some '#'
  | .blank text => ∀ c ∈ text, Text.isBlank c = true
  | .comment _ => True

instance : DecidablePred Sound
  | .entry id _ => inferInstanceAs (Decidable (id ≠ [] ∧ ':' ∉ id ∧ id.head? ≠ some '#'))
  | .blank text => List.decidableBAll (fun c => Text.isBlank c = true) text
  | .comment _ => inferInstanceAs (Decidable True)

/-- A row that is one line. White space may be several. -/
def OneLine : Row → Prop
  | .blank _ => True
  | row => Text.OneLine row.text

instance : DecidablePred OneLine
  | .entry id password => inferInstanceAs (Decidable (Text.OneLine (entry id password).text))
  | .blank _ => inferInstanceAs (Decidable True)
  | .comment text => inferInstanceAs (Decidable (Text.OneLine (comment text).text))

theorem enters {id password : Text} (sound : (entry id password).Sound) :
    Enters id password (entry id password).text := by
  obtain ⟨some, whole, noMark⟩ := sound
  refine ⟨?_, whole, rfl⟩
  obtain ⟨c, id, rfl⟩ := List.exists_cons_of_ne_nil some
  -- The colon is no white space.
  have shown : Text.strip (entry (c :: id) password).text ≠ [] := by
    refine List.ne_nil_of_mem (Text.mem_strip (c := ':') (by decide) ?_)
    simp [text]
  have noComment : (entry (c :: id) password).text.head? ≠ Option.some '#' := noMark
  simp [isSilent, shown, noComment]

/-- A line of a row is the row or says nothing. -/
theorem line_cases {row : Row} (sound : row.Sound) (one : row.OneLine) {line : Text}
    (member : line ∈ Text.lines (row.text ++ ['\n'])) :
    isSilent line = true ∨ ∃ id password, row = .entry id password ∧ Enters id password line := by
  cases row with
  | entry id password =>
    rw [Text.lines_of_oneLine one] at member
    obtain rfl := List.mem_singleton.mp member
    exact Or.inr ⟨id, password, rfl, enters sound⟩
  | blank text =>
    have blank : ∀ c ∈ line, Text.isBlank c = true := by
      intro c inside
      rcases List.mem_append.mp ((Text.lines_plain _ line member).1 inside) with here | ending
      · exact sound c here
      · rw [List.mem_singleton.mp ending]
        decide
    exact Or.inl (by simp [isSilent, Text.strip_of_blank blank])
  | comment text =>
    rw [Text.lines_of_oneLine one] at member
    obtain rfl := List.mem_singleton.mp member
    exact Or.inl (by simp [isSilent, Row.text])

end Row

def write (rows : List Row) : Text := rows.flatMap fun row => row.text ++ ['\n']

theorem lines_write_cons (row : Row) (rows : List Row) :
    Text.lines (write (row :: rows)) =
      Text.lines (row.text ++ ['\n']) ++ Text.lines (write rows) := by
  rw [← Text.lines_append_newline, write, List.flatMap_cons, List.append_assoc]
  rfl

theorem lines_write_append (before behind : List Row) :
    Text.lines (write (before ++ behind)) =
      Text.lines (write before) ++ Text.lines (write behind) := by
  induction before with
  | nil => rfl
  | cons row before ih =>
    rw [List.cons_append, lines_write_cons, lines_write_cons, ih, List.append_assoc]

theorem Tells.append_left {id password : Text} {lines : List Text} (told : Tells id password lines)
    (before : List Text) : Tells id password (before ++ lines) := by
  induction before with
  | nil => exact told
  | cons line before ih => exact .later ih

section Rows

variable {rows : List Row} (sound : ∀ row ∈ rows, row.Sound) (one : ∀ row ∈ rows, row.OneLine)

include sound one

theorem line_cases_of_write : ∀ line ∈ Text.lines (write rows),
    isSilent line = true ∨ ∃ id password, .entry id password ∈ rows ∧ Enters id password line := by
  induction rows with
  | nil => exact List.forall_mem_nil _
  | cons row rows ih =>
    rw [List.forall_mem_cons] at sound one
    rw [lines_write_cons, List.forall_mem_append]
    constructor
    · intro line member
      rcases row.line_cases sound.1 one.1 member with silent | ⟨id, password, rfl, entry⟩
      · exact Or.inl silent
      · exact Or.inr ⟨id, password, List.mem_cons_self, entry⟩
    · intro line member
      rcases ih sound.2 one.2 line member with silent | ⟨id, password, listed, entry⟩
      · exact Or.inl silent
      · exact Or.inr ⟨id, password, List.mem_cons_of_mem row listed, entry⟩

theorem write_fits : ∀ line ∈ Text.lines (write rows), ¬Malformed line := by
  intro line member
  rcases line_cases_of_write sound one line member with silent | ⟨id, password, _, entry⟩
  · exact not_malformed_of_silent silent
  · exact entry.not_malformed

theorem write_lacks {id : Text} (unlisted : ∀ password, .entry id password ∉ rows) :
    Lacks (Text.lines (write rows)) id := by
  intro line member password entry
  rcases line_cases_of_write sound one line member with silent | ⟨other, kept, listed, again⟩
  · exact not_enters_of_silent silent entry
  · obtain ⟨rfl, rfl⟩ := again.unique entry
    exact unlisted kept listed

end Rows

/-- The last entry of an id is what is told of it. -/
theorem write_tells {before behind : List Row} {id password : Text}
    (sound : ∀ row ∈ before ++ .entry id password :: behind, row.Sound)
    (one : ∀ row ∈ before ++ .entry id password :: behind, row.OneLine)
    (last : ∀ other, .entry id other ∉ behind) :
    Tells id password (Text.lines (write (before ++ .entry id password :: behind))) := by
  rw [lines_write_append, lines_write_cons]
  apply Tells.append_left
  simp only [List.forall_mem_append, List.forall_mem_cons] at sound one
  have alone : Text.lines ((Row.entry id password).text ++ ['\n']) = [(Row.entry id password).text] :=
    Text.lines_of_oneLine one.2.1 []
  rw [alone]
  exact .last (Row.enters sound.2.1) (write_lacks sound.2.2 one.2.2 last)

/-- The password of an id is what its last entry says, and a store that is written row by row is read
back. No password with a character that ends a line is ever read from a store, as what stands behind
the character is a line of its own. -/
theorem lookup_gives_last_entry {files : Files} {path : Path} (plain : '\x00' ∉ path.text) :
    (∀ content id password, files.read path = .ok (Utf8.encode content) →
      (lookup files path id = .ok password ↔
        (∀ line ∈ Text.lines content, ¬Malformed line) ∧
          Tells id password (Text.lines content))) ∧
    (∀ content id password, files.read path = .ok (Utf8.encode content) →
      lookup files path id = .ok password → Text.OneLine password) ∧
    ∀ before id password behind,
      let rows := before ++ .entry id password :: behind
      (∀ row ∈ rows, row.Sound) → (∀ row ∈ rows, row.OneLine) →
        (∀ other, .entry id other ∉ behind) → files.read path = .ok (Utf8.encode (write rows)) →
          lookup files path id = .ok password := by
  have holds {content : Text} (read : files.read path = .ok (Utf8.encode content)) :
      Holds files path content := ⟨plain, _, read, Utf8.decode_encode content⟩
  refine ⟨fun content id password read => lookup_iff_tells (holds read), ?_, ?_⟩
  · exact fun content id password read found => oneLine_of_lookup (holds read) found
  · intro before id password behind rows sound one last read
    exact (lookup_iff_tells (holds read)).mpr ⟨write_fits sound one, write_tells sound one last⟩

/-- Blanks and colons of a password are its own, and an earlier entry does not count. -/
theorem lookup_gives_second_entry :
    let path : Path := ⟨[], ["store"]⟩
    let files : Files :=
      [(["store"], .file (Utf8.encode "# passwords\nops:first\n \x0c\nops: a:b \n#ops:last\n"))]
    '\x00' ∉ path.text ∧ lookup files path "ops" = .ok " a:b ".toList := by
  intro path files
  let before : List Row := [.comment " passwords", .entry "ops" "first", .blank [' ', '\x0c']]
  have plain : '\x00' ∉ path.text := by decide
  obtain ⟨_, _, given⟩ := @lookup_gives_last_entry files path plain
  refine ⟨plain, given before "ops" " a:b " [.comment "ops:last"] ?_ ?_ ?_ ?_⟩
  · decide
  · decide
  · simp
  · rfl

/-- A password with a line separator is cut, although it has neither a carriage return nor a line
feed. -/
theorem lookup_misses_separated_entry :
    ¬∀ (files : Files) (path : Path) (before : List Row) (id password : Text) (behind : List Row),
      let rows := before ++ .entry id password :: behind
      '\x00' ∉ path.text → (∀ row ∈ rows, row.Sound) →
        (∀ row ∈ rows, '\r' ∉ row.text ∧ '\n' ∉ row.text) → (∀ other, .entry id other ∉ behind) →
          files.read path = .ok (Utf8.encode (write rows)) → lookup files path id = .ok password := by
  intro always
  have found := always [(["store"], .file (Utf8.encode "id:a\u2028b\n"))] ⟨[], ["store"]⟩ [] "id"
    "a\u2028b" [] (by decide) (by simp [Row.Sound]) (by simp [Row.text]) (by simp) rfl
  have one := oneLine_of_lookup ⟨by decide, _, rfl, Utf8.decode_encode _⟩ found
  exact absurd one (by decide)

end PasswordStore
end ServiceProbe
