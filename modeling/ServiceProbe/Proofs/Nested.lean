import ServiceProbe.Proofs.Lookup
/-!
What is read at the place of a key, and what is found at the end of a path of keys.
-/
namespace ServiceProbe.Field

open Json

variable {key place rest : Text} {behind : List Token}

theorem onKey_quotedValue (key : Text) : OnKey key (quotedValue? key) := by
  intro text absent
  simp [quotedValue?, absent]

theorem onKey_bareValue (key : Text) : OnKey key (bareValue? key) := by
  intro text absent
  simp [bareValue?, absent]

theorem onKey_opening (key : Text) : OnKey key (opening? key) := by
  intro text absent
  simp [opening?, absent]

/-! The head of a value. -/

theorem isBare_solid {c : Char} (bare : Token.isBare c = true) :
    Text.isBlank c = false ∧ c ≠ '"' ∧ c ∉ marks := by
  simp only [Token.isBare, Bool.and_eq_true, Bool.not_eq_eq_eq_not, Bool.not_true, bne_iff_ne,
    ne_eq, List.contains_eq_mem, decide_eq_false_iff_not] at bare
  exact ⟨bare.1.1, bare.1.2, bare.2⟩

theorem skipBlanks_bare {bare : Text} (plain : (Token.bare bare).Plain) (left : Text) :
    Text.skipBlanks (bare ++ left) = bare ++ left := by
  obtain ⟨c, others, rfl⟩ := List.exists_cons_of_ne_nil plain.1
  exact Text.skipBlanks_solid (isBare_solid (plain.2 c List.mem_cons_self)).1 _

/-- Behind white space stands the first token. -/
theorem skipBlanks_token {token : Token} {text : Text} (written : Written (token :: behind) text)
    (plain : token.Plain) :
    ∃ left, Written behind left ∧ Text.skipBlanks text = token.text ++ left := by
  cases written with
  | @token gap left _ _ blank later =>
    refine ⟨left, later, ?_⟩
    rw [skipBlanks_gap blank]
    cases token with
    | mark c => exact Text.skipBlanks_solid (isBlank_mark plain) left
    | string content => exact Text.skipBlanks_solid (by decide) _
    | bare bare => exact skipBlanks_bare plain left

theorem ne_nil_of_written {document : Json .value} (plain : ∀ token ∈ document.tokens, token.Plain)
    {text : Text} (written : Written document.tokens text) : text ≠ [] := by
  rintro rfl
  cases document with
  | string | bare | object | array =>
    have first := plain _ List.mem_cons_self
    obtain ⟨left, _, head⟩ := skipBlanks_token written first
    have void := (List.append_eq_nil_iff.mp head.symm).1
    first
      | exact first.1 void
      | cases void

/-! A string. -/

theorem quotedValue_string (found : behindKey? key place = some rest) {content : Text}
    (plain : '"' ∉ content) (written : Written (.string content :: behind) rest) :
    quotedValue? key place = some content := by
  obtain ⟨left, _, head⟩ := skipBlanks_token written plain
  simp only [quotedValue?, found, Option.bind_eq_bind, Option.bind_some, head, Token.text,
    List.cons_append, List.append_assoc, List.nil_append]
  simp [Text.after?, Text.takeWhile_mark plain]

/-! A bare token. -/

theorem quotedValue_bare (found : behindKey? key place = some rest) {bare : Text}
    (plain : (Token.bare bare).Plain) (written : Written (.bare bare :: behind) rest) :
    quotedValue? key place = none := by
  obtain ⟨left, _, head⟩ := skipBlanks_token written plain
  simp only [quotedValue?, found, Option.bind_eq_bind, Option.bind_some, head, Token.text]
  obtain ⟨c, others, rfl⟩ := List.exists_cons_of_ne_nil plain.1
  have other := (isBare_solid (plain.2 c List.mem_cons_self)).2.1
  simp [Text.after?, Ne.symm other]

theorem strip_bare {before behind bare : Text} (blank : ∀ c ∈ before, isSpace c = true)
    (plain : (Token.bare bare).Plain) (blankBehind : ∀ c ∈ behind, isSpace c = true) :
    Text.strip (before ++ (bare ++ behind)) = bare := by
  have solid : ∀ c ∈ bare, Text.isBlank c = false := fun c member => (isBare_solid (plain.2 c member)).1
  exact Text.trim_between (fun c member => isBlank_of_isSpace (blank c member))
    (fun c head => solid c (List.mem_of_mem_head? head))
    (fun c last => solid c (List.mem_of_mem_getLast? last))
    fun c member => isBlank_of_isSpace (blankBehind c member)

theorem endsToken_space {c : Char} (space : isSpace c = true) : endsToken c = false := by
  simp only [isSpace, Bool.or_eq_true, beq_iff_eq] at space
  rcases space with ((rfl | rfl) | rfl) | rfl <;> decide

theorem endsToken_bare {c : Char} (bare : Token.isBare c = true) : endsToken c = false := by
  have unmarked := (isBare_solid bare).2.2
  simp only [marks, List.mem_cons, not_or] at unmarked
  simp [endsToken, unmarked]

/-- A bare token and the white space around it are cut off in front of a comma or a brace. -/
theorem takeWhile_bare {gap bare left : Text} (blank : ∀ c ∈ gap, isSpace c = true)
    (plain : (Token.bare bare).Plain) (written : Written behind left)
    (stops : Stops [',', '}'] behind) :
    ∃ more, (∀ c ∈ more, isSpace c = true) ∧
      (gap ++ (bare ++ left)).takeWhile (!endsToken ·) = gap ++ (bare ++ more) := by
  have gapPassed : ∀ c ∈ gap, (!endsToken c) = true := fun c member => by
    rw [endsToken_space (blank c member)]
    rfl
  have barePassed : ∀ c ∈ bare, (!endsToken c) = true := fun c member => by
    rw [endsToken_bare (plain.2 c member)]
    rfl
  have spacePassed : ∀ {more : Text}, (∀ c ∈ more, isSpace c = true) →
      ∀ c ∈ more, (!endsToken c) = true := fun space c member => by
    rw [endsToken_space (space c member)]
    rfl
  rw [List.takeWhile_append_of_pos gapPassed, List.takeWhile_append_of_pos barePassed]
  rcases written.stops stops with space | ⟨more, c, rest, space, closing, rfl⟩
  · refine ⟨left, space, ?_⟩
    have whole : (left ++ []).takeWhile (!endsToken ·) = left ++ [].takeWhile (!endsToken ·) :=
      List.takeWhile_append_of_pos (spacePassed space)
    rw [List.append_nil] at whole
    rw [whole, List.takeWhile_nil, List.append_nil]
  · refine ⟨more, space, ?_⟩
    have stopped : endsToken c = true := by
      simp only [List.mem_cons, List.not_mem_nil, or_false] at closing
      rcases closing with rfl | rfl <;> rfl
    rw [List.takeWhile_append_of_pos (spacePassed space), List.takeWhile_cons, stopped]
    simp

theorem bareValue_bare (found : behindKey? key place = some rest) {bare : Text}
    (plain : (Token.bare bare).Plain) (written : Written (.bare bare :: behind) rest)
    (stops : Stops [',', '}'] behind) : bareValue? key place = some bare := by
  cases written with
  | @token gap left _ _ blank later =>
    obtain ⟨more, blankMore, token⟩ := takeWhile_bare blank plain later stops
    have nonempty : (gap ++ (bare ++ more)).isEmpty = false := by
      simp [plain.1]
    simp only [bareValue?, found, Option.bind_eq_bind, Option.bind_some, Token.text, token]
    rw [nonempty, strip_bare blank plain blankMore]
    rfl

/-! The value of a key, wherever it stands in the document. -/

variable {part : Part} {document : Json part} {text : Text}

theorem value_string (ordinary : document.Ordinary) (written : Written document.tokens text)
    {content : Text} (has : document.Has key (.string content)) : value text key = content := by
  have plain : '"' ∉ content := (ordinary.of_has has).plain (.string content) List.mem_cons_self
  obtain ⟨place, rest, behind, ends, found, later, _⟩ :=
    ordinary_reaches ordinary (onKey_quotedValue key) has written
  unfold value
  rw [ends, quotedValue_string found plain later]

theorem value_bare (ordinary : document.Ordinary) (written : Written document.tokens text)
    {bare : Text} (has : document.Has key (.bare bare)) : value text key = bare := by
  have plain : (Token.bare bare).Plain :=
    (ordinary.of_has has).plain (.bare bare) List.mem_cons_self
  obtain ⟨place, rest, behind, ends, found, later, _⟩ :=
    ordinary_reaches ordinary (onKey_quotedValue key) has written
  -- The two readings are looked up one after the other, each with a place of its own.
  obtain ⟨barePlace, bareRest, bareBehind, bareEnds, bareFound, bareLater, stops⟩ :=
    ordinary_reaches ordinary (onKey_bareValue key) has written
  unfold value
  rw [ends, quotedValue_bare found plain later, bareEnds,
    bareValue_bare bareFound plain bareLater stops]
  rfl

theorem onKey_behindKey (key : Text) : OnKey key (behindKey? key) := fun _ absent => absent

/-- A key is found if and only if the document has it. -/
theorem isPresent_document (word : IsKey key) (plain : ∀ token ∈ document.tokens, token.Plain)
    (written : Written document.tokens text) : isPresent text key = true ↔ key ∈ document.keys := by
  have skips : Skips key (isPresent · key) := fun c rest absent =>
    congrArg Option.isSome ((onKey_behindKey key).skips c rest absent)
  have weighs (value : Json .value) : Weighs key (isPresent · key) (fun _ _ => true) value := by
    intro gap rest behind blank _
    have here := @behindKey_here key gap blank rest
    exact congrArg Option.isSome (Text.leftmost_of_some here)
  have whole := skips.written word plain (fun value _ => weighs value) written
  rw [← List.count_pos_iff, ← length_valuesOf, List.length_pos_iff]
  rw [whole]
  cases document.valuesOf key with
  | nil => exact iff_of_false Bool.false_ne_true (absurd rfl)
  | cons value values => exact iff_of_true rfl (List.cons_ne_nil _ _)

/-! Braces. -/

/-- What is still wanted of a text where so many braces are open. -/
def resume : Nat → Text → Option Text
  | 0, _ => some []
  | depth + 1, rest => balanced? (depth + 1) rest

/-- A head of a text is taken over, and with it the open braces become others. -/
def Copies (depth depthBehind : Nat) (head : Text) : Prop :=
  ∀ rest, resume depth (head ++ rest) = (resume depthBehind rest).map (head ++ ·)

theorem Copies.append {a b c : Nat} {head tail : Text} (first : Copies a b head)
    (second : Copies b c tail) : Copies a c (head ++ tail) := by
  intro rest
  rw [List.append_assoc, first, second, Option.map_map]
  congr 1
  funext copied
  simp

theorem copies_braceless (depth : Nat) {head : Text} (opening : '{' ∉ head) (closing : '}' ∉ head) :
    Copies (depth + 1) (depth + 1) head := by
  intro rest
  induction head with
  | nil => simp
  | cons c head ih =>
    simp only [List.mem_cons, not_or] at opening closing
    have later := ih opening.2 closing.2
    simp only [resume] at later
    simp [resume, balanced?, Ne.symm opening.1, Ne.symm closing.1, later, Function.comp_def]

theorem copies_opening (depth : Nat) : Copies (depth + 1) (depth + 2) ['{'] := by
  intro rest
  simp [resume, balanced?]

theorem copies_closing (depth : Nat) : Copies (depth + 1) depth ['}'] := by
  intro rest
  cases depth <;> simp [resume, balanced?]

theorem copies_gap (depth : Nat) {gap : Text} (blank : ∀ c ∈ gap, isSpace c = true) :
    Copies (depth + 1) (depth + 1) gap := by
  apply copies_braceless
  · intro member
    have space := blank _ member
    revert space
    decide
  · intro member
    have space := blank _ member
    revert space
    decide

/-- The braces that are open behind a part: the members of an object close one. -/
def depthBehind : Part → Nat → Nat
  | .members, depth => depth
  | _, depth => depth + 1

theorem copies_token {depth behind : Nat} {token : Token} {tokens : List Token} {head : Text}
    (first : ∀ depth, Copies (depth + 1) (depth + 1) token.text)
    (later : ∀ {rest}, Tight tokens rest → Copies (depth + 1) behind rest)
    (tight : Tight (token :: tokens) head) : Copies (depth + 1) behind head := by
  cases tight with
  | token blank rest => exact (copies_gap depth blank).append ((first depth).append (later rest))

theorem copies_mark {c : Char} (mark : c ∈ ['[', ']', ':', ',']) (depth : Nat) :
    Copies (depth + 1) (depth + 1) (Token.mark c).text := by
  apply copies_braceless <;> simp only [Token.text, List.mem_singleton] <;> rintro rfl <;>
    revert mark <;> decide

theorem copies_string {content : Text} (braceless : (Token.string content).Braceless)
    (depth : Nat) : Copies (depth + 1) (depth + 1) (Token.string content).text := by
  apply copies_braceless
  · simpa [Token.text] using braceless.1
  · simpa [Token.text] using braceless.2

theorem copies_bare {bare : Text} (plain : (Token.bare bare).Plain) (depth : Nat) :
    Copies (depth + 1) (depth + 1) (Token.bare bare).text := by
  have unmarked (c : Char) (member : c ∈ bare) : c ∉ marks := (isBare_solid (plain.2 c member)).2.2
  apply copies_braceless
  · exact fun member => unmarked _ member (by decide)
  · exact fun member => unmarked _ member (by decide)

theorem copies_comma {depth behind : Nat} (rest : Json part) {head : Text}
    (later : ∀ {left}, Tight rest.tokens left → Copies (depth + 1) behind left)
    (tight : Tight (rest.comma ++ rest.tokens) head) : Copies (depth + 1) behind head := by
  cases rest with
  | string | bare | object | array | noMember | noItem => exact later tight
  | member | item => exact copies_token (copies_mark (by decide)) later tight

theorem copies_document (plain : ∀ token ∈ document.tokens, token.Plain)
    (braceless : ∀ token ∈ document.tokens, token.Braceless) {head : Text}
    (tight : Tight document.tokens head) (depth : Nat) :
    Copies (depth + 1) (depthBehind part depth) head := by
  have done {depth : Nat} {rest : Text} (ended : Tight [] rest) :
      Copies (depth + 1) (depth + 1) rest := by
    cases ended
    exact copies_braceless depth (by simp) (by simp)
  -- The braces that are open behind a part are those before it, less the one that members close.
  induction document generalizing head depth with
  | string content =>
    exact copies_token (copies_string (braceless _ List.mem_cons_self)) done tight
  | bare bare => exact copies_token (copies_bare (plain _ List.mem_cons_self)) done tight
  | object members ih =>
    cases tight with
    | token blank inner =>
      have opened := ih (fun token member => plain token (List.mem_cons_of_mem _ member))
        (fun token member => braceless token (List.mem_cons_of_mem _ member)) inner (depth + 1)
      exact (copies_gap depth blank).append ((copies_opening depth).append opened)
  | array items ih =>
    refine copies_token (copies_mark (by decide)) (fun inner => ?_) tight
    exact ih (fun token member => plain token (List.mem_cons_of_mem _ member))
      (fun token member => braceless token (List.mem_cons_of_mem _ member)) inner depth
  | noMember =>
    cases tight with
    | token blank ended =>
      cases ended
      exact (copies_gap depth blank).append (copies_closing depth)
  | noItem => exact copies_token (copies_mark (by decide)) done tight
  | member key value rest valueIh restIh =>
    simp only [tokens, List.mem_cons, List.mem_append] at plain braceless
    refine copies_token (copies_string (braceless _ (Or.inl rfl))) (fun colon => ?_) tight
    refine copies_token (copies_mark (by decide)) (fun valueTight => ?_) colon
    obtain ⟨front, left, rfl, first, second⟩ := valueTight.split
    refine Copies.append (valueIh (fun token member => plain token (by simp [member]))
      (fun token member => braceless token (by simp [member])) first depth) ?_
    exact copies_comma rest (fun restTight => restIh
      (fun token member => plain token (by simp [member]))
      (fun token member => braceless token (by simp [member])) restTight depth) second
  | item value rest valueIh restIh =>
    simp only [tokens, List.mem_append] at plain braceless
    obtain ⟨front, left, rfl, first, second⟩ := tight.split
    refine Copies.append (valueIh (fun token member => plain token (by simp [member]))
      (fun token member => braceless token (by simp [member])) first depth) ?_
    exact copies_comma rest (fun restTight => restIh
      (fun token member => plain token (by simp [member]))
      (fun token member => braceless token (by simp [member])) restTight depth) second

/-! Nested objects. -/

theorem opening_object (found : behindKey? key place = some rest) {members : Json .members}
    (written : Written ((Json.object members).tokens ++ behind) rest) :
    ∃ inner, Written (members.tokens ++ behind) inner ∧ opening? key place = some ('{' :: inner) := by
  obtain ⟨inner, later, head⟩ := skipBlanks_token written (by decide)
  refine ⟨inner, later, ?_⟩
  simp only [opening?, found, Option.bind_eq_bind, Option.bind_some, head, Token.text,
    List.cons_append, List.nil_append]
  rfl

theorem object_of_has (ordinary : document.Ordinary)
    (braceless : ∀ token ∈ document.tokens, token.Braceless)
    (written : Written document.tokens text) {members : Json .members}
    (has : document.Has key (.object members)) :
    ∃ inner, object? text key = some inner ∧ Written (Json.object members).tokens inner := by
  obtain ⟨place, rest, behind, ends, found, later, _⟩ :=
    ordinary_reaches ordinary (onKey_opening key) has written
  obtain ⟨inner, membersWritten, opened⟩ := opening_object found later
  -- What stands behind the members is of no account: the braces are in balance before it.
  obtain ⟨head, left, rfl, tight, _⟩ := membersWritten.split
  have inside := has.tokens_infix.subset
  have copied := copies_document
    (fun token member => ordinary.plain token (inside (List.mem_cons_of_mem _ member)))
    (fun token member => braceless token (inside (List.mem_cons_of_mem _ member))) tight 0 left
  have cut : balanced? 1 (head ++ left) = some (head ++ []) := copied
  refine ⟨'{' :: head, ?_, ?_⟩
  · simp [object?, ends, opened, balanced?, cut]
  · have blank : ∀ c ∈ ([] : Text), isSpace c = true := by simp
    exact Written.token blank tight.written

/-- What a leaf shows: the content of a string as it is, or a bare token. -/
def Shows (leaf : Json .value) (content : Text) : Prop := leaf = .string content ∨ leaf = .bare content

theorem value_of_has (ordinary : document.Ordinary) (written : Written document.tokens text)
    {leaf : Json .value} (has : document.Has key leaf) {content : Text}
    (shown : Shows leaf content) : value text key = content := by
  rcases shown with rfl | rfl
  · exact value_string ordinary written has
  · exact value_bare ordinary written has

theorem follow_at {members : Json .members} {path : List Text} {leaf : Json .value}
    (ordinary : (Json.object members).Ordinary)
    (braceless : ∀ token ∈ (Json.object members).tokens, token.Braceless)
    (written : Written (Json.object members).tokens text) (reached : At (key :: path) members leaf)
    {content : Text} (shown : Shows leaf content) : follow text key path = content := by
  -- Each key but the last leads into an object, and that is written like the document itself.
  induction path generalizing key members text with
  | nil => exact value_of_has ordinary written (.object (reached.has_last rfl)) shown
  | cons next path ih =>
    obtain ⟨inner, has, deeper⟩ := reached.object_of_cons
    have inside : (Json.object members).Has key (.object inner) := .object has
    obtain ⟨innerText, cut, innerWritten⟩ := object_of_has ordinary braceless written inside
    rw [follow, cut]
    exact ih (ordinary.of_has inside)
      (fun token member => braceless token (inside.tokens_infix.subset member)) innerWritten deeper

theorem dot_not_mem (word : IsKey key) : '.' ∉ key := by
  intro member
  have dotted := word.2 _ member
  have foreign : isKeyCharacter '.' = false := by decide +kernel
  rw [foreign] at dotted
  cases dotted

/-- In an object with distinct keys, however it is written, the path of a leaf leads to what the leaf
shows, and so does its last key alone. -/
theorem nested_of_document (members : Json .members) (ordinary : (Json.object members).Ordinary)
    (braceless : ∀ token ∈ (Json.object members).tokens, token.Braceless) (text : Text)
    (written : Written (Json.object members).tokens text) (path : List Text) (key : Text)
    (leaf : Json .value) (content : Text) (reached : At path members leaf)
    (last : path.getLast? = some key) (shown : Shows leaf content) :
    nested text (List.intercalate ['.'] path) = content ∧ value text key = content := by
  constructor
  · have dotless : ∀ key ∈ path, '.' ∉ key :=
      fun key member => dot_not_mem (ordinary.keys key (reached.mem_keys key member))
    unfold nested
    rw [List.splitOn_intercalate '.' dotless reached.nonempty]
    cases path with
    | nil => cases last
    | cons first path => exact follow_at ordinary braceless written reached shown
  · exact value_of_has ordinary written (.object (reached.has_last last)) shown

/-- The totals of a broker, with white space here and there. -/
theorem nested_of_totals :
    let totals : Json .members :=
      .member "queues" (.bare "3") (.member "node-name" (.string "a, b: c") .noMember)
    let members : Json .members :=
      .member "object_totals" (.object totals) (.member "idle" (.bare "false") .noMember)
    let text : Text :=
      "\x7b\n \"object_totals\" :\x7b \"queues\":\t3 ,\"node-name\":\"a, b: c\"\x7d,\"idle\":false\x7d\n"
    (Json.object members).Ordinary ∧ (∀ token ∈ (Json.object members).tokens, token.Braceless) ∧
      Written (Json.object members).tokens text ∧
      At ["object_totals", "queues"] members (.bare "3") ∧
      Shows (.bare "3") "3" ∧ nested text "object_totals.queues" = "3" ∧
      value text "queues" = "3" := by
  intro totals members text
  have ordinary : (Json.object members).Ordinary := by decide +kernel
  have braceless : ∀ token ∈ (Json.object members).tokens, token.Braceless := by decide
  have written : Written (Json.object members).tokens text := by
    have layout : text = laidOut
        ([[], ['\n', ' '], [' '], [], [' '], [], ['\t'], [' ']] ++ List.replicate 9 [] ++ [['\n']])
        (Json.object members).tokens := by decide
    rw [layout]
    exact laidOut_written (by simp [isSpace]) _
  have reached : At ["object_totals", "queues"] members (.bare "3") := .inside .here
  exact ⟨ordinary, braceless, written, reached, Or.inr rfl,
    nested_of_document members ordinary braceless text written _ "queues" _ _ reached rfl
      (Or.inr rfl)⟩

end ServiceProbe.Field
