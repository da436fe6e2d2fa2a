import ServiceProbe.Proofs.Admission
import ServiceProbe.Proofs.Base64
import ServiceProbe.Proofs.Digits
import ServiceProbe.Proofs.Search
import ServiceProbe.Proofs.Spoken
import ServiceProbe.Proofs.Utf8
/-!
The written head of a request. If a request is written at all, its head has the lines that it should have
and no others, and two requests that are written alike ask for the same.
-/
namespace ServiceProbe.Http

/-- The lines of some bytes, parted at each line end. -/
def linesOf : Bytes → List Bytes
  | [] => [[]]
  | [byte] => [[byte]]
  | first :: second :: rest =>
    if first = 13 ∧ second = 10 then [] :: linesOf rest
    else (linesOf (second :: rest)).modifyHead (first :: ·)

theorem linesOf_cons {byte : UInt8} (other : byte ≠ 13) (rest : Bytes) :
    linesOf (byte :: rest) = (linesOf rest).modifyHead (byte :: ·) := by
  cases rest with
  | nil => rfl
  | cons second rest => simp [linesOf, other]

theorem linesOf_line {line : Bytes} (solid : 13 ∉ line) (rest : Bytes) :
    linesOf (line ++ 13 :: 10 :: rest) = line :: linesOf rest := by
  induction line with
  | nil => simp [linesOf]
  | cons byte line ih =>
    simp only [List.mem_cons, not_or] at solid
    rw [List.cons_append, linesOf_cons (Ne.symm solid.1), ih solid.2, List.modifyHead_cons]

theorem linesOf_encode {lines : List Text} (solid : ∀ line ∈ lines, '\r' ∉ line) (rest : Text) :
    linesOf (Utf8.encode (lines.flatMap (· ++ Request.lineEnd) ++ rest)) =
      lines.map Utf8.encode ++ linesOf (Utf8.encode rest) := by
  induction lines with
  | nil => rfl
  | cons line lines ih =>
    have whole : 13 ∉ Utf8.encode line := fun member =>
      solid line List.mem_cons_self (Utf8.mem_encode_of_plain (by decide) member)
    have lineEnd : Utf8.encode Request.lineEnd = [13, 10] := rfl
    have later := ih fun other member => solid other (List.mem_cons_of_mem _ member)
    simp only [List.flatMap_cons, Utf8.encode_append, List.append_assoc, lineEnd] at later ⊢
    rw [List.cons_append, List.cons_append, List.nil_append, linesOf_line whole, later,
      List.map_cons, List.cons_append]

theorem intercalate_lineEnd (line : Text) (lines : List Text) :
    List.intercalate Request.lineEnd (line :: lines) ++ Request.lineEnd =
      (line :: lines).flatMap (· ++ Request.lineEnd) := by
  induction lines generalizing line with
  | nil => simp
  | cons next lines ih =>
    rw [List.intercalate_cons_cons, List.append_assoc, ih next, List.flatMap_cons]
    simp

namespace Request

theorem authorizationLine_injective {credentials others : Text}
    (same : authorizationLine credentials = authorizationLine others) : credentials = others :=
  Utf8.encode_injective (Base64.encode_injective (List.append_cancel_left same))

/-! A host and a port are read off the line that names them. -/

def bracketed (host : Text) : Text :=
  if host.contains ':' then '[' :: host ++ [']'] else host

theorem hostHeader_eq (request : Request) :
    request.hostHeader =
      if request.port = defaultPort request.tls then bracketed request.host
      else bracketed request.host ++ ':' :: Text.ofInt request.port := rfl

theorem bracketed_injective {host other : Text} (same : bracketed host = bracketed other) :
    host = other := by
  have lone {some : Text} (plain : ':' ∉ some) {wrapped : Text} (inside : ':' ∈ wrapped) :
      '[' :: wrapped ++ [']'] ≠ some := by
    rintro rfl
    simp [inside] at plain
  simp only [bracketed, List.contains_iff_mem] at same
  split at same
  · next colon =>
    split at same
    · exact List.append_cancel_right (List.cons.inj same).2
    · next plain => exact absurd same (lone plain colon)
  · next plain =>
    split at same
    · next colon => exact absurd same.symm (lone plain colon)
    · exact same

theorem bracketed_last {host : Text} (colon : ':' ∈ bracketed host) :
    ∃ inner, bracketed host = inner ++ [']'] := by
  rw [bracketed] at colon ⊢
  split at colon
  · next inside =>
    rw [if_pos inside]
    exact ⟨'[' :: host, rfl⟩
  · next outside =>
    rw [List.contains_iff_mem] at outside
    exact absurd colon outside

/-- No name in brackets ends in a port. -/
theorem bracketed_ne_port (host front : Text) (port : Int) :
    bracketed host ≠ front ++ ':' :: Text.ofInt port := by
  intro same
  have colon : ':' ∈ bracketed host := by simp [same]
  obtain ⟨inner, closed⟩ := bracketed_last colon
  have digits := Text.ofInt_ne_nil port
  have last : Text.ofInt port = (Text.ofInt port).dropLast ++ [(Text.ofInt port).getLast digits] :=
    (List.dropLast_append_getLast digits).symm
  rw [closed, last, ← List.cons_append, ← List.append_assoc] at same
  have bracket := (List.append_inj' same rfl).2
  have member := List.getLast_mem digits
  rw [← List.singleton_inj.mp bracket] at member
  exact Text.not_mem_ofInt (by decide) (by decide) port member

/-- Two texts that part at their last mark. -/
theorem parted_at_last {mark : Char} {front other back behind : Text} (free : mark ∉ back)
    (clear : mark ∉ behind) (same : front ++ mark :: back = other ++ mark :: behind) :
    front = other ∧ back = behind := by
  have reversed := congrArg List.reverse same
  simp only [List.reverse_append, List.reverse_cons, List.append_assoc, List.singleton_append]
    at reversed
  have parts := congrArg (Text.cut mark) reversed
  rw [Text.cut_append (by simpa using free), Text.cut_append (by simpa using clear)] at parts
  simpa [and_comm] using parts

theorem hostHeader_injective {request other : Request} (tls : request.tls = other.tls)
    (same : request.hostHeader = other.hostHeader) :
    request.host = other.host ∧ request.port = other.port := by
  rw [hostHeader_eq, hostHeader_eq, ← tls] at same
  by_cases usual : request.port = defaultPort request.tls
  · by_cases usual' : other.port = defaultPort request.tls
    · rw [if_pos usual, if_pos usual'] at same
      exact ⟨bracketed_injective same, usual.trans usual'.symm⟩
    · rw [if_pos usual, if_neg usual'] at same
      exact absurd same (bracketed_ne_port _ _ _)
  · by_cases usual' : other.port = defaultPort request.tls
    · rw [if_neg usual, if_pos usual'] at same
      exact absurd same.symm (bracketed_ne_port _ _ _)
    · rw [if_neg usual, if_neg usual'] at same
      have plain (port : Int) : ':' ∉ Text.ofInt port :=
        Text.not_mem_ofInt (by decide) (by decide) port
      obtain ⟨hosts, ports⟩ := parted_at_last (plain _) (plain _) same
      exact ⟨bracketed_injective hosts, Text.ofInt_injective ports⟩

/-! The lines of a request. -/

def requestLine (request : Request) : Text := "GET " ++ request.path ++ " HTTP/1.1"

def fieldLines (request : Request) : List Text :=
  ["Host: " ++ request.hostHeader, "Connection: close", "User-Agent: " ++ userAgent,
    "Accept: application/json, text/plain, */*"]
    ++ (request.credentials?.map authorizationLine).toList

theorem lines_eq (request : Request) : request.lines = request.requestLine :: request.fieldLines := by
  rw [fieldLines, ← authorization_eq]
  rfl

theorem linesOf_render {request : Request} (solid : ∀ line ∈ request.lines, '\r' ∉ line) :
    linesOf request.render = request.lines.map Utf8.encode ++ [[], []] := by
  have parted := linesOf_encode solid lineEnd
  rw [render]
  rw [lines_eq] at parted ⊢
  rw [intercalate_lineEnd, parted]
  rfl

theorem return_not_mem_bracketed {host : Text} (solid : '\r' ∉ host) : '\r' ∉ bracketed host := by
  rw [bracketed]
  split
  · simp [solid]
  · exact solid

theorem return_not_mem_hostHeader {request : Request} (solid : '\r' ∉ request.host) :
    '\r' ∉ request.hostHeader := by
  have host := return_not_mem_bracketed solid
  have port : '\r' ∉ Text.ofInt request.port := Text.not_mem_ofInt (by decide) (by decide) _
  rw [hostHeader_eq]
  split
  · exact host
  · simp [host, port]

theorem return_not_mem_authorizationLine (credentials : Text) :
    '\r' ∉ authorizationLine credentials := by
  have digits : ∀ n < 64, '\r' ≠ Base64.digit n := by decide
  unfold authorizationLine
  rw [List.mem_append, not_or]
  constructor
  · simp
  · intro member
    rcases Base64.mem_encode member with padding | ⟨n, small, digit⟩
    · exact absurd padding (by decide)
    · exact digits n small digit

/-- What a request is written of neither breaks a line nor parts the path. -/
structure Solid (request : Request) : Prop where
  host : '\r' ∉ request.host
  path : '\r' ∉ request.path
  word : ' ' ∉ request.path

theorem Tells.solid {α : Type} [Letter α] [DecidableEq α] {request : Request α} {plain : Request}
    (tells : request.Tells plain) (sound : request.Sound) : plain.Solid := by
  have path (c : Char) (free : Letter.ofChar c ∉ request.path) : c ∉ plain.path := by
    rw [tells.path] at free
    exact fun member => free (List.mem_map_of_mem member)
  have host := sound.host
  have unbroken := sound.path
  simp only [Draft.holdsLineBreak, Bool.or_eq_false_iff, List.contains_eq_mem, decide_eq_false_iff_not]
    at host unbroken
  constructor
  case host => exact tells.host ▸ host.1
  case path => exact path '\r' unbroken.1
  case word => exact path ' ' sound.word

theorem Tells.refl (request : Request) : request.Tells request := by
  constructor
  case credentials => cases request.credentials? <;> simp
  case path => simp
  all_goals rfl

theorem Sound.solid {request : Request} (sound : request.Sound) : request.Solid :=
  (Tells.refl request).solid sound

/-- No line of a solid request holds a line break. -/
theorem lines_solid {request : Request} (solid : request.Solid) :
    ∀ line ∈ request.lines, '\r' ∉ line := by
  have header := return_not_mem_hostHeader solid.host
  intro line member
  rw [lines_eq, fieldLines] at member
  simp only [List.mem_cons, List.cons_append, List.nil_append, Option.mem_toList,
    Option.map_eq_some_iff] at member
  rcases member with rfl | rfl | rfl | rfl | rfl | ⟨credentials, _, rfl⟩
  · simp [requestLine, solid.path]
  · simp [header]
  · simp
  · unfold userAgent
    simp
  · simp
  · exact return_not_mem_authorizationLine credentials

/-- The first line is a method, the path and a version. -/
theorem words_requestLine {request : Request} (solid : request.Solid) :
    (Utf8.encode request.requestLine).splitOn 0x20 =
      [Utf8.encode "GET", Utf8.encode request.path, Utf8.encode "HTTP/1.1"] := by
  have blankless : 0x20 ∉ Utf8.encode request.path :=
    fun member => solid.word (Utf8.mem_encode_of_plain (by decide) member)
  have joined : Utf8.encode request.requestLine =
      List.intercalate [0x20]
        [Utf8.encode "GET", Utf8.encode request.path, Utf8.encode "HTTP/1.1"] := by
    have method : ("GET " : Text) = "GET" ++ [' '] := by simp
    have version : (" HTTP/1.1" : Text) = [' '] ++ "HTTP/1.1" := by simp
    have blank : Utf8.encode [' '] = [0x20] := rfl
    simp only [requestLine, method, version, Utf8.encode_append, blank, List.append_assoc,
      List.intercalate_cons_cons, List.intercalate_singleton]
  rw [joined]
  apply List.splitOn_intercalate
  · intro word member
    simp only [List.mem_cons, List.not_mem_nil, or_false] at member
    rcases member with rfl | rfl | rfl
    · decide
    · exact blankless
    · decide
  · simp

theorem credentials_eq_none {α : Type} [Letter α] {request : Request α} :
    request.credentials? = none ↔ request.username.getD [] = [] := by
  rw [credentials?]
  cases request.username with
  | none => exact iff_of_true rfl rfl
  | some username =>
    cases username with
    | nil => exact iff_of_true rfl rfl
    | cons _ _ => simp

theorem length_fieldLines (request : Request) :
    request.fieldLines.length = if request.credentials? = none then 4 else 5 := by
  rw [fieldLines]
  cases request.credentials? <;> rfl

theorem line_ne_nil {request : Request} {line : Text} (member : line ∈ request.lines) :
    line ≠ [] := by
  rw [lines_eq, fieldLines] at member
  simp only [List.mem_cons, List.cons_append, List.nil_append, Option.mem_toList,
    Option.map_eq_some_iff] at member
  rcases member with rfl | rfl | rfl | rfl | rfl | ⟨credentials, _, rfl⟩
  · simp [requestLine]
  · simp
  · simp
  · simp
  · simp
  · unfold authorizationLine
    simp

theorem encode_ne_nil {text : Text} (some : text ≠ []) : Utf8.encode text ≠ [] := by
  intro void
  exact some (Utf8.encode_injective void)

/-- The lines of a written request, and the words of the first one. -/
theorem render_lines {request : Request} (solid : request.Solid) :
    ∃ first lines, linesOf request.render = first :: lines ++ [[], []] ∧
      (first :: lines).length = (if request.credentials? = none then 5 else 6) ∧
      (∀ line ∈ first :: lines, line ≠ []) ∧
      first.splitOn 0x20 =
        [Utf8.encode "GET", Utf8.encode request.path, Utf8.encode "HTTP/1.1"] := by
  refine ⟨Utf8.encode request.requestLine, request.fieldLines.map Utf8.encode, ?_, ?_, ?_,
    words_requestLine solid⟩
  · rw [linesOf_render (lines_solid solid), lines_eq, List.map_cons]
  · rw [List.length_cons, List.length_map, length_fieldLines]
    split <;> rfl
  · intro line member
    rw [← List.map_cons, ← lines_eq] at member
    obtain ⟨text, written, rfl⟩ := List.mem_map.mp member
    exact encode_ne_nil (line_ne_nil written)

theorem lines_eq_of_render_eq {request other : Request} (solid : request.Solid)
    (solid' : other.Solid) (same : request.render = other.render) : request.lines = other.lines := by
  have parted := congrArg linesOf same
  rw [linesOf_render (lines_solid solid), linesOf_render (lines_solid solid')] at parted
  exact List.map_injective_iff.mpr (fun _ _ => Utf8.encode_injective) (List.append_cancel_right parted)

/-- What is written tells what is asked for, and on whose behalf. -/
theorem render_tells {request other : Request} (solid : request.Solid) (solid' : other.Solid)
    (tls : request.tls = other.tls) (same : request.render = other.render) :
    request.host = other.host ∧ request.port = other.port ∧ request.path = other.path ∧
      request.credentials? = other.credentials? := by
  have lines := lines_eq_of_render_eq solid solid' same
  rw [lines_eq, lines_eq, requestLine, requestLine, fieldLines, fieldLines] at lines
  simp only [List.cons_append, List.nil_append, List.cons.injEq, true_and] at lines
  obtain ⟨first, second, last⟩ := lines
  obtain ⟨host, port⟩ := hostHeader_injective tls (List.append_cancel_left second)
  have path := List.append_cancel_left (List.append_cancel_right first)
  have tails := congrArg List.head? last
  simp only [Option.head?_toList] at tails
  have credentials := Option.map_injective (fun _ _ => authorizationLine_injective) tails
  exact ⟨host, port, path, credentials⟩

end Request

/-- A request that was built is written if and only if no surrogate stands in what is written of it. None of
its fields adds a line or a word then, and whoever reads what is written knows what was asked for. Only the
place of the colon between a name and a password is lost. -/
theorem render_says_what_is_asked {draft other : Draft CodePoint} {request asked : Request CodePoint}
    (built : draft.build = .ok request) (builtOther : other.build = .ok asked) :
    (request.Writable → ∃ payload, request.payload = .ok payload) ∧
    (¬ request.Writable → ∃ failure, request.payload = .error (.unencodable failure)) ∧
    ∀ payload, request.payload = .ok payload →
      (∃ path first lines, request.path = path.map CodePoint.char ∧
        linesOf payload = first :: lines ++ [[], []] ∧
        (first :: lines).length = (if request.username.getD [] = [] then 5 else 6) ∧
        (∀ line ∈ first :: lines, line ≠ []) ∧
        first.splitOn 0x20 = [Utf8.encode "GET", Utf8.encode path, Utf8.encode "HTTP/1.1"]) ∧
      (request.tls = asked.tls → asked.payload = .ok payload →
        request.host = asked.host ∧ request.port = asked.port ∧ request.path = asked.path ∧
          request.credentials? = asked.credentials?) := by
  have sound := Draft.sound_of_build built
  have soundOther := Draft.sound_of_build builtOther
  refine ⟨Request.payload_succeeds.mpr, ?unwritten, ?written⟩
  case unwritten =>
    intro unwritable
    cases written : request.payload with
    | ok payload => exact absurd (Request.payload_succeeds.mp ⟨payload, written⟩) unwritable
    | error fault =>
      obtain ⟨failure, rfl⟩ := Request.payload_error written
      exact ⟨failure, rfl⟩
  case written =>
    intro payload written
    -- What was written is a request of characters, for which everything has been shown.
    obtain ⟨plain, tells, rfl⟩ := Request.payload_ok written
    constructor
    · obtain ⟨first, lines, parted, count, some, words⟩ := Request.render_lines (tells.solid sound)
      refine ⟨plain.path, first, lines, tells.path, parted, ?_, some, words⟩
      have nobody : plain.credentials? = none ↔ request.username.getD [] = [] := by
        rw [← Request.credentials_eq_none, tells.credentials, Option.map_eq_none_iff]
      rw [count, if_congr nobody rfl rfl]
    · intro tls writtenOther
      obtain ⟨plainOther, tellsOther, same⟩ := Request.payload_ok writtenOther
      have sameTls : plain.tls = plainOther.tls := by rw [tells.tls, tellsOther.tls, tls]
      obtain ⟨host, port, path, credentials⟩ := Request.render_tells (tells.solid sound)
        (tellsOther.solid soundOther) sameTls same.symm
      rw [tells.host, tellsOther.host] at host
      rw [tells.port, tellsOther.port] at port
      exact ⟨host, port, by rw [tells.path, tellsOther.path, path],
        by rw [tells.credentials, tellsOther.credentials, credentials]⟩

def userDraft (username password : Text) : Draft CodePoint where
  host := .value ("::1".toList.map .char)
  port := .value (.int 8080)
  username := some (username.map .char)
  password := some (password.map .char)

def userRequest (username password : Text) : Request CodePoint where
  host := "::1"
  port := 8080
  timeout := .ofRatio false 10 1
  username := some (username.map .char)
  password := some (password.map .char)

/-- A colon at the end of a name and a colon at the head of a password are written alike. -/
theorem render_tells_colons_of_user :
    let request := userRequest "a:b" "c"
    let asked := userRequest "a" "b:c"
    (userDraft "a:b" "c").build = .ok request ∧ (userDraft "a" "b:c").build = .ok asked ∧
      request ≠ asked ∧ request.Writable ∧
      ∃ payload, request.payload = .ok payload ∧ asked.payload = .ok payload ∧
        (∃ path first lines, request.path = path.map CodePoint.char ∧
          linesOf payload = first :: lines ++ [[], []] ∧ (first :: lines).length = 6 ∧
          first.splitOn 0x20 = [Utf8.encode "GET", Utf8.encode path, Utf8.encode "HTTP/1.1"]) ∧
        request.credentials? = asked.credentials? := by
  intro request asked
  have built : (userDraft "a:b" "c").build = .ok request := rfl
  have builtOther : (userDraft "a" "b:c").build = .ok asked := rfl
  have writable : request.Writable := by
    refine ⟨by decide, ?_⟩
    rintro _ ⟨⟩
    decide
  obtain ⟨writes, _, head⟩ := render_says_what_is_asked built builtOther
  obtain ⟨payload, written⟩ := writes writable
  have same : request.payload = asked.payload := rfl
  obtain ⟨⟨path, first, lines, spelled, parted, count, _, words⟩, tells⟩ := head payload written
  exact ⟨built, builtOther, by decide, writable, payload, written, same ▸ written,
    ⟨path, first, lines, spelled, parted, count, words⟩, (tells rfl (same ▸ written)).2.2.2⟩

/-- Nothing is wrong with the fields of a request whose path holds a surrogate, and there is nothing to
write for it. -/
theorem payload_of_surrogate :
    let path : List CodePoint := [.char '/', .surrogate 0x4ff]
    let draft : Draft CodePoint :=
      { host := .value [.char 'h'], port := .value (.int 80), path := .value path }
    ∃ request, draft.build = .ok request ∧ request.path = path ∧
      request.payload = .error (.unencodable { position := 5, first := 0x4ff, count := 1 }) :=
  ⟨{ host := "h", port := 80, path := [.char '/', .surrogate 0x4ff], timeout := .ofRatio false 10 1 },
    rfl, rfl, rfl⟩

end ServiceProbe.Http
