import ServiceProbe.Proofs.Arrival
import ServiceProbe.Proofs.Exchange
import ServiceProbe.Proofs.Reply
import ServiceProbe.Proofs.Utf8
import ServiceProbe.Proofs.Words
/-!
A response and its bytes. What a peer writes as status, header lines and body is what a client
receives, if no header line is empty: the first empty line ends the head.
-/
namespace ServiceProbe

namespace Http.Response

/-! Where the head ends. -/

section HeadEnd

variable {mark before behind raw line : Bytes}

/-- No mark that begins with a carriage return stands in bytes without one. -/
theorem FirstAt.skip (returns : mark.head? = some 13) (solid : 13 ∉ line)
    (here : FirstAt mark before behind raw) :
    FirstAt mark (line ++ before) behind (line ++ raw) := by
  induction line with
  | nil => exact here
  | cons byte line ih =>
    simp only [List.mem_cons, not_or] at solid
    refine FirstAt.cons ?_ (ih solid.2)
    rintro ⟨rest, equal⟩
    cases mark with
    | nil => simp at returns
    | cons first mark =>
      simp only [List.head?_cons, Option.some.injEq, List.cons_append, List.cons.injEq] at returns equal
      exact solid.1 (returns.symm.trans equal.1)

/-- A line end does not end the head if the next line has something in it. -/
theorem FirstAt.skip_lineEnd (here : FirstAt headEnd before behind raw)
    (goesOn : raw.head? ≠ some 13) :
    FirstAt headEnd (lineEnd ++ before) behind (lineEnd ++ raw) := by
  refine FirstAt.cons ?_ (FirstAt.cons ?_ here)
  · cases raw with
    | nil => simp [headEnd]
    | cons byte rest =>
      have other : (13 : UInt8) ≠ byte := by simpa [eq_comm] using goesOn
      simp [headEnd, other]
  · simp [headEnd]

theorem lines_begin (line : Bytes) (headers : List Bytes) (body : Bytes) :
    ∃ rest, lineEnd.intercalate (line :: headers) ++ headEnd ++ body = line ++ (lineEnd ++ rest) := by
  cases headers with
  | nil => exact ⟨lineEnd ++ body, by simp [headEnd, lineEnd]⟩
  | cons header headers =>
    exact ⟨lineEnd.intercalate (header :: headers) ++ headEnd ++ body,
      by simp [List.intercalate_cons_cons]⟩

/-- The first empty line stands behind the last of several lines if none of them is empty. The first
line may be. -/
theorem headEnd_first {headers : List Bytes} (solid : ∀ other ∈ line :: headers, 13 ∉ other)
    (some : ∀ header ∈ headers, header ≠ []) (body : Bytes) :
    FirstAt headEnd (lineEnd.intercalate (line :: headers)) body
      (lineEnd.intercalate (line :: headers) ++ headEnd ++ body) := by
  induction headers generalizing line with
  | nil =>
    have here : FirstAt headEnd [] body (headEnd ++ body) := FirstAt.at_head body
    simpa using FirstAt.skip rfl (solid line List.mem_cons_self) here
  | cons header headers ih =>
    have others : ∀ other ∈ header :: headers, 13 ∉ other :=
      fun other member => solid other (List.mem_cons_of_mem _ member)
    have later := ih others fun other member => some other (List.mem_cons_of_mem _ member)
    have goesOn : (lineEnd.intercalate (header :: headers) ++ headEnd ++ body).head? ≠
        Option.some 13 := by
      obtain ⟨rest, begins⟩ := lines_begin header headers body
      obtain ⟨byte, bytes, rfl⟩ := List.exists_cons_of_ne_nil (some header List.mem_cons_self)
      rw [begins]
      rintro ⟨⟩
      exact others _ List.mem_cons_self List.mem_cons_self
    have whole := FirstAt.skip rfl (solid line List.mem_cons_self) (later.skip_lineEnd goesOn)
    simpa [List.intercalate_cons_cons] using whole

end HeadEnd

/-! The status line. -/

/-- A status line as it is sent: the version, the status and a reason of any bytes. -/
def statusBytes (digits : Text) (reason : Bytes) : Bytes :=
  Utf8.encode ("HTTP/1.1 " ++ digits) ++ 32 :: reason

theorem latin_encode {text : Text} (plain : ∀ c ∈ text, c.toNat < 0x80) :
    (Utf8.encode text).map (fun byte => Char.ofNat byte.toNat) = text := by
  induction text with
  | nil => rfl
  | cons c text ih =>
    have first : c.toNat < 0x80 := plain c List.mem_cons_self
    have byte : (UInt8.ofNat c.toNat).toNat = c.toNat := by
      simp
      omega
    have others := ih fun c member => plain c (List.mem_cons_of_mem _ member)
    simp only [Utf8.encode, List.flatMap_cons, Utf8.encodeChar, first, ↓reduceIte,
      List.singleton_append, List.map_cons, byte, Char.ofNat_toNat] at others ⊢
    rw [others]

variable {digits : Text} (any : digits ≠ []) (plain : ∀ c ∈ digits, Text.isPlainDigit c = true)

include any plain

omit any in
theorem ascii_version : ∀ c ∈ ("HTTP/1.1 " : Text) ++ digits, c.toNat < 0x80 := by
  intro c member
  rcases List.mem_append.mp member with version | digit
  · have letters : ∀ c ∈ ("HTTP/1.1 " : Text), c.toNat < 0x80 := by simp
    exact letters c version
  · have size := Text.isPlainDigit_iff.mp (plain c digit)
    omega

omit any in
theorem solid_statusBytes {reason : Bytes} (solid : 13 ∉ reason) :
    13 ∉ statusBytes digits reason := by
  intro member
  rcases List.mem_append.mp member with version | behind
  · have letter : Char.ofNat (13 : UInt8).toNat ∈
        (Utf8.encode ("HTTP/1.1 " ++ digits)).map fun byte => Char.ofNat byte.toNat :=
      List.mem_map_of_mem version
    rw [latin_encode (ascii_version plain)] at letter
    rcases List.mem_append.mp letter with version | digit
    · exact absurd version (by decide)
    · exact absurd (plain _ digit) (by decide)
  · simp only [List.mem_cons, solid, or_false] at behind
    exact absurd behind (by decide)

/-- Blanks behind the status are the only ones that are stripped. -/
theorem lineText_statusBytes (reason : Bytes) : ∃ rest : Text,
    lineText (statusBytes digits reason) = "HTTP/1.1 ".toList ++ digits ++ rest ∧
      ∀ c ∈ rest.head?, Text.isBlank c = true := by
  have last : ∀ c ∈ (("HTTP/1.1 " : Text) ++ digits).getLast?, Text.isBlank c = false := by
    intro c member
    rw [List.getLast?_append, List.getLast?_eq_some_getLast any] at member
    cases member
    exact Text.isBlank_plainDigit (plain _ (List.getLast_mem any))
  have space : Text.isBlank ' ' = true := by decide
  refine ⟨Text.dropEnd Text.isBlank (' ' :: reason.map fun byte => Char.ofNat byte.toNat), ?_, ?_⟩
  · rw [lineText, statusBytes, List.map_append, latin_encode (ascii_version plain), List.map_cons, Text.strip,
      Text.trim]
    have front : ∀ behind : Text, (("HTTP/1.1 " : Text) ++ digits ++ behind).dropWhile Text.isBlank =
        ("HTTP/1.1 " : Text) ++ digits ++ behind := by
      intro behind
      rfl
    rw [front, Text.dropEnd_append last]
    rfl
  · intro c member
    cases Text.dropEnd_begins member
    exact space

theorem announces_statusBytes (short : digits.length ≤ OutOfRange.digitLimit) (reason : Bytes) :
    statusOf (lineText (statusBytes digits reason)) = Nat.ofDigitChars 10 digits 0 := by
  obtain ⟨rest, text, ends⟩ := lineText_statusBytes any plain reason
  have parts : ("HTTP/1.1 " : Text) ++ digits ++ rest = "HTTP/1.1" ++ ' ' :: (digits ++ rest) := by
    simp
  have solid : ∀ c ∈ digits, Text.isBlank c = false :=
    fun c member => Text.isBlank_plainDigit (plain c member)
  have words : Text.words (lineText (statusBytes digits reason)) =
      "HTTP/1.1".toList :: digits :: Text.words rest := by
    rw [text, parts, Text.words_word (by decide) (by simp; decide) (by simp; decide),
      Text.words_cons ' ', if_pos (by decide), Text.words_word any solid ends]
  have begins : Text.after? "HTTP/" (lineText (statusBytes digits reason)) =
      some ("1.1 " ++ digits ++ rest) := by
    rw [text]
    rfl
  rw [statusOf, begins, words]
  simp [Numeral.readInt_plain plain any short]

/-! The response as a whole. -/

/-- A response as it is sent. -/
def written (digits : Text) (reason : Bytes) (headers : List Bytes) (body : Text) : Bytes :=
  lineEnd.intercalate (statusBytes digits reason :: headers) ++ headEnd ++ Utf8.encode body

/-- Reading a response undoes writing it. Carriage returns end lines, so that no line has one. -/
theorem parse_written (short : digits.length ≤ OutOfRange.digitLimit) {reason : Bytes}
    {headers : List Bytes} (solid : ∀ line ∈ reason :: headers, 13 ∉ line)
    (some : ∀ header ∈ headers, header ≠ []) (body : Text) :
    parse (written digits reason headers body) =
      { status := Nat.ofDigitChars 10 digits 0, body, error := none } := by
  have status := solid_statusBytes plain (solid reason List.mem_cons_self)
  have lines : ∀ line ∈ statusBytes digits reason :: headers, 13 ∉ line := by
    intro line member
    rcases List.mem_cons.mp member with rfl | member
    · exact status
    · exact solid line (List.mem_cons_of_mem _ member)
  have whole := headEnd_first lines some (Utf8.encode body)
  obtain ⟨rest, begins⟩ := lines_begin (statusBytes digits reason) headers (Utf8.encode body)
  have first : FirstAt lineEnd (statusBytes digits reason ++ []) rest
      (statusBytes digits reason ++ (lineEnd ++ rest)) :=
    FirstAt.skip rfl status (FirstAt.at_head rest)
  rw [List.append_nil, ← begins] at first
  rw [written, parse_cut whole, statusLine_eq whole first, announces_statusBytes any plain short,
    Utf8.decodeLossy_encode]

end Http.Response

/-! The response over a connection. -/

namespace Http

theorem getAuth_arrives {script : Network.Script} {draft : Draft} {request : Request}
    (built : { draft with username := nonEmpty draft.username }.build = .ok request)
    {chunks : List Bytes}
    (arrives : Network.Arrives script (request.fitFor (.detect script)).wire chunks) :
    (getAuth (.tcp script) draft).outcome = .ok (.parse chunks.flatten) := by
  have received : ((Transport.tcp script).exchange
      (request.fitFor (.detect script)).wire).outcome = .ok chunks.flatten :=
    Network.exchange_arrives arrives
  rw [← send_text] at received
  rw [getAuth, built, Run.ofExcept_ok_bind]
  exact get_ok received

/-- What a client receives is what its peer has written, however the network cuts it, if no header
line is empty. -/
theorem getAuth_receives {script : Network.Script} {draft : Draft} {request : Request}
    (built : { draft with username := nonEmpty draft.username }.build = .ok request)
    {digits : Text} (any : digits ≠ []) (plain : ∀ c ∈ digits, Text.isPlainDigit c = true)
    (short : digits.length ≤ OutOfRange.digitLimit) {reason : Bytes} {headers : List Bytes}
    (solid : ∀ line ∈ reason :: headers, 13 ∉ line) (some : ∀ header ∈ headers, header ≠ [])
    {body : Text} {chunks : List Bytes}
    (cut : chunks.flatten = Response.written digits reason headers body)
    (arrives : Network.Arrives script (request.fitFor (.detect script)).wire chunks) :
    (getAuth (.tcp script) draft).outcome =
      .ok { status := Nat.ofDigitChars 10 digits 0, body, error := none } := by
  rw [getAuth_arrives built arrives, cut, Response.parse_written any plain short solid some]

/-- A network with one address and no delays. -/
def steady (chunks : List Bytes) : Network.Script where
  addresses := [{ family := .inet, host := "192.0.2.1", port := 80 }]
  deliveries := chunks.map fun bytes => { content := .ok bytes }

def steadyRequest : Request := { host := "h", port := 80, timeout := .ofRatio false 10 1 }

theorem twoHundred_plain : ∀ c ∈ "200".toList, Text.isPlainDigit c = true :=
  List.all_eq_true.mp (by decide)

theorem steady_arrives {chunks : List Bytes} (some : [] ∉ chunks)
    (short : ∀ bytes ∈ chunks, bytes.length ≤ Network.receiveSize) :
    Network.Arrives (steady chunks) steadyRequest.wire chunks := by
  have whole : ∀ delivery ∈ (steady chunks).deliveries, delivery.portions = [delivery] := by
    intro delivery member
    obtain ⟨bytes, here, rfl⟩ := List.mem_map.mp member
    exact Network.portions_short (short bytes here) _
  have portions : (steady chunks).deliveries.flatMap Network.Delivery.portions =
      (steady chunks).deliveries := by
    rw [List.flatMap_congr whole, List.flatMap_singleton']
  have left : Network.TimeLeft .noting (.real steadyRequest.timeout) (.int 0) :=
    ⟨.real steadyRequest.timeout, steadyRequest.timeout, by decide +kernel, by decide +kernel, rfl⟩
  -- Up to the request nothing depends on what is sent back.
  have reached : (Network.asked (steady []) steadyRequest.wire).outcome.isOk = true := by
    decide +kernel
  have clock : (Network.asked (steady []) steadyRequest.wire).clock = .int 0 := by decide +kernel
  have start : (Network.asked (steady chunks) steadyRequest.wire).clock = .int 0 := clock
  refine ⟨reached, ?_, .real steadyRequest.timeout, ?_, ?_⟩
  · simpa [steady] using Network.sends_pieces .ended some
  · rw [start]
    decide +kernel
  · rw [portions, start]
    refine Network.inTime_of_still left ?_
    intro delivery member
    obtain ⟨bytes, _, rfl⟩ := List.mem_map.mp member
    rfl

theorem getAuth_receives_in_three_chunks :
    let draft : Draft := { host := .value "h", port := .value (.int 80) }
    let raw := Response.written "200" (Utf8.encode "OK") [Utf8.encode "A: b"] "é"
    let chunks := [raw.take 23, (raw.drop 23).take 3, raw.drop 26]
    { draft with username := nonEmpty draft.username }.build = .ok steadyRequest ∧
      Network.Arrives (steady chunks) steadyRequest.wire chunks ∧ chunks.flatten = raw ∧
      (getAuth (.tcp (steady chunks)) draft).outcome =
        .ok { status := 200, body := "é", error := none } := by
  intro draft raw chunks
  have cut : chunks.flatten = raw := by decide
  have built : { draft with username := nonEmpty draft.username }.build = .ok steadyRequest := rfl
  have arrives : Network.Arrives (steady chunks) steadyRequest.wire chunks :=
    steady_arrives (by decide) (by decide)
  exact ⟨built, arrives, cut, getAuth_receives built (by decide) twoHundred_plain (by decide)
    (by decide) (by decide) cut arrives⟩

/-- An empty header line ends the head, and what follows it is taken for the body. -/
theorem getAuth_receives_empty_line_as_body :
    let draft : Draft :=
      { host := .value "h", port := .value (.int 80), path := .value "/", tls := .value false
        timeout := .value (.real (.ofRatio false 10 1)) }
    let raw := Response.written "200" (Utf8.encode "OK") [[]] "x"
    { draft with username := nonEmpty draft.username }.build = .ok steadyRequest ∧
      Network.Arrives (steady [raw]) steadyRequest.wire [raw] ∧
      (getAuth (.tcp (steady [raw])) draft).outcome ≠
        .ok { status := 200, body := "x", error := none } := by
  intro draft raw
  have built : { draft with username := nonEmpty draft.username }.build = .ok steadyRequest := rfl
  have arrives : Network.Arrives (steady [raw]) steadyRequest.wire [raw] :=
    steady_arrives (by decide) (by decide)
  refine ⟨built, arrives, ?_⟩
  -- The same bytes are a response without header lines.
  have other : [raw].flatten = Response.written "200" (Utf8.encode "OK") [] "\r\nx" := by
    decide
  rw [getAuth_arrives built arrives, other,
    Response.parse_written (by decide) twoHundred_plain (by decide) (by decide) (by decide)]
  decide

end Http
end ServiceProbe
