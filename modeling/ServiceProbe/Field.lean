import ServiceProbe.Number.Numeral
/-!
Best-effort look-up of one field in JSON-like text. The text is not parsed: services answer with
truncated documents and with plain text, and the one value asked for may still be there. Of the places
where a key occurs the first one with a value in quotes decides, or the first one with a bare value if
there is none. Absence is never an error.
-/
namespace ServiceProbe.Field

/-- What follows a quoted key, white space and a colon. -/
def behindKey? (key text : Text) : Option Text := do
  let text ← Text.after? ('"' :: key ++ ['"']) text
  Text.after? [':'] (Text.skipBlanks text)

/-- The content of a quoted value, if its closing quote is there. -/
def quotedValue? (key text : Text) : Option Text := do
  let text ← Text.after? ['"'] (Text.skipBlanks (← behindKey? key text))
  if text.contains '"' then some (text.takeWhile (· != '"')) else none

def endsToken (c : Char) : Bool := c == ',' || c == '}'

/-- The characters up to the next comma or closing brace, if there are any. -/
def bareValue? (key text : Text) : Option Text := do
  let token := (← behindKey? key text).takeWhile (!endsToken ·)
  if token.isEmpty then none else some (Text.strip token)

/-- A quoted value is preferred to a bare one, wherever they stand. -/
def value (body key : Text) : Text :=
  match body.leftmost? (quotedValue? key) with
  | some text => text
  | none => (body.leftmost? (bareValue? key)).getD []

def isPresent (body key : Text) : Bool := (body.leftmost? (behindKey? key)).isSome

/-- The shortest head of a text with as many closing as opening braces, where `depth` more were
opened before. -/
def balanced? : (depth : Nat) → Text → Option Text
  | _, [] => none
  | depth, c :: rest =>
    if c = '{' then (balanced? (depth + 1) rest).map (c :: ·)
    else if c = '}' then
      if depth ≤ 1 then some [c] else (balanced? (depth - 1) rest).map (c :: ·)
    else (balanced? depth rest).map (c :: ·)

/-- The text from an opening brace behind a key. -/
def opening? (key text : Text) : Option Text := do
  let text := Text.skipBlanks (← behindKey? key text)
  if text.head? = some '{' then some text else none

/-- The object of a key, if it is closed. -/
def object? (body key : Text) : Option Text := do balanced? 0 (← body.leftmost? (opening? key))

/-- Follows keys into nested objects. -/
def follow (body : Text) : (key : Text) → (rest : List Text) → Text
  | key, [] => value body key
  | key, next :: rest =>
    match object? body key with
    | some inner => follow inner next rest
    | none => []

/-- The value at a path of keys with dots between them. -/
def nested (body path : Text) : Text :=
  match path.splitOn '.' with
  | [] => []
  | key :: rest => follow body key rest

/-- The numeral at the head of a value. A missing one counts as zero. -/
def number (body key : Text) : Double :=
  ((Numeral.head? (value body key)).bind Numeral.readDouble?).getD (Double.zero false)

def isTrue (body key : Text) : Bool :=
  let word := Numeral.plainLower (value body key)
  word == "true" || word == "1"

end ServiceProbe.Field
