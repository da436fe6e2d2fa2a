import ServiceProbe.CommandLine.Basic
import ServiceProbe.Text.Digit
/-!
Reading a command line: first every word is classified, then options take their values, in order.
Long options may be shortened as long as it is clear which is meant, short ones may be joined, and
a value may be attached with an equals sign or, to a short option, directly.
-/
namespace ServiceProbe.CommandLine

variable {σ : Type}

/-- What a word of a command line is. A value may be attached to an option, with an equals sign or,
to a short one, without. -/
inductive Word (σ : Type) where
  | plain
  | option (opt : Opt σ) (short : Bool) (attached : Option Text)
  /-- Looks like an option and is none. -/
  | unknown

def findNamed? (opts : List (Opt σ)) (name : Text) : Option (Opt σ) :=
  opts.find? (·.names.contains name)

/-- All names with their options, in the order in which they are offered. -/
def namesOf (opts : List (Opt σ)) : List (Text × Opt σ) :=
  opts.flatMap fun opt => opt.names.map (·, opt)

/-- A short option has a name of one hyphen and one character. -/
def isShortName (name : Text) : Bool := (name.drop 1).head? != some '-'

def allDigits (text : Text) : Bool := !text.isEmpty && text.all Text.isDigit

/-- A hyphen with digits, or with digits around a point of which the first ones may be missing. A
line feed at the end does not count. -/
def looksNegative (word : Text) : Bool :=
  match word with
  | '-' :: body =>
    let body := if body.getLast? = some '\n' then body.dropLast else body
    allDigits body ||
      match Text.cut '.' body with
      | (whole, some fraction) => whole.all Text.isDigit && allDigits fraction
      | (_, none) => false
  | _ => false

/-- The options that a long word may be short for. -/
def longCandidates (opts : List (Opt σ)) (stem : Text) : List (Text × Opt σ) :=
  (namesOf opts).filter (stem.isPrefixOf ·.1)

/-- A word that names no option exactly. -/
def classifyInexact (opts : List (Opt σ)) (word : Text) : Except UsageError (Word σ) :=
  let otherwise : Word σ := if looksNegative word || word.contains ' ' then .plain else .unknown
  if isShortName word then
    match findNamed? opts (word.take 2) with
    | some opt => .ok (.option opt true (some (word.drop 2)))
    | none => .ok otherwise
  else
    let (stem, value) := Text.cut '=' word
    match longCandidates opts stem with
    | [] => .ok otherwise
    | [(_, opt)] => .ok (.option opt false value)
    | candidates => .error (.ambiguous word (candidates.map (·.1)))

def classify (opts : List (Opt σ)) (word : Text) : Except UsageError (Word σ) :=
  if word.head? != some '-' then .ok .plain
  else
    match findNamed? opts word with
    | some opt => .ok (.option opt (isShortName word) none)
    | none =>
      if word.length = 1 then .ok .plain
      else
        match Text.cut '=' word with
        | (name, some value) =>
          match findNamed? opts name with
          | some opt => .ok (.option opt (isShortName name) (some value))
          | none => classifyInexact opts word
        | (_, none) => classifyInexact opts word

/-- Two hyphens end the options. They are a word that no option takes as its value. -/
def classifyAll (opts : List (Opt σ)) : List Text → Except UsageError (List (Text × Word σ))
  | [] => .ok []
  | word :: rest =>
    if word = endMark then .ok ((word, .unknown) :: rest.map (·, .plain))
    else do
      let kind ← classify opts word
      let kinds ← classifyAll opts rest
      return (word, kind) :: kinds

/-- How a word with options ends. -/
inductive Tail (σ : Type) where
  | done
  | value (opt : Opt σ) (text : Text)
  /-- The value is the next word. -/
  | awaiting (opt : Opt σ)

/-- The options of one word: those that take nothing, and how the word ends. -/
structure Expansion (σ : Type) where
  flags : List (Opt σ)
  tail : Tail σ

def Expansion.after (expansion : Expansion σ) (opt : Opt σ) : Expansion σ :=
  { expansion with flags := opt :: expansion.flags }

def alone (opt : Opt σ) : Expansion σ :=
  if opt.takesValue then ⟨[], .awaiting opt⟩ else ⟨[opt], .done⟩

/-- Short options joined behind one that takes nothing. -/
def expandJoined (opts : List (Opt σ)) (opt : Opt σ) : Text → Except UsageError (Expansion σ)
  | [] => .error (.ignoredValue opt.display [])
  | c :: rest =>
    match findNamed? opts ['-', c], rest with
    | none, _ => .error (.ignoredValue opt.display (c :: rest))
    | some next, [] => .ok ((alone next).after opt)
    | some next, d :: others =>
      if next.takesValue then .ok ⟨[opt], .value next (d :: others)⟩
      else (expandJoined opts next (d :: others)).map (·.after opt)

def expand (opts : List (Opt σ)) (opt : Opt σ) (short : Bool) (attached : Option Text) :
    Except UsageError (Expansion σ) :=
  match attached with
  | none => .ok (alone opt)
  | some text =>
    if opt.takesValue then .ok ⟨[], .value opt text⟩
    else if short then expandJoined opts opt text
    else .error (.ignoredValue opt.display text)

structure Progress (σ : Type) where
  settings : List σ := []
  seen : List Text := []
  /-- The exclusive option that was given. -/
  chosen : Option Text := none
  extras : List Text := []

namespace Progress

def leave (progress : Progress σ) (word : Text) : Progress σ :=
  { progress with extras := progress.extras ++ [word] }

def see (progress : Progress σ) (opt : Opt σ) (setting : σ) : Progress σ :=
  { progress with
    settings := progress.settings ++ [setting]
    seen := progress.seen ++ [opt.display]
    chosen := if opt.exclusive then some opt.display else progress.chosen }

/-- Another exclusive option that was given before. -/
def rival? (progress : Progress σ) (opt : Opt σ) : Option Text :=
  if opt.exclusive then progress.chosen.filter (· != opt.display) else none

def flag (progress : Progress σ) (opt : Opt σ) : Except Stop (Progress σ) :=
  match opt.takes with
  | .help => .error .help
  | .nothing setting => .ok (progress.see opt setting)
  | _ => .ok progress

def readValue (opt : Opt σ) (text : Text) : Except UsageError (Option σ) :=
  match opt.takes with
  | .value _ kind read void =>
    if text = endMark then .ok (some void)
    else
      match read text with
      | some setting => .ok (some setting)
      | none => .error (.invalidValue opt.display kind text)
  | .choice alternatives void =>
    if text = endMark then .ok (some void)
    else
      match alternatives.find? (·.1 == text) with
      | some (_, setting) => .ok (some setting)
      | none => .error (.invalidChoice opt.display text (alternatives.map (·.1)))
  | _ => .ok none

/-- An option whose value is the default itself: it was seen, but rivals no other. -/
def seeDefault (progress : Progress σ) (opt : Opt σ) (setting : σ) : Progress σ :=
  { progress with
    settings := progress.settings ++ [setting]
    seen := progress.seen ++ [opt.display] }

/-- An option with its value. A value that cannot be read is named before a conflict. -/
def value (progress : Progress σ) (opt : Opt σ) (text : Text) : Except Stop (Progress σ) :=
  match readValue opt text with
  | .error error => .error (.usage error)
  | .ok none => .ok progress
  | .ok (some setting) =>
    if opt.isDefault text then .ok (progress.seeDefault opt setting)
    else
      match progress.rival? opt with
      | some rival => .error (.usage (.conflict opt.display rival))
      | none => .ok (progress.see opt setting)

def flags (progress : Progress σ) (opts : List (Opt σ)) : Except Stop (Progress σ) :=
  opts.foldlM flag progress

end Progress

/-- What an option that takes nothing from the next word does. -/
def finish (progress : Progress σ) : Tail σ → Except Stop (Progress σ)
  | .done => .ok progress
  | .value opt text => progress.value opt text
  | .awaiting opt => .error (.usage (.expectedValue opt.display))

/-- Goes through the words. An option that needs the next word for its value takes it only if it
looks like none, and says so before any option of its own word has taken effect. -/
def consume (opts : List (Opt σ)) :
    (progress : Progress σ) → List (Text × Word σ) → Except Stop (Progress σ)
  | progress, [] => .ok progress
  | progress, (word, .plain) :: rest => consume opts (progress.leave word) rest
  | progress, (word, .unknown) :: rest => consume opts (progress.leave word) rest
  | progress, (_, .option opt short attached) :: rest =>
    match expand opts opt short attached with
    | .error error => .error (.usage error)
    | .ok ⟨flags, .awaiting needy⟩ =>
      match rest with
      | (text, .plain) :: others =>
        match (progress.flags flags).bind (·.value needy text) with
        | .error stop => .error stop
        | .ok progress => consume opts progress others
      | _ => .error (.usage (.expectedValue needy.display))
    | .ok ⟨flags, tail⟩ =>
      match (progress.flags flags).bind (finish · tail) with
      | .error stop => .error stop
      | .ok progress => consume opts progress rest

def missing (opts : List (Opt σ)) (seen : List Text) : List Text :=
  (opts.filter fun opt => opt.required && !seen.contains opt.display).map Opt.display

def parse (opts : List (Opt σ)) (words : List Text) : Except Stop (List σ) :=
  match classifyAll opts words with
  | .error error => .error (.usage error)
  | .ok kinds =>
    match consume opts {} kinds with
    | .error stop => .error stop
    | .ok progress =>
      match missing opts progress.seen, progress.extras with
      | [], [] => .ok progress.settings
      | [], extras => .error (.usage (.unrecognized extras))
      | options, _ => .error (.usage (.missing options))

end ServiceProbe.CommandLine
