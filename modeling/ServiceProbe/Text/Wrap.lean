import ServiceProbe.Text.Basic
import ServiceProbe.Text.Blank
import ServiceProbe.Text.Word
/-!
Breaking a paragraph into lines of a given width. A line may break at spaces, after the hyphen of
a compound word, and on either side of a dash between words; a piece longer than a line is cut.
-/
namespace ServiceProbe.Text.Wrap

/-- White space at which a paragraph may break. Wider blanks are part of the words. -/
def isGap (c : Char) : Bool := isPlainBlank c

/-- Runs of white space become one space, and none is left at the ends. -/
def collapse : Text → Text
  | [] => []
  | c :: rest =>
    if isGap c then
      match collapse rest with
      | ' ' :: others => ' ' :: others
      | others => ' ' :: others
    else c :: collapse rest

def normalize (text : Text) : Text := strip (collapse text)

/-- Characters between which a dash joins words. -/
def joinsDash (c : Char) : Bool :=
  isWordCharacter c || "!\"'&.,?".toList.contains c

/-- A run of two or more hyphens with a word right behind it. -/
def startsDash (text : Text) : Bool :=
  2 ≤ (text.takeWhile (· == '-')).length &&
    match text.dropWhile (· == '-') with
    | c :: _ => isWordCharacter c
    | [] => false

/-- Whether the hyphen at the head of `ahead` parts a compound word: two letters, or letters around
another hyphen, stand on both sides. `behind` is what was read, last character first. -/
def partsCompound (behind ahead : Text) : Bool :=
  let before :=
    match behind with
    | a :: b :: more =>
      isWordLetter a && (isWordLetter b || (b == '-' && (more.head?.map isWordLetter).getD false))
    | _ => false
  let after :=
    match ahead with
    | '-' :: a :: b :: more =>
      isWordLetter a && (isWordLetter b || (b == '-' && (more.head?.map isWordLetter).getD false))
    | _ => false
  before && after

/-- Whether a piece that was read up to here ends before `ahead`. -/
def endsPiece (behind ahead : Text) : Bool :=
  match ahead with
  | [] => true
  | c :: _ => isGap c || ((behind.head?.map joinsDash).getD false && startsDash ahead)

/-- What a piece consists of, so far. -/
inductive Kind where
  | gap
  | dash
  | word
  deriving DecidableEq

def close (current : Text) (pieces : List Text) : List Text :=
  if current.isEmpty then pieces else current.reverse :: pieces

/-- Cuts a text into pieces between which a line may break. `behind` holds all characters read
so far and `current` those of the open piece, both last character first. -/
def piecesFrom (behind current : Text) (kind : Kind) : Text → List Text
  | [] => close current []
  | c :: rest =>
    let ahead := c :: rest
    let continues :=
      !current.isEmpty &&
        match kind with
        | .gap => isGap c
        | .dash => c == '-'
        | .word => !endsPiece behind ahead
    if continues then
      if kind == .word && c == '-' && partsCompound behind ahead then
        (c :: current).reverse :: piecesFrom (c :: behind) [] .word rest
      else piecesFrom (c :: behind) (c :: current) kind rest
    else
      let fresh :=
        if isGap c then .gap
        else if (behind.head?.map joinsDash).getD false && startsDash ahead then .dash
        else .word
      close current (piecesFrom (c :: behind) [c] fresh rest)

def pieces (text : Text) : List Text := piecesFrom [] [] .word text

/-- Where to cut a piece that fits on no line: after its last hyphen within the room, if something
other than hyphens stands before it, else where the room ends. -/
def cutAt (room : Nat) (piece : Text) : Nat :=
  let head := piece.take room
  let hyphen := (head.reverse.dropWhile (· != '-')).length - 1
  if head.contains '-' && 0 < hyphen && (head.take hyphen).any (· != '-') then hyphen + 1 else room

/-- Takes pieces as long as they fit. -/
def takeFitting (room : Nat) : List Text → List Text × List Text
  | [] => ([], [])
  | piece :: rest =>
    if piece.length ≤ room then
      let (taken, left) := takeFitting (room - piece.length) rest
      (piece :: taken, left)
    else ([], piece :: rest)

def isGapPiece (piece : Text) : Bool := (strip piece).isEmpty

def dropLastGap (line : List Text) : List Text :=
  match line.reverse with
  | last :: others => if isGapPiece last then others.reverse else line
  | [] => []

/-- One line and the pieces left for the next ones. -/
def nextLine (width : Nat) (started : Bool) (pieces : List Text) : List Text × List Text :=
  let pieces :=
    match pieces with
    | piece :: rest => if started && isGapPiece piece then rest else piece :: rest
    | [] => []
  let (taken, left) := takeFitting width pieces
  match left with
  | piece :: rest =>
    if width < piece.length then
      let room := width - taken.flatten.length
      let size := cutAt room piece
      (dropLastGap (taken ++ [piece.take size]), piece.drop size :: rest)
    else (dropLastGap taken, piece :: rest)
  | [] => (dropLastGap taken, [])

def linesFrom (width : Nat) : (fuel : Nat) → (started : Bool) → List Text → List Text
  | 0, _, _ => []
  | fuel + 1, started, pieces =>
    if pieces.isEmpty then []
    else
      let (line, left) := nextLine width started pieces
      if line.isEmpty then linesFrom width fuel started left
      else line.flatten :: linesFrom width fuel true left

/-- The lines of a paragraph. Every line but an empty one takes at least one character, which
bounds their number. -/
def wrap (width : Nat) (text : Text) : List Text :=
  let text := normalize text
  linesFrom width (2 * text.length + 2) false (pieces text)

end ServiceProbe.Text.Wrap
