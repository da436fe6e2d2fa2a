import ServiceProbe.Text.Basic
/-!
Texts that are addresses rather than names: four decimal octets, or groups of hexadecimal digits
with at most one run of zero groups left out and an optional zone.
-/
namespace ServiceProbe.Network.AddressLiteral

def isDigit (c : Char) : Bool := '0' ≤ c && c ≤ '9'

def isHexDigit (c : Char) : Bool := isDigit c || ('a' ≤ c && c ≤ 'f') || ('A' ≤ c && c ≤ 'F')

/-- An octet has no leading zeros. -/
def isOctet (text : Text) : Bool :=
  !text.isEmpty && text.length ≤ 3 && text.all isDigit && (text == ['0'] || text.head? != some '0')
    && Nat.ofDigitChars 10 text 0 ≤ 255

def isInet (text : Text) : Bool :=
  let octets := text.splitOn '.'
  octets.length == 4 && octets.all isOctet

def isGroup (text : Text) : Bool := !text.isEmpty && text.length ≤ 4 && text.all isHexDigit

/-- The number of groups on one side of a gap. A gap at an end has an empty text outside. -/
def sideSize? (groups : List Text) : Option Nat :=
  if groups = [[]] then some 0
  else if groups.all isGroup then some groups.length
  else none

/-- The groups of an address; octets at the end stand for two of them. -/
def groups? (text : Text) : Option (List Text) :=
  let groups := text.splitOn ':'
  match groups.getLast? with
  | some last =>
    if !last.contains '.' then some groups
    else if isInet last then some (groups.dropLast ++ [['0'], ['0']])
    else none
  | none => none

/-- Whether the groups make up an address. Only inside may a group be empty, and only one. -/
def areComplete (groups : List Text) : Bool :=
  match ((groups.drop 1).dropLast).filter List.isEmpty with
  | [] => groups.length == 8 && groups.all isGroup
  | [_] =>
    let head := groups.take 1 ++ ((groups.drop 1).takeWhile (!List.isEmpty ·))
    let tail := groups.drop (head.length + 1)
    match sideSize? head, sideSize? tail with
    | some before, some behind => before + behind ≤ 7
    | _, _ => false
  | _ => false

def isInet6 (text : Text) : Bool :=
  let (address, zone) := Text.cut '%' text
  let zoneFits := match zone with
    | some zone => !zone.isEmpty && !zone.contains '%' && !zone.contains '/'
    | none => true
  zoneFits && 3 ≤ (address.splitOn ':').length &&
    match groups? address with
    | some groups => areComplete groups
    | none => false

def isAddress (text : Text) : Bool := isInet text || isInet6 text

end ServiceProbe.Network.AddressLiteral
