import ServiceProbe.Text.Blank
import ServiceProbe.Text.Word
/-!
Documents as services write them, and all the texts that stand for one. The look-up of fields does
not parse; what it finds in a document is described by the tree and not by its text.
-/
namespace ServiceProbe

namespace Json

/-- White space between tokens. -/
def isSpace (c : Char) : Bool := c == ' ' || c == '\t' || c == '\n' || c == '\r'

def marks : List Char := ['{', '}', '[', ']', ':', ',']

inductive Token where
  | mark (c : Char)
  | string (content : Text)
  /-- A number, a truth value or nothing. -/
  | bare (text : Text)
  deriving DecidableEq, Repr

namespace Token

def text : Token → Text
  | .mark c => [c]
  | .string content => '"' :: (content ++ ['"'])
  | .bare text => text

def isBare (c : Char) : Bool := !Text.isBlank c && c != '"' && !marks.contains c

/-- Strings are written as they are, so there is no quotation mark in them. -/
def Plain : Token → Prop
  | .mark c => c ∈ marks
  | .string content => '"' ∉ content
  | .bare text => text ≠ [] ∧ ∀ c ∈ text, isBare c = true

def Braceless : Token → Prop
  | .string content => '{' ∉ content ∧ '}' ∉ content
  | _ => True

instance : DecidablePred Plain
  | .mark c => inferInstanceAs (Decidable (c ∈ marks))
  | .string content => inferInstanceAs (Decidable ('"' ∉ content))
  | .bare text =>
    decidable_of_iff (text ≠ [] ∧ text.all isBare = true) (by simp [Plain])

instance : DecidablePred Braceless
  | .mark _ => .isTrue trivial
  | .string content => inferInstanceAs (Decidable ('{' ∉ content ∧ '}' ∉ content))
  | .bare _ => .isTrue trivial

end Token

/-- All texts of a row of tokens: any white space may stand before each of them and at the end. -/
inductive Written : List Token → Text → Prop where
  | nothing {gap : Text} (blank : ∀ c ∈ gap, isSpace c = true) : Written [] gap
  | token {gap rest : Text} {token : Token} {tokens : List Token}
    (blank : ∀ c ∈ gap, isSpace c = true) (later : Written tokens rest) :
    Written (token :: tokens) (gap ++ (token.text ++ rest))

/-- The text with some gaps, as far as there are any. -/
def laidOut : (gaps : List Text) → List Token → Text
  | gaps, [] => gaps.headD []
  | gaps, token :: tokens => gaps.headD [] ++ (token.text ++ laidOut gaps.tail tokens)

theorem laidOut_written {gaps : List Text} (blank : ∀ gap ∈ gaps, ∀ c ∈ gap, isSpace c = true)
    (tokens : List Token) : Written tokens (laidOut gaps tokens) := by
  have first {gaps : List Text} (blank : ∀ gap ∈ gaps, ∀ c ∈ gap, isSpace c = true) :
      ∀ c ∈ gaps.headD [], isSpace c = true := by
    cases gaps with
    | nil => simp
    | cons gap gaps => exact blank gap List.mem_cons_self
  induction tokens generalizing gaps with
  | nil => exact .nothing (first blank)
  | cons token tokens ih =>
    exact .token (first blank) (ih fun gap member => blank gap (List.mem_of_mem_tail member))

/-- A text of a row of tokens that ends with the last of them. -/
inductive Tight : List Token → Text → Prop where
  | nothing : Tight [] []
  | token {gap rest : Text} {token : Token} {tokens : List Token}
    (blank : ∀ c ∈ gap, isSpace c = true) (later : Tight tokens rest) :
    Tight (token :: tokens) (gap ++ (token.text ++ rest))

theorem Tight.written {tokens : List Token} {text : Text} (tight : Tight tokens text) :
    Written tokens text := by
  induction tight with
  | nothing => exact .nothing (by simp)
  | token blank _ ih => exact .token blank ih

theorem Tight.split {before behind : List Token} {text : Text}
    (tight : Tight (before ++ behind) text) :
    ∃ head rest, text = head ++ rest ∧ Tight before head ∧ Tight behind rest := by
  induction before generalizing text with
  | nil => exact ⟨[], text, rfl, .nothing, tight⟩
  | cons token before ih =>
    cases tight with
    | @token gap _ _ _ blank later =>
      obtain ⟨head, rest, rfl, first, second⟩ := ih later
      exact ⟨gap ++ (token.text ++ head), rest, by simp, .token blank first, second⟩

theorem Written.split {before behind : List Token} {text : Text}
    (written : Written (before ++ behind) text) :
    ∃ head rest, text = head ++ rest ∧ Tight before head ∧ Written behind rest := by
  induction before generalizing text with
  | nil => exact ⟨[], text, rfl, .nothing, written⟩
  | cons token before ih =>
    cases written with
    | @token gap _ _ _ blank later =>
      obtain ⟨head, rest, rfl, first, second⟩ := ih later
      exact ⟨gap ++ (token.text ++ head), rest, by simp, .token blank first, second⟩

/-- The members of an object and the items of an array are parts of a document as values are. -/
inductive Part where
  | value
  | members
  | items

end Json

open Json (Part Token)

inductive Json : Part → Type where
  | string (content : Text) : Json .value
  | bare (text : Text) : Json .value
  | object (members : Json .members) : Json .value
  | array (items : Json .items) : Json .value
  | noMember : Json .members
  | member (key : Text) (value : Json .value) (rest : Json .members) : Json .members
  | noItem : Json .items
  | item (value : Json .value) (rest : Json .items) : Json .items

namespace Json

variable {part : Part}

/-- What stands before further members or items. -/
def comma : Json part → List Token
  | member _ _ _ => [.mark ',']
  | item _ _ => [.mark ',']
  | _ => []

/-- Members and items include what closes them. -/
def tokens : {part : Part} → Json part → List Token
  | _, string content => [.string content]
  | _, bare text => [.bare text]
  | _, object members => .mark '{' :: members.tokens
  | _, array items => .mark '[' :: items.tokens
  | _, noMember => [.mark '}']
  | _, member key value rest =>
    .string key :: .mark ':' :: (value.tokens ++ (rest.comma ++ rest.tokens))
  | _, noItem => [.mark ']']
  | _, item value rest => value.tokens ++ (rest.comma ++ rest.tokens)

def keys : {part : Part} → Json part → List Text
  | _, string _ => []
  | _, bare _ => []
  | _, object members => members.keys
  | _, array items => items.keys
  | _, noMember => []
  | _, member key value rest => key :: (value.keys ++ rest.keys)
  | _, noItem => []
  | _, item value rest => value.keys ++ rest.keys

def isKeyCharacter (c : Char) : Bool := Text.isWordCharacter c || c == '-'

def IsKey (key : Text) : Prop := key ≠ [] ∧ ∀ c ∈ key, isKeyCharacter c = true

instance : DecidablePred IsKey := fun key =>
  decidable_of_iff (key ≠ [] ∧ key.all isKeyCharacter = true) (by simp [IsKey])

/-- A document as services write them. No key occurs twice. -/
structure Ordinary (document : Json part) : Prop where
  keys : ∀ key ∈ document.keys, IsKey key
  plain : ∀ token ∈ document.tokens, token.Plain
  distinct : document.keys.Nodup

instance (document : Json part) : Decidable document.Ordinary :=
  decidable_of_iff
    ((∀ key ∈ document.keys, IsKey key) ∧ (∀ token ∈ document.tokens, token.Plain) ∧
      document.keys.Nodup)
    ⟨fun ⟨keys, plain, distinct⟩ => ⟨keys, plain, distinct⟩,
      fun ⟨keys, plain, distinct⟩ => ⟨keys, plain, distinct⟩⟩

/-- A key at any depth, and the value it has there. -/
inductive Has : {part : Part} → Json part → Text → Json .value → Prop where
  | here {key : Text} {value : Json .value} {rest : Json .members} :
    Has (member key value rest) key value
  | inValue {key other : Text} {value found : Json .value} {rest : Json .members}
    (has : Has value key found) : Has (member other value rest) key found
  | later {key other : Text} {value found : Json .value} {rest : Json .members}
    (has : Has rest key found) : Has (member other value rest) key found
  | object {key : Text} {members : Json .members} {found : Json .value}
    (has : Has members key found) : Has (object members) key found
  | array {key : Text} {items : Json .items} {found : Json .value}
    (has : Has items key found) : Has (array items) key found
  | inItem {key : Text} {value found : Json .value} {rest : Json .items}
    (has : Has value key found) : Has (item value rest) key found
  | laterItem {key : Text} {value found : Json .value} {rest : Json .items}
    (has : Has rest key found) : Has (item value rest) key found

/-- The values that a key has at any depth, in the order in which they are written. -/
def valuesOf (key : Text) : {part : Part} → Json part → List (Json .value)
  | _, string _ => []
  | _, bare _ => []
  | _, object members => members.valuesOf key
  | _, array items => items.valuesOf key
  | _, noMember => []
  | _, member other value rest =>
    (if other = key then [value] else []) ++ (value.valuesOf key ++ rest.valuesOf key)
  | _, noItem => []
  | _, item value rest => value.valuesOf key ++ rest.valuesOf key

/-- The value at a path of keys through objects. -/
inductive At : List Text → Json .members → Json .value → Prop where
  | here {key : Text} {value : Json .value} {rest : Json .members} :
    At [key] (member key value rest) value
  | inside {key : Text} {path : List Text} {inner rest : Json .members} {found : Json .value}
    (reached : At path inner found) : At (key :: path) (member key (.object inner) rest) found
  | later {other : Text} {path : List Text} {value found : Json .value} {rest : Json .members}
    (reached : At path rest found) : At path (member other value rest) found

/-! Parts of a document. -/

theorem Has.tokens_infix {document : Json part} {key : Text} {value : Json .value}
    (has : document.Has key value) : value.tokens <:+: document.tokens := by
  induction has with
  | @here key value rest =>
    exact ⟨[.string key, .mark ':'], rest.comma ++ rest.tokens, by simp [tokens]⟩
  | @inValue _ other inner _ rest _ ih =>
    exact ih.trans ⟨[.string other, .mark ':'], rest.comma ++ rest.tokens, by simp [tokens]⟩
  | @later _ other inner _ rest _ ih =>
    exact ih.trans ⟨.string other :: .mark ':' :: (inner.tokens ++ rest.comma), [], by
      simp [tokens]⟩
  | object _ ih => exact ih.trans ⟨[.mark '{'], [], by simp [tokens]⟩
  | array _ ih => exact ih.trans ⟨[.mark '['], [], by simp [tokens]⟩
  | @inItem _ inner _ rest _ ih =>
    exact ih.trans ⟨[], rest.comma ++ rest.tokens, by simp [tokens]⟩
  | @laterItem _ inner _ rest _ ih =>
    exact ih.trans ⟨inner.tokens ++ rest.comma, [], by simp [tokens]⟩

theorem Has.keys_sublist {document : Json part} {key : Text} {value : Json .value}
    (has : document.Has key value) : (key :: value.keys).Sublist document.keys := by
  induction has with
  | here => exact (List.sublist_append_left _ _).cons_cons _
  | inValue _ ih => exact (ih.trans (List.sublist_append_left _ _)).cons _
  | later _ ih => exact (ih.trans (List.sublist_append_right _ _)).cons _
  | object _ ih => exact ih
  | array _ ih => exact ih
  | inItem _ ih => exact ih.trans (List.sublist_append_left _ _)
  | laterItem _ ih => exact ih.trans (List.sublist_append_right _ _)

theorem Has.mem_keys {document : Json part} {key : Text} {value : Json .value}
    (has : document.Has key value) : key ∈ document.keys :=
  has.keys_sublist.subset List.mem_cons_self

theorem Has.mem_valuesOf {document : Json part} {key : Text} {value : Json .value}
    (has : document.Has key value) : value ∈ document.valuesOf key := by
  induction has with
  | here => simp [valuesOf]
  | inValue _ ih | later _ ih | inItem _ ih | laterItem _ ih => simp [valuesOf, ih]
  | object _ ih | array _ ih => exact ih

theorem has_of_mem_valuesOf {document : Json part} {key : Text} {value : Json .value}
    (member : value ∈ document.valuesOf key) : document.Has key value := by
  induction document with
  | string | bare | noMember | noItem => cases member
  | object members ih => exact .object (ih member)
  | array items ih => exact .array (ih member)
  | member other inner rest innerIh restIh =>
    rcases List.mem_append.mp member with here | deeper
    · split at here
      · next same =>
        rw [List.mem_singleton.mp here, same]
        exact .here
      · cases here
    · exact (List.mem_append.mp deeper).elim (fun inside => .inValue (innerIh inside))
        fun later => .later (restIh later)
  | item inner rest innerIh restIh =>
    exact (List.mem_append.mp member).elim (fun inside => .inItem (innerIh inside))
      fun later => .laterItem (restIh later)

theorem mem_valuesOf {document : Json part} {key : Text} {value : Json .value} :
    value ∈ document.valuesOf key ↔ document.Has key value :=
  ⟨has_of_mem_valuesOf, Has.mem_valuesOf⟩

theorem length_valuesOf (key : Text) (document : Json part) :
    (document.valuesOf key).length = document.keys.count key := by
  induction document with
  | string | bare | noMember | noItem => rfl
  | object members ih => exact ih
  | array items ih => exact ih
  | member other inner rest innerIh restIh =>
    have here : (if other = key then [inner] else []).length = if other = key then 1 else 0 := by
      split <;> rfl
    simp only [valuesOf, keys, List.length_append, List.count_cons, List.count_append, here, innerIh,
      restIh, beq_iff_eq]
    exact Nat.add_comm _ _
  | item inner rest innerIh restIh =>
    simp only [valuesOf, keys, List.length_append, List.count_append, innerIh, restIh]

theorem valuesOf_of_absent {key : Text} {document : Json part} (absent : key ∉ document.keys) :
    document.valuesOf key = [] := by
  rw [← List.length_eq_zero_iff, length_valuesOf, List.count_eq_zero]
  exact absent

theorem Ordinary.of_has {document : Json part} {key : Text} {value : Json .value}
    (ordinary : document.Ordinary) (has : document.Has key value) : value.Ordinary where
  keys other member :=
    ordinary.keys other (has.keys_sublist.subset (List.mem_cons_of_mem _ member))
  plain token member := ordinary.plain token (has.tokens_infix.subset member)
  distinct := (ordinary.distinct.sublist has.keys_sublist).of_cons

theorem Has.isKey {document : Json part} {key : Text} {value : Json .value}
    (has : document.Has key value) (ordinary : document.Ordinary) : IsKey key :=
  ordinary.keys key has.mem_keys

theorem At.nonempty {path : List Text} {members : Json .members} {value : Json .value}
    (reached : At path members value) : path ≠ [] := by
  induction reached with
  | here => simp
  | inside _ _ => simp
  | later _ ih => exact ih

theorem At.mem_keys {path : List Text} {members : Json .members} {value : Json .value}
    (reached : At path members value) : ∀ key ∈ path, key ∈ members.keys := by
  induction reached with
  | here => simp [keys]
  | inside _ ih =>
    intro key member
    rcases List.mem_cons.mp member with rfl | member
    · exact List.mem_cons_self
    · exact List.mem_cons_of_mem _ (List.mem_append_left _ (ih key member))
  | later _ ih =>
    exact fun key member => List.mem_cons_of_mem _ (List.mem_append_right _ (ih key member))

theorem At.has_last {path : List Text} {members : Json .members} {value : Json .value}
    (reached : At path members value) {key : Text} (last : path.getLast? = some key) :
    members.Has key value := by
  induction reached with
  | here =>
    cases last
    exact .here
  | @inside first path inner rest found reached ih =>
    rw [List.getLast?_cons_of_ne_nil reached.nonempty] at last
    exact .inValue (.object (ih last))
  | later _ ih => exact .later (ih last)

theorem At.object_of_cons {key next : Text} {path : List Text} {members : Json .members}
    {value : Json .value} (reached : At (key :: next :: path) members value) :
    ∃ inner, members.Has key (.object inner) ∧ At (next :: path) inner value := by
  generalize shape : key :: next :: path = whole at reached
  induction reached with
  | here => cases shape
  | inside reached =>
    cases shape
    exact ⟨_, .here, reached⟩
  | later _ ih =>
    obtain ⟨inner, has, deeper⟩ := ih shape
    exact ⟨inner, .later has, deeper⟩

end Json
end ServiceProbe
