import ServiceProbe.Value
/-!
The options that a command line offers, and what can be wrong with a command line. An option takes
nothing or one value; what it says is a setting.
-/
namespace ServiceProbe.CommandLine

/-- What an option does with the text behind it. -/
inductive Takes (σ : Type) where
  /-- Asks for the help text. -/
  | help
  | nothing (setting : σ)
  /-- A value of a kind; `read` refuses what is none. The mark that ends the options is no value at
  all, and `void` says so. -/
  | value (placeholder kind : Text) (read : Text → Option σ) (void : σ)
  /-- One of some words. -/
  | choice (alternatives : List (Text × σ)) (void : σ)

structure Opt (σ : Type) where
  names : List Text
  takes : Takes σ
  /-- A template. -/
  help : Text
  /-- What the help may name, beside the program. -/
  facts : List (Text × Value) := []
  required : Bool := false
  /-- Whether the option is one of those of which only one may be given. -/
  exclusive : Bool := false
  /-- A value that is the default itself and does not count as given. -/
  isDefault : Text → Bool := fun _ => false

namespace Opt

variable {σ : Type}

def takesValue (opt : Opt σ) : Bool :=
  match opt.takes with
  | .help => false
  | .nothing _ => false
  | .value .. => true
  | .choice .. => true

/-- All names, as messages show them. -/
def display (opt : Opt σ) : Text := List.intercalate ['/'] opt.names

/-- What stands for the value in the usage text. -/
def placeholder (opt : Opt σ) : Text :=
  match opt.takes with
  | .value placeholder _ _ _ => placeholder
  | .choice alternatives _ =>
    '\x7b' :: List.intercalate [','] (alternatives.map (·.1)) ++ ['\x7d']
  | _ => []

end Opt

def endMark : Text := ['-', '-']

/-- What is wrong with a command line. Options appear by their displayed names. -/
inductive UsageError where
  | ambiguous (given : Text) (candidates : List Text)
  | expectedValue (option : Text)
  | ignoredValue (option value : Text)
  | invalidValue (option kind value : Text)
  | invalidChoice (option value : Text) (alternatives : List Text)
  | conflict (option earlier : Text)
  | missing (options : List Text)
  | unrecognized (words : List Text)
  deriving DecidableEq, Repr

namespace UsageError

def about (option message : Text) : Text := "argument " ++ option ++ ": " ++ message

def commas (texts : List Text) : Text := List.intercalate ", " texts

def message : UsageError → Text
  | .ambiguous given candidates =>
    "ambiguous option: " ++ given ++ " could match " ++ commas candidates
  | .expectedValue option => about option "expected one argument"
  | .ignoredValue option value =>
    about option ("ignored explicit argument " ++ Text.quoted value)
  | .invalidValue option kind value =>
    about option ("invalid " ++ kind ++ " value: " ++ Text.quoted value)
  | .invalidChoice option value alternatives =>
    about option ("invalid choice: " ++ Text.quoted value ++ " (choose from "
      ++ commas (alternatives.map Text.quoted) ++ ")")
  | .conflict option earlier => about option ("not allowed with argument " ++ earlier)
  | .missing options => "the following arguments are required: " ++ commas options
  | .unrecognized words => "unrecognized arguments: " ++ List.intercalate [' '] words

end UsageError

/-- Why there are no settings. -/
inductive Stop where
  | help
  | usage (error : UsageError)
  deriving DecidableEq, Repr

end ServiceProbe.CommandLine
