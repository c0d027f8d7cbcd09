import BlockComments.Text.Utf8

/-!
# Options first, files last

Only the program's own options count as options; every other argument, also one
that starts with a dash, is a file. The arguments are put into an order that
leaves no doubt: the options with their values, a separator, the files.
-/
namespace BlockComments

/-- An argument as the system hands it over; it need not be UTF-8. -/
abbrev RawArg := Bytes

/-- The part that an argument plays: an option that stands for itself, the option whose value
is the next argument, the mark after which every argument is a file, or a file. -/
inductive Role where
  | option
  | optionWithValue
  | separator
  | file
  deriving DecidableEq, Repr

/-- The arguments that are options by themselves. -/
def flagWords : List Text :=
  ["-h".toList, "--help".toList, "-v".toList, "--version".toList, "--verbose".toList]

def prettyWord : Text := "--pretty".toList

def separatorWord : Text := "--".toList

/-- The part that an argument plays where options are still read. What is not
UTF-8 is a file. -/
def Role.of (arg : RawArg) : Role :=
  match Utf8.decode? arg with
  | none => .file
  | some word =>
    if word ∈ flagWords then .option
    else if word = prettyWord then .optionWithValue
    else if (prettyWord ++ ['=']).isPrefixOf word then .option
    else if word = separatorWord then .separator
    else .file

/-- Arguments sorted into options, with their values, and files. -/
structure Arrangement where
  options : List RawArg
  files : List RawArg
  deriving DecidableEq, Repr

namespace Arrangement

def addOptions (words : List RawArg) (a : Arrangement) : Arrangement :=
  { a with options := words ++ a.options }

def addFile (file : RawArg) (a : Arrangement) : Arrangement :=
  { a with files := file :: a.files }

/-- Sorts arguments from left to right. The argument after an option that takes
a value is its value, whatever it looks like. -/
def ofArguments : List RawArg → Arrangement
  | [] => ⟨[], []⟩
  | arg :: rest =>
    match Role.of arg with
    | .option => (ofArguments rest).addOptions [arg]
    | .optionWithValue =>
      match rest with
      | [] => ⟨[arg], []⟩
      | value :: others => (ofArguments others).addOptions [arg, value]
    | .separator => ⟨[], rest⟩
    | .file => (ofArguments rest).addFile arg

def words (a : Arrangement) : List RawArg :=
  a.options ++ [Utf8.encode separatorWord] ++ a.files

end Arrangement

/-- The arguments of a call, the program's own name first, with the options
before the files. -/
def arrange : List RawArg → List RawArg
  | [] => (Arrangement.ofArguments []).words
  | program :: args => program :: (Arrangement.ofArguments args).words

end BlockComments
