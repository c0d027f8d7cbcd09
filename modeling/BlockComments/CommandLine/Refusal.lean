import BlockComments.Text.Similarity
import BlockComments.Text.Styled

/-!
# Refusals

Why a command line is refused, and what the user is told: the problem, the
values or the usage that would have been right, and a tip.
-/
namespace BlockComments

/-- An option without a value. -/
inductive Flag where
  | help
  | version
  | verbose
  deriving DecidableEq, Repr

def Flag.word : Flag → String
  | .help => "help"
  | .version => "version"
  | .verbose => "verbose"

/-- An option of the program: a flag, or the one that takes a value. -/
inductive KnownOption where
  | flag (f : Flag)
  | pretty
  deriving DecidableEq, Repr

namespace KnownOption

/-- All options, in the order in which they are documented. -/
def all : List KnownOption := [.flag .help, .flag .version, .flag .verbose, .pretty]

def word : KnownOption → String
  | .flag f => f.word
  | .pretty => "pretty"

def name (o : KnownOption) : String := "--" ++ o.word

def placeholder : KnownOption → String
  | .flag _ => ""
  | .pretty => " <PRETTY>"

def synopsis (o : KnownOption) : String := o.name ++ o.placeholder

end KnownOption

def truthWords : List String := ["true", "false"]

/-- Why a command line is refused: an option is given twice, the option with a value has none
or one that is no truth word, a word or a letter is no option, a flag has a value, or a file
is not UTF-8. Some refusals tell the options given before. -/
inductive Refusal where
  | repeated (option : KnownOption)
  | valueMissing
  | valueUnknown (value : String)
  | nameUnknown (word : String) (given : List KnownOption)
  | letterUnknown (letter : String)
  | valueSurplus (flag : Flag) (value : String) (given : List KnownOption)
  | notUtf8
  deriving DecidableEq, Repr

namespace Refusal

def quoted (e : Emphasis) (s : String) : StyledText := [(.none, "'"), (e, s), (.none, "'")]

def problem : Refusal → StyledText
  | .repeated option =>
    [(.none, "the argument ")] ++ quoted .invalid option.synopsis ++
      [(.none, " cannot be used multiple times")]
  | .valueMissing =>
    [(.none, "a value is required for ")] ++ quoted .invalid KnownOption.pretty.synopsis ++
      [(.none, " but none was supplied")]
  | .valueUnknown value =>
    [(.none, "invalid value ")] ++ quoted .invalid value ++ [(.none, " for ")] ++
      quoted .literal KnownOption.pretty.synopsis
  | .nameUnknown word _ =>
    [(.none, "unexpected argument ")] ++ quoted .invalid ("--" ++ word) ++ [(.none, " found")]
  | .letterUnknown letter =>
    [(.none, "unexpected argument ")] ++ quoted .invalid ("-" ++ letter) ++ [(.none, " found")]
  | .valueSurplus flag value _ =>
    [(.none, "unexpected value ")] ++ quoted .invalid value ++ [(.none, " for ")] ++
      quoted .literal (KnownOption.flag flag).synopsis ++
      [(.none, " found; no more were expected")]
  | .notUtf8 => [(.none, "invalid UTF-8 was detected in one or more arguments")]

/-- The option that an unknown word may stand for. -/
def intended? (word : String) : Option KnownOption :=
  (closest? (KnownOption.all.map KnownOption.word) word.toList).bind fun w =>
    KnownOption.all.find? (·.word = w)

def similarTip (kind name : String) : StyledText :=
  [(.none, "\n\n  "), (.valid, "tip:"), (.none, " a similar " ++ kind ++ " exists: ")] ++
    quoted .valid name

def fileTip (arg : String) : StyledText :=
  [(.none, "\n\n  "), (.valid, "tip:"), (.none, " to pass ")] ++ quoted .invalid arg ++
    [(.none, " as a value, use ")] ++ quoted .valid ("-- " ++ arg)

def tip : Refusal → StyledText
  | .valueUnknown value =>
    match closest? truthWords value.toList with
    | some word => similarTip "value" word
    | none => []
  | .nameUnknown word _ =>
    match intended? word with
    | some option => similarTip "argument" option.name
    | none => fileTip ("--" ++ word)
  | .letterUnknown letter => fileTip ("-" ++ letter)
  | .repeated _ | .valueMissing | .valueSurplus _ _ _ | .notUtf8 => []

def valueList : StyledText :=
  let words := (truthWords.map fun w => [(Emphasis.valid, w)]).intersperse [(.none, ", ")]
  [(.none, "\n  [possible values: ")] ++ words.flatten ++ [(.none, "]")]

/-- Options in the order in which they were first given, each once. -/
def distinct (options : List KnownOption) : List KnownOption :=
  options.foldl (fun seen o => if o ∈ seen then seen else seen ++ [o]) []

/-- How the program is called with the given options; without any, how it is
called in general. -/
def usageWith (options : List KnownOption) : StyledText :=
  let shown : StyledText :=
    if options.isEmpty then [(.none, " [OPTIONS]")]
    else (distinct options).flatMap fun o =>
      [(.none, " "), (.literal, o.name), (.none, o.placeholder)]
  [(.none, "\n\n"), (.heading, "Usage:"), (.none, " "), (.literal, "blockify")] ++ shown ++
    [(.none, " [FILE]...")]

def usage : Refusal → StyledText
  | .valueMissing | .valueUnknown _ => []
  | .repeated _ | .letterUnknown _ | .notUtf8 => usageWith []
  | .nameUnknown word given => usageWith (given ++ (intended? word).toList)
  | .valueSurplus flag _ given => usageWith (given ++ [.flag flag])

def message (r : Refusal) : StyledText :=
  let values :=
    match r with
    | .valueMissing | .valueUnknown _ => valueList
    | _ => []
  [(.alarm, "error:"), (.none, " ")] ++ r.problem ++ values ++ r.tip ++ r.usage ++ [(.none, "\n")]

def text (color : Bool) (r : Refusal) : String :=
  if color then StyledText.colored r.message else StyledText.plain r.message

/-- The first line of the plain text. -/
def headline (r : Refusal) : String :=
  let line := (r.text false).toList.takeWhile (· != '\n')
  String.ofList (if line.getLast? = some '\r' then line.dropLast else line)

end Refusal

end BlockComments
