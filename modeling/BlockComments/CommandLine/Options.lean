import BlockComments.CommandLine.Arrangement
import BlockComments.CommandLine.Refusal

/-!
# Options

Arranged arguments are read from left to right: options up to the separator,
files after it. An option given twice, a missing or unknown value and a file
that is not UTF-8 are refused, and the first problem is the one reported.
-/
namespace BlockComments

def Flag.ofLetter? (c : Char) : Option Flag :=
  if c = 'h' then some .help else if c = 'v' then some .version else none

def KnownOption.ofWord? (word : Bytes) : Option KnownOption :=
  KnownOption.all.find? fun o => stringBytes o.word == word

/-- Something that looks like an option and is none: a word behind two dashes, or a letter
behind one, or what there is not UTF-8. -/
inductive Stray where
  | word (word : String)
  | letter (letter : String)
  deriving DecidableEq, Repr

/-- What an argument says where options are still read: the separator, flags in order and what
stands behind them and is none, the option with a value, perhaps with the value attached, a
flag with a value attached, or no option at all. -/
inductive Word where
  | separator
  | flags (known : List Flag) (stray : Option Stray)
  | pretty (attached : Option Bytes)
  | flagWithValue (flag : Flag) (value : Bytes)
  | plain
  deriving DecidableEq, Repr

namespace Word

def dash : UInt8 := 0x2D

def equals : UInt8 := 0x3D

/-- The flags of letters, up to the first letter that is none. -/
def ofLetters : Text → List Flag × Option Stray
  | [] => ([], none)
  | c :: t =>
    match Flag.ofLetter? c with
    | some f => (f :: (ofLetters t).1, (ofLetters t).2)
    | none => ([], some (.letter (String.ofList [c])))

/-- Reads what stands behind one dash: letters as far as it is UTF-8, and
something unknown behind them. -/
def ofCluster (bytes : Bytes) : Word :=
  match Utf8.decode bytes with
  | .ok letters => .flags (ofLetters letters).1 (ofLetters letters).2
  | .error valid =>
    let letters := ofLetters (Utf8.decodeLossy (bytes.take valid))
    .flags letters.1 (letters.2 <|> some (.letter (stringLossy (bytes.drop valid))))

def ofWord (word : Bytes) (attached : Option Bytes) : Word :=
  match KnownOption.ofWord? word, attached with
  | some .pretty, _ => .pretty attached
  | some (.flag f), none => .flags [f] none
  | some (.flag f), some value => .flagWithValue f value
  | none, _ => .flags [] (some (.word (stringLossy word)))

/-- Reads one argument. A single dash is no option. -/
def of (arg : RawArg) : Word :=
  match arg with
  | first :: second :: rest =>
    if first ≠ dash then .plain
    else if second ≠ dash then ofCluster (second :: rest)
    else if rest = [] then .separator
    else
      let word := rest.takeWhile (· != equals)
      let attached := if equals ∈ rest then some ((rest.dropWhile (· != equals)).drop 1) else none
      ofWord word attached
  | _ => .plain

end Word

/-- An option that has been read, with its value. -/
inductive Setting where
  | flag (f : Flag)
  | pretty (value : Bool)
  deriving DecidableEq, Repr

def Setting.option : Setting → KnownOption
  | .flag f => .flag f
  | .pretty _ => .pretty

/-- The options read so far, in order. -/
structure Draft where
  settings : List Setting := []
  deriving DecidableEq, Repr

namespace Draft

def given (d : Draft) : List KnownOption := d.settings.map Setting.option

def has (d : Draft) (o : KnownOption) : Bool := o ∈ d.given

/-- The value of the option that takes one, if it was given. -/
def pretty? (d : Draft) : Option Bool :=
  d.settings.findSome? fun
    | .pretty value => some value
    | .flag _ => none

def add (d : Draft) (s : Setting) : Draft := ⟨d.settings ++ [s]⟩

def addFlag (d : Draft) (f : Flag) : Except Refusal Draft :=
  if d.has (.flag f) then .error (.repeated (.flag f)) else .ok (d.add (.flag f))

def truth? (value : Bytes) : Option Bool :=
  if value = stringBytes "true" then some true
  else if value = stringBytes "false" then some false
  else none

def addPretty (d : Draft) (value : Bytes) : Except Refusal Draft :=
  if d.has .pretty then .error (.repeated .pretty)
  else if value.isEmpty then .error .valueMissing
  else
    match truth? value with
    | some b => .ok (d.add (.pretty b))
    | none => .error (.valueUnknown (stringLossy value))

def refuse (d : Draft) : Stray → Refusal
  | .word word => .nameUnknown word d.given
  | .letter letter => .letterUnknown letter

/-- Adds the option with a value when the value is an argument of its own. What
reads as an option is no value. -/
def addPrettyWord (d : Draft) (value : RawArg) : Except Refusal Draft :=
  match Word.of value with
  | .plain => d.addPretty value
  | .flags [] (some stray) => .error (d.refuse stray)
  | .flagWithValue f attached => .error (.valueSurplus f (stringLossy attached) d.given)
  | .separator | .flags _ _ | .pretty _ => .error .valueMissing

/-- Reads options up to the separator; the rest are files, as is an argument
before the separator that is no option. -/
def readAll (d : Draft) : List RawArg → Except Refusal (Draft × List RawArg)
  | [] => .ok (d, [])
  | arg :: rest =>
    match Word.of arg with
    | .separator => .ok (d, rest)
    | .flags known stray => do
      let d ← known.foldlM addFlag d
      match stray with
      | some stray => .error (d.refuse stray)
      | none => d.readAll rest
    | .pretty (some value) => do
      let d ← d.addPretty value
      d.readAll rest
    | .pretty none =>
      match rest with
      | [] => .error .valueMissing
      | value :: others => do
        let d ← d.addPrettyWord value
        d.readAll others
    | .flagWithValue f value => .error (.valueSurplus f (stringLossy value) d.given)
    | .plain => do
      let (d, files) ← d.readAll rest
      .ok (d, arg :: files)

end Draft

structure Options where
  files : List String
  help : Bool
  version : Bool
  verbose : Bool
  pretty : Bool
  deriving DecidableEq, Repr

namespace Options

def fileName (arg : RawArg) : Except Refusal String :=
  match Utf8.decode? arg with
  | some t => .ok (String.ofList t)
  | none => .error .notUtf8

/-- Reads arranged arguments, without the program's own name. -/
def ofWords (words : List RawArg) : Except Refusal Options := do
  let (d, rest) ← ({} : Draft).readAll words
  let files ← rest.mapM fileName
  .ok {
    files
    help := d.has (.flag .help)
    version := d.has (.flag .version)
    verbose := d.has (.flag .verbose)
    pretty := d.pretty?.getD true }

/-- Reads the arguments of a call, the program's own name first. -/
def ofArguments (args : List RawArg) : Except Refusal Options := ofWords ((arrange args).drop 1)

end Options

end BlockComments
