import BlockComments.CommandLine.Program

/-!
# The command

The real file system, streams and environment around the program.
-/
namespace BlockComments

/-- The number of a system error; some calls hand it over with a minus sign. -/
def errorNumber (code : UInt32) : Nat :=
  if code.toNat < 2147483648 then code.toNat else 4294967296 - code.toNat

/-- The reason that a failed call on a real file gives. -/
def reasonOf : IO.Error → AccessError
  | .alreadyExists _ code _ | .interrupted _ code _ | .noFileOrDirectory _ code _
  | .invalidArgument _ code _ | .permissionDenied _ code _ | .resourceExhausted _ code _
  | .inappropriateType _ code _ | .noSuchThing _ code _ => .system (errorNumber code)
  | .otherError code _ | .resourceBusy code _ | .resourceVanished code _
  | .unsupportedOperation code _ | .hardwareFault code _ | .unsatisfiedConstraints code _
  | .illegalOperation code _ | .protocolError code _ | .timeExpired code _ =>
    .system (errorNumber code)
  | .unexpectedEof => .ofKind .unexpectedEof
  | .userError message => .described message

def answerOf {α : Type} (act : IO α) : IO (Answer α) := do
  try
    return .done (← act)
  catch e =>
    return .failed (reasonOf e)

/-- What stands at the end of a real path that starts at the root. -/
def kindOf (path : String) : IO EntryKind := do
  let entry : IO.FS.DirEntry := { root := "/", fileName := path }
  let info ← entry.path.metadata
  match info.type with
  | .file => return .file
  | .dir => return .directory
  | _ => return .other

/-- The answer of a call at a path. Only paths that are UTF-8 reach the real file system. -/
def answerAt {α : Type} (path : FilePath) (call : String → IO α) : IO (Answer α) :=
  match Utf8.decode? path.bytes with
  | some text => answerOf (call (String.ofList text))
  | none => return .failed .illegalName

instance : FileAccess IO where
  stat path := answerAt path kindOf
  read path := answerAt path fun name => do return (← IO.FS.readBinFile name).toList
  write path text := answerAt path fun name => IO.FS.writeFile name (String.ofList text)

def startDirectory : IO WorkingDir := do
  try
    return .ok (← IO.currentDir).toString
  catch e =>
    return .error (reasonOf e)

def startEnvironment : IO Environment := do
  let found ← Environment.names.mapM fun name => do
    return (← IO.getEnv name).map (name, ·)
  return ⟨found.filterMap id⟩

end BlockComments

open BlockComments in
/-- Converts the files named on the command line. -/
def main (args : List String) : IO UInt32 := do
  let stdout ← IO.getStdout
  let stderr ← IO.getStderr
  let around : Surroundings := {
    directory := ← startDirectory
    environment := ← startEnvironment
    terminal := ← stderr.isTty }
  let ending ← runProgram around ("blockify" :: args |>.map stringBytes)
  for piece in ending.stdout do
    stdout.putStr piece
  for piece in ending.stderr do
    stderr.putStr piece
  return UInt32.ofNat ending.exitCode
