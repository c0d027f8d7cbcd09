import BlockComments.Report.AccessError
import BlockComments.Text.Utf8

/-!
# Paths

A path is a sequence of bytes with slashes between its names; it need not be
UTF-8. A relative path is put behind the working directory as it stands:
nothing is normalized, so one file has many paths.
-/
namespace BlockComments

structure FilePath where
  bytes : Bytes
  deriving DecidableEq, Repr

namespace FilePath

def ofString (s : String) : FilePath := ⟨stringBytes s⟩

instance : Coe String FilePath := ⟨ofString⟩

/-- A path as messages show it. -/
def shown (path : FilePath) : String := stringLossy path.bytes

instance : CoeOut FilePath String := ⟨shown⟩

def slash : UInt8 := 0x2F

end FilePath

def isAbsolutePath (path : FilePath) : Bool := path.bytes.head? == some FilePath.slash

/-- The path behind a directory, unless it starts at the root. -/
def joinPath (directory path : FilePath) : FilePath :=
  if isAbsolutePath path then path
  else if directory.bytes.getLast?.all (· == FilePath.slash) then ⟨directory.bytes ++ path.bytes⟩
  else ⟨directory.bytes ++ FilePath.slash :: path.bytes⟩

/-- The working directory, or the reason for which there is none. -/
abbrev WorkingDir := Except AccessError FilePath

def WorkingDir.removed : WorkingDir := .error AccessError.missing

/-- The names between slashes, empty ones included. -/
def splitPath : Text → List Text
  | [] => [[]]
  | c :: t =>
    if c = '/' then [] :: splitPath t
    else match splitPath t with
      | [] => [[c]]
      | name :: others => (c :: name) :: others

/-- The names of a path in order. An empty name at the end stands for the slash
that a path ends with; it asks for a directory. -/
def pathNames (path : String) : List String :=
  let names := (splitPath path.toList).filter (!·.isEmpty)
  let ends := path.toList.getLast? == some '/' && !names.isEmpty
  names.map String.ofList ++ (if ends then [""] else [])

end BlockComments
