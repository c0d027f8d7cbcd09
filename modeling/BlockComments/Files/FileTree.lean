import BlockComments.Files.Access
import BlockComments.Files.Path

/-!
# File trees

A file tree holds files, directories, symbolic links, pipes and devices under
absolute paths. A path is followed name by name from the root, through links,
until it ends at something that is there or at a free place in a directory. All
names are UTF-8; a path that is not UTF-8 is refused.
-/
namespace BlockComments

/-- What stands at a place of a file tree. -/
inductive Node where
  | file (content : Bytes)
  | directory
  | symlink (target : String)
  | fifo
  | device
  deriving DecidableEq, Repr

/-- A place: the names from the root down to it. -/
abbrev Place := List String

/-- The nodes of a file tree under their places. The root is always a directory. -/
structure FileTree where
  nodes : List (Place × Node) := []
  deriving DecidableEq, Repr

namespace FileTree

/-- The node at a place, without following links. -/
def node? (t : FileTree) (place : Place) : Option Node :=
  if place.isEmpty then some .directory else t.nodes.lookup place

def put (t : FileTree) (place : Place) (node : Node) : FileTree where
  nodes :=
    if (t.nodes.lookup place).isSome then
      t.nodes.map fun (p, old) => if p = place then (p, node) else (p, old)
    else t.nodes ++ [(place, node)]

def nameLimit : Nat := 255

/-- The number of bytes that a whole path stays below. -/
def pathLimit : Nat := 4096

/-- The greatest number of links on one way. -/
def linkLimit : Nat := 40

inductive Arrival where
  | present (place : Place) (node : Node)
  | vacant (place : Place)
  deriving DecidableEq, Repr

/-- Follows names from the directory `here`, through at most `links` links. With
`creating`, a name that ends with a slash is refused, as no directory can be
written. -/
def follow (t : FileTree) (creating : Bool) (links : Nat) (here : Place) (names : List String) :
    Except AccessError Arrival :=
  match names with
  | [] => .ok (.present here .directory)
  | name :: rest =>
    if name = "" ∨ name = "." then t.follow creating links here rest
    else if name = ".." then t.follow creating links here.dropLast rest
    else if creating ∧ rest = [""] then .error .isADirectory
    else if nameLimit < (stringBytes name).length then .error .nameTooLong
    else
      match t.node? (here ++ [name]) with
      | none => if rest.isEmpty then .ok (.vacant (here ++ [name])) else .error .missing
      | some .directory => t.follow creating links (here ++ [name]) rest
      | some (.symlink target) =>
        match links with
        | 0 => .error .tooManyLinks
        | links + 1 =>
          let start := if isAbsolutePath target then [] else here
          t.follow creating links start (pathNames target ++ rest)
      | some node =>
        if rest.isEmpty then .ok (.present (here ++ [name]) node) else .error .notADirectory
termination_by (links, names.length)

/-- The directory of a name in the directory `here`, made where it is missing. -/
def enter (t : FileTree) (here : Place) (name : String) : FileTree × Place :=
  match t.follow false linkLimit here [name] with
  | .ok (.present place .directory) => (t, place)
  | _ => (t.put (here ++ [name]) .directory, here ++ [name])

/-- The directory at the end of names from the root, with every missing one made. -/
def makeDirectories (t : FileTree) (names : List String) : FileTree × Place :=
  names.foldl (fun (t, here) name => t.enter here name) (t, [])

/-- Puts a node at the end of names from the root, with the directories it needs. -/
def plant (t : FileTree) (names : List String) (node : Node) : FileTree :=
  match names.getLast? with
  | none => t
  | some name =>
    let (t, here) := t.makeDirectories names.dropLast
    t.put (here ++ [name]) node

def arrive (t : FileTree) (creating : Bool) (path : FilePath) : Except AccessError Arrival :=
  if 0 ∈ path.bytes then .error .nulInName
  else if pathLimit ≤ path.bytes.length then .error .nameTooLong
  else
    match Utf8.decode? path.bytes with
    | none => .error .illegalName
    | some text => t.follow creating linkLimit [] (pathNames (String.ofList text))

def Node.kind : Node → EntryKind
  | .file _ => .file
  | .directory => .directory
  | .symlink _ | .fifo | .device => .other

def stat (t : FileTree) (path : FilePath) : Answer EntryKind :=
  match t.arrive false path with
  | .error reason => .failed reason
  | .ok (.vacant _) => .failed .missing
  | .ok (.present _ node) => .done (Node.kind node)

/-- The content of a file. Pipes and devices are empty. -/
def read (t : FileTree) (path : FilePath) : Answer Bytes :=
  match t.arrive false path with
  | .error reason => .failed reason
  | .ok (.vacant _) => .failed .missing
  | .ok (.present _ .directory) => .failed .isADirectory
  | .ok (.present _ (.file content)) => .done content
  | .ok (.present _ _) => .done []

/-- Creates or replaces a file. Pipes and devices take what is written and keep nothing. -/
def write (t : FileTree) (path : FilePath) (text : Text) : Answer Unit × FileTree :=
  match t.arrive true path with
  | .error reason => (.failed reason, t)
  | .ok (.vacant place) => (.done (), t.put place (.file (Utf8.encode text)))
  | .ok (.present _ .directory) => (.failed .isADirectory, t)
  | .ok (.present place (.file _)) => (.done (), t.put place (.file (Utf8.encode text)))
  | .ok (.present _ _) => (.done (), t)

instance : FileAccess (StateM FileTree) where
  stat path := fun t => (t.stat path, t)
  read path := fun t => (t.read path, t)
  write path text := fun t => t.write path text

/-- Everything below a place, as paths from there, in ascending order of their bytes. -/
def listing (t : FileTree) (place : Place) : List (String × Node) :=
  let below := t.nodes.filter fun (p, _) => place.isPrefixOf p && place.length < p.length
  let relative := below.map fun (p, node) => ("/".intercalate (p.drop place.length), node)
  relative.mergeSort fun a b => stringLe a.1 b.1

end FileTree

end BlockComments
