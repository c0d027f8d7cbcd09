import BlockComments.Files.Access
import BlockComments.Files.Lookup

/-!
# Flat stores

A flat store holds entries under paths that are compared byte by byte. An
entry can be told to fail or to crash at any of the three calls, so every way
in which a job can end can be played through.
-/
namespace BlockComments

variable {α : Type}

inductive Content where
  | file (bytes : Bytes)
  | directory
  | other
  deriving DecidableEq, Repr

def Content.kind : Content → EntryKind
  | .file _ => .file
  | .directory => .directory
  | .other => .other

/-- An entry, with the calls on it that do not succeed. -/
structure Entry where
  content : Content
  statError : Option AccessError := none
  readError : Option AccessError := none
  writeError : Option AccessError := none
  crashesOn : Option FileOp := none
  deriving DecidableEq, Repr

namespace Entry

def errorOf (e : Entry) : FileOp → Option AccessError
  | .stat => e.statError
  | .read => e.readError
  | .write => e.writeError

/-- A call that would give `value` if nothing stood in its way; a crash comes
before a failure. -/
def guarded (e : Entry) (op : FileOp) (value : α) : Answer α :=
  if e.crashesOn = some op then .crashed
  else
    match e.errorOf op with
    | some reason => .failed reason
    | none => .done value

/-- The bytes of a file; anything else holds none. -/
def bytes (e : Entry) : Bytes :=
  match e.content with
  | .file b => b
  | .directory | .other => []

end Entry

/-- Entries under their paths. The first entry under a path counts. -/
structure FlatStore where
  entries : List (FilePath × Entry) := []
  deriving DecidableEq, Repr

namespace FlatStore

def get? (s : FlatStore) (path : FilePath) : Option Entry := s.entries.lookup path

def put (s : FlatStore) (path : FilePath) (e : Entry) : FlatStore where
  entries :=
    if (s.get? path).isSome then
      s.entries.map fun (p, old) => if p = path then (p, e) else (p, old)
    else s.entries ++ [(path, e)]

def remove (s : FlatStore) (path : FilePath) : FlatStore where
  entries := s.entries.filter fun (p, _) => p != path

/-- Putting an entry is seen at its own path only. -/
theorem get?_put (s : FlatStore) (path q : FilePath) (e : Entry) :
    (s.put path e).get? q = if q = path then some e else s.get? q :=
  lookup_put s.entries path q e

/-- The reason for which every call fails where there is no entry. -/
def absent : AccessError := .described "no such file or directory"

/-- The answer to a call at a path, given the value it has on an entry. -/
def answer (s : FlatStore) (op : FileOp) (path : FilePath) (value : Entry → α) : Answer α :=
  match s.get? path with
  | none => .failed absent
  | some e => e.guarded op (value e)

def replaceContent (s : FlatStore) (path : FilePath) (bytes : Bytes) : FlatStore :=
  match s.get? path with
  | none => s
  | some e => s.put path { e with content := .file bytes }

/-- A new content is seen at its own path only, and keeps what else an entry says. -/
theorem get?_replaceContent (s : FlatStore) (path q : FilePath) (bytes : Bytes) :
    (s.replaceContent path bytes).get? q =
      if q = path then (s.get? path).map fun e => { e with content := .file bytes }
      else s.get? q := by
  unfold replaceContent
  split
  · rename_i h
    by_cases hq : q = path <;> simp [hq, h]
  · rename_i e h
    rw [get?_put, h]
    rfl

def stat (s : FlatStore) (path : FilePath) : Answer EntryKind :=
  s.answer .stat path fun e => e.content.kind

def read (s : FlatStore) (path : FilePath) : Answer Bytes :=
  s.answer .read path Entry.bytes

/-- The answer to a write and the store after it; only a successful write changes the store. -/
def write (s : FlatStore) (path : FilePath) (t : Text) : Answer Unit × FlatStore :=
  match s.answer .write path fun _ => () with
  | .done _ => (.done (), s.replaceContent path (Utf8.encode t))
  | other => (other, s)

instance : FileAccess (StateM FlatStore) where
  stat path := fun s => (s.stat path, s)
  read path := fun s => (s.read path, s)
  write path t := fun s => s.write path t

def listing (s : FlatStore) : List (FilePath × Entry) :=
  s.entries.mergeSort fun a b => bytesLe a.1.bytes b.1.bytes

end FlatStore

end BlockComments
