import BlockComments.Files.Path
import BlockComments.Report.Failure

/-!
# Access to files

The program touches files through three calls: it asks what is at a path, reads
a file, and replaces the content of a file by the bytes of a text. `FileAccess m`
says that these calls can be made in `m`; a store that is a plain value makes
them in `StateM`, the real file system in `IO`.
-/
namespace BlockComments

/-- What a path leads to. -/
inductive EntryKind where
  | file
  | directory
  | other
  deriving DecidableEq, Repr

namespace EntryKind

def name : EntryKind → String
  | .file => "File"
  | .directory => "Directory"
  | .other => "Other"

def isFile (k : EntryKind) : Bool := k == .file

end EntryKind

/-- How a call on a file ends: it is successful, it fails and nothing has changed, or it takes
its caller down. -/
inductive Answer (α : Type) where
  | done (value : α)
  | failed (reason : AccessError)
  | crashed
  deriving DecidableEq, Repr

/-- The three calls on files. -/
class FileAccess (m : Type → Type) where
  stat : FilePath → m (Answer EntryKind)
  read : FilePath → m (Answer Bytes)
  write : FilePath → Text → m (Answer Unit)

end BlockComments
