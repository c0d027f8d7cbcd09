import BlockComments.Report.AccessError

/-!
# Why a file was not converted
-/
namespace BlockComments

inductive FileOp where
  | stat
  | read
  | write
  deriving DecidableEq, Repr

/-- The activity that a message names for a call. -/
def FileOp.activity : FileOp → String
  | .stat => "accessing"
  | .read => "reading"
  | .write => "writing"

/-- Why a file was not converted: a call on it failed, what stands at its path is no regular
file, or its content is UTF-8 only up to an offset. Every cause names the path as it was
typed. -/
inductive Failure where
  | access (path : String) (op : FileOp) (reason : AccessError)
  | notAFile (path : String)
  | encoding (path : String) (validUpTo : Nat)
  deriving DecidableEq, Repr

namespace Failure

def path : Failure → String
  | .access p _ _ => p
  | .notAFile p => p
  | .encoding p _ => p

/-- The reason of the call that failed, if it was a call. -/
def reason? : Failure → Option AccessError
  | .access _ _ r => some r
  | .notAFile _ | .encoding _ _ => none

/-- What went wrong, without the reason of a failed call. -/
def headline : Failure → String
  | .access p op _ => "Error " ++ op.activity ++ " file \"" ++ p ++ "\""
  | .notAFile p => "Skipping \"" ++ p ++ "\": Not a file."
  | .encoding p n =>
    "Error decoding file \"" ++ p ++ "\": not valid UTF-8 (first invalid byte at offset " ++
      n.repr ++ ")"

/-- What went wrong and why. -/
def message (f : Failure) : String :=
  match f.reason? with
  | some r => f.headline ++ ": " ++ r.message
  | none => f.headline

def code : Failure → String
  | .access _ _ _ => "blockify::path_access"
  | .notAFile _ => "blockify::not_a_file"
  | .encoding _ _ => "blockify::invalid_encoding"

def advice : Failure → String
  | .access _ _ _ => "check that the path exists and is readable and writable"
  | .notAFile _ => "pass individual files; directories are not walked"
  | .encoding _ _ => "only UTF-8 source files can be converted"

def isWarning : Failure → Bool
  | .notAFile _ => true
  | .access _ _ _ | .encoding _ _ => false

end Failure

end BlockComments
