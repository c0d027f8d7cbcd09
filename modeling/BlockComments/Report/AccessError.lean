/-!
# Errors of file calls

A call on a file that fails gives a reason: a text of its own, a general kind,
or the number that the operating system returned.
-/
namespace BlockComments

/-- A general kind of failed call. -/
inductive AccessKind where
  | notFound
  | permissionDenied
  | alreadyExists
  | invalidData
  | timedOut
  | writeZero
  | interrupted
  | unexpectedEof
  | other
  deriving DecidableEq, Repr

def AccessKind.message : AccessKind → String
  | .notFound => "entity not found"
  | .permissionDenied => "permission denied"
  | .alreadyExists => "entity already exists"
  | .invalidData => "invalid data"
  | .timedOut => "timed out"
  | .writeZero => "write zero"
  | .interrupted => "operation interrupted"
  | .unexpectedEof => "unexpected end of file"
  | .other => "other error"

def systemMessage : Nat → String
  | 1 => "Operation not permitted"
  | 2 => "No such file or directory"
  | 4 => "Interrupted system call"
  | 5 => "Input/output error"
  | 6 => "No such device or address"
  | 9 => "Bad file descriptor"
  | 11 => "Resource temporarily unavailable"
  | 12 => "Cannot allocate memory"
  | 13 => "Permission denied"
  | 16 => "Device or resource busy"
  | 17 => "File exists"
  | 18 => "Invalid cross-device link"
  | 19 => "No such device"
  | 20 => "Not a directory"
  | 21 => "Is a directory"
  | 22 => "Invalid argument"
  | 23 => "Too many open files in system"
  | 24 => "Too many open files"
  | 26 => "Text file busy"
  | 27 => "File too large"
  | 28 => "No space left on device"
  | 29 => "Illegal seek"
  | 30 => "Read-only file system"
  | 31 => "Too many links"
  | 32 => "Broken pipe"
  | 36 => "File name too long"
  | 39 => "Directory not empty"
  | 40 => "Too many levels of symbolic links"
  | 75 => "Value too large for defined data type"
  | 84 => "Invalid or incomplete multibyte or wide character"
  | 116 => "Stale file handle"
  | 122 => "Disk quota exceeded"
  | n => "Unknown error " ++ n.repr

/-- Why a call on a file failed. -/
inductive AccessError where
  | described (message : String)
  | ofKind (kind : AccessKind)
  | system (number : Nat)
  deriving DecidableEq, Repr

namespace AccessError

def message : AccessError → String
  | .described m => m
  | .ofKind k => k.message
  | .system n => systemMessage n ++ " (os error " ++ n.repr ++ ")"

def missing : AccessError := .system 2

/-- A part of the path that has to be a directory is none. -/
def notADirectory : AccessError := .system 20

def isADirectory : AccessError := .system 21

def nameTooLong : AccessError := .system 36

/-- The path holds the character that ends every name. -/
def nulInName : AccessError := .described "file name contained an unexpected NUL byte"

def tooManyLinks : AccessError := .system 40

/-- The path is not UTF-8. -/
def illegalName : AccessError := .system 84

end AccessError

end BlockComments
