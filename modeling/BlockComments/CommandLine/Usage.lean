/-!
# What the program tells about itself
-/
namespace BlockComments

def usage : String :=
  "\n".intercalate [
    "",
    "Usage: blockify [options] <file ...>",
    "",
    "Options:",
    "  -h, --help           Display this help message",
    "  -v, --version        Display the version number",
    "      --verbose        Log every converted comment",
    "      --pretty <BOOL>  Render errors as detailed reports [default: true]",
    "",
    "Description:",
    "  Converts single-line comments (//) to block comments (/* */).",
    "  Processes the specified file(s) in place.",
    "",
    "Environment:",
    "  BLOCKIFY_LOG         Log filter, e.g. \"debug\" or \"blockify_converter=info\"",
    "",
    "Examples:",
    "  blockify script.js",
    "  blockify src/*.js",
    ""]

def versionLine : String := "blockify version 0.1.0\n"

/-- A complaint about a run as a whole, in bold red on a terminal. -/
def errorLine (terminal : Bool) (message : String) : String :=
  let mark := if terminal then "\x1b[1m\x1b[31merror\x1b[0m" else "error"
  mark ++ ": " ++ message ++ "\n"

end BlockComments
