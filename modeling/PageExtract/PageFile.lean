import PageExtract.Gzip.Member

/-! The names of files, and files with pages. A page is a text, which can be compressed. A
compressed file is known by its first bytes or by its name. -/
namespace PageExtract.Path

def parts (path : String) : List String := (path.toList.splitOn '/').map String.ofList

/-- The name of the file itself. Empty parts and single points do not count. -/
def fileName? (path : String) : Option String :=
  match ((parts path).filter fun part => part != "" && part != ".").getLast? with
  | some name => if name = ".." then none else some name
  | none => none

/-- What follows the last point of a name that does not start with it. -/
def extensionOf? (name : List Char) : Option String :=
  let ending := name.reverse.takeWhile (· != '.')
  if ending.length + 1 < name.length then some (String.ofList ending.reverse) else none

def extension? (path : String) : Option String :=
  (fileName? path).bind fun name => extensionOf? name.toList

end PageExtract.Path

namespace PageExtract

inductive PageSource where
  | file (path : String)
  | input
deriving DecidableEq

inductive PageFault where
  | unreadable
  | damaged
  | notText
deriving DecidableEq

structure PageError where
  source : PageSource
  fault : PageFault
deriving DecidableEq

def PageError.messages (e : PageError) : List String :=
  match e.source, e.fault with
  | .file path, .unreadable => ["Failed to read file " ++ path]
  | .file path, .damaged =>
    ["Failed to decompress " ++ path, "File may be corrupted or not valid UTF-8"]
  | .file path, .notText => ["Invalid UTF-8 in " ++ path]
  | .input, .unreadable => ["Failed to read from stdin"]
  | .input, .damaged =>
    ["Failed to decompress gzipped stdin", "File may be corrupted or not valid UTF-8"]
  | .input, .notText => ["Invalid UTF-8 in stdin"]

namespace PageSource

def decompress? (bytes : ByteArray) : Option String :=
  (Gzip.decompress? bytes.data.toList).bind fun data => String.fromUTF8? ⟨data.toArray⟩

def hasGzipName (path : String) : Bool := Path.extension? path == some "gz"

/-- The text of a file. The name `*.gz`, in these letters, stands for a compressed one as the first
bytes do. -/
def fileText (path : String) (bytes : ByteArray) : Except PageError String :=
  if hasGzipName path || Gzip.isGzip bytes.data.toList then
    match decompress? bytes with
    | some text => .ok text
    | none => .error ⟨.file path, .damaged⟩
  else
    match String.fromUTF8? bytes with
    | some text => .ok text
    | none => .error ⟨.file path, .notText⟩

def inputText (bytes : ByteArray) : Except PageError String :=
  if Gzip.isGzip bytes.data.toList then
    match decompress? bytes with
    | some text => .ok text
    | none => .error ⟨.input, .damaged⟩
  else
    match String.fromUTF8? bytes with
    | some text => .ok text
    | none => .error ⟨.input, .notText⟩

def load (source : PageSource) (bytes : Option ByteArray) : Except PageError String :=
  match source, bytes with
  | source, none => .error ⟨source, .unreadable⟩
  | file path, some bytes => fileText path bytes
  | input, some bytes => inputText bytes

end PageSource
end PageExtract
