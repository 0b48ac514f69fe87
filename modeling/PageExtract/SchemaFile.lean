import PageExtract.Json.Parser
import PageExtract.PageFile
import PageExtract.Schema.Basic
import PageExtract.Toml.Parser
import PageExtract.Yaml.Content

/-! Files with schemas, in any of the notations. An error keeps its causes, the most general one
first. -/
namespace PageExtract

inductive Notation where
  | toml
  | json
  | yaml
deriving DecidableEq

namespace Notation

def ofExtension? (extension : String) : Option Notation :=
  if extension = "toml" then some toml
  else if extension = "json" then some json
  else if extension = "yaml" || extension = "yml" then some yaml
  else none

def name : Notation → String
  | toml => "TOML"
  | json => "JSON"
  | yaml => "YAML"

/-- The content of texts in each notation. -/
abbrev Readers := Notation → String → Option Tree

def content? : Readers
  | toml => Toml.content?
  | json => Json.content?
  | yaml => Yaml.content?

/-- A record that is written as a sequence has no more items than fields. -/
def isStrict : Notation → Bool
  | toml => false
  | json => true
  | yaml => true

end Notation

inductive SchemaTextError where
  | malformed (format : Notation)
  | unsound (format : Notation) (cause : SchemaError)
  | unsupported (extension : String)
deriving DecidableEq

namespace SchemaTextError

def cause? : SchemaTextError → Option SchemaError
  | unsound _ cause => some cause
  | _ => none

def message : SchemaTextError → String
  | malformed format => "Invalid " ++ format.name ++ " schema file"
  | unsound format _ => "Invalid " ++ format.name ++ " schema file"
  | unsupported extension => "Unsupported schema file format '" ++ extension ++ "'"

end SchemaTextError

namespace Schema

def ofTree (format : Notation) (t : Tree) : Except SchemaTextError Schema :=
  match SchemaConfig.ofTree? format.isStrict t with
  | none => .error (.malformed format)
  | some c => (ofConfig c).mapError (.unsound format)

/-- The schemas of a text, up to the first that is not sound. -/
def listOf (read : Notation.Readers) (format : Notation) (text : String) :
    Except SchemaTextError (List Schema) :=
  match (read format text).bind (SchemaConfig.items? format.isStrict) with
  | none => .error (.malformed format)
  | some items => items.mapM (ofTree format)

def parseList (read : Notation.Readers) (extension text : String) :
    Except SchemaTextError (List Schema) :=
  match Notation.ofExtension? extension with
  | none => .error (.unsupported extension)
  | some format => listOf read format text

end Schema

inductive SchemaFileError where
  | unreadable (path : String)
  | content (path : String) (fault : SchemaTextError)
deriving DecidableEq

/-- The wording of an error, the most general part first. What the reader of a notation says about
the place of a fault is left out. -/
def SchemaFileError.messages : SchemaFileError → List String
  | unreadable path => ["Failed to read schema file " ++ path]
  | content path fault =>
    ["Failed to load schemas from " ++ path, fault.message] ++
      fault.cause?.toList.map SchemaError.message

def Schema.loadList (read : Notation.Readers) (path : String) (bytes : Option ByteArray) :
    Except SchemaFileError (List Schema) :=
  match bytes.bind String.fromUTF8? with
  | none => .error (.unreadable path)
  | some text =>
    (parseList read ((Path.extension? path).getD "").toLower text).mapError (.content path)

end PageExtract
