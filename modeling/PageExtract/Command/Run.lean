import PageExtract.Command.Arguments
import PageExtract.Json.Printer
import PageExtract.PageFile
import PageExtract.SchemaFile
import PageExtract.Settings

/-! The outcome of the command from its arguments and the files it can read. Either all pages are
read and their records written, or nothing is written. -/
namespace PageExtract.Command

/-- What the command finds around it. Files that cannot be read are missing. The readers of schemas and
settings and the reader of log filters, which is not part of this library, can be any. -/
structure Surroundings where
  file : String → Option ByteArray
  settings : Option ByteArray
  input : Option ByteArray
  content? : Notation.Readers
  isLogFilter : String → Bool

inductive Failure where
  | logLevel (level : String)
  | noSchema
  | schema (e : SchemaFileError)
  | page (e : PageError)
  | noPages
deriving DecidableEq

def Failure.message : Failure → String
  | logLevel level => "Invalid log level '" ++ level ++ "'"
  | noSchema =>
    "No schema file given: pass --schema or set \x60schema\x60 in the config file"
  | schema e => e.messages.headD ""
  | page e => e.messages.headD ""
  | noPages => "No input files given and stdin is not piped"

structure LoadedPage where
  url : String
  text : String
deriving DecidableEq

def loadFile (s : Surroundings) (url : Option String) (path : String) : Except Failure LoadedPage :=
  match (PageSource.file path).load (s.file path) with
  | .ok text => .ok ⟨url.getD path, text⟩
  | .error e => .error (.page e)

/-- The page of the standard input. Its URL is empty unless one is given. -/
def loadInput (s : Surroundings) (url : Option String) : Except Failure LoadedPage :=
  match s.input with
  | none => .error .noPages
  | some bytes =>
    match PageSource.input.load (some bytes) with
    | .ok text => .ok ⟨url.getD "", text⟩
    | .error e => .error (.page e)

def loadPages (s : Surroundings) (o : Options) : Except Failure (List LoadedPage) :=
  match o.files with
  | [] => (loadInput s o.url).map fun page => [page]
  | files => files.mapM (loadFile s o.url)

/-- The settings, or the standard ones if their file is unsound. -/
def settingsOf (s : Surroundings) : Settings :=
  match Settings.loadIfPresent (s.content? .toml) s.settings with
  | .ok settings => settings
  | .error _ => .standard

structure Plan where
  schema : String
  pretty : Bool
deriving DecidableEq

/-- Log messages are filtered by what the environment presets. A preset that is missing or is no
filter is passed over for the level. -/
def hasFilter (s : Surroundings) (preset : Option String) (level : String) : Bool :=
  preset.any s.isLogFilter || s.isLogFilter level

def planOf (s : Surroundings) (preset : Option String) (o : Options) : Except Failure Plan :=
  let settings := settingsOf s
  let level := o.logLevel.getD settings.logLevel
  if hasFilter s preset level then
    match o.schema.or settings.schema with
    | some path => .ok ⟨path, o.pretty || settings.pretty⟩
    | none => .error .noSchema
  else .error (.logLevel level)

def loadExtractor (s : Surroundings) (path : String) : Except Failure Extractor :=
  match Schema.loadList s.content? path (s.file path) with
  | .ok schemas => .ok ⟨schemas, .empty⟩
  | .error e => .error (.schema e)

def recordOf? (x : Extractor) (page : LoadedPage) : Option Json.Value :=
  (x.extract? page.url (Html.Document.parse page.text)).map Json.Value.object

def written (pretty : Bool) (records : List Json.Value) : String :=
  if pretty then (Json.Value.array records).pretty 0 ++ "\n"
  else String.join (records.map fun r => r.compact ++ "\n")

def run (preset : Option String) (s : Surroundings) (o : Options) : Except Failure String := do
  let plan ← planOf s preset o
  let x ← loadExtractor s plan.schema
  let pages ← loadPages s o
  return written plan.pretty (pages.filterMap (recordOf? x))

structure Outcome where
  code : Nat
  output : String
  failure : Option Failure
deriving DecidableEq

def helpText : String := "\n".intercalate
  ["Extract structured records from HTML pages",
   "",
   "Usage: wxport [OPTIONS] [FILES]...",
   "",
   "Arguments:",
   "  [FILES]...  HTML files to extract from (omit to read one page from stdin)",
   "",
   "Options:",
   "  -s, --schema <SCHEMA>        Schema file (TOML, JSON or YAML); defaults to the configured schema",
   "  -u, --url <URL>              Page URL used for schema matching (defaults to the file path)",
   "  -p, --pretty                 Pretty-print output as a single JSON array",
   "      --log-level <LOG_LEVEL>  Log filter, e.g. \"debug\" or \"wxport=trace\" (RUST_LOG takes precedence)",
   "  -h, --help                   Print help",
   "  -V, --version                Print version",
   ""]

def versionText : String := "wxport 0.1.0\n"

def answerIn (preset : Option String) (s : Surroundings) : Request → Outcome
  | .help => ⟨0, helpText, none⟩
  | .version => ⟨0, versionText, none⟩
  | .misuse => ⟨2, "", none⟩
  | .run o =>
    match run preset s o with
    | .ok text => ⟨0, text, none⟩
    | .error e => ⟨1, "", some e⟩

def neededFiles (settings : Settings) : Request → List String
  | .run o => (o.schema.or settings.schema).toList ++ o.files
  | _ => []

end PageExtract.Command
