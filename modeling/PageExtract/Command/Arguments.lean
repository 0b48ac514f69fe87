/-! The arguments of the command. Options have long and short names and come in any order with the
paths of pages. Each is given once at most. -/
namespace PageExtract.Command

structure Options where
  files : List String
  schema : Option String
  url : Option String
  pretty : Bool
  logLevel : Option String
deriving DecidableEq

def Options.none : Options := ⟨[], .none, .none, false, .none⟩

inductive Request where
  | run (o : Options)
  | help
  | version
  | misuse
deriving DecidableEq

inductive Flag where
  | pretty
  | help
  | version
deriving DecidableEq

inductive Setting where
  | schema
  | url
  | logLevel
deriving DecidableEq

def Flag.ofLong? (name : String) : Option Flag :=
  if name = "pretty" then some pretty
  else if name = "help" then some help
  else if name = "version" then some version
  else none

def Flag.ofShort? : Char → Option Flag
  | 'p' => some pretty
  | 'h' => some help
  | 'V' => some version
  | _ => none

def Setting.ofLong? (name : String) : Option Setting :=
  if name = "schema" then some schema
  else if name = "url" then some url
  else if name = "log-level" then some logLevel
  else none

def Setting.ofShort? : Char → Option Setting
  | 's' => some schema
  | 'u' => some url
  | _ => none

namespace Options

def addFile (o : Options) (path : String) : Option Options :=
  if path.isEmpty then .none else some { o with files := o.files ++ [path] }

/-- Gives a setting its value. Only a path is never empty. -/
def put (o : Options) (setting : Setting) (value : String) : Option Options :=
  match setting with
  | .schema =>
    if o.schema.isSome || value.isEmpty then .none else some { o with schema := some value }
  | .url => if o.url.isSome then .none else some { o with url := some value }
  | .logLevel => if o.logLevel.isSome then .none else some { o with logLevel := some value }

end Options

/-- An argument that names options. A lone hyphen does not. -/
def isOption (arg : String) : Bool := arg.startsWith "-" && arg != "-"

inductive Progress where
  | done (o : Options)
  | awaiting (setting : Setting) (o : Options)
  | stop (r : Request)

def Progress.ofStep : Option Options → Progress
  | some o => done o
  | none => stop .misuse

def raise (flag : Flag) (o : Options) : Progress :=
  match flag with
  | .pretty => if o.pretty then .stop .misuse else .done { o with pretty := true }
  | .help => .stop .help
  | .version => .stop .version

/-- Letters after one hyphen. A setting takes the rest of them for its value, without an equals sign
in front. -/
def shortOptions (o : Options) : List Char → Progress
  | [] => .done o
  | c :: rest =>
    match Flag.ofShort? c, Setting.ofShort? c with
    | some flag, _ =>
      match raise flag o with
      | .done o => shortOptions o rest
      | other => other
    | none, some setting =>
      match rest with
      | [] => .awaiting setting o
      | '=' :: value => .ofStep (o.put setting (String.ofList value))
      | value => .ofStep (o.put setting (String.ofList value))
    | none, none => .stop .misuse

def longOption (o : Options) (text : List Char) : Progress :=
  let name := String.ofList (text.takeWhile (· != '='))
  let value := (text.dropWhile (· != '=')).drop 1
  let hasValue := text.contains '='
  match Flag.ofLong? name, Setting.ofLong? name with
  | some flag, _ => if hasValue then .stop .misuse else raise flag o
  | none, some setting =>
    if hasValue then .ofStep (o.put setting (String.ofList value)) else .awaiting setting o
  | none, none => .stop .misuse

def argument (o : Options) (arg : String) : Progress :=
  match arg.toList with
  | '-' :: '-' :: text => longOption o text
  | '-' :: c :: rest => shortOptions o (c :: rest)
  | _ => .ofStep (o.addFile arg)

def onlyFiles (o : Options) (args : List String) : Request :=
  match args.foldlM Options.addFile o with
  | some o => .run o
  | none => .misuse

/-- The arguments from left to right. After two hyphens alone all of them are paths. -/
def requestFrom (o : Options) : List String → Request
  | [] => .run o
  | arg :: rest =>
    if arg = "--" then onlyFiles o rest
    else
      match argument o arg with
      | .stop r => r
      | .done o => requestFrom o rest
      | .awaiting setting o =>
        match rest with
        | value :: after =>
          if isOption value then .misuse
          else
            match o.put setting value with
            | some o => requestFrom o after
            | none => .misuse
        | [] => .misuse

def Request.ofArguments (args : List String) : Request := requestFrom .none args

end PageExtract.Command
