import PageExtract.Json.Value
import PageExtract.Tree

/-! What the command does unless it is told otherwise. -/
namespace PageExtract

structure Settings where
  logLevel : String
  pretty : Bool
  schema : Option String
deriving DecidableEq

inductive SettingsError where
  | unreadable (path : String)
  | malformed
deriving DecidableEq

def SettingsError.message : SettingsError → String
  | unreadable path => "Failed to read config file " ++ path
  | malformed => "Failed to parse config file"

namespace Settings

def path : String := ".config/wxport/config.toml"

def standard : Settings := ⟨"warn", false, none⟩

def fieldOr {α : Type} (read : Tree → Option α) (value : α) : Option Tree → Option α
  | none => some value
  | some t => read t

def ofTree? (t : Tree) : Option Settings := do
  let entries ← t.entries?
  let logLevel ← fieldOr Tree.text? standard.logLevel (← Tree.field? ["log_level"] entries)
  let pretty ← fieldOr Tree.boolean? standard.pretty (← Tree.field? ["pretty"] entries)
  let schema ← fieldOr (fun t => t.text?.map some) standard.schema (← Tree.field? ["schema"] entries)
  return ⟨logLevel, pretty, schema⟩

def load (content? : String → Option Tree) (bytes : Option ByteArray) : Except SettingsError Settings :=
  match bytes.bind String.fromUTF8? with
  | none => .error (.unreadable path)
  | some text =>
    match (content? text).bind ofTree? with
    | some settings => .ok settings
    | none => .error .malformed

/-- The settings of a file, or the standard settings if there is no file. -/
def loadIfPresent (content? : String → Option Tree) (bytes : Option ByteArray) :
    Except SettingsError Settings :=
  match bytes with
  | some bytes => load content? (some bytes)
  | none => .ok standard

def toJson (s : Settings) : Json.Value :=
  .object ([("log_level", .string s.logLevel), ("pretty", .boolean s.pretty)]
    ++ (s.schema.map fun path => ("schema", Json.Value.string path)).toList)

end Settings
end PageExtract
