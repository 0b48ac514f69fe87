import PageExtract.Command.Run

/-! The program reads the files that the command needs, and writes what it gives. -/

namespace PageExtract.Program

def readFile? (path : String) : IO (Option ByteArray) := do
  try
    return some (← IO.FS.readBinFile path)
  catch _ => return none

/-- The bytes of the settings. A file that is there but cannot be read counts as unsound. -/
def readSettings? : IO (Option ByteArray) := do
  match ← IO.getEnv "HOME" with
  | none => return none
  | some home => readFile? (home ++ "/" ++ Settings.path)

partial def readAll (stream : IO.FS.Stream) (found : ByteArray) : IO ByteArray := do
  let more ← stream.read 65536
  if more.isEmpty then return found else readAll stream (found ++ more)

def readInput? : IO (Option ByteArray) := do
  let stream ← IO.getStdin
  if ← stream.isTty then return none
  return some (← readAll stream ByteArray.empty)

def complaint (outcome : Command.Outcome) : Option String :=
  if outcome.code = 2 then some "error: invalid arguments"
  else outcome.failure.map fun e => "Error: " ++ e.message

def run (isLogFilter : String → Bool) (args : List String) : IO UInt32 := do
  let request := Command.Request.ofArguments args
  let settings ← readSettings?
  let configured := Command.settingsOf ⟨fun _ => none, settings, none, Notation.content?, isLogFilter⟩
  let files ← (Command.neededFiles configured request).mapM fun path => do
    return (path, ← readFile? path)
  let needsInput := match request with
    | .run o => o.files.isEmpty
    | _ => false
  let input ← if needsInput then readInput? else pure none
  let preset ← IO.getEnv "RUST_LOG"
  let surroundings : Command.Surroundings :=
    ⟨fun path => (files.lookup path).join, settings, input, Notation.content?, isLogFilter⟩
  let outcome := Command.answerIn preset surroundings request
  (← IO.getStdout).putStr outcome.output
  match complaint outcome with
  | some text => (← IO.getStderr).putStrLn text
  | none => pure ()
  return outcome.code.toUInt32

end PageExtract.Program
