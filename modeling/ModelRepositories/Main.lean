import ModelRepositories.CommandLine

/-!
The program. Called without arguments it is the plugin and serves the requests on its standard
input; otherwise it is the tool. Scripts are carried out on the files of the machine.
-/

namespace ModelRepositories.Program

def faultOfCode? (code : UInt32) : Option AccessFault :=
  AccessFault.ofCode? (min code.toNat (0 - code).toNat)

def accessFault? : IO.Error → Option AccessFault
  | .noFileOrDirectory _ _ _ => some .notFound
  | .alreadyExists _ _ _ => some .alreadyExists
  | .inappropriateType _ code _ => faultOfCode? code
  | .invalidArgument _ code _ => faultOfCode? code
  | _ => none

def attempt {α : Type} (action : IO α) : IO (Except AccessFault α) := do
  try
    return .ok (← action)
  catch error =>
    match accessFault? error with
    | some fault => return .error fault
    | none => throw error

def writeEvent (log : IO.FS.Stream) (event : Event) : IO Unit := do
  if event.level ≠ .debug then
    let fields := event.fields.map fun (name, text) => " " ++ name ++ "=" ++ text
    log.putStrLn (event.level.name ++ " " ++ event.scope ++ ": " ++ event.message ++
      String.join fields)
    log.flush

def attemptAt {α : Type} (path : Path) (action : IO α) : IO (Except AccessFault α) := do
  match path.check with
  | .error fault => return .error fault
  | .ok () => attempt action

def onMachine (path : Path) :=
  (IO.FS.DirEntry.mk path.text "").root

/-- Removes what is there: a link itself, a directory with its contents. -/
partial def removeEntry (entry : IO.FS.DirEntry) : IO Unit := do
  match (← entry.path.symlinkMetadata).type with
  | .dir =>
    for inner in ← entry.path.readDir do removeEntry inner
    IO.FS.removeDir entry.path
  | _ => IO.FS.removeFile entry.path

def contents (place : Path) : IO (Array IO.FS.DirEntry) := do
  let direct ← try IO.FS.realPath place.text catch _ => pure (onMachine place)
  direct.readDir

/-- A directory that its path no longer leads to without its contents stays, and stays empty. -/
def removeAt (place : Path) : IO Unit := do
  match (← (onMachine place).symlinkMetadata).type with
  | .dir =>
    for entry in ← contents place do removeEntry entry
    try IO.FS.removeDir place.text
    catch
      | .noFileOrDirectory _ _ _ => return ()
      | error => throw error
  | _ => IO.FS.removeFile place.text

def listDirectory (path : Path) : IO (Except AccessFault (List String)) :=
  attemptAt path do
    return (← (onMachine path).readDir).toList.map (·.fileName)

def directoriesAbove (path : Path) : List Path :=
  let root := if path.isAbsolute then "/" else ""
  path.above.map fun names => ⟨root ++ "/".intercalate names⟩

def readText (path : Path) : IO (Except AccessFault String) := do
  match ← attemptAt path (IO.FS.readBinFile path.text) with
  | .error fault => return .error fault
  | .ok content => return (String.fromUTF8? content).elim (.error .notText) .ok

def machine (log : IO.FS.Stream) : Machine IO where
  report := writeEvent log
  makeDirectories path :=
    makeWhole (fun place => attempt (IO.FS.createDir place.text))
      (fun place => (onMachine place).isDir) (path :: directoriesAbove path) path
  emptyDirectory := removeListed listDirectory fun place => attemptAt place (removeAt place)
  write path content := attemptAt path (IO.FS.writeFile path.text content)
  readText := readText

def environmentOf (names : List String) : IO Environment := do
  let pairs ← names.filterMapM fun name => do
    return (← IO.getEnv name).map fun text => (name, text)
  return ⟨pairs⟩

def respond (log : IO.FS.Stream) (request : Protocol.Request) : IO Protocol.Response := do
  request.answer (machine log) (← environmentOf request.variableNames)

partial def takeLine (input : IO.FS.Stream) (line : ByteArray) : IO ByteArray := do
  let next ← input.read 1
  let line := line ++ next
  if next.isEmpty || next.data[0]? == some Protocol.lineFeed then return line
  takeLine input line

def send (answers : IO.FS.Stream) (bytes : Protocol.Bytes) : IO (Except Failure Unit) := do
  answers.write ⟨bytes.toArray⟩
  answers.flush
  return .ok ()

partial def serve (input log answers : IO.FS.Stream) : IO (Except Failure Unit) := do
  let taken ← takeLine input ByteArray.empty
  if taken.isEmpty then return .ok ()
  match ← Protocol.answerLines (respond log) (send answers) (Protocol.lines taken.toList) with
  | .ok () => serve input log answers
  | .error failure => return .error failure

def finish (finished : CommandLine.Finished) : IO UInt32 := do
  (← IO.getStdout).putStr finished.output
  (← IO.getStderr).write ⟨finished.errors.toArray⟩
  return finished.exitCode.toUInt32

def plugin : IO UInt32 := do
  let ending ← serve (← IO.getStdin) (← IO.getStdout) (← IO.getStderr)
  finish (CommandLine.pluginFinished [] ending)

def tool (arguments : List String) : IO UInt32 := do
  finish (← CommandLine.tool (machine (← IO.getStderr)) arguments)

end ModelRepositories.Program

open ModelRepositories in
def main (arguments : List String) : IO UInt32 :=
  if arguments.isEmpty then Program.plugin else Program.tool arguments
