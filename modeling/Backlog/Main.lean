import Backlog.Program

set_option relaxedAutoImplicit false
set_option autoImplicit false

/-!
# The command line

The program on a machine: the tree below the path is loaded, as far as the search looks at it, and
the session reads standard input line by line.

## Main definitions

* `main` — the entry point.
-/

namespace Backlog

/-! ## Files -/

/-- The entries of a directory that the search looks at. What cannot be read is left out. -/
partial def loadEntries (search : Search) (path : String) : IO Entries := do
  let found ← try (← IO.FS.realPath path).readDir catch _ => pure #[]
  let loaded ← found.toList.mapM fun entry => do
    let name := entry.fileName.toList
    try
      match (← entry.path.symlinkMetadata).type with
      | .dir =>
        if search.passesOver name then return none
        return some (name, Node.directory (← loadEntries search entry.path.toString))
      | .file =>
        if (search.stem? name).isNone then return none
        return some (name, Node.file (← IO.FS.readBinFile entry.path).toList)
      | _ => return none
    catch _ => return none
  return loaded.filterMap id

/-- Where a path leads to, without links on the way, and whether there is a directory. -/
def locate (path : String) : IO (String × Bool) := do
  let isDirectory := (← ((← IO.FS.realPath ".") / path).metadata).type == .dir
  return ((← IO.FS.realPath path).toString, isDirectory)

/-- The wording of what kept a path from being resolved. -/
def causeOf : IO.Error → Text
  | .noFileOrDirectory .. => (PathFault.missing [] []).message
  | .inappropriateType .. => PathFault.notDirectory.message
  | error@(.invalidArgument _ code _) =>
    if code + 36 = 0 then PathFault.nameTooLong.message
    else if code + 40 = 0 then PathFault.tooManyLinks.message
    else (toString error).toList
  | error => (toString error).toList

/-! ## Input and output -/

/-- The bytes of the next line, with its terminator, after those in `line`. -/
partial def readLine (input : IO.FS.Stream) (line : ByteArray) : IO ByteArray := do
  let byte ← input.read 1
  if byte.isEmpty then return line
  if byte.data[0]? = some 0x0A then return line ++ byte
  readLine input (line ++ byte)

/-- Answers the lines of the input until the session ends, and tells whether all were UTF-8. -/
partial def attend (coloured : Bool) (input output : IO.FS.Stream) (todos : List Todo) :
    IO Bool := do
  let line ← readLine input .empty
  if line.isEmpty then return true
  match Text.ofUtf8? (Session.withoutTerminator line.toList) with
  | none => return false
  | some line =>
    match Session.answer todos line with
    | (_, .farewell) => return true
    | (todos, reply) =>
      output.putStr (String.ofList (reply.written coloured))
      output.flush
      attend coloured input output todos

/-- Prints an outcome and gives its exit code. -/
def conclude (outcome : Outcome) : IO UInt32 := do
  IO.print (String.ofList outcome.output)
  match outcome.report? with
  | some report => IO.eprint (String.ofList report)
  | none => pure ()
  return outcome.exitCode.toUInt32

/-- Holds a session over the todos, whose replies are printed as they come. -/
def hold (todos : List Todo) : IO UInt32 := do
  let output ← IO.getStdout
  let coloured := (← output.isTty) && (← IO.getEnv "NO_COLOR").isNone
  output.putStr (String.ofList greeting)
  output.flush
  let complete ← attend coloured (← IO.getStdin) output todos
  conclude (Program.ended ⟨[], todos, complete⟩)

/-- Searches the directory that the configuration names, and holds a session. -/
def searchAndHold (configuration : Configuration) : IO UInt32 := do
  match ← (locate (String.ofList configuration.path)).toBaseIO with
  | .error error => conclude (Program.lost configuration.path (causeOf error))
  | .ok (place, false) => conclude (Program.notSearchable place.toList)
  | .ok (place, true) =>
    let search := configuration.search
    let found := search.ofDirectory place.toList (← loadEntries search place)
    if configuration.verbose then
      IO.eprintln (s!"{found.todos.length} todos, {found.scanned} files read, " ++
        s!"{found.skipped} skipped")
    hold found.todos

end Backlog

/-- The entry point of the program. -/
def main (arguments : List String) : IO UInt32 :=
  match Backlog.Configuration.read (arguments.map String.toList) with
  | .error interruption => Backlog.conclude (Backlog.Program.interrupted interruption)
  | .ok configuration => Backlog.searchAndHold configuration
