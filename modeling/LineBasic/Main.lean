import LineBasic.CommandLine

/-!
# The program

The outer layer: it looks at the file, reads the lines of a session one by one
and writes what the library answers.
-/

namespace LineBasic

/-- The error code of reading a directory as a file. Reading through a file as
if it were a directory has another one. -/
def directoryCode : UInt32 := 21

/-- What stands at a path of the file system. Nothing stands at a path that is
too long to be looked up. -/
def entryAt (path : String) : IO Entry := do
  try
    return .file (← IO.FS.readBinFile path).toList
  catch
    | .noFileOrDirectory .. => return .missing
    | .invalidArgument .. => return .missing
    | .inappropriateType _ code _ =>
      return if code = directoryCode then .directory else .missing
    | error => return .unreadable (toString error)

/-- Writes what a process leaves behind and gives its exit code. -/
def finish (completion : Completion) : IO UInt32 := do
  let output ← IO.getStdout
  output.write (completion.output.toByteArray)
  output.flush
  IO.eprint completion.errors
  return completion.code.toUInt32

/-- Writes a text at once. -/
def say (text : Text) : IO Unit := do
  let output ← IO.getStdout
  output.putStr (String.ofList text)
  output.flush

/-- Reads a line with its line feed after the bytes already read of it. It is
empty at the end of the input. -/
partial def readLine (input : IO.FS.Stream) (sofar : ByteArray) : IO ByteArray := do
  let piece ← input.read 1
  let line := sofar ++ piece
  if piece.isEmpty || piece.data.contains lineFeed then return line
  readLine input line

/-- Holds a session over standard input. -/
partial def holdSession (quiet : Bool) (store : Store) : IO Unit := do
  say (Session.decoration quiet Session.prompt)
  let line ← readLine (← IO.getStdin) .empty
  if line.isEmpty then
    say (Session.decoration quiet Session.Ending.endOfInput.farewell)
  else
    match Session.turn store (decode? line.toList) with
    | .stop ending =>
      say (Session.decoration quiet ending.farewell)
      IO.eprint (Session.errorText ⟨[], [], ending⟩)
    | .answer store output diagnostic =>
      say output
      IO.eprint (Session.errorText ⟨[], diagnostic.toList, .endOfInput⟩)
      holdSession quiet store

/-- Runs a file or holds a session, as the arguments ask. -/
def serve (arguments : List String) : IO UInt32 := do
  let arguments := arguments.map String.toList
  match Request.ofArguments arguments with
  | .ok (.run options) =>
    match options.file, options.interactive with
    | some path, false =>
      finish (CommandLine.runFile path (← entryAt (String.ofList path)))
    | _, _ =>
      say (Session.decoration options.quiet Session.banner)
      holdSession options.quiet .empty
      return 0
  | _ => finish (CommandLine.complete (fun _ => .missing) [] arguments)

end LineBasic

def main (arguments : List String) : IO UInt32 := LineBasic.serve arguments
