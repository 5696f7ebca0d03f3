import LineBasic.Directory
import LineBasic.ErrorStream

/-!
# The command line

    minibasic [OPTIONS] [FILE]

With a file, its lines are run; without one, or with `--interactive`, a session
is held. Options and the file may come in any order. Arguments are read from
left to right, and the first mistake, or the first request for help or for the
version, settles the matter.
-/

namespace LineBasic

/-- The four options. -/
inductive Flag
  | interactive
  | quiet
  | help
  | version
  deriving DecidableEq, Repr

namespace Flag

/-- The option of one letter. -/
def ofLetter? : Char → Option Flag
  | 'i' => some interactive
  | 'q' => some quiet
  | 'h' => some help
  | 'V' => some version
  | _ => none

/-- The long name of an option. -/
def name : Flag → String
  | interactive => "interactive"
  | quiet => "quiet"
  | help => "help"
  | version => "version"

/-- The option with a long name. Names are not abbreviated. -/
def ofName? (text : Text) : Option Flag :=
  [interactive, quiet, help, version].find? fun flag => flag.name.toList == text

end Flag

/-- What a well-formed command line settles. -/
structure Options where
  file : Option Text
  interactive : Bool
  quiet : Bool
  deriving DecidableEq, Repr

namespace Options

/-- Nothing is asked for. -/
def initial : Options := ⟨none, false, false⟩

end Options

/-- What a command line asks for. -/
inductive Request
  | help
  | version
  | run (options : Options)
  deriving DecidableEq, Repr

/-- What is wrong with a command line. -/
inductive UsageError
  | repeatedFlag (flag : Flag)
  | unexpectedValue (flag : Flag) (value : Text)
  | unknownOption (option : Text)
  | extraFile (argument : Text)
  deriving DecidableEq, Repr

namespace UsageError

/-- The sentence that reports a usage error, and a tip where there is one. -/
def message : UsageError → String
  | repeatedFlag flag =>
    "the argument '--" ++ flag.name ++ "' cannot be used multiple times"
  | unexpectedValue flag value =>
    "unexpected value '" ++ String.ofList value ++ "' for '--" ++ flag.name
      ++ "' found; no more were expected"
  | unknownOption option =>
    let shown := String.ofList option
    "unexpected argument '" ++ shown ++ "' found\n\n  tip: to pass '" ++ shown
      ++ "' as a value, use '-- " ++ shown ++ "'"
  | extraFile argument => "unexpected argument '" ++ String.ofList argument ++ "' found"

end UsageError

/-! ## Reading arguments -/

namespace Options

/-- What an argument leaves to do: more arguments, or nothing. -/
inductive Progress
  | more (options : Options)
  | settled (request : Request)

/-- Takes an option. An option that changes something can be given once. -/
def takeFlag (options : Options) : Flag → Except UsageError Progress
  | .help => .ok (.settled .help)
  | .version => .ok (.settled .version)
  | .interactive =>
    if options.interactive then .error (.repeatedFlag .interactive)
    else .ok (.more { options with interactive := true })
  | .quiet =>
    if options.quiet then .error (.repeatedFlag .quiet)
    else .ok (.more { options with quiet := true })

/-- Takes options of one letter each, written together. -/
def takeLetters (options : Options) : Text → Except UsageError Progress
  | [] => .ok (.more options)
  | letter :: later =>
    match Flag.ofLetter? letter with
    | none => .error (.unknownOption ['-', letter])
    | some flag =>
      match options.takeFlag flag with
      | .ok (.more options) => options.takeLetters later
      | other => other

/-- Takes an option by its long name. No option has a value. -/
def takeName (options : Options) (text : Text) : Except UsageError Progress :=
  let name := text.takeWhile (· != '=')
  match Flag.ofName? name, text.dropWhile (· != '=') with
  | none, _ => .error (.unknownOption ('-' :: '-' :: name))
  | some flag, [] => options.takeFlag flag
  | some flag, _ :: value => .error (.unexpectedValue flag value)

/-- Takes the file. -/
def takeFile (options : Options) (argument : Text) : Except UsageError Progress :=
  if options.file.isSome then .error (.extraFile argument)
  else .ok (.more { options with file := some argument })

/-- Takes one argument. A single dash is a file. -/
def takeArgument (options : Options) : Text → Except UsageError Progress
  | '-' :: '-' :: name => options.takeName name
  | '-' :: letter :: letters => options.takeLetters (letter :: letters)
  | argument => options.takeFile argument

/-- Reads arguments. After a double dash everything is a file. -/
def read (options : Options) (onlyFiles : Bool) : List Text → Except UsageError Request
  | [] => .ok (.run options)
  | argument :: later =>
    if !onlyFiles && argument = ['-', '-'] then options.read true later
    else
      let taken :=
        if onlyFiles then options.takeFile argument else options.takeArgument argument
      match taken with
      | .error error => .error error
      | .ok (.settled request) => .ok request
      | .ok (.more options) => options.read onlyFiles later

end Options

/-- Reads a command line. -/
def Request.ofArguments (arguments : List Text) : Except UsageError Request :=
  Options.initial.read false arguments

/-! ## Doing what is asked -/

/-- What a process leaves behind. -/
structure Completion where
  code : Nat
  output : Bytes
  errors : String

namespace CommandLine

/-- The answer to a request for the version. -/
def versionText : String := "minibasic 0.1.0\n"

/-- How the program is called. -/
def usage : String := "Usage: minibasic [OPTIONS] [FILE]\n"

/-- The answer to a request for help. -/
def helpText : String :=
  "A line-oriented interpreter for a tiny BASIC with LET and PRINT\n\n"
    ++ usage ++ "\n"
    ++ "Arguments:\n"
    ++ "  [FILE]  Source file to execute, one statement per line\n\n"
    ++ "Options:\n"
    ++ "  -i, --interactive  Start in interactive REPL mode\n"
    ++ "  -q, --quiet        Do not print the REPL banner or prompt\n"
    ++ "  -h, --help         Print help\n"
    ++ "  -V, --version      Print version\n"

/-- The report of a usage error. -/
def usageText (error : UsageError) : String :=
  "error: " ++ error.message ++ "\n\n" ++ usage ++ "\nFor more information, try '--help'.\n"

/-- A process that only says what went wrong. -/
def failed (errors : String) : Completion := ⟨1, [], errors⟩

/-- Runs the program in a file. The whole file must be text before any line of
it is run. -/
def runFile (path : Text) (entry : Entry) : Completion :=
  let shown := "'" ++ String.ofList path ++ "'"
  match entry with
  | .missing => failed ("Error: File " ++ shown ++ " not found\n")
  | .unreadable reason => failed ("Error reading file " ++ shown ++ ": " ++ reason ++ "\n")
  | .file contents =>
    match decode? contents with
    | none =>
      failed ("Error reading file " ++ shown ++ ": " ++ RunError.invalidText.message ++ "\n")
    | some _ =>
      let run := Program.run .unlimited contents
      match run.outcome with
      | .ok failures =>
        ⟨if failures = 0 then 0 else 1, run.output, run.errorText path⟩
      | .error error =>
        ⟨1, run.output,
          run.errorText path ++ "Error writing output: " ++ error.message ++ "\n"⟩

/-- Holds a session. It always succeeds. -/
def holdSession (quiet : Bool) (input : Bytes) : Completion :=
  let session := Session.converse quiet input
  ⟨0, encode session.output, session.errorText⟩

/-- Does what the options say. A file is run unless a session is asked for. -/
def perform (find : Text → Entry) (input : Bytes) (options : Options) : Completion :=
  match options.file with
  | some path =>
    if options.interactive then holdSession options.quiet input else runFile path (find path)
  | none => holdSession options.quiet input

/-- The whole process: what paths lead to, standard input and arguments in,
exit code and both output streams out. -/
def complete (find : Text → Entry) (input : Bytes) (arguments : List Text) : Completion :=
  match Request.ofArguments arguments with
  | .error error => ⟨2, [], usageText error⟩
  | .ok .help => ⟨0, encode helpText.toList, ""⟩
  | .ok .version => ⟨0, encode versionText.toList, ""⟩
  | .ok (.run options) => perform find input options

end CommandLine

end LineBasic
