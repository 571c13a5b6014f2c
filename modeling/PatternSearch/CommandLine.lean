import PatternSearch.Run

/-!
# The command line

A command is what the program does with its arguments: the bytes that it writes to the standard
output and to the standard error, and its exit code. Bad arguments and bad patterns are reported on
the standard error and end with exit code 2, as does a run that is stopped.
-/
namespace PatternSearch

/-- How the program is used. -/
def usage : String := "usage: " ++ programName ++ " [-r] -E <pattern> [PATH...]"

/-- The exit code of a command that cannot be carried out. -/
def failureCode : Nat := 2

/-- What a command does. -/
structure CommandResult where
  /-- Its exit code. -/
  code : Nat
  /-- The bytes on the standard output. -/
  stdout : Bytes
  /-- The bytes on the standard error. -/
  stderr : Bytes
  deriving DecidableEq

namespace CommandResult

/-- A command that is given up with a message. -/
def failure (message : String) : CommandResult := ⟨failureCode, [], programLine message⟩

/-- A command whose arguments make no sense: the usage follows the message. -/
def misuse (error : UsageError) : CommandResult :=
  ⟨failureCode, [], programLine error.message ++ messageBytes (usage ++ "\n")⟩

/-- A command that ran a search. -/
def ofRun : Except StoppedRun Run → CommandResult
  | .ok run => ⟨run.summary.exitCode, run.output.contents, run.diagnostics.contents⟩
  | .error stopped =>
    ⟨failureCode, stopped.output.contents,
      stopped.diagnostics.contents ++ programLine stopped.cause.message⟩

end CommandResult

/-- Carry out options that have been read. -/
def Options.execute (options : Options) (workspace : Workspace) (input : InputStream) :
    CommandResult :=
  match Pattern.compile options.pattern with
  | .error error => .failure error.message
  | .ok pattern => .ofRun (runSearch pattern options workspace input .unlimited .unlimited)

/-- Carry out a command, given its arguments, what is found at paths, and the standard input. -/
def execute (arguments : List Text) (workspace : Workspace) (input : InputStream) :
    CommandResult :=
  match Options.parse arguments with
  | .error error => .misuse error
  | .ok options => options.execute workspace input

end PatternSearch
