import PatternSearch.Files.Workspace
import PatternSearch.InputStream
import PatternSearch.Options
import PatternSearch.Search

/-!
# Runs

A run searches the standard input, or one path after another. A path or file that cannot be used
costs one diagnostic line and counts as an error, and the run goes on. Only a failed write, or a
failure of the standard input, stops it.
-/
namespace PatternSearch

/-- The bytes of the text of a message. -/
def messageBytes (message : String) : Bytes := Utf8.encode message.toList

/-- The name by which the program speaks of itself. -/
def programName : String := "tinygrep"

/-- A message as the program writes it on a line of its own. -/
def programLine (message : String) : Bytes := messageBytes (programName ++ ": " ++ message ++ "\n")

/-- Totals of a run. -/
structure Summary where
  /-- The number of lines printed. -/
  matchedLines : Nat
  /-- The number of paths and files that could not be used. -/
  errors : Nat
  deriving DecidableEq, Repr

/-- The exit code of a run: 2 after an error, 0 when lines were printed, and 1 when none were. -/
def Summary.exitCode (summary : Summary) : Nat :=
  if 0 < summary.errors then 2 else if 0 < summary.matchedLines then 0 else 1

/-- What a run has done so far. -/
structure Run where
  /-- The totals. -/
  summary : Summary
  /-- The sink of printed lines. -/
  output : Sink
  /-- The sink of diagnostic lines. -/
  diagnostics : Sink
  deriving DecidableEq

/-- Why a run is stopped. -/
inductive StopCause where
  /-- The standard input cannot be read. -/
  | reading (error : InputError)
  /-- A line of the standard input cannot be printed. -/
  | printing
  /-- A line of a file cannot be printed. -/
  | printingFile
  /-- A diagnostic line cannot be written. -/
  | reporting
  deriving DecidableEq, Repr

/-- The cause in words. -/
def StopCause.message : StopCause → String
  | .reading error => error.message
  | .printing => Sink.failureMessage
  | .printingFile => "error writing output: " ++ Sink.failureMessage
  | .reporting => "error writing diagnostics: " ++ Sink.failureMessage

/-- A run that was stopped. -/
structure StoppedRun where
  /-- Why it was stopped. -/
  cause : StopCause
  /-- The sink of printed lines, as far as it came. -/
  output : Sink
  /-- The sink of diagnostic lines, as far as it came. -/
  diagnostics : Sink
  deriving DecidableEq

namespace Run

/-- A run that has done nothing yet. -/
def start (output diagnostics : Sink) : Run := ⟨⟨0, 0⟩, output, diagnostics⟩

/-- Report a path that cannot be used, and count the error. -/
def report (run : Run) (error : PathError) : Except StoppedRun Run :=
  match run.diagnostics.write (programLine error.message) with
  | .ok diagnostics =>
    .ok ⟨{ run.summary with errors := run.summary.errors + 1 }, run.output, diagnostics⟩
  | .error diagnostics =>
    .error ⟨.reporting, run.output, diagnostics⟩

/-- Search a buffer, and count the lines printed. A failed write stops the run for the cause given.
-/
def search (run : Run) (pattern : Pattern) (buffer : Bytes) (label : Option Text)
    (cause : StopCause) : Except StoppedRun Run :=
  match searchLines pattern buffer label run.output with
  | .ok searched =>
    .ok ⟨{ run.summary with
        matchedLines := run.summary.matchedLines + searched.matchedLines },
      searched.sink, run.diagnostics⟩
  | .error output => .error ⟨cause, output, run.diagnostics⟩

/-- Search a document, labelling the lines with its path if labels are wanted. -/
def searchDocument (pattern : Pattern) (labelled : Bool) (run : Run) (document : Document) :
    Except StoppedRun Run :=
  match document.read with
  | .ok buffer =>
    run.search pattern buffer (if labelled then some document.path.display else none) .printingFile
  | .error error => run.report error

/-- Search what there is at a path. -/
def searchPath (pattern : Pattern) (options : Options) (workspace : Workspace) (run : Run)
    (path : PathName) : Except StoppedRun Run :=
  match workspace.documents options.recursive path with
  | .ok documents => documents.foldlM (searchDocument pattern options.labelsLines) run
  | .error error => run.report error

end Run

/-- Search the paths that the options name or, if they name none, the standard input. -/
def runSearch (pattern : Pattern) (options : Options) (workspace : Workspace)
    (input : InputStream) (output diagnostics : Sink) : Except StoppedRun Run :=
  let run := Run.start output diagnostics
  if options.paths.isEmpty then
    match input.readAll with
    | .ok buffer => run.search pattern buffer none .printing
    | .error error => .error ⟨.reading error, output, diagnostics⟩
  else options.paths.foldlM (Run.searchPath pattern options workspace) run

end PatternSearch
