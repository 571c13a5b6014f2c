import Mathlib.Algebra.Ring.Nat
import PatternSearch.Proofs.Diagnostics
import PatternSearch.Proofs.Filtering

/-!
# Runs over several paths

A run visits files one after another: it reads each file that its paths lead to, or meets an error there
(`Workspace.visits`). With sinks that take everything, what a run does is told by its visits alone. A file
adds its matching lines to the output, an error adds one line to the diagnostics, and neither adds anything
else (`Run.after`, `runSearch_unlimited`).

The visits of several paths are those of each path, one after another. So a run is the sum of its parts,
and an error changes nothing of what is written for the other visits (`runSearch_append`). Whether lines are
labelled depends on all the paths, so the parts must agree on it with the whole.
-/
namespace PatternSearch

/-- What a run meets on its way: a file that it reads, or an error. -/
inductive Visit where
  /-- A file at a path, with its contents. -/
  | file (path : PathName) (contents : Bytes)
  /-- A path, or a file below it, that cannot be used. -/
  | failure (error : PathError)

namespace Visit

/-- The pieces that are printed for a visit. -/
def pieces (pattern : Pattern) (labelled : Bool) : Visit → List Bytes
  | .file path contents =>
    (pattern.matchingLines contents).flatMap (printedPieces (if labelled then some path.display else none))
  | .failure _ => []

/-- The number of lines that are printed for a visit. -/
def matchedLines (pattern : Pattern) : Visit → Nat
  | .file _ contents => (pattern.matchingLines contents).length
  | .failure _ => 0

/-- The lines that report a visit. -/
def reports : Visit → List Bytes
  | .file _ _ => []
  | .failure error => [programLine error.message]

/-- The number of errors of a visit. -/
def errors : Visit → Nat
  | .file _ _ => 0
  | .failure _ => 1

end Visit

/-- The visit of a document. -/
def Document.visit (document : Document) : Visit :=
  match document.read with
  | .ok contents => .file document.path contents
  | .error error => .failure error

/-- The visits that a search of a path makes. -/
def Workspace.visits (workspace : Workspace) (recursive : Bool) (path : PathName) : List Visit :=
  match workspace.documents recursive path with
  | .ok documents => documents.map Document.visit
  | .error error => [.failure error]

namespace Run

/-- Both sinks of the run take everything. -/
structure Unlimited (run : Run) : Prop where
  /-- So does the sink of printed lines. -/
  output : run.output.room = none
  /-- So does the sink of diagnostic lines. -/
  diagnostics : run.diagnostics.room = none

/-- The run after further visits, with sinks that take everything. -/
def after (pattern : Pattern) (labelled : Bool) (run : Run) (visits : List Visit) : Run :=
  ⟨⟨run.summary.matchedLines + (visits.map (Visit.matchedLines pattern)).sum,
      run.summary.errors + (visits.map Visit.errors).sum⟩,
    ⟨none, (visits.flatMap (Visit.pieces pattern labelled)).reverse ++ run.output.pieces⟩,
    ⟨none, (visits.flatMap Visit.reports).reverse ++ run.diagnostics.pieces⟩⟩

variable {pattern : Pattern} {labelled : Bool} {run : Run}

/-- Visits leave sinks that take everything. -/
theorem unlimited_after (run : Run) (visits : List Visit) :
    (run.after pattern labelled visits).Unlimited := ⟨rfl, rfl⟩

/-- A run whose sinks take everything has a summary and the pieces that were written. -/
theorem Unlimited.exists_eq (unlimited : run.Unlimited) :
    ∃ summary printed reported, run = ⟨summary, ⟨none, printed⟩, ⟨none, reported⟩⟩ := by
  obtain ⟨summary, ⟨room, printed⟩, ⟨room', reported⟩⟩ := run
  obtain ⟨output, diagnostics⟩ := unlimited
  cases output
  cases diagnostics
  exact ⟨summary, printed, reported, rfl⟩

/-- Without visits nothing happens. -/
theorem after_nil (unlimited : run.Unlimited) : run.after pattern labelled [] = run := by
  obtain ⟨summary, printed, reported, rfl⟩ := unlimited.exists_eq
  rfl

/-- Visits in two parts are made part by part. -/
theorem after_append (run : Run) (first second : List Visit) :
    run.after pattern labelled (first ++ second) =
      (run.after pattern labelled first).after pattern labelled second := by
  unfold after
  simp only [List.map_append, List.sum_append, List.flatMap_append, List.reverse_append,
    List.append_assoc, Nat.add_assoc]

/-- A loop whose steps make visits makes the visits of all its steps. -/
theorem foldlM_eq_after {Place : Type} {step : Run → Place → Except StoppedRun Run}
    {visits : Place → List Visit}
    (each : ∀ (run : Run) place, run.Unlimited →
      step run place = .ok (run.after pattern labelled (visits place)))
    (places : List Place) (unlimited : run.Unlimited) :
    places.foldlM step run = .ok (run.after pattern labelled (places.flatMap visits)) := by
  induction places generalizing run with
  | nil =>
    rw [List.flatMap_nil, after_nil unlimited]
    rfl
  | cons place rest ih =>
    rw [List.foldlM_cons, each run place unlimited, List.flatMap_cons, after_append]
    -- After the visits of a step the sinks still take everything, which is all that the next step needs.
    exact ih (unlimited_after run (visits place))

/-- Reporting an error is visiting it. -/
theorem report_unlimited (unlimited : run.Unlimited) (error : PathError) :
    run.report error = .ok (run.after pattern labelled [.failure error]) := by
  obtain ⟨summary, printed, reported, rfl⟩ := unlimited.exists_eq
  rfl

/-- Searching a document is visiting it. -/
theorem searchDocument_unlimited (unlimited : run.Unlimited) (document : Document) :
    run.searchDocument pattern labelled document =
      .ok (run.after pattern labelled [document.visit]) := by
  unfold searchDocument Document.visit
  cases document.read with
  | error error => exact report_unlimited unlimited error
  | ok contents =>
    obtain ⟨summary, printed, reported, rfl⟩ := unlimited.exists_eq
    simp only [search, searchLines_unlimited, after, printedTo, List.flatMap_singleton, List.map_cons,
      List.map_nil, List.sum_cons, List.sum_nil, Visit.matchedLines, Visit.errors, Visit.pieces,
      Visit.reports, Nat.add_zero, List.reverse_nil, List.nil_append]

/-- Searching a path is making its visits. -/
theorem searchPath_unlimited (unlimited : run.Unlimited) (options : Options) (workspace : Workspace)
    (path : PathName) :
    run.searchPath pattern options workspace path =
      .ok (run.after pattern options.labelsLines (workspace.visits options.recursive path)) := by
  unfold searchPath Workspace.visits
  cases workspace.documents options.recursive path with
  | error error => exact report_unlimited unlimited error
  | ok documents =>
    have searched := foldlM_eq_after (fun _ document unlimited =>
      @searchDocument_unlimited pattern options.labelsLines _ unlimited document) documents unlimited
    rw [← List.map_eq_flatMap] at searched
    exact searched

/-- A run that began with empty sinks and has made some visits. -/
def visiting (pattern : Pattern) (labelled : Bool) (visits : List Visit) : Run :=
  (start .unlimited .unlimited).after pattern labelled visits

end Run

/-- With sinks that take everything, a run over paths makes the visits of each path in turn. -/
theorem runSearch_unlimited (pattern : Pattern) (options : Options) (workspace : Workspace)
    (input : InputStream) (several : options.paths ≠ []) :
    runSearch pattern options workspace input .unlimited .unlimited =
      .ok (Run.visiting pattern options.labelsLines
        (options.paths.flatMap (workspace.visits options.recursive))) := by
  have named : options.paths.isEmpty = false := by
    rw [List.isEmpty_eq_false_iff]
    exact several
  have begun : (Run.start .unlimited .unlimited).Unlimited := ⟨rfl, rfl⟩
  unfold runSearch
  simp only [named, Bool.false_eq_true, if_false]
  exact Run.foldlM_eq_after (fun _ path unlimited =>
    Run.searchPath_unlimited unlimited options workspace path) options.paths begun

namespace Run

variable {pattern : Pattern} {labelled : Bool}

/-! ## Parts of a run -/

/-- What is printed for visits, in order. -/
theorem output_visiting (visits : List Visit) :
    (visiting pattern labelled visits).output.contents =
      (visits.flatMap (Visit.pieces pattern labelled)).flatten :=
  Sink.contents_append none [] _

/-- What is reported of visits, in order. -/
theorem diagnostics_visiting (visits : List Visit) :
    (visiting pattern labelled visits).diagnostics.contents =
      (visits.flatMap Visit.reports).flatten :=
  Sink.contents_append none [] _

/-- The matched lines of visits are counted together. -/
theorem matchedLines_visiting (visits : List Visit) :
    (visiting pattern labelled visits).summary.matchedLines =
      (visits.map (Visit.matchedLines pattern)).sum :=
  Nat.zero_add _

/-- So are their errors. -/
theorem errors_visiting (visits : List Visit) :
    (visiting pattern labelled visits).summary.errors = (visits.map Visit.errors).sum :=
  Nat.zero_add _

/-- A run is the sum of two others: it writes what they write, one after the other, and its totals are the
sums of theirs. -/
structure Joins (whole first second : Run) : Prop where
  /-- The printed lines of the second part follow those of the first one. -/
  output : whole.output.contents = first.output.contents ++ second.output.contents
  /-- So do the diagnostic lines. -/
  diagnostics : whole.diagnostics.contents = first.diagnostics.contents ++ second.diagnostics.contents
  /-- The lines printed are counted together. -/
  matchedLines : whole.summary.matchedLines = first.summary.matchedLines + second.summary.matchedLines
  /-- So are the errors. -/
  errors : whole.summary.errors = first.summary.errors + second.summary.errors
  /-- The exit code is 2 exactly when a part has an error. -/
  exitCode_two : whole.summary.exitCode = 2 ↔ 0 < first.summary.errors ∨ 0 < second.summary.errors
  /-- Otherwise it is 0 exactly when a part has a matching line. -/
  exitCode_zero : ¬ (0 < first.summary.errors ∨ 0 < second.summary.errors) →
    (whole.summary.exitCode = 0 ↔
      0 < first.summary.matchedLines ∨ 0 < second.summary.matchedLines)

/-- Visits in two parts make the sum of two runs. -/
theorem joins_visiting (first second : List Visit) :
    (visiting pattern labelled (first ++ second)).Joins (visiting pattern labelled first)
      (visiting pattern labelled second) := by
  have matched : (visiting pattern labelled (first ++ second)).summary.matchedLines =
      (visiting pattern labelled first).summary.matchedLines +
        (visiting pattern labelled second).summary.matchedLines := by
    rw [matchedLines_visiting, matchedLines_visiting, matchedLines_visiting, List.map_append,
      List.sum_append]
  have errors : (visiting pattern labelled (first ++ second)).summary.errors =
      (visiting pattern labelled first).summary.errors +
        (visiting pattern labelled second).summary.errors := by
    rw [errors_visiting, errors_visiting, errors_visiting, List.map_append, List.sum_append]
  constructor
  case output =>
    rw [output_visiting, output_visiting, output_visiting, List.flatMap_append, List.flatten_append]
  case diagnostics =>
    rw [diagnostics_visiting, diagnostics_visiting, diagnostics_visiting, List.flatMap_append,
      List.flatten_append]
  case matchedLines => exact matched
  case errors => exact errors
  case exitCode_two =>
    unfold Summary.exitCode
    rw [errors, matched]
    split
    · omega
    · split <;> omega
  case exitCode_zero =>
    intro none
    unfold Summary.exitCode
    rw [errors, matched, if_neg (by omega)]
    split <;> omega

/-- A run has one failure more than another one: that adds one line to the diagnostics and one error, and
nothing else is different. -/
structure FailsOnceMore (whole without : Run) (error : PathError) : Prop where
  /-- The printed lines are the same. -/
  output : whole.output.contents = without.output.contents
  /-- So is their number. -/
  matchedLines : whole.summary.matchedLines = without.summary.matchedLines
  /-- There is one error more. -/
  errors : whole.summary.errors = without.summary.errors + 1
  /-- The error is reported between the reports of what comes before and behind it. -/
  diagnostics : ∃ before behind, without.diagnostics.contents = before ++ behind ∧
    whole.diagnostics.contents = before ++ programLine error.message ++ behind
  /-- The report is one line, if the system describes the cause in one line. -/
  report : error.SingleLine → Bytes.IsLine (programLine error.message)

/-- A failure among visits is one failure more than without it. -/
theorem failsOnceMore_visiting (before behind : List Visit) (error : PathError) :
    (visiting pattern labelled (before ++ .failure error :: behind)).FailsOnceMore
      (visiting pattern labelled (before ++ behind)) error := by
  constructor
  case output =>
    rw [output_visiting, output_visiting, List.flatMap_append, List.flatMap_append, List.flatMap_cons]
    rfl
  case matchedLines =>
    rw [matchedLines_visiting, matchedLines_visiting, List.map_append, List.map_append, List.map_cons,
      List.sum_append, List.sum_append, List.sum_cons]
    change _ + (0 + _) = _
    omega
  case errors =>
    rw [errors_visiting, errors_visiting, List.map_append, List.map_append, List.map_cons,
      List.sum_append, List.sum_append, List.sum_cons]
    change _ + (1 + _) = _
    omega
  case diagnostics =>
    refine ⟨(before.flatMap Visit.reports).flatten, (behind.flatMap Visit.reports).flatten, ?_, ?_⟩
    · rw [diagnostics_visiting, List.flatMap_append, List.flatten_append]
    · have own : (Visit.failure error).reports.flatten = programLine error.message :=
        List.append_nil _
      rw [diagnostics_visiting, List.flatMap_append, List.flatMap_cons, List.flatten_append,
        List.flatten_append, own, List.append_assoc]
  case report => exact isLine_programLine

end Run

namespace Workspace

/-- A path at which a search fails, with the error. -/
inductive FailsAt (workspace : Workspace) (recursive : Bool) (path : PathName) : PathError → Prop
  /-- Nothing is found there. -/
  | missing {cause : FileCause} (nothing : workspace path = .error cause) :
    FailsAt workspace recursive path (.opening path cause)
  /-- A file is found there, but it cannot be read. -/
  | unreadable {cause : FileCause} (there : workspace path = .ok (.file (.error cause))) :
    FailsAt workspace recursive path (.opening path cause)
  /-- A directory is found there, and directories are not searched. -/
  | directory {found : Found} (noFile : ∀ contents, found ≠ .file contents) (flat : recursive = false)
      (there : workspace path = .ok found) : FailsAt workspace recursive path (.directory path)
  /-- A directory is found there, but it or a directory below it cannot be listed. -/
  | unlisted {found : Found} {error : PathError} (noFile : ∀ contents, found ≠ .file contents)
      (deep : recursive = true) (there : workspace path = .ok found)
      (stopped : found.documents path = .error error) : FailsAt workspace recursive path error

/-- The only visit of a path at which a search fails is the failure. -/
theorem visits_of_failsAt {workspace : Workspace} {recursive : Bool} {path : PathName} {error : PathError}
    (fails : workspace.FailsAt recursive path error) :
    workspace.visits recursive path = [.failure error] := by
  unfold visits documents
  cases fails with
  | missing nothing => rw [nothing]
  | unreadable there =>
    rw [there]
    rfl
  | @directory found noFile flat there =>
    rw [there, flat]
    cases found with
    | file contents => exact absurd rfl (noFile contents)
    | _ => rfl
  | @unlisted found error noFile deep there stopped =>
    rw [there, deep]
    cases found with
    | file contents => exact absurd rfl (noFile contents)
    | _ =>
      simp only [if_true]
      rw [stopped]

/-- A document that cannot be read is a failure among the visits of its path. -/
theorem visits_of_unreadable {workspace : Workspace} {recursive : Bool} {path : PathName}
    {before behind : List Document} {document : Document} {error : PathError}
    (found : workspace.documents recursive path = .ok (before ++ document :: behind))
    (unreadable : document.read = .error error) :
    workspace.visits recursive path =
      before.map Document.visit ++ .failure error :: behind.map Document.visit := by
  unfold visits
  rw [found]
  have visited : document.visit = .failure error := by
    unfold Document.visit
    rw [unreadable]
  simp only [List.map_append, List.map_cons, visited]

end Workspace

section

variable {pattern : Pattern} {workspace : Workspace} {input : InputStream} {source : Text}
  {recursive : Bool}

/-- Where lines are labelled, a run makes labelled visits. -/
theorem runSearch_labelled {paths : List PathName} (several : paths ≠ [])
    (labels : recursive = true ∨ 2 ≤ paths.length) :
    runSearch pattern ⟨source, recursive, paths⟩ workspace input .unlimited .unlimited =
      .ok (Run.visiting pattern true (paths.flatMap (workspace.visits recursive))) := by
  have labelled : (Options.mk source recursive paths).labelsLines = true := by
    unfold Options.labelsLines
    rw [Bool.or_eq_true, decide_eq_true_eq]
    exact labels
  rw [runSearch_unlimited pattern ⟨source, recursive, paths⟩ workspace input several, labelled]

/-- A run over paths in two parts is the sum of the runs over the parts. -/
theorem joins_of_runSearch {first second : List PathName}
    (wanted : recursive = true ∧ first ≠ [] ∧ second ≠ [] ∨ 2 ≤ first.length ∧ 2 ≤ second.length) :
    ∃ whole former latter,
      runSearch pattern ⟨source, recursive, first ++ second⟩ workspace input .unlimited .unlimited =
        .ok whole ∧
      runSearch pattern ⟨source, recursive, first⟩ workspace input .unlimited .unlimited =
        .ok former ∧
      runSearch pattern ⟨source, recursive, second⟩ workspace input .unlimited .unlimited =
        .ok latter ∧
      whole.Joins former latter := by
  have nonempty : first ≠ [] ∧ second ≠ [] := by
    rcases wanted with ⟨_, nonempty⟩ | ⟨several, others⟩
    · exact nonempty
    · exact ⟨List.ne_nil_of_length_pos (by omega), List.ne_nil_of_length_pos (by omega)⟩
  have former : recursive = true ∨ 2 ≤ first.length := wanted.imp And.left And.left
  have latter : recursive = true ∨ 2 ≤ second.length := wanted.imp And.left And.right
  have both : recursive = true ∨ 2 ≤ (first ++ second).length := by
    apply former.imp_right
    intro several
    rw [List.length_append]
    omega
  have whole := @runSearch_labelled pattern workspace input source recursive (first ++ second)
    (List.append_ne_nil_of_left_ne_nil nonempty.1 _) both
  rw [List.flatMap_append] at whole
  exact ⟨_, _, _, whole, runSearch_labelled nonempty.1 former, runSearch_labelled nonempty.2 latter,
    Run.joins_visiting _ _⟩

/-- A path at which the search fails is one failure more than the other paths. -/
theorem failsOnceMore_of_failsAt {before behind : List PathName} {path : PathName} {error : PathError}
    (wanted : recursive = true ∧ before ++ behind ≠ [] ∨ 2 ≤ (before ++ behind).length)
    (fails : workspace.FailsAt recursive path error) :
    ∃ whole without,
      runSearch pattern ⟨source, recursive, before ++ path :: behind⟩ workspace input .unlimited
        .unlimited = .ok whole ∧
      runSearch pattern ⟨source, recursive, before ++ behind⟩ workspace input .unlimited .unlimited =
        .ok without ∧
      whole.FailsOnceMore without error := by
  have nonempty : before ++ behind ≠ [] := by
    rcases wanted with ⟨_, nonempty⟩ | several
    · exact nonempty
    · exact List.ne_nil_of_length_pos (by omega)
  have labels : recursive = true ∨ 2 ≤ (before ++ behind).length := wanted.imp_left And.left
  have longer : recursive = true ∨ 2 ≤ (before ++ path :: behind).length := by
    apply labels.imp_right
    intro several
    rw [List.length_append] at several
    rw [List.length_append, List.length_cons]
    omega
  have whole := @runSearch_labelled pattern workspace input source recursive (before ++ path :: behind)
    (List.append_ne_nil_of_right_ne_nil _ (List.cons_ne_nil _ _)) longer
  have without := @runSearch_labelled pattern workspace input source recursive (before ++ behind)
    nonempty labels
  rw [List.flatMap_append, List.flatMap_cons, Workspace.visits_of_failsAt fails] at whole
  rw [List.flatMap_append] at without
  exact ⟨_, _, whole, without, Run.failsOnceMore_visiting _ _ error⟩

/-- A file that cannot be read is one failure more than its directory without it. -/
theorem failsOnceMore_of_unreadable {before behind : List PathName} {path : PathName}
    {documents others : List Document} {document : Document} {error : PathError} {reduced : Workspace}
    (notBefore : path ∉ before) (notBehind : path ∉ behind)
    (same : ∀ other, other ≠ path → reduced other = workspace other)
    (found : workspace.documents recursive path = .ok (documents ++ document :: others))
    (unreadable : document.read = .error error)
    (remaining : reduced.documents recursive path = .ok (documents ++ others)) :
    ∃ whole without,
      runSearch pattern ⟨source, recursive, before ++ path :: behind⟩ workspace input .unlimited
        .unlimited = .ok whole ∧
      runSearch pattern ⟨source, recursive, before ++ path :: behind⟩ reduced input .unlimited
        .unlimited = .ok without ∧
      whole.FailsOnceMore without error := by
  have several : before ++ path :: behind ≠ [] :=
    List.append_ne_nil_of_right_ne_nil _ (List.cons_ne_nil _ _)
  have elsewhere : ∀ paths : List PathName, path ∉ paths →
      paths.flatMap (reduced.visits recursive) = paths.flatMap (workspace.visits recursive) := by
    intro paths apart
    apply List.flatMap_congr
    intro other member
    have different : other ≠ path := fun equal => apart (equal ▸ member)
    unfold Workspace.visits Workspace.documents
    rw [same other different]
  have here : reduced.visits recursive path =
      documents.map Document.visit ++ others.map Document.visit := by
    unfold Workspace.visits
    rw [remaining]
    exact List.map_append
  have whole := runSearch_unlimited pattern ⟨source, recursive, before ++ path :: behind⟩ workspace input
    several
  have without := runSearch_unlimited pattern ⟨source, recursive, before ++ path :: behind⟩ reduced input
    several
  simp only at whole without
  rw [List.flatMap_append, List.flatMap_cons, Workspace.visits_of_unreadable found unreadable,
    List.append_assoc, List.cons_append, ← List.append_assoc] at whole
  -- The two runs differ in the visits of this path alone, and there in the failure alone.
  rw [List.flatMap_append, List.flatMap_cons, elsewhere before notBefore, elsewhere behind notBehind,
    here, List.append_assoc, ← List.append_assoc] at without
  exact ⟨_, _, whole, without, Run.failsOnceMore_visiting _ _ error⟩

end

/-- A run over paths in two parts is the sum of the runs over the parts, if lines are labelled in all three.
A path at which the search fails adds one line to the diagnostics and one error, and nothing of what is
written for the other paths is different. So does a file below a directory that cannot be read, in
comparison with the directory without that file. -/
theorem runSearch_append (pattern : Pattern) (workspace : Workspace) (input : InputStream)
    (source : Text) (recursive : Bool) :
    (∀ first second : List PathName,
      (recursive = true ∧ first ≠ [] ∧ second ≠ [] ∨ 2 ≤ first.length ∧ 2 ≤ second.length) →
      ∃ whole former latter,
        runSearch pattern ⟨source, recursive, first ++ second⟩ workspace input .unlimited .unlimited =
          .ok whole ∧
        runSearch pattern ⟨source, recursive, first⟩ workspace input .unlimited .unlimited =
          .ok former ∧
        runSearch pattern ⟨source, recursive, second⟩ workspace input .unlimited .unlimited =
          .ok latter ∧
        whole.Joins former latter) ∧
    (∀ before path behind error,
      (recursive = true ∧ before ++ behind ≠ [] ∨ 2 ≤ (before ++ behind).length) →
      workspace.FailsAt recursive path error →
      ∃ whole without,
        runSearch pattern ⟨source, recursive, before ++ path :: behind⟩ workspace input .unlimited
          .unlimited = .ok whole ∧
        runSearch pattern ⟨source, recursive, before ++ behind⟩ workspace input .unlimited .unlimited =
          .ok without ∧
        whole.FailsOnceMore without error) ∧
    ∀ before path behind documents document others error (reduced : Workspace),
      path ∉ before → path ∉ behind → (∀ other, other ≠ path → reduced other = workspace other) →
      workspace.documents recursive path = .ok (documents ++ document :: others) →
      document.read = .error error → reduced.documents recursive path = .ok (documents ++ others) →
      ∃ whole without,
        runSearch pattern ⟨source, recursive, before ++ path :: behind⟩ workspace input .unlimited
          .unlimited = .ok whole ∧
        runSearch pattern ⟨source, recursive, before ++ path :: behind⟩ reduced input .unlimited
          .unlimited = .ok without ∧
        whole.FailsOnceMore without error := by
  refine ⟨?_, ?_, ?_⟩
  · intro first second wanted
    exact joins_of_runSearch wanted
  · intro before path behind error wanted fails
    exact failsOnceMore_of_failsAt wanted fails
  · intro before path behind documents document others error reduced notBefore notBehind same found
      unreadable remaining
    exact failsOnceMore_of_unreadable notBefore notBehind same found unreadable remaining

/-- A file `a` and a directory `d` with the given items, and nothing else. -/
def Workspace.besideFile (items : List (Bytes × Item)) : Workspace := fun path =>
  if path = .ofString "a" then .ok (.file (.ok (messageBytes "ab\nc")))
  else if path = .ofString "d" then .ok (.directory items)
  else .error .notFound

/-- The file `d/x` cannot be read, `d/y` has a matching line, and nothing is found at `no`. -/
theorem runSearch_append_with_unreadable_file :
    let pattern : Pattern := ⟨"b".toList, .sequence [.literal 'b'], 0⟩
    let readable : List (Bytes × Item) :=
      [(PathName.ofString "y", .plain (.file (.ok (messageBytes "b"))))]
    let items : List (Bytes × Item) :=
      (PathName.ofString "x", .plain (.file (.error .notFound))) :: readable
    let search := fun workspace paths =>
      runSearch pattern ⟨"b".toList, true, paths⟩ workspace ⟨[], none⟩ .unlimited .unlimited
    Pattern.compile "b".toList = .ok pattern ∧
    (∃ whole former latter,
      search (.besideFile items) ([.ofString "a"] ++ [.ofString "d"]) = .ok whole ∧
      search (.besideFile items) [.ofString "a"] = .ok former ∧
      search (.besideFile items) [.ofString "d"] = .ok latter ∧ whole.Joins former latter) ∧
    (∃ whole without,
      search (.besideFile items) ([.ofString "a"] ++ .ofString "no" :: [.ofString "d"]) =
        .ok whole ∧
      search (.besideFile items) ([.ofString "a"] ++ [.ofString "d"]) = .ok without ∧
      whole.FailsOnceMore without (.opening (.ofString "no") .notFound)) ∧
    ∃ whole without,
      search (.besideFile items) ([.ofString "a"] ++ .ofString "d" :: []) = .ok whole ∧
      search (.besideFile readable) ([.ofString "a"] ++ .ofString "d" :: []) = .ok without ∧
      whole.FailsOnceMore without (.opening (.ofString "d/x") .notFound) := by
  intro pattern readable items search
  have ⟨joined, failed, unreadable⟩ :=
    runSearch_append pattern (.besideFile items) ⟨[], none⟩ "b".toList true
  have missing : Workspace.FailsAt (.besideFile items) true (.ofString "no")
      (.opening (.ofString "no") .notFound) := .missing rfl
  have same : ∀ other, other ≠ .ofString "d" →
      Workspace.besideFile readable other = Workspace.besideFile items other := by
    intro other different
    unfold Workspace.besideFile
    rw [if_neg different, if_neg different]
  have found : (Workspace.besideFile items).documents true (.ofString "d") =
      .ok ([] ++ ⟨.ofString "d/x", .error .notFound⟩ :: [⟨.ofString "d/y", .ok (messageBytes "b")⟩]) := by
    show (Found.directory items).documents (.ofString "d") = _
    rw [Found.documents_of_sorted (by decide)]
    rfl
  have remaining : (Workspace.besideFile readable).documents true (.ofString "d") =
      .ok ([] ++ [⟨.ofString "d/y", .ok (messageBytes "b")⟩]) := by
    show (Found.directory readable).documents (.ofString "d") = _
    rw [Found.documents_of_sorted (by decide)]
    rfl
  constructor
  · rfl
  constructor
  · exact joined [.ofString "a"] [.ofString "d"] (.inl ⟨rfl, by decide, by decide⟩)
  constructor
  · exact failed [.ofString "a"] (.ofString "no") [.ofString "d"] _ (.inl ⟨rfl, by decide⟩) missing
  · exact unreadable [.ofString "a"] (.ofString "d") [] [] ⟨.ofString "d/x", .error .notFound⟩
      [⟨.ofString "d/y", .ok (messageBytes "b")⟩] _ (.besideFile readable) (by decide) (by decide) same
      found rfl remaining

end PatternSearch
