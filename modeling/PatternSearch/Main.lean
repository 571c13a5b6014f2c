import PatternSearch.CommandLine

/-!
# The program

The outermost layer: it finds what the arguments name in the file system, or reads the standard
input, hands both to `execute`, and writes the result. Nothing is looked up for arguments or
patterns that will be refused.
-/
namespace PatternSearch

/-- The cause with a number of the operating system. Some calls report the number negated, as a word
of 32 bits. -/
def FileCause.ofCode (code : Nat) (description : String) : FileCause :=
  match if code < 0x80000000 then code else 0x100000000 - code with
  | 2 => .notFound
  | 20 => .notADirectory
  | 21 => .isADirectory
  | 36 => .nameTooLong
  | 40 => .tooManyLinks
  | code => .other code description

/-- The cause of a failure. -/
def FileCause.ofFailure : IO.Error → FileCause
  | .noFileOrDirectory _ code description
  | .inappropriateType _ code description
  | .permissionDenied _ code description
  | .invalidArgument _ code description
  | .resourceExhausted _ code description
  | .noSuchThing _ code description
  | .otherError code description => .ofCode code.toNat description
  | failure => .other 0 (toString failure)

/-- A path as the file system takes it: here names are texts. -/
def located (path : PathName) := (IO.FS.DirEntry.mk (String.ofList path.display) "").root

/-- The contents of a file, or why they cannot be read. -/
def loadContents (path : PathName) : IO (Except FileCause Bytes) := do
  try
    return .ok (← IO.FS.readBinFile (located path)).data.toList
  catch failure => return .error (.ofFailure failure)

/-- Whether a path leads to a directory, through links if there are any. -/
def leadsToDirectory (path : PathName) : IO Bool := do
  try
    return (← (located path).metadata).type == .dir
  catch _ => return false

/-- The type of what has a name, without following links. -/
def typeOf (path : PathName) : IO IO.FS.FileType := do
  try
    return (← (located path).symlinkMetadata).type
  catch _ => return .other

mutual

/-- What is found in a directory. -/
partial def loadDirectory (directory : PathName) : IO Found := do
  try
    let mut items := []
    for entry in ← (located directory).readDir do
      let name := PathName.ofString entry.fileName
      items := (name, ← loadItem (directory.child name)) :: items
    return .directory items
  catch failure => return .unlisted (.ofFailure failure)

/-- What stands at a path in a directory. -/
partial def loadItem (path : PathName) : IO Item := do
  match ← typeOf path with
  | .dir => return .plain (← loadDirectory path)
  | .symlink => return .link (← leadsToDirectory path) (← loadContents path)
  | _ => return .plain (.file (← loadContents path))

end

/-- What is found at a path that was given as an argument. -/
def load (recursive : Bool) (path : PathName) : IO (Except FileCause Found) := do
  try
    if (← (located path).metadata).type == .dir then
      return .ok (← if recursive then loadDirectory path else pure (.directory []))
    else return .ok (.file (← loadContents path))
  catch failure => return .error (.ofFailure failure)

/-- What is found at the paths that options name. -/
def loadWorkspace (options : Options) : IO Workspace := do
  let found ← options.paths.mapM fun path => return (path, ← load options.recursive path)
  return fun path => (found.lookup path).getD (.error .notFound)

/-- Everything on the standard input. -/
partial def loadInput : IO InputStream := do
  let input ← IO.getStdin
  let rec
    /-- The bytes after those of `earlier`. -/
    readFrom (earlier : ByteArray) : IO InputStream := do
      match ← (input.read 65536).toBaseIO with
      | .error failure => return ⟨earlier.data.toList, some (toString failure)⟩
      | .ok piece =>
        if piece.isEmpty then return ⟨earlier.data.toList, none⟩
        else readFrom (earlier ++ piece)
  readFrom .empty

/-- Carry out a command in the real file system. -/
def perform (arguments : List Text) : IO CommandResult := do
  let nothing : Workspace := fun _ => .error .notFound
  match Options.parse arguments with
  | .error _ => return execute arguments nothing ⟨[], none⟩
  | .ok options =>
    match Pattern.compile options.pattern with
    | .error _ => return execute arguments nothing ⟨[], none⟩
    | .ok _ =>
      if options.paths.isEmpty then return execute arguments nothing (← loadInput)
      else return execute arguments (← loadWorkspace options) ⟨[], none⟩

end PatternSearch

/-- Carry out the command that the arguments ask for. -/
def main (arguments : List String) : IO UInt32 := do
  let result ← PatternSearch.perform (arguments.map String.toList)
  (← IO.getStdout).write ⟨result.stdout.toArray⟩
  (← IO.getStderr).write ⟨result.stderr.toArray⟩
  return UInt32.ofNat result.code
