import ClassLocator.Session

/-!
# The command line program

Reads from the disk what a run may look at, runs it, and writes what it lets be seen. All that is
decided is decided by `Session.run`; here files become nodes and pieces of the transcript become
text on the two standard streams.

No commands are started from here, so each one counts as missing.
-/

namespace ClassLocator.Disk

/-- What is read of a file. Of the files of a JDK it is enough to know that they are there. -/
inductive Extent where
  | presence
  | content
deriving DecidableEq

def path (text : String) : Path := .parse text.toList

/-- The node of an entry, with all that is below it. An entry of which nothing is known is passed by
like a pipe, and every file may be a command. -/
partial def readNode (extent : Extent) (entry : IO.FS.DirEntry) : IO Node := do
  match ← entry.path.symlinkMetadata.toBaseIO with
  | .error _ => return .pipe
  | .ok found =>
    match found.type with
    | .dir =>
      let isSearchable ← (entry.path / ".").pathExists
      match ← entry.path.readDir.toBaseIO with
      | .error _ => return .directory { isReadable := false, isSearchable } []
      | .ok entries =>
        return .directory { isSearchable } (← entries.toList.mapM fun entry =>
          return (entry.fileName.toList, ← readNode extent entry))
    | .file =>
      match extent with
      | .presence => return .file { bytes := [] } true
      | .content =>
        match ← (IO.FS.readBinFile entry.path).toBaseIO with
        | .ok bytes => return .file { bytes := bytes.toList } true
        | .error _ => return .file { bytes := [], isReadable := false } true
    | .symlink =>
      match ← (IO.FS.realPath entry.path).toBaseIO with
      | .ok target => return .link target.toString.toList
      | .error _ => return .link entry.path.toString.toList
    | .other => return .pipe

/-- The entries that lead to an absolute path, one for each name. -/
def entriesTo (place : Path) : List IO.FS.DirEntry :=
  (List.range place.names.length).map fun count =>
    ⟨String.ofList (Path.text ⟨place.anchor, place.names.take count⟩),
      String.ofList (place.names.getD count [])⟩

/-- Adds the links on the way to an absolute path, and the directories that they lead to. -/
def addLinks (fs : FileSystem) (place : Path) : IO FileSystem :=
  (entriesTo place).foldlM (fun fs entry => do
    let .ok found ← entry.path.symlinkMetadata.toBaseIO | return fs
    let .symlink := found.type | return fs
    let .ok target ← (IO.FS.realPath entry.path).toBaseIO | return fs
    let fs := if ← target.isDir then fs.makeDirectory (path target.toString).names else fs
    return fs.insert (path entry.path.toString).names (.link target.toString.toList)) fs

/-- Adds what a path leads to, and all below it. -/
def addPlace (extent : Extent) (fs : FileSystem) (text : Text) : IO FileSystem := do
  let place := (path (← IO.currentDir).toString).append (Path.parse text).names
  let place := if (Path.parse text).anchor = .here then place else Path.parse text
  let fs ← addLinks fs place
  let .ok target ← (IO.FS.realPath (String.ofList place.text)).toBaseIO | return fs
  let names := (path target.toString).names
  let (some directory, some name) := (target.parent, names.getLast?) | return fs
  return fs.insert names (← readNode extent ⟨directory, String.ofList name⟩)

/-! ## What a run may look at -/

def searchPathFiles (host : Host) : List Text :=
  (Text.splitOn [':'] host.searchPath).flatMap fun directory =>
    ["java".toList, "jimage".toList].map (FileSystem.inDirectory directory)

def javaHomeFiles (javaHome : Path) : List Text :=
  [((javaHome.child "lib").child "modules").text, ((javaHome.child "bin").child "jimage").text,
    ((javaHome.child "bin").child Settings.defaultDisassembler).text]

/-- The roots of JDK sources that the arguments name. -/
def sourceRoots (arguments : List Text) : List Text :=
  (arguments.zip arguments.tail).filterMap fun (argument, next) =>
    if Flag.ofArgument? argument = some .jdkSource then some next else none

def elementPlaces : Element → List Text
  | .directory place => [place.text]
  | .jar place => [place.text, (Element.sourceArchive place).text]

def classPathPlaces (environment : Environment) : List Text :=
  match ClassPath.split ClassPath.separator (ClassPath.default environment) with
  | .ok texts => (ClassPath.elements texts none).flatMap elementPlaces
  | .error _ => []

/-! ## A run -/

/-- The lines of a file, parted into fields; there are none in a file that cannot be read. -/
def readFields (place : String) (separator : Char) : IO (List (List Text)) := do
  match ← (IO.FS.lines place).toBaseIO with
  | .ok lines => return lines.toList.map fun line => Text.splitOn [separator] line.toList
  | .error _ => return []

/-- The number of the user of the run. -/
def readUserNumber : IO (Option Text) := do
  return (← readFields "/proc/self/status" '\t').findSome? fun
    | title :: number :: _ => if title = "Uid:".toList then some number else none
    | _ => none

/-- The users that the system knows, each with the number and the home directory. -/
def readUsers : IO (List (Text × Text × Text)) := do
  return (← readFields "/etc/passwd" ':').filterMap fun
    | name :: _ :: number :: _ :: _ :: home :: _ => some (name, number, home)
    | _ => none

def readEnvironment : IO Environment := do
  let names := ["CLASSPATH", "HOME", "JAVA_HOME", "PATH", "XDG_CONFIG_HOME"]
  let bindings ← names.filterMapM fun name => do
    return (← IO.getEnv name).map fun value => (name.toList, value.toList)
  let number ← readUserNumber
  let users ← readUsers
  return {
    bindings
    homes := users.map fun (name, _, home) => (name, home)
    ownHome := users.findSome? fun (_, other, home) =>
      if some other = number then some home else none }

/-- The document of the settings stands among those of the user. -/
def documentPlace? (environment : Environment) : Option Text :=
  let configured := (environment.get? "XDG_CONFIG_HOME").getD []
  let directory :=
    if Text.strip configured ≠ [] then some configured
    else (environment.home? []).map fun home => home ++ "/.config".toList
  directory.map fun directory => directory ++ "/javaclassfinder/config.json".toList

def readDocument (environment : Environment) : IO (Option Bytes) := do
  let some place := documentPlace? environment | return none
  match ← (IO.FS.readBinFile (String.ofList place)).toBaseIO with
  | .ok bytes => return some bytes.toList
  | .error _ => return none

/-- A host with these files. None of the two commands is there. -/
def host (environment : Environment) (isTerminal : Bool) (files : FileSystem) : Host where
  files
  environment
  isTerminal
  listing := fun _ => .refused .noEntry
  disassembly := fun _ => .refused .noEntry

def readFiles (arguments : List Text) (document : Option Bytes) (environment : Environment) :
    IO FileSystem := do
  let here := (path (← IO.currentDir).toString).names
  let files := FileSystem.makeDirectory { top := [], workingDirectory := here } here
  let files ← (searchPathFiles (host environment false files)).foldlM (addPlace .presence) files
  let javaHome := (Settings.ofDocument environment document).toOption.bind
    (·.resolveJavaHome (host environment false files))
  let files ← ((javaHome.map javaHomeFiles).getD []).foldlM (addPlace .presence) files
  (classPathPlaces environment ++ sourceRoots arguments).foldlM (addPlace .content) files

/-- Writes what the pieces of the transcript show, in order. -/
def writeTranscript (session : Session) : IO PUnit := do
  let output ← IO.getStdout
  let errors ← IO.getStderr
  for piece in session.transcript do
    output.putStr (String.ofList (Transcript.outputOf session.logger piece))
    output.flush
    errors.putStr (String.ofList (Transcript.allErrorsOf session.logger piece))

partial def waitForever : IO UInt32 := do
  IO.sleep 1000
  waitForever

/-- Runs the program on the disk and gives its exit code. -/
def run (arguments : List Text) : IO UInt32 := do
  let environment ← readEnvironment
  let document ← readDocument environment
  let files ← readFiles arguments document environment
  let isTerminal ← (← IO.getStdout).isTty
  let session := Session.run (host environment isTerminal files) { arguments, document }
  writeTranscript session
  match session.ending with
  | .exit code => return code.toUInt32
  | .broken fault =>
    (← IO.getStderr).putStrLn (String.ofList (programName ++ ": " ++ fault.message))
    return 1
  | .never => waitForever

end ClassLocator.Disk

def main (arguments : List String) : IO UInt32 :=
  ClassLocator.Disk.run (arguments.map String.toList)
