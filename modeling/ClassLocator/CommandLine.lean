import ClassLocator.ClassPath.Element
import ClassLocator.Display

/-!
# Command lines

The arguments of a run. An argument is a flag if it begins like one of the flags, whatever comes
after; every other one names the class, and the last of these counts.

## Main definitions

* `Flag`, `Flag.ofArgument?`
* `Options`, `Options.parse`
* `usage`: what is shown when a command line is no search.
-/

namespace ClassLocator

inductive Flag where
  | privateMethods
  | methods
  | debug
  | hidePath
  | hidePackage
  | runtimeOnly
  | source
  /-- The next argument is the root of a JDK with sources. -/
  | jdkSource
  | help
deriving DecidableEq, Repr

namespace Flag

/-- What arguments begin with, in the order in which the flags are tried. -/
def marks : List (Text × Flag) :=
  [("-mp".toList, privateMethods), ("-m".toList, methods), ("-debug".toList, debug),
   ("-path".toList, hidePath), ("-package".toList, hidePackage), ("-rt".toList, runtimeOnly),
   ("-s".toList, source), ("-js".toList, jdkSource), ("-h".toList, help)]

def ofArgument? (argument : Text) : Option Flag :=
  (marks.find? fun (mark, _) => mark.isPrefixOf argument).map (·.2)

def set (display : Display) : Flag → Display
  | privateMethods => { display with showPrivateMethods := true }
  | methods => { display with showMethods := true }
  | debug => { display with debug := true }
  | hidePath => { display with showPath := false }
  | hidePackage => { display with showPackage := false }
  | runtimeOnly => { display with runtimeOnly := true }
  | source => { display with sourceMode := true }
  | jdkSource | help => display

end Flag

structure Options where
  className : Text
  display : Display
  /-- The directory of JDK sources, which comes last on the class path. -/
  jdkSource : Option Path
deriving DecidableEq, Repr

namespace Options

variable (fs : FileSystem)

def requireDirectory (path : Path) : Except Fault PUnit := do
  if !(← (fs.exists? path).mapError .bare) then throw (.usage (.missingPath path))
  if !(← (fs.isDirectory path).mapError .bare) then throw (.usage (.notDirectory path))

/-- The directory of the sources in a JDK; both it and the root must be there. -/
def resolveSource (jdkRoot : Path) : Except Fault Path := do
  requireDirectory fs jdkRoot
  let source := ClassPath.sourceDirectory jdkRoot
  requireDirectory fs source
  return source

/-- What the arguments so far say. -/
structure Partial where
  className : Option Text := none
  display : Display := {}
  jdkSource : Option Path := none
deriving DecidableEq, Repr

def read : Partial → List Text → Except Fault Partial
  | found, [] => .ok found
  | found, argument :: rest =>
    match Flag.ofArgument? argument with
    | none => read { found with className := some argument } rest
    | some .help => .error (.usage .helpWanted)
    | some .jdkSource =>
      match rest with
      | [] => .error (.usage .noSourceLocation)
      | root :: rest => do
        let source ← resolveSource fs (.parse root)
        read { found with jdkSource := some source } rest
    | some flag => read { found with display := flag.set found.display } rest

def parse (arguments : List Text) : Except Fault Options := do
  let found ← read fs {} arguments
  match found.className with
  | some className => return ⟨className, found.display, found.jdkSource⟩
  | none => throw (.usage .noClassName)

end Options

/-- The name under which the program is called. -/
def programName : Text := "jcf"

def usage : Text :=
  ['\n'].intercalate [
    "Usage: " ++ programName ++ " ClassName [options]",
    "-m : Get the methods of the class",
    "-mp : Get the private methods of the class",
    "-path : Doesn't print the path of the class",
    "-package : Doesn't print the package of the class",
    "-rt : Only search for class in the runtime",
    "-s : Search for the source, only prints the first one",
    "-js <path-to-jdk-root-source-folder> : Also search <path>/src",
    "-debug : Print diagnostic lines",
    "-h : Print this help"]

end ClassLocator
