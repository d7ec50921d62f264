import ClassLocator.Host
import ClassLocator.Json
import ClassLocator.Text.ShellWords
import ClassLocator.Text.Utf8

/-!
# Settings

What a user has set once for all runs: a JSON document with one member for each setting. A document
that is missing or cannot be read sets nothing, and a member that makes no sense counts as not set.

## Main definitions

* `Settings`, `Settings.ofDocument`
* `Settings.resolveJavaHome`: the root of the JDK.
* `Settings.resolveDisassembler`: the command that lists the members of a class.
-/

namespace ClassLocator

structure Settings where
  /-- The words of the disassembler's command line. -/
  disassembler : Option (List Text) := none
  javaHome : Option Path := none
  highlightSource : Bool := false
  /-- The name of a style of highlighting. -/
  style : Text := Highlighter.defaultStyle
deriving DecidableEq, Repr

namespace Settings

/-! ## The document -/

/-- The object that a document writes; whatever else it is counts as an empty one, and so does an
object in which values lie too deep. -/
def readDocument (env : Environment) (document : Option Bytes) : Json :=
  match (document.bind Utf8.decode?).bind (Json.parse? env.deepest) with
  | some (.object members) => .object members
  | _ => .object []

/-- A command is a command line or a list of words; there is at least one word. -/
def command? : Json → Option (List Text)
  | .text line =>
    match ShellWords.split? line with
    | some [] => none
    | words => words
  | .array (item :: items) => (item :: items).mapM Json.text?
  | _ => none

/-- Without slashes at the end; nothing but slashes is the root. -/
def homeText (home : Text) : Text :=
  match Text.dropEndWhile (· = '/') home with
  | [] => ['/']
  | home => home

/-- A relative path whose first name is a tilde, or a tilde and the name of a user, begins at the
home directory of this user. A home that itself begins with a tilde counts as not known. No name of
a user holds a null character. -/
def expandHome (env : Environment) (path : Path) : Except Cause Path :=
  match path.anchor, path.names with
  | .here, ('~' :: user) :: rest =>
    if '\x00' ∈ user then .error .embeddedNul
    else
      match (env.home? user).map homeText with
      | some home =>
        if home.head? = some '~' then .error .noHome else .ok ((Path.parse home).append rest)
      | none => .error .noHome
  | _, _ => .ok path

/-- The text of a member, unless it is empty. -/
def text? (document : Json) (name : Text) : Option Text :=
  (document.member? name).bind fun value => value.text?.filter (· ≠ [])

def flag (document : Json) (name : Text) : Bool :=
  match document.member? name with
  | some (.bool value) => value
  | _ => false

def ofDocument (env : Environment) (document : Option Bytes) : Except Cause Settings := do
  let document := readDocument env document
  let javaHome ← (text? document "java_home").mapM fun home => expandHome env (.parse home)
  return {
    disassembler := (document.member? "javap").bind command?
    javaHome
    highlightSource := flag document "highlight_source"
    style := (text? document "style").getD Highlighter.defaultStyle }

/-! ## What follows from settings and surroundings -/

/-- The root of the JDK: as set, or as the environment says, or two levels above the `java` on the
search path. -/
def resolveJavaHome (host : Host) (settings : Settings) : Option Path :=
  match settings.javaHome with
  | some home => some home
  | none =>
    match Text.strip ((host.environment.get? "JAVA_HOME").getD []) with
    | [] =>
      (host.files.findCommand host.searchPath "java").bind fun java =>
        (host.files.canonical? java).toOption.map fun java => java.parent.parent
    | home => some (.parse home)

def defaultDisassembler : Text := "javap"

/-- The disassembler: as set, or the one of the JDK, or else whichever is on the search path. -/
def resolveDisassembler (host : Host) (settings : Settings) (javaHome : Option Path) :
    Except Cause (List Text) :=
  match settings.disassembler, javaHome with
  | some command, _ => .ok command
  | none, none => .ok [defaultDisassembler]
  | none, some javaHome => do
    let bundled := (javaHome.child "bin").child defaultDisassembler
    if ← host.files.isFile bundled then return [bundled.text] else return [defaultDisassembler]

end Settings

end ClassLocator
