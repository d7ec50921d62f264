import ClassLocator.Feed
import ClassLocator.Host
import ClassLocator.Runtime.Image
import ClassLocator.Text.Lines
import ClassLocator.Text.Utf8

/-!
# The catalog of the runtime

The catalog answers queries from the runtime image of a JDK. The image is listed once, when the
first query is put, by a command of the JDK or one on the search path. Where there is no JDK, no
image or no such command, or where the command fails, the image is empty, and a record says why.

## Main definitions

* `Catalog`, `Catalog.resolve`
-/

namespace ClassLocator

/-- The root of the JDK, and the image once it has been listed. -/
structure Catalog where
  javaHome : Option Path
  image : Option RuntimeImage := none
deriving Repr

namespace Catalog

/-- A computation that gives notices as it goes along; they stay when it fails. -/
abbrev Noting (α : Type) := ExceptT Cause (StateM (List Notice)) α

def note (notice : Notice) : Noting PUnit := modify (· ++ [notice])

/-- The command that lists images: the one of the JDK, or else one on the search path. -/
def listingTool? (host : Host) (javaHome : Path) : Except Cause (Option Text) := do
  let bundled := (javaHome.child "bin").child "jimage"
  if ← host.files.isFile bundled then return some bundled.text
  return host.files.findCommand host.searchPath "jimage"

/-- A listing that failed still counts if it holds classes. -/
def listedImage (output : Bytes) (exit : Int) : RuntimeImage :=
  let image := RuntimeImage.ofListing (Text.breakLines (Utf8.decodeReplacing output))
  if exit ≠ 0 ∧ image.modules = [] then {} else image

/-- Lists an image with a command. -/
def list (host : Host) (tool modules : Text) : Noting RuntimeImage := do
  let command := [tool, "list".toList, modules]
  note (.debug ([' '].intercalate command))
  note (.started command)
  match host.listing command with
  | .refused errno =>
    note (.debug ("Failed to run jimage: " ++ (Cause.system errno (some tool)).message))
    return {}
  | .ran output exit errors =>
    if exit ≠ 0 then
      note (.debug ("jimage exited with " ++ Text.ofInt exit ++ ": " ++ Text.strip errors))
    return listedImage output exit

def load (host : Host) : Option Path → Noting RuntimeImage
  | none => do
    note (.debug "No Java home found; runtime search skipped")
    return {}
  | some javaHome => do
    let modules := (javaHome.child "lib").child "modules"
    if ← host.files.isFile modules then
      match ← listingTool? host javaHome with
      | none =>
        note (.debug "jimage not found; runtime search skipped")
        return {}
      | some tool => list host tool modules.text
    else
      note (.debug ("No runtime image at " ++ modules.text))
      return {}

def hitsOf (image : RuntimeImage) (query : Query) : List Event :=
  (image.resolve query).map fun found => .hit found.toMatch

/-- Answers a query, and keeps the image that it had to be answered from. A failure to find out
about files keeps nothing. -/
def resolve (host : Host) (query : Query) (catalog : Catalog) : Feed Cause Event × Catalog :=
  match catalog.image with
  | some image => (.ofList (hitsOf image query), catalog)
  | none =>
    match (load host catalog.javaHome).run.run [] with
    | (.ok image, notices) =>
      (.ofList (notices.map .notice ++ hitsOf image query), { catalog with image := some image })
    | (.error cause, notices) => (⟨notices.map .notice, some cause⟩, catalog)

end Catalog

end ClassLocator
