import ClassLocator.Environment

/-!
# Class path elements

A class path is a text of elements parted by colons. An element whose text holds `.jar` is a jar,
every other one a directory.

## Main definitions

* `Element`, `Element.ofText`, `Element.sourceArchive`
* `ClassPath.default`, `ClassPath.split`
* `ClassPath.elements`: the elements to search, each text once.
-/

namespace ClassLocator

inductive Element where
  | directory (path : Path)
  | jar (path : Path)
deriving DecidableEq, Repr

namespace Element

def path : Element → Path
  | directory path => path
  | jar path => path

/-- What marks the text of an element as a jar. -/
def jarMark : Text := ".jar"

def ofText (text : Text) : Element :=
  if Text.occursIn jarMark text then .jar (.parse text) else .directory (.parse text)

/-- Next to a jar its sources are kept in a jar of their own. -/
def sourceArchive (jar : Path) : Path :=
  .parse (Text.replace jarMark "-sources.jar" jar.text)

end Element

namespace ClassPath

/-- The class path of a run that is not given one is the working directory. -/
def default (env : Environment) : Text := (env.get? "CLASSPATH").getD "."

def separator : Text := ":"

/-- The elements between separators, without empty ones. -/
def split (separator classPath : Text) : Except Cause (List Text) :=
  if separator = [] then .error .emptySeparator
  else .ok ((Text.splitOn separator classPath).filter (· ≠ []))

/-- The texts that have not been seen before. -/
def unseen (seen : List Text) : List Text → List Text
  | [] => []
  | text :: rest => if text ∈ seen then unseen seen rest else text :: unseen (text :: seen) rest

@[simp] theorem unseen_nil (seen : List Text) : unseen seen [] = [] := rfl

theorem mem_unseen {seen texts : List Text} {text : Text} :
    text ∈ unseen seen texts ↔ text ∈ texts ∧ text ∉ seen := by
  induction texts generalizing seen with
  | nil => simp
  | cons t rest ih =>
    by_cases h : t ∈ seen
    · simp only [unseen, h, if_true, ih, List.mem_cons]
      constructor
      · exact fun ⟨hr, hs⟩ => ⟨.inr hr, hs⟩
      · rintro ⟨rfl | hr, hs⟩
        · exact absurd h hs
        · exact ⟨hr, hs⟩
    · simp only [unseen, h, if_false, List.mem_cons, ih]
      by_cases e : text = t
      · simp [e, h]
      · simp [e]

/-- The directory of the sources in a JDK. -/
def sourceDirectory (jdkRoot : Path) : Path := jdkRoot.child "src"

/-- Every text gives one element, at its first place. The directory of the JDK sources comes last,
unless one of the texts is the text of its path. -/
def elements (texts : List Text) (jdkSource : Option Path) : List Element :=
  (unseen [] texts).map Element.ofText ++
    match jdkSource with
    | some path => if path.text ∈ texts then [] else [.directory path]
    | none => []

end ClassPath

end ClassLocator
