import ClassLocator.Notice
import ClassLocator.Query

/-!
# Runtime images

A runtime image holds the compiled classes of a JDK, each under a path of its packages and in a
module. A query is answered by trying it in every package.

## Main definitions

* `RuntimeImage.add`, `RuntimeImage.resolve`
* `RuntimeImage.ofListing`: the image that a listing describes.
-/

namespace ClassLocator

/-- A class that the runtime knows: its full name and the address of its compiled form. -/
structure LoadedClass where
  name : Text
  location : Text
deriving DecidableEq, Repr

structure RuntimeImage where
  /-- The module of each resource. -/
  modules : List (Text × Text) := []
  /-- The packages of the resources, each once and in no particular order. -/
  packages : List Text := []
deriving DecidableEq, Repr

namespace RuntimeImage

/-- Replaces the module of a resource, or adds the resource at the end. -/
def put (resource module : Text) : List (Text × Text) → List (Text × Text)
  | [] => [(resource, module)]
  | (other, old) :: rest =>
    if other = resource then (resource, module) :: rest
    else (other, old) :: put resource module rest

theorem lookup_put (resource module other : Text) (modules : List (Text × Text)) :
    (put resource module modules).lookup other =
      if other = resource then some module else modules.lookup other := by
  induction modules with
  | nil =>
    by_cases h : other = resource
    · simp [put, h]
    · simp [put, h, List.lookup_cons, beq_eq_false_iff_ne.2 h]
  | cons pair rest ih =>
    obtain ⟨key, value⟩ := pair
    by_cases hk : key = resource
    · by_cases h : other = resource
      · simp [put, hk, h]
      · simp [put, hk, h, List.lookup_cons, beq_eq_false_iff_ne.2 h]
    · by_cases h : other = key
      · simp [put, hk, h]
      · simp [put, hk, List.lookup_cons, beq_eq_false_iff_ne.2 h, ih]

/-- What stands before the last slash. -/
def packageOf? (resource : Text) : Option Text :=
  if '/' ∈ resource then
    some ((resource.reverse.dropWhile (· ≠ '/')).drop 1).reverse
  else none

/-- Records a class in a package; other resources are passed over. -/
def add (image : RuntimeImage) (module resource : Text) : RuntimeImage :=
  if classExtension.isSuffixOf resource then
    match packageOf? resource with
    | some package =>
      { modules := put resource module image.modules
        packages := image.packages.insert package }
    | none => image
  else image

/-- The packages in the order of their names. -/
def sortedPackages (image : RuntimeImage) : List Text := image.packages.mergeSort Text.precedes

def resourceIn (query : Query) (package : Text) : Text :=
  package ++ '/' :: query.slashForm ++ classExtension

/-- The class that the query names in a package. -/
def classIn? (image : RuntimeImage) (query : Query) (package : Text) : Option LoadedClass :=
  let resource := resourceIn query package
  (image.modules.lookup resource).map fun module =>
    { name := Text.replaceChar '/' '.' package ++ '.' :: query.dotForm
      location := "jrt:/" ++ module ++ '/' :: resource }

def resolve (image : RuntimeImage) (query : Query) : List LoadedClass :=
  image.sortedPackages.filterMap (image.classIn? query)

/-! ## Listings -/

/-- What a line of a listing begins with that names a module. -/
def moduleMark : Text := "Module: "

/-- The image so far, and the module whose resources follow. -/
structure ListingState where
  module : Option Text := none
  image : RuntimeImage := {}
deriving DecidableEq, Repr

/-- A resource stands in a line with white space about it, below the line of its module. -/
def readLine (state : ListingState) (line : Text) : ListingState :=
  let line := Text.dropEndWhile (fun c => c = '\r' ∨ c = '\n') line
  let stripped := Text.strip line
  if stripped = [] then state
  else if moduleMark.isPrefixOf line then
    { state with module := some (Text.strip (line.drop moduleMark.length)) }
  else
    match state.module with
    | none => state
    | some module =>
      if line = stripped then state else { state with image := state.image.add module stripped }

def ofListing (lines : List Text) : RuntimeImage := (lines.foldl readLine {}).image

end RuntimeImage

/-- A class of the runtime as a match. -/
def LoadedClass.toMatch (found : LoadedClass) : Match where
  kind := .runtime
  location := found.location
  package := found.name

end ClassLocator
