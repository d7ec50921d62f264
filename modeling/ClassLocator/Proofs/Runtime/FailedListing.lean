import ClassLocator.Proofs.Runtime.QualifiedName
import ClassLocator.Proofs.Runtime.Queries
import ClassLocator.Proofs.Search.Stream

/-!
# Listings that fail

A command that should list a runtime image may fail to start, or end with an exit code that is not
zero. Nothing of this reaches whoever asks the catalog, records for debugging apart. But what the
command has written by then still counts as its image, and the catalog answers from it.

## Main definitions

* `Child.Failed`, `Child.image`, `Child.complaint`: what a failure leaves, and what is noted of it.
* `RuntimeImage.Holds`, `RuntimeImage.IsNameable`: the classes that some query finds.

## Main statements

* `RuntimeImage.forall_resolve_eq_nil_iff`: which images answer no query.
* `Catalog.resolveAll_of_failed_listing`: what the catalog gives after a failure.
-/

namespace ClassLocator

/-! ## Images that answer no query -/

namespace RuntimeImage

variable {image : RuntimeImage} {query : Query} {resource : Text}

/-- The image has a module for the resource. -/
def Holds (image : RuntimeImage) (resource : Text) : Prop :=
  (image.modules.lookup resource).isSome = true

/-- Every resource lies in one of the packages. -/
def IsPacked (image : RuntimeImage) : Prop :=
  ∀ resource, image.Holds resource → ∃ package ∈ image.packages, packageOf? resource = some package

theorem isPacked_empty : IsPacked {} := nofun

theorem IsPacked.add (h : image.IsPacked) (module resource : Text) :
    (image.add module resource).IsPacked := by
  unfold RuntimeImage.add
  split
  case isFalse => exact h
  split
  case h_2 => exact h
  case h_1 package hpackage =>
    intro other hother
    by_cases hsame : other = resource
    · exact ⟨package, List.mem_insert_self, hsame ▸ hpackage⟩
    · have hheld : image.Holds other := by simpa [Holds, lookup_put, hsame] using hother
      obtain ⟨place, hmem, hplace⟩ := h other hheld
      exact ⟨place, List.mem_insert_of_mem hmem, hplace⟩

theorem isPacked_readLine {state : ListingState} (h : state.image.IsPacked) (line : Text) :
    (readLine state line).image.IsPacked := by
  unfold readLine
  dsimp only
  split
  case isTrue => exact h
  split
  case isTrue => exact h
  split
  case h_1 => exact h
  case h_2 module _ =>
    split
    · exact h
    · exact h.add module _

/-- Resources and packages agree, whatever the lines are. -/
theorem isPacked_ofListing (lines : List Text) : (ofListing lines).IsPacked := by
  have hfold (state : ListingState) (h : state.image.IsPacked) :
      (lines.foldl readLine state).image.IsPacked := by
    induction lines generalizing state with
    | nil => exact h
    | cons line rest ih => exact ih _ (isPacked_readLine h line)
  exact hfold {} isPacked_empty

theorem exists_last_slash {text : Text} (h : '/' ∈ text) :
    ∃ before after, text = before ++ '/' :: after ∧ '/' ∉ after := by
  obtain ⟨after, before, hsplit, hafter⟩ := List.eq_append_cons_of_mem (List.mem_reverse.2 h)
  refine ⟨before.reverse, after.reverse, ?_, by simpa using hafter⟩
  rw [← List.reverse_reverse text, hsplit]
  simp

theorem packageOf?_append {package name : Text} (h : '/' ∉ name) :
    packageOf? (package ++ '/' :: name) = some package := by
  have hname : ∀ c ∈ name.reverse, (decide (c ≠ '/')) = true := by
    intro c hmem
    exact decide_eq_true fun heq => h (heq ▸ List.mem_reverse.1 hmem)
  have hreverse : (package ++ '/' :: name).reverse = name.reverse ++ '/' :: package.reverse := by
    simp
  rw [packageOf?, if_pos (by simp), hreverse, List.dropWhile_append_of_pos hname]
  simp

/-- The class file of a name without dots. Queries cannot give any other name, for their dots
become slashes. -/
def IsNameable (resource : Text) : Prop :=
  ∃ package name, resource = package ++ '/' :: name ++ classExtension ∧ '/' ∉ name ∧ '.' ∉ name

theorem dot_notMem_slashForm (query : Query) : '.' ∉ query.slashForm := by
  intro hmem
  obtain ⟨c, -, hc⟩ := List.mem_map.1 hmem
  split at hc
  case isTrue => cases hc
  case isFalse hdot => exact hdot hc

theorem isNameable_resourceIn (query : Query) (package : Text) :
    IsNameable (resourceIn query package) := by
  have hdot := dot_notMem_slashForm query
  by_cases hslash : '/' ∈ query.slashForm
  · obtain ⟨before, after, hsplit, hafter⟩ := exists_last_slash hslash
    refine ⟨package ++ '/' :: before, after, by simp [resourceIn, hsplit], hafter, ?_⟩
    rw [hsplit] at hdot
    exact fun hmem => hdot (List.mem_append_right _ (List.mem_cons_of_mem _ hmem))
  · exact ⟨package, query.slashForm, rfl, hslash, hdot⟩

theorem resolve_eq_nil_iff :
    image.resolve query = [] ↔
      ∀ package ∈ image.packages, ¬ image.Holds (resourceIn query package) := by
  simp only [resolve, List.filterMap_eq_nil_iff, mem_sortedPackages, classIn?, Holds,
    Option.map_eq_none_iff, Bool.not_eq_true, Option.isSome_eq_false_iff,
    Option.isNone_iff_eq_none]

/-- An image whose resources lie in its packages answers no query at all just if it holds no class
whose name a query can give. -/
theorem forall_resolve_eq_nil_iff (h : image.IsPacked) :
    (∀ query, image.resolve query = []) ↔
      ∀ resource, image.Holds resource → ¬ IsNameable resource := by
  constructor
  · rintro hnone resource hheld ⟨package, name, rfl, hslash, hdot⟩
    have hform : (Query.mk name).slashForm = name := Text.replaceChar_of_notMem hdot
    have hresource : resourceIn ⟨name⟩ package = package ++ '/' :: name ++ classExtension := by
      rw [resourceIn, hform]
    obtain ⟨place, hmem, hplace⟩ := h _ hheld
    have hfile : '/' ∉ name ++ classExtension := by
      simpa [hslash] using (by decide : '/' ∉ classExtension)
    rw [List.append_assoc, List.cons_append, packageOf?_append hfile, Option.some.injEq] at hplace
    subst hplace
    exact resolve_eq_nil_iff.1 (hnone ⟨name⟩) package hmem (hresource ▸ hheld)
  · intro hnone query
    refine resolve_eq_nil_iff.2 fun package _ hheld => ?_
    exact hnone _ hheld (isNameable_resourceIn query package)

end RuntimeImage

/-! ## Commands that fail -/

namespace Child

/-- The command was not started, or it ended with an exit code that is not zero. -/
def Failed {α : Type} : Child α → Prop
  | .refused _ => True
  | .ran _ exit _ => exit ≠ 0

/-- The image that the command has listed, to whatever end. -/
def image : Child Bytes → RuntimeImage
  | .refused _ => {}
  | .ran output _ _ => .ofListing (Text.breakLines (Utf8.decodeReplacing output))

/-- What is noted of the failure of a listing. -/
def complaint {α : Type} (tool : Text) : Child α → Text
  | .refused errno => "Failed to run jimage: " ++ (Cause.system errno (some tool)).message
  | .ran _ exit errors => "jimage exited with " ++ Text.ofInt exit ++ ": " ++ Text.strip errors

theorem isPacked_image (child : Child Bytes) : child.image.IsPacked := by
  cases child with
  | refused errno => exact RuntimeImage.isPacked_empty
  | ran output exit errors => exact RuntimeImage.isPacked_ofListing _

end Child

namespace Catalog

variable {host : Host} {home : Path} {tool : Text}

/-- The command that lists the image of a JDK. -/
def listingCommand (home : Path) (tool : Text) : List Text :=
  [tool, "list".toList, ((home.child "lib").child "modules").text]

/-- An answer holds no match just if the image has none for the query. -/
theorem filterMap_answer_eq_nil_iff (noted : List Notice) (image : RuntimeImage) (query : Query) :
    (noted.map Event.notice ++ hitsOf image query).filterMap Event.match? = [] ↔
      image.resolve query = [] := by
  have hmatches : (noted.map Event.notice ++ hitsOf image query).filterMap Event.match? =
      (image.resolve query).map LoadedClass.toMatch :=
    congrArg Feed.items (filterMap_catalogFeed noted (image.resolve query))
  rw [hmatches, List.map_eq_nil_iff]

/-- The image that a listing leaves answers like the one that has been listed: only an image without
classes is given up, and that answers no query anyway. -/
theorem hitsOf_listedImage (output : Bytes) (exit : Int) (errors : Text) :
    hitsOf (listedImage output exit) = hitsOf (Child.ran output exit errors).image := by
  funext query
  unfold listedImage
  dsimp only
  split
  case isFalse => rfl
  case isTrue hempty =>
    have hnone : (Child.ran output exit errors).image.resolve query = [] := by
      refine RuntimeImage.resolve_eq_nil_iff.2 fun package _ hheld => ?_
      rw [RuntimeImage.Holds, Child.image, hempty.2] at hheld
      cases hheld
    have hdefault : RuntimeImage.resolve {} query = [] := RuntimeImage.resolve_eq_nil_iff.2 nofun
    rw [hitsOf, hitsOf, hnone, hdefault]

/-- A listing that fails is noted for debugging only, and leaves an image that answers like the
one that has been listed. -/
theorem load_of_failed (hfile : host.files.isFile ((home.child "lib").child "modules") = .ok true)
    (htool : listingTool? host home = .ok (some tool))
    (hfailed : (host.listing (listingCommand home tool)).Failed) :
    ∃ image,
      (load host (some home)).run.run [] =
        (.ok image,
          [.debug ([' '].intercalate (listingCommand home tool)),
            .started (listingCommand home tool),
            .debug ((host.listing (listingCommand home tool)).complaint tool)]) ∧
      hitsOf image = hitsOf (host.listing (listingCommand home tool)).image := by
  have hload : (load host (some home)).run.run [] =
      (list host tool ((home.child "lib").child "modules").text).run.run [] := by
    simp only [load, hfile, htool]
    rfl
  rw [hload]
  cases hchild : host.listing (listingCommand home tool) with
  | refused errno =>
    refine ⟨{}, ?_, rfl⟩
    change host.listing [tool, "list".toList, _] = _ at hchild
    simp only [list, hchild]
    rfl
  | ran output exit errors =>
    rw [hchild] at hfailed
    refine ⟨listedImage output exit, ?_, hitsOf_listedImage output exit errors⟩
    change host.listing [tool, "list".toList, _] = _ at hchild
    have hexit : exit ≠ 0 := hfailed
    simp only [list, hchild, if_pos hexit]
    rfl

/-- After a listing that fails no query fails, and all that is noted are the command and two records
for debugging, for the first query. But the queries are answered from what has been listed by then.
So none of them finds anything just if this holds no class whose name a query can give. -/
theorem resolveAll_of_failed_listing
    (hfile : host.files.isFile ((home.child "lib").child "modules") = .ok true)
    (htool : listingTool? host home = .ok (some tool))
    (hfailed : (host.listing (listingCommand home tool)).Failed) :
    let command := listingCommand home tool
    let child := host.listing command
    (∀ query rest, resolveAll ⟨some home, none⟩ ((host, query) :: rest) =
      .ofList ([.debug ([' '].intercalate command), .started command,
          .debug (child.complaint tool)].map Event.notice ++
        (child.image.resolve query).map fun found => .hit found.toMatch) ::
      rest.map fun step =>
        .ofList ((child.image.resolve step.2).map fun found => .hit found.toMatch)) ∧
    ((∀ query rest, ∀ feed ∈ resolveAll ⟨some home, none⟩ ((host, query) :: rest),
        feed.items.filterMap Event.match? = []) ↔
      ∀ resource, child.image.Holds resource → ¬ RuntimeImage.IsNameable resource) := by
  intro command child
  obtain ⟨image, hload, hhits⟩ := load_of_failed hfile htool hfailed
  have hfeeds : ∀ query rest, resolveAll ⟨some home, none⟩ ((host, query) :: rest) =
      .ofList ([.debug ([' '].intercalate command), .started command,
          .debug (child.complaint tool)].map Event.notice ++ hitsOf child.image query) ::
        rest.map fun step => .ofList (hitsOf child.image step.2) := by
    intro query rest
    rw [resolveAll_of_load hload, hhits]
  refine ⟨hfeeds, ?_⟩
  rw [← RuntimeImage.forall_resolve_eq_nil_iff child.isPacked_image]
  constructor
  · intro hnone query
    have hfirst := hnone query [] _ (hfeeds query [] ▸ List.mem_cons_self)
    exact (filterMap_answer_eq_nil_iff _ _ query).1 hfirst
  · intro hnone query rest feed hmem
    rw [hfeeds] at hmem
    rcases List.mem_cons.1 hmem with rfl | hmem
    · exact (filterMap_answer_eq_nil_iff _ _ query).2 (hnone query)
    · obtain ⟨step, -, rfl⟩ := List.mem_map.1 hmem
      exact (filterMap_answer_eq_nil_iff [] _ step.2).2 (hnone step.2)

/-! ## Two listings that fail -/

/-- A JDK whose listing command writes this and ends with exit code 1. -/
def failingHost (listing : Text) : Host :=
  { Host.ofListing listing with
    listing := fun _ => .ran (Utf8.encode listing) 1 "bad image".toList }

def failingHome : Path := ⟨.root, ["jdk".toList]⟩

/-- Where only a README has been listed, no query finds anything. -/
theorem resolveAll_of_failed_listing_readme :
    let host := failingHost "Module: java.base\n  java/README\n"
    host.files.isFile ((failingHome.child "lib").child "modules") = .ok true ∧
      listingTool? host failingHome = .ok (some "/jdk/bin/jimage".toList) ∧
      (host.listing (listingCommand failingHome "/jdk/bin/jimage".toList)).Failed ∧
      ∀ query rest, ∀ feed ∈ resolveAll ⟨some failingHome, none⟩ ((host, query) :: rest),
        feed.items.filterMap Event.match? = [] := by
  intro host
  have hfile : host.files.isFile ((failingHome.child "lib").child "modules") = .ok true := by rfl
  have htool : listingTool? host failingHome = .ok (some "/jdk/bin/jimage".toList) := by rfl
  have hfailed : (host.listing (listingCommand failingHome "/jdk/bin/jimage".toList)).Failed :=
    Int.one_ne_zero
  refine ⟨hfile, htool, hfailed, (resolveAll_of_failed_listing hfile htool hfailed).2.2 ?_⟩
  have hmodules :
      (host.listing (listingCommand failingHome "/jdk/bin/jimage".toList)).image.modules = [] := by
    decide +kernel
  intro resource hheld
  rw [RuntimeImage.Holds, hmodules] at hheld
  cases hheld

/-- A class that was listed before the command failed is found. -/
theorem resolve_of_failed_listing_list :
    let host := failingHost "Module: java.base\n  java/util/List.class\n"
    (host.listing (listingCommand failingHome "/jdk/bin/jimage".toList)).Failed ∧
      ((resolve host ⟨"List".toList⟩ ⟨some failingHome, none⟩).1.items.filterMap
        Event.match?).map (·.package) = ["java.util.List".toList] := by
  intro host
  exact ⟨Int.one_ne_zero, by decide +kernel⟩

end Catalog

end ClassLocator
