import ClassLocator.Proofs.Runtime.FailedListing
import ClassLocator.Proofs.Text.Order
import Mathlib.Data.List.Forall2
import Mathlib.Data.List.Induction
import Mathlib.Data.List.Nodup

/-!
# Images from additions

A runtime image is filled by additions, one resource after the other. It keeps the class files that
lie in a package, each with the module that it was added to last, and next to them their packages.
A query is tried in each of the packages, in the order of their names. So it finds every class file
that it names, and each of them once.

## Main definitions

* `RuntimeImage.addAll`: the image that some additions give.
* `RuntimeImage.IsClassFile`, `RuntimeImage.IsPackageOf`, `RuntimeImage.LastAdded`
* `RuntimeImage.Records`: an image and the additions that it comes from.
* `RuntimeImage.Answers`: the class that a query finds in a package.

## Main statements

* `RuntimeImage.Records.add`: what one addition does.
* `RuntimeImage.forall₂_answers`: what an image gives to a query.
* `RuntimeImage.addAll_resolve`: both, for any additions.
-/

namespace ClassLocator.RuntimeImage

variable {image : RuntimeImage} {added : List (Text × Text)} {query : Query}
  {resource other package place module latest : Text}

/-! ## Resources and packages -/

/-- The resource is the file of a class in a package. -/
structure IsClassFile (resource : Text) : Prop where
  extension : classExtension <:+ resource
  slash : '/' ∈ resource

/-- The package is what stands before the last slash of the resource. -/
def IsPackageOf (package resource : Text) : Prop :=
  ∃ name, '/' ∉ name ∧ resource = package ++ '/' :: name

theorem packageOf?_eq_some_iff :
    packageOf? resource = some package ↔ IsPackageOf package resource := by
  constructor
  · intro h
    by_cases hslash : '/' ∈ resource
    · obtain ⟨before, name, rfl, hname⟩ := exists_last_slash hslash
      rw [packageOf?_append hname, Option.some.injEq] at h
      exact ⟨name, hname, h ▸ rfl⟩
    · rw [packageOf?, if_neg hslash] at h
      cases h
  · rintro ⟨name, hname, rfl⟩
    exact packageOf?_append hname

theorem IsClassFile.exists_package (h : IsClassFile resource) :
    ∃ package, IsPackageOf package resource := by
  obtain ⟨package, name, rfl, hname⟩ := exists_last_slash h.slash
  exact ⟨package, name, hname, rfl⟩

/-! ## Additions -/

/-- The image that additions give, each of a module and a resource in it. -/
def addAll (added : List (Text × Text)) : RuntimeImage :=
  added.foldl (fun image (module, resource) => image.add module resource) {}

theorem addAll_concat (added : List (Text × Text)) (module resource : Text) :
    addAll (added ++ [(module, resource)]) = (addAll added).add module resource :=
  List.foldl_concat ..

/-- Of the additions of the resource the last one is to this module. -/
def LastAdded (added : List (Text × Text)) (resource module : Text) : Prop :=
  ∃ before after, added = before ++ (module, resource) :: after ∧ resource ∉ after.map Prod.snd

theorem lastAdded_concat_iff :
    LastAdded (added ++ [(latest, other)]) resource module ↔
      if resource = other then latest = module else LastAdded added resource module := by
  constructor
  · rintro ⟨before, after, hadded, hafter⟩
    rcases List.eq_nil_or_concat after with rfl | ⟨between, last, rfl⟩
    · obtain ⟨-, hlast⟩ := List.append_inj' hadded rfl
      cases hlast
      rw [if_pos rfl]
    · rw [List.concat_eq_append, ← List.cons_append, ← List.append_assoc] at hadded
      obtain ⟨hbefore, hlast⟩ := List.append_inj' hadded rfl
      cases hlast
      have hafter : resource ∉ between.map Prod.snd ∧ resource ≠ other := by simpa using hafter
      rw [if_neg hafter.2]
      exact ⟨before, between, hbefore, hafter.1⟩
  · intro h
    by_cases hsame : resource = other
    · rw [if_pos hsame] at h
      exact ⟨added, [], by rw [h, hsame], List.not_mem_nil⟩
    · rw [if_neg hsame] at h
      obtain ⟨before, after, rfl, hafter⟩ := h
      exact ⟨before, after ++ [(latest, other)], by simp, by simp [hafter, hsame]⟩

theorem exists_lastAdded_iff :
    (∃ module, LastAdded added resource module) ↔ resource ∈ added.map Prod.snd := by
  induction added using List.reverseRecOn with
  | nil =>
    refine iff_of_false ?_ List.not_mem_nil
    rintro ⟨module, before, after, hnil, -⟩
    exact List.append_ne_nil_of_right_ne_nil before (List.cons_ne_nil _ _) hnil.symm
  | append_singleton added last ih =>
    obtain ⟨latest, other⟩ := last
    simp only [lastAdded_concat_iff, List.map_append, List.mem_append, ← ih]
    by_cases hsame : resource = other <;> simp [hsame]

/-! ## What an image records -/

/-- The image has the class files among the additions, each with its last module, and exactly their
packages, each once. -/
structure Records (image : RuntimeImage) (added : List (Text × Text)) : Prop where
  modules : ∀ resource module, image.modules.lookup resource = some module ↔
    IsClassFile resource ∧ LastAdded added resource module
  packages : ∀ package, package ∈ image.packages ↔
    ∃ resource, image.Holds resource ∧ IsPackageOf package resource
  apart : image.packages.Nodup

/-- An addition of something else is passed over. -/
theorem add_of_not_isClassFile (h : ¬ IsClassFile resource) :
    image.add module resource = image := by
  unfold add
  split
  case isFalse => rfl
  case isTrue hextension =>
    split
    case h_1 package hpackage =>
      obtain ⟨name, -, rfl⟩ := packageOf?_eq_some_iff.1 hpackage
      exact absurd ⟨List.isSuffixOf_iff_suffix.1 hextension, by simp⟩ h
    case h_2 => rfl

theorem add_of_isPackageOf (h : IsClassFile resource) (hpackage : IsPackageOf package resource) :
    image.add module resource =
      ⟨put resource module image.modules, image.packages.insert package⟩ := by
  simp only [add, List.isSuffixOf_iff_suffix.2 h.extension, packageOf?_eq_some_iff.2 hpackage,
    if_true]

theorem records_empty : Records {} [] where
  modules resource module := by
    refine iff_of_false nofun ?_
    rintro ⟨-, hlast⟩
    exact List.not_mem_nil (exists_lastAdded_iff.1 ⟨module, hlast⟩)
  packages package := iff_of_false List.not_mem_nil (by rintro ⟨resource, hheld, -⟩; cases hheld)
  apart := List.nodup_nil

theorem holds_put (module resource other : Text) (packages : List Text) :
    Holds ⟨put resource module image.modules, packages⟩ other ↔
      other = resource ∨ image.Holds other := by
  by_cases hsame : other = resource <;> simp [Holds, lookup_put, hsame]

/-- One more addition is recorded by the image that has recorded the ones before. -/
theorem Records.add (h : image.Records added) (module resource : Text) :
    (image.add module resource).Records (added ++ [(module, resource)]) := by
  by_cases hclass : IsClassFile resource
  · obtain ⟨package, hpackage⟩ := hclass.exists_package
    rw [add_of_isPackageOf hclass hpackage]
    refine ⟨fun other latest => ?_, fun place => ?_, List.Nodup.insert h.apart⟩
    · rw [lookup_put, lastAdded_concat_iff]
      by_cases hsame : other = resource
      · simp [hsame, hclass]
      · simp [hsame, h.modules]
    · simp only [List.mem_insert_iff, h.packages, holds_put, or_and_right, exists_or,
        exists_eq_left]
      refine or_congr_left ⟨?_, fun hplace => ?_⟩
      · rintro rfl
        exact hpackage
      · rw [← packageOf?_eq_some_iff] at hplace hpackage
        exact Option.some.inj (hplace.symm.trans hpackage)
  · rw [add_of_not_isClassFile hclass]
    refine ⟨fun other latest => ?_, h.packages, h.apart⟩
    rw [h.modules, lastAdded_concat_iff]
    by_cases hsame : other = resource
    · simp [hsame, hclass]
    · simp [hsame]

/-- Whatever is added, the image records it. -/
theorem records_addAll (added : List (Text × Text)) : (addAll added).Records added := by
  induction added using List.reverseRecOn with
  | nil => exact records_empty
  | append_singleton added last ih =>
    rw [addAll_concat]
    exact ih.add last.1 last.2

theorem Records.holds_iff (h : image.Records added) :
    image.Holds resource ↔ IsClassFile resource ∧ resource ∈ added.map Prod.snd := by
  rw [Holds, Option.isSome_iff_exists, ← exists_lastAdded_iff, ← exists_and_left]
  exact exists_congr fun module => h.modules resource module

/-! ## Answers -/

/-- What the image has for the query in the package: a class file that is called like the query
there. The class has the name of this file, with dots and without the extension. -/
def Answers (image : RuntimeImage) (query : Query) (package : Text) (found : LoadedClass) : Prop :=
  ∃ stem module, package ++ '/' :: query.slashForm = stem ∧
    image.modules.lookup (stem ++ classExtension) = some module ∧
    found.name = Text.replaceChar '/' '.' stem ∧
    found.location = "jrt:/" ++ module ++ '/' :: (stem ++ classExtension)

theorem answers_of_classIn? {found : LoadedClass} (h : image.classIn? query package = some found) :
    image.Answers query package found := by
  obtain ⟨module, hmodule, rfl⟩ := Option.map_eq_some_iff.1 h
  refine ⟨_, module, rfl, hmodule, ?_, rfl⟩
  rw [Text.replaceChar_append, ← replaceChar_slashForm]
  rfl

/-- The packages in which the query finds a class, in the order of their names. -/
def answering (image : RuntimeImage) (query : Query) : List Text :=
  image.sortedPackages.filter fun package => (image.classIn? query package).isSome

theorem mem_answering :
    package ∈ image.answering query ↔
      package ∈ image.packages ∧ image.Holds (resourceIn query package) := by
  rw [answering, List.mem_filter, mem_sortedPackages, classIn?, Option.isSome_map, Holds]

theorem answering_before (h : image.packages.Nodup) (query : Query) :
    (image.answering query).Pairwise Text.Before := by
  have hsorted : image.sortedPackages.Pairwise fun package place =>
      Text.precedes package place = true :=
    List.pairwise_mergeSort Text.precedes_trans Text.precedes_total image.packages
  have hnodup : image.sortedPackages.Nodup := (List.mergeSort_perm ..).nodup_iff.2 h
  refine List.Pairwise.filter _ (hsorted.imp₂ (fun _ _ hprecedes hne => ?_) hnodup)
  exact (Text.precedes_iff.1 hprecedes).resolve_left hne

/-- An image gives one class for each of these packages, in this order. -/
theorem forall₂_answers (image : RuntimeImage) (query : Query) :
    List.Forall₂ (image.Answers query) (image.answering query) (image.resolve query) := by
  unfold answering resolve
  induction image.sortedPackages with
  | nil => exact .nil
  | cons package rest ih =>
    cases hfound : image.classIn? query package with
    | none =>
      rw [List.filter_cons_of_neg (by simp [hfound]), List.filterMap_cons_none hfound]
      exact ih
    | some found =>
      rw [List.filter_cons_of_pos (by simp [hfound]), List.filterMap_cons_some hfound]
      exact .cons (answers_of_classIn? hfound) ih

theorem resourceIn_injective (query : Query) : Function.Injective (resourceIn query) := by
  intro package place h
  exact List.append_cancel_right (List.append_cancel_right h)

/-- A query without separators finds the class files of its name, in whatever package they lie. -/
theorem Records.mem_map_answering_iff (h : image.Records added) (hdot : '.' ∉ query.shortName)
    (hslash : '/' ∉ query.shortName) :
    resource ∈ (image.answering query).map (resourceIn query) ↔
      image.Holds resource ∧
        ∃ package, resource = package ++ '/' :: (query.shortName ++ classExtension) := by
  have hform : query.slashForm = query.shortName := Text.replaceChar_of_notMem hdot
  have hresource (package : Text) :
      resourceIn query package = package ++ '/' :: (query.shortName ++ classExtension) := by
    rw [resourceIn, hform, List.append_assoc]
    rfl
  simp only [List.mem_map, mem_answering]
  constructor
  · rintro ⟨package, ⟨-, hheld⟩, rfl⟩
    exact ⟨hheld, package, hresource package⟩
  · rintro ⟨hheld, package, rfl⟩
    rw [← hresource] at hheld
    have hname : '/' ∉ query.shortName ++ classExtension := by
      simpa [hslash] using (by decide : '/' ∉ classExtension)
    have hpackage : IsPackageOf package (resourceIn query package) :=
      ⟨_, hname, hresource package⟩
    exact ⟨package, ⟨(h.packages package).2 ⟨_, hheld, hpackage⟩, hheld⟩, hresource package⟩

/-- Whatever is added to an image and in whichever order, it has just the class files among the
resources, each with the module that it was added to last, and just their packages. A query gives
one class for each package in which it names one of these files, in the order of the packages, and
a query without separators finds all files of its name. -/
theorem addAll_resolve (added : List (Text × Text)) :
    let image := addAll added
    (∀ resource, image.Holds resource ↔ IsClassFile resource ∧ resource ∈ added.map Prod.snd) ∧
    (∀ resource module, image.modules.lookup resource = some module →
      LastAdded added resource module) ∧
    (∀ package, package ∈ image.packages ↔
      ∃ resource, image.Holds resource ∧ IsPackageOf package resource) ∧
    ∀ query : Query, ∃ packages : List Text,
      packages.Pairwise Text.Before ∧
      (∀ package, package ∈ packages ↔
        package ∈ image.packages ∧ image.Holds (resourceIn query package)) ∧
      List.Forall₂ (image.Answers query) packages (image.resolve query) ∧
      ('.' ∉ query.shortName → '/' ∉ query.shortName →
        (packages.map (resourceIn query)).Nodup ∧
        ∀ resource, resource ∈ packages.map (resourceIn query) ↔
          image.Holds resource ∧
            ∃ package, resource = package ++ '/' :: (query.shortName ++ classExtension)) := by
  intro image
  have hrecords : image.Records added := records_addAll added
  refine ⟨fun resource => hrecords.holds_iff,
    fun resource module hmodule => ((hrecords.modules resource module).1 hmodule).2,
    hrecords.packages, fun query => ?_⟩
  have hbefore := answering_before hrecords.apart query
  refine ⟨image.answering query, hbefore, fun package => mem_answering,
    forall₂_answers image query, fun hdot hslash => ⟨?_, fun resource => ?_⟩⟩
  · have hnodup : (image.answering query).Nodup := by
      refine hbefore.imp fun {package place} hprecedes heq => ?_
      exact Text.not_before_self place (heq ▸ hprecedes)
    exact List.Nodup.map (resourceIn_injective query) hnodup
  · exact hrecords.mem_map_answering_iff hdot hslash

end ClassLocator.RuntimeImage
