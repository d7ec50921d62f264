import ClassLocator.Proofs.Text.Replace
import ClassLocator.Session

/-!
# Qualified names of the runtime's classes

The catalog gives each class of a runtime image by its qualified name, the names on the way to its
resource with dots between them. A report takes what it is given for the path of a class file if
the class extension stands anywhere in it. So the line of the package shows the qualified name as
long as no name behind a dot begins like the extension; where one does, its beginning is lost.

## Main definitions

* `RuntimeImage.FindsAt`: the resource at which a query finds a class.
* `ClassName.IsPlain`: what an identifier is like.

## Main statements

* `ClassName.ofPath_dotted`: what becomes of a qualified name.
* `Reporter.packageLine_qualified_iff`: when the line of the package shows the qualified name.
-/

namespace ClassLocator

/-! ## Dotted names -/

namespace ClassName

/-- Like every identifier, the name holds no separator. -/
structure IsPlain (name : Text) : Prop where
  dot : '.' ∉ name
  slash : '/' ∉ name
  backslash : '\\' ∉ name

instance (name : Text) : Decidable (IsPlain name) :=
  decidable_of_iff ('.' ∉ name ∧ '/' ∉ name ∧ '\\' ∉ name)
    ⟨fun ⟨hdot, hslash, hback⟩ => ⟨hdot, hslash, hback⟩, fun h => ⟨h.dot, h.slash, h.backslash⟩⟩

/-- Without slashes a text loses its extensions and nothing else. -/
theorem ofPath_of_slashless {path : Text} (hslash : '/' ∉ path) (hback : '\\' ∉ path) :
    ofPath path = Text.replace classExtension [] path := by
  unfold ofPath
  rw [Text.replaceChar_of_notMem hback, Text.replaceChar_of_notMem hslash]
  split
  case isTrue => rfl
  case isFalse h => exact (Text.replace_of_not_occursIn (by simpa using h)).symm

/-- Of a name behind a dot the extensions take what it begins with, and the dot, if these are an
extension. -/
theorem replace_dotted {first : Text} {others : List Text} (hfirst : '.' ∉ first)
    (hothers : ∀ name ∈ others, '.' ∉ name) :
    Text.replace classExtension [] (['.'].intercalate (first :: others)) =
      first ++ others.flatMap (Text.remnant '.' "class".toList) := by
  have hextension : classExtension = '.' :: "class".toList := rfl
  rw [hextension, Text.intercalate_cons, Text.replace_append_of_notMem hfirst,
    Text.replace_behind (by decide) hothers]

/-- A name behind a dot is shown without what it begins with, and without the dot, if this is the
class extension. -/
theorem ofPath_dotted {first : Text} {others : List Text} (hfirst : IsPlain first)
    (hothers : ∀ name ∈ others, IsPlain name) :
    ofPath (['.'].intercalate (first :: others)) =
      first ++ others.flatMap (Text.remnant '.' "class".toList) := by
  have hall : ∀ name ∈ first :: others, IsPlain name := List.forall_mem_cons.2 ⟨hfirst, hothers⟩
  have hslash := Text.notMem_intercalate (c := '/') (d := '.') (by decide)
    fun n h => (hall n h).slash
  have hback := Text.notMem_intercalate (c := '\\') (d := '.') (by decide)
    fun n h => (hall n h).backslash
  rw [ofPath_of_slashless hslash hback, replace_dotted hfirst.dot fun n h => (hothers n h).dot]

theorem intercalate_append_extension (separator : Char) (names : List Text) (className : Text) :
    [separator].intercalate (names ++ [className ++ classExtension]) =
      [separator].intercalate (names ++ [className]) ++ classExtension := by
  cases names with
  | nil => simp
  | cons first others => simp [Text.intercalate_cons, Text.behind]

end ClassName

/-! ## Classes of an image -/

namespace RuntimeImage

/-- The query finds this class in one of the packages, and this is its resource there. -/
def FindsAt (image : RuntimeImage) (query : Query) (resource : Text) (found : LoadedClass) : Prop :=
  ∃ package ∈ image.packages, resourceIn query package = resource ∧
    image.classIn? query package = some found

theorem mem_sortedPackages {image : RuntimeImage} {package : Text} :
    package ∈ image.sortedPackages ↔ package ∈ image.packages :=
  (List.mergeSort_perm _ _).mem_iff

/-- The dot form of a query is its slash form with dots. -/
theorem replaceChar_slashForm (query : Query) :
    Text.replaceChar '/' '.' query.slashForm = query.dotForm := by
  unfold Query.slashForm Query.dotForm Text.replaceChar
  rw [List.map_map]
  refine List.map_congr_left fun c _ => ?_
  by_cases hdot : c = '.'
  · simp [hdot]
  · simp [hdot]

/-- A class is named by its resource, with dots for slashes and without the extension. -/
theorem FindsAt.name_eq {image : RuntimeImage} {query : Query} {found : LoadedClass} {stem : Text}
    (h : image.FindsAt query (stem ++ classExtension) found) :
    found.name = Text.replaceChar '/' '.' stem := by
  obtain ⟨package, -, hresource, hfound⟩ := h
  have hstem : package ++ '/' :: query.slashForm = stem := by
    exact List.append_cancel_right hresource
  obtain ⟨module, -, rfl⟩ := Option.map_eq_some_iff.1 hfound
  rw [← hstem, ← replaceChar_slashForm]
  simp [Text.replaceChar]

/-- A resource that plain names lead to gives the class the name of these with dots. -/
theorem FindsAt.name_of_names {image : RuntimeImage} {query : Query} {found : LoadedClass}
    {names : List Text} {className : Text}
    (hplain : ∀ name ∈ names ++ [className], ClassName.IsPlain name)
    (h : image.FindsAt query (['/'].intercalate (names ++ [className ++ classExtension])) found) :
    found.name = ['.'].intercalate (names ++ [className]) := by
  rw [ClassName.intercalate_append_extension] at h
  rw [h.name_eq]
  exact Text.replaceChar_intercalate fun name hmem => (hplain name hmem).slash

end RuntimeImage

/-! ## The line of the package -/

namespace Reporter

variable {σ : Type} (reporter : Reporter σ) {image : RuntimeImage} {query : Query}
  {found : LoadedClass} {first className : Text} {others : List Text}

/-- What stands in the line of the package before the name. -/
def packageHead : Text :=
  (if reporter.display.showPath = true then "    ".toList else []) ++ "Package: ".toList

theorem packageLine?_eq (h : reporter.display.showPackage = true) (found : Match) :
    reporter.packageLine? found =
      some (reporter.packageHead ++ ClassName.ofPath found.package ++ ['\n']) := by
  simp [packageLine?, packageHead, packageIndent, h]

/-- The line of the package for a class of the runtime shows the names that lead to its resource,
each behind its dot, but of a name behind a dot that begins with `class` neither this nor the dot.
So it shows the qualified name just if there is no such name. -/
theorem packageLine_qualified_iff (hshow : reporter.display.showPackage = true)
    (hplain : ∀ name ∈ first :: others ++ [className], ClassName.IsPlain name)
    (hfound : image.FindsAt query
      (['/'].intercalate (first :: others ++ [className ++ classExtension])) found) :
    reporter.packageLine? found.toMatch =
      some (reporter.packageHead ++
        (first ++ (others ++ [className]).flatMap (Text.remnant '.' "class".toList)) ++ ['\n']) ∧
    (reporter.packageLine? found.toMatch =
        some (reporter.packageHead ++ ['.'].intercalate (first :: others ++ [className]) ++
          ['\n']) ↔
      ∀ name ∈ others ++ [className], ¬ "class".toList <+: name) := by
  have hfirst : ClassName.IsPlain first := hplain first List.mem_cons_self
  have hothers : ∀ name ∈ others ++ [className], ClassName.IsPlain name :=
    fun name hmem => hplain name (List.mem_cons_of_mem first hmem)
  have hname : found.toMatch.package = ['.'].intercalate (first :: (others ++ [className])) :=
    hfound.name_of_names hplain
  have hline : reporter.packageLine? found.toMatch =
      some (reporter.packageHead ++
        (first ++ (others ++ [className]).flatMap (Text.remnant '.' "class".toList)) ++
          ['\n']) := by
    rw [packageLine?_eq reporter hshow, hname, ClassName.ofPath_dotted hfirst hothers]
  refine ⟨hline, ?_⟩
  rw [hline, List.cons_append, Text.intercalate_cons,
    ← Text.remnants_eq_iff fun name hmem => (hothers name hmem).dot, Option.some.injEq,
    List.append_left_inj, List.append_right_inj, List.append_right_inj]

end Reporter

/-! ## Two classes of a JDK -/

/-- A host whose JDK has a runtime image with this listing. -/
def Host.ofListing (listing : Text) : Host where
  files := { workingDirectory := [], top := [("jdk".toList, .directory {}
    [("bin".toList, .directory {} [("jimage".toList, .file { bytes := [] } true)]),
      ("lib".toList, .directory {} [("modules".toList, .file { bytes := [] } false)])])] }
  environment := { bindings := [("JAVA_HOME".toList, "/jdk".toList)] }
  listing _ := .ran (Utf8.encode listing) 0 []
  disassembly _ := .refused .noEntry

def listImage : RuntimeImage :=
  .ofListing ["Module: java.base".toList, "  java/util/List.class".toList]

def listReporter : Reporter Transcript :=
  Session.reporter (.ofListing []) {}
    { runtime := .empty, elements := [], disassembler := [], highlightSource := false }

theorem Reporter.packageLine_qualified_iff_list :
    listReporter.display.showPackage = true ∧
      (∀ name ∈ ["java".toList, "util".toList] ++ ["List".toList], ClassName.IsPlain name) ∧
      ∃ found, listImage.FindsAt ⟨"List".toList⟩
          (['/'].intercalate (["java".toList, "util".toList] ++ ["List".toList ++ classExtension]))
          found ∧
        listReporter.packageLine? found.toMatch =
          some "    Package: java.util.List\n".toList := by
  have hplain : ∀ name ∈ ["java".toList, "util".toList] ++ ["List".toList],
      ClassName.IsPlain name := by decide
  have hfound : listImage.FindsAt ⟨"List".toList⟩
      (['/'].intercalate (["java".toList, "util".toList] ++ ["List".toList ++ classExtension]))
      ⟨"java.util.List".toList, "jrt:/java.base/java/util/List.class".toList⟩ :=
    ⟨"java/util".toList, by decide +kernel, by decide, by decide +kernel⟩
  have hline := packageLine_qualified_iff listReporter rfl hplain hfound
  exact ⟨rfl, hplain, _, hfound, hline.2.2 (by decide)⟩

def classfileListing : Text := "Module: java.base\n  java/lang/classfile/ClassFile.class\n"

/-- A class in a package `classfile` is reported under a name that it does not have. -/
theorem output_of_classfile_package :
    (∀ name ∈ ["java".toList, "lang".toList, "classfile".toList, "ClassFile".toList],
        ClassName.IsPlain name) ∧
      (RuntimeImage.ofListing (Text.breakLines classfileListing)).FindsAt ⟨"ClassFile".toList⟩
        "java/lang/classfile/ClassFile.class".toList
        ⟨"java.lang.classfile.ClassFile".toList,
          "jrt:/java.base/java/lang/classfile/ClassFile.class".toList⟩ ∧
      (Session.run (.ofListing classfileListing)
          { arguments := ["-rt".toList, "ClassFile".toList] }).output =
        ("Path: jrt:/java.base/java/lang/classfile/ClassFile.class\n" ++
          "    Package: java.langfile.ClassFile\n").toList := by
  refine ⟨by decide, ⟨"java/lang/classfile".toList, ?_⟩, ?_⟩
  · decide +kernel
  · decide +kernel

end ClassLocator
