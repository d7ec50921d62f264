import ClassLocator.Proofs.Runtime.QualifiedName

/-!
# Paths of class files

A report shows a match by the dotted name that the path of its class file stands for. Of the path
it takes out the class extension wherever this stands once the separators have become dots, so
also where a name behind a separator begins like the extension. Such a name is merged with the one
before it; all other names stay as they are.

## Main statements

* `ClassName.ofPath_joined`: what the path of a class file is shown as, and when this is its
  dotted name.
-/

namespace ClassLocator.ClassName

variable {separator : Char} {names : List Text} {className : Text}

/-- Plain names are parted by dots afterwards, whichever separator parted them before. -/
theorem replaceChar_joined (hseparator : separator = '/' ∨ separator = '\\')
    (hplain : ∀ name ∈ names, IsPlain name) :
    Text.replaceChar '/' '.' (Text.replaceChar '\\' '.' ([separator].intercalate names)) =
      ['.'].intercalate names := by
  have hslash : ∀ name ∈ names, '/' ∉ name := fun name hmem => (hplain name hmem).slash
  have hback : ∀ name ∈ names, '\\' ∉ name := fun name hmem => (hplain name hmem).backslash
  rcases hseparator with rfl | rfl
  · rw [Text.replaceChar_of_notMem (Text.notMem_intercalate (by decide) hback),
      Text.replaceChar_intercalate hslash]
  · rw [Text.replaceChar_intercalate hback,
      Text.replaceChar_of_notMem (Text.notMem_intercalate (by decide) hslash)]

/-- A path that ends in the extension is shown without it, and without all that looks like it. -/
theorem ofPath_append_extension (stem : Text) :
    ofPath (stem ++ classExtension) =
      Text.replace classExtension []
        (Text.replaceChar '/' '.' (Text.replaceChar '\\' '.' stem) ++ classExtension) := by
  have hoccurs : Text.occursIn classExtension (stem ++ classExtension) = true :=
    Text.occursIn_iff.2 (List.suffix_append stem classExtension).isInfix
  rw [ofPath, if_pos hoccurs, Text.replaceChar_append, Text.replaceChar_append]
  rfl

/-- The extension at the end of a dotted name is a last piece behind a dot, of which nothing is
left. -/
theorem replace_dotted_extension {first : Text} {others : List Text} (hfirst : '.' ∉ first)
    (hothers : ∀ name ∈ others, '.' ∉ name) :
    Text.replace classExtension [] (['.'].intercalate (first :: others) ++ classExtension) =
      first ++ others.flatMap (Text.remnant '.' "class".toList) := by
  have hpieces : ∀ name ∈ others ++ ["class".toList], '.' ∉ name := by
    intro name hmem
    rcases List.mem_append.1 hmem with hmem | hmem
    · exact hothers name hmem
    · rw [List.mem_singleton.1 hmem]
      decide
  have hbehind : ['.'].intercalate (first :: others) ++ classExtension =
      ['.'].intercalate (first :: (others ++ ["class".toList])) := by
    rw [Text.intercalate_cons, Text.intercalate_cons, Text.behind, Text.behind,
      List.flatMap_append, List.flatMap_singleton, List.append_assoc]
    rfl
  have hlast : Text.remnant '.' "class".toList "class".toList = [] := by decide
  rw [hbehind, replace_dotted hfirst hpieces, List.flatMap_append, List.flatMap_singleton, hlast,
    List.append_nil]

theorem ofPath_of_parts {first : Text} {others : List Text}
    (hseparator : separator = '/' ∨ separator = '\\')
    (hplain : ∀ name ∈ first :: others, IsPlain name) :
    ofPath ([separator].intercalate (first :: others) ++ classExtension) =
      first ++ others.flatMap (Text.remnant '.' "class".toList) := by
  obtain ⟨hfirst, hothers⟩ := List.forall_mem_cons.1 hplain
  rw [ofPath_append_extension, replaceChar_joined hseparator hplain,
    replace_dotted_extension hfirst.dot fun name hmem => (hothers name hmem).dot]

/-- The path of a class file, whose names are plain and stand between slashes or between
backslashes, is shown as its first name and the others behind their dots, but of a name behind a
dot that begins with `class` neither this nor the dot. So it is shown as the dotted name of the
class just if there is no such name. -/
theorem ofPath_joined (hseparator : separator = '/' ∨ separator = '\\')
    (hplain : ∀ name ∈ names ++ [className], IsPlain name) :
    let parts := names ++ [className]
    let path := [separator].intercalate (names ++ [className ++ classExtension])
    ofPath path = parts.headD [] ++ parts.tail.flatMap (Text.remnant '.' "class".toList) ∧
      (ofPath path = ['.'].intercalate parts ↔ ∀ name ∈ parts.tail, ¬ "class".toList <+: name) := by
  intro parts path
  have hstem : path = [separator].intercalate parts ++ classExtension :=
    intercalate_append_extension separator names className
  change ∀ name ∈ parts, IsPlain name at hplain
  rw [hstem]
  rcases hparts : parts with _ | ⟨first, others⟩
  · exact absurd hparts (List.append_ne_nil_of_right_ne_nil names (List.cons_ne_nil _ _))
  rw [hparts] at hplain
  rw [ofPath_of_parts hseparator hplain]
  refine ⟨rfl, ?_⟩
  rw [Text.intercalate_cons, List.append_right_inj]
  exact Text.remnants_eq_iff fun name hmem => (hplain name (List.mem_cons_of_mem first hmem)).dot

/-- No name is lost where `class` only begins the first one. -/
theorem ofPath_joined_backslashes :
    (∀ name ∈ ["classes".toList, "com".toList] ++ ["Foo$1".toList], IsPlain name) ∧
      ofPath (['\\'].intercalate
        (["classes".toList, "com".toList] ++ ["Foo$1".toList ++ classExtension])) =
          ['.'].intercalate (["classes".toList, "com".toList] ++ ["Foo$1".toList]) := by
  have hplain : ∀ name ∈ ["classes".toList, "com".toList] ++ ["Foo$1".toList], IsPlain name := by
    decide
  exact ⟨hplain, (ofPath_joined (.inr rfl) hplain).2.2 (by decide)⟩

/-- The package `java.lang.classfile` is merged with the one that it lies in, and so is a class
whose name begins with `class`. -/
theorem ofPath_merges_names :
    (∀ name ∈ ["java", "lang", "classfile", "ClassFile", "classic"].map String.toList,
        IsPlain name ∧ name ≠ []) ∧
      (ofPath (['/'].intercalate (["java", "lang", "classfile", "ClassFile.class"].map
          String.toList)) = "java.langfile.ClassFile".toList ∧
        ['.'].intercalate (["java", "lang", "classfile", "ClassFile"].map String.toList) =
          "java.lang.classfile.ClassFile".toList) ∧
      ofPath (['\\'].intercalate (["java", "classic.class"].map String.toList)) =
        "javaic".toList ∧
      ['.'].intercalate (["java", "classic"].map String.toList) = "java.classic".toList := by
  decide +kernel

end ClassLocator.ClassName
