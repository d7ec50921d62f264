import ClassLocator.Proofs.FileSystem.Lookup
import ClassLocator.Proofs.Session.Arguments
import Mathlib.Data.List.Perm.Basic

/-!
# The units of a command line

A command line falls into units: the flag for the sources of a JDK takes the argument behind it
along, whatever that is, and every other argument is a unit of its own. A command line is a search
if none of its units is at fault and one of them is a name. What it asks for depends on the flags
among its units, on the last name, and on the last root of a JDK. A command line that is no search
is refused for the first of its units that is at fault.

## Main definitions

* `Flag.mark`, `Flag.Gives`: the arguments that give a flag.
* `ArgumentUnit`, `ArgumentUnit.cut`: the units of a command line.
* `ArgumentUnit.IsUsable`, `ArgumentUnit.Offends`: what is at fault with a unit.
* `Options.ofUnits`: what the units ask for.

## Main statements

* `Options.foldlM_take_eq_ok_iff`, `Options.foldlM_take_error`: units taken one after the other.
* `Options.parse_units`: what a command line asks for, or why it is refused.
-/

namespace ClassLocator

/-! ## Arguments that are flags -/

namespace Flag

/-- What an argument begins with that gives the flag. -/
def mark : Flag → Text
  | privateMethods => "-mp"
  | methods => "-m"
  | debug => "-debug"
  | hidePath => "-path"
  | hidePackage => "-package"
  | runtimeOnly => "-rt"
  | source => "-s"
  | jdkSource => "-js"
  | help => "-h"

/-- The argument gives the flag. An argument that begins with `-mp` does not give `-m`. -/
def Gives (flag : Flag) (argument : Text) : Prop :=
  flag.mark <+: argument ∧ (flag = methods → ¬ privateMethods.mark <+: argument)

theorem mem_marks (flag : Flag) : (flag.mark, flag) ∈ marks := by
  cases flag <;> decide

theorem fst_of_mem_marks {pair : Text × Flag} (h : pair ∈ marks) : pair.1 = pair.2.mark := by
  revert pair
  decide

/-- One mark begins with another one only if they are the marks of the two listings of members. -/
theorem eq_of_mark_isPrefix {flag other : Flag} (h : flag.mark <+: other.mark) :
    flag = other ∨ flag = methods ∧ other = privateMethods := by
  revert h
  cases flag <;> cases other <;> decide

variable {argument : Text} {flag : Flag}

theorem mark_isPrefix (h : ofArgument? argument = some flag) : flag.mark <+: argument := by
  obtain ⟨pair, hfind, rfl⟩ := Option.map_eq_some_iff.1 h
  have hprefix := List.find?_some hfind
  rw [← fst_of_mem_marks (List.mem_of_find?_eq_some hfind)]
  exact List.isPrefixOf_iff_prefix.1 hprefix

/-- The longer one of the two marks is tried first. -/
theorem ofArgument?_of_privateMethods (h : privateMethods.mark <+: argument) :
    ofArgument? argument = some privateMethods := by
  have hmark : "-mp".toList.isPrefixOf argument = true := List.isPrefixOf_iff_prefix.2 h
  rw [ofArgument?, marks, List.find?_cons_of_pos]
  · rfl
  · exact hmark

theorem ofArgument?_eq_none_iff :
    ofArgument? argument = none ↔ ∀ flag : Flag, ¬ flag.mark <+: argument := by
  rw [ofArgument?, Option.map_eq_none_iff, List.find?_eq_none]
  constructor
  · intro h flag hprefix
    exact h _ flag.mem_marks (List.isPrefixOf_iff_prefix.2 hprefix)
  · intro h pair hmem hprefix
    refine h pair.2 ?_
    rw [← fst_of_mem_marks hmem]
    exact List.isPrefixOf_iff_prefix.1 hprefix

theorem ofArgument?_eq_some_iff : ofArgument? argument = some flag ↔ flag.Gives argument := by
  constructor
  · intro h
    refine ⟨mark_isPrefix h, ?_⟩
    rintro rfl hprivate
    rw [ofArgument?_of_privateMethods hprivate] at h
    cases h
  · rintro ⟨hmark, hmethods⟩
    cases hother : ofArgument? argument with
    | none => exact absurd hmark (ofArgument?_eq_none_iff.1 hother flag)
    | some other =>
      rcases List.prefix_or_prefix_of_prefix hmark (mark_isPrefix hother) with hle | hle
      · rcases eq_of_mark_isPrefix hle with rfl | ⟨rfl, rfl⟩
        · rfl
        · exact absurd (mark_isPrefix hother) (hmethods rfl)
      · rcases eq_of_mark_isPrefix hle with rfl | ⟨-, rfl⟩
        · rfl
        · rw [← hother, ofArgument?_of_privateMethods hmark]

end Flag

/-! ## Units -/

inductive ArgumentUnit where
  | single (argument : Text)
  /-- The flag for the sources of a JDK, with the argument behind it if there is one. -/
  | source (root : Option Text)
deriving DecidableEq, Repr

namespace ArgumentUnit

/-- The units that the arguments fall into, from the left. -/
def cut : List Text → List ArgumentUnit
  | [] => []
  | argument :: rest =>
    if Flag.jdkSource.mark <+: argument then
      match rest with
      | [] => [.source none]
      | root :: rest => .source (some root) :: cut rest
    else .single argument :: cut rest

/-- A flag for the display settings is carried by an argument of its own. -/
def Carries (flag : Flag) : ArgumentUnit → Prop
  | single argument => flag.Gives argument
  | source _ => False

/-- The flag of an argument of its own. -/
def flag? : ArgumentUnit → Option Flag
  | single argument => Flag.ofArgument? argument
  | source _ => none

/-- An argument of its own is a name if no mark fits it. -/
def name? : ArgumentUnit → Option Text
  | single argument =>
    if ∀ marked ∈ Flag.marks, ¬ marked.1 <+: argument then some argument else none
  | source _ => none

def root? : ArgumentUnit → Option Text
  | single _ => none
  | source root => root

/-- The flags among the units. -/
def flags (units : List ArgumentUnit) : List Flag := units.filterMap flag?

/-- The names among the units. -/
def names (units : List ArgumentUnit) : List Text := units.filterMap name?

/-- The roots of JDKs among the units. -/
def roots (units : List ArgumentUnit) : List Text := units.filterMap root?

theorem flag?_eq_some_iff {unit : ArgumentUnit} {flag : Flag} :
    unit.flag? = some flag ↔ unit.Carries flag := by
  cases unit with
  | single argument => exact Flag.ofArgument?_eq_some_iff
  | source root => exact iff_of_false nofun not_false

theorem mem_flags {units : List ArgumentUnit} {flag : Flag} :
    flag ∈ flags units ↔ ∃ unit ∈ units, unit.Carries flag := by
  simp only [flags, List.mem_filterMap, flag?_eq_some_iff]

theorem name?_single (argument : Text) :
    (single argument).name? =
      if Flag.ofArgument? argument = none then some argument else none := by
  have hmarks : (∀ marked ∈ Flag.marks, ¬ marked.1 <+: argument) ↔
      Flag.ofArgument? argument = none := by
    rw [Flag.ofArgument?_eq_none_iff]
    constructor
    · exact fun h flag => h _ flag.mem_marks
    · intro h marked hmem
      rw [Flag.fst_of_mem_marks hmem]
      exact h marked.2
  simp only [name?, hmarks]

/-- The root of a JDK that is called like a flag is none of the flags. -/
theorem not_jdkSource_of_single_mem {arguments : List Text} {argument : Text}
    (h : single argument ∈ cut arguments) : ¬ Flag.jdkSource.mark <+: argument := by
  fun_induction cut arguments with
  | case1 => cases h
  | case2 first hmark => cases List.mem_singleton.1 h
  | case3 first hmark root rest ih =>
    rcases List.mem_cons.1 h with h | h
    · cases h
    · exact ih h
  | case4 first rest hmark ih =>
    rcases List.mem_cons.1 h with h | h
    · cases h
      exact hmark
    · exact ih h

/-! ## Units at fault -/

section

variable (fs : FileSystem)

/-- Both the root of the JDK and its directory of sources are directories, and the unit does not ask
for help. -/
def IsUsable : ArgumentUnit → Prop
  | single argument => ¬ Flag.help.mark <+: argument
  | source none => False
  | source (some root) =>
    fs.isDirectory (.parse root) = .ok true ∧
      fs.isDirectory (ClassPath.sourceDirectory (.parse root)) = .ok true

/-- There is no directory under the path, and the error says why. -/
def Misses (path : Path) (error : UsageError) : Prop :=
  fs.exists? path = .ok false ∧ error = .missingPath path ∨
    fs.exists? path = .ok true ∧ fs.isDirectory path = .ok false ∧ error = .notDirectory path

/-- The unit is at fault, and the error says why. The sources are looked for below a root that is
there. -/
def Offends (error : UsageError) : ArgumentUnit → Prop
  | single argument => Flag.help.mark <+: argument ∧ error = .helpWanted
  | source none => error = .noSourceLocation
  | source (some root) =>
    Misses fs (.parse root) error ∨
      fs.isDirectory (.parse root) = .ok true ∧
        Misses fs (ClassPath.sourceDirectory (.parse root)) error

/-- It can be found out whether the two directories are there. -/
def IsAnswered (root : Text) : Prop :=
  (∀ cause, fs.exists? (.parse root) ≠ .error cause) ∧
    (fs.isDirectory (.parse root) = .ok true →
      ∀ cause, fs.exists? (ClassPath.sourceDirectory (.parse root)) ≠ .error cause)

end

end ArgumentUnit

namespace Options

open ArgumentUnit

variable {fs : FileSystem}

/-! ## Directories that have to be there -/

theorem requireDirectory_of_isDirectory {path : Path} (h : fs.isDirectory path = .ok true) :
    requireDirectory fs path = .ok ⟨⟩ := by
  unfold requireDirectory
  rw [FileSystem.exists?_of_isDirectory h, h]
  rfl

theorem requireDirectory_of_misses {path : Path} {error : UsageError} (h : Misses fs path error) :
    requireDirectory fs path = .error (.usage error) := by
  unfold requireDirectory
  rcases h with ⟨hexists, rfl⟩ | ⟨hexists, hdirectory, rfl⟩
  · rw [hexists]
    rfl
  · rw [hexists, hdirectory]
    rfl

/-- The check fails on whatever is no directory, also where it cannot be found out. -/
theorem isDirectory_of_requireDirectory {path : Path} (h : requireDirectory fs path = .ok ⟨⟩) :
    fs.isDirectory path = .ok true := by
  obtain ⟨there, -, h⟩ := exists_of_bind_ok h
  cases there with
  | false => cases h
  | true =>
    obtain ⟨answer, hanswer, h⟩ := exists_of_bind_ok h
    cases hdirectory : fs.isDirectory path with
    | error cause =>
      rw [hdirectory] at hanswer
      cases hanswer
    | ok other =>
      rw [hdirectory] at hanswer
      cases hanswer
      cases answer with
      | false => cases h
      | true => rfl

theorem isDirectory_or_misses {path : Path} (h : ∀ cause, fs.exists? path ≠ .error cause) :
    fs.isDirectory path = .ok true ∨ ∃ error, Misses fs path error := by
  obtain ⟨answer, hdirectory⟩ : ∃ answer, fs.isDirectory path = .ok answer :=
    FileSystem.exists_holds_eq_ok h
  cases hexists : fs.exists? path with
  | error cause => exact absurd hexists (h cause)
  | ok there =>
    cases there with
    | false => exact .inr ⟨_, .inl ⟨hexists, rfl⟩⟩
    | true =>
      cases answer with
      | false => exact .inr ⟨_, .inr ⟨hexists, hdirectory, rfl⟩⟩
      | true => exact .inl hdirectory

theorem resolveSource_eq_ok_iff {jdkRoot source : Path} :
    resolveSource fs jdkRoot = .ok source ↔
      fs.isDirectory jdkRoot = .ok true ∧
        fs.isDirectory (ClassPath.sourceDirectory jdkRoot) = .ok true ∧
        source = ClassPath.sourceDirectory jdkRoot := by
  constructor
  · intro h
    obtain ⟨_, hroot, h⟩ := exists_of_bind_ok h
    obtain ⟨_, hsource, h⟩ := exists_of_bind_ok h
    cases h
    exact ⟨isDirectory_of_requireDirectory hroot, isDirectory_of_requireDirectory hsource, rfl⟩
  · rintro ⟨hroot, hsource, rfl⟩
    unfold resolveSource
    simp only [requireDirectory_of_isDirectory hroot, requireDirectory_of_isDirectory hsource]
    rfl

/-! ## One unit -/

/-- What the arguments say after one more unit. -/
def take (fs : FileSystem) (found : Partial) : ArgumentUnit → Except Fault Partial
  | .single argument =>
    match Flag.ofArgument? argument with
    | none => .ok { found with className := some argument }
    | some .help => .error (.usage .helpWanted)
    | some flag => .ok (found.add flag)
  | .source none => .error (.usage .noSourceLocation)
  | .source (some root) => do
    let source ← resolveSource fs (.parse root)
    return { found with jdkSource := some source }

/-- What the arguments say after one more unit that is not at fault. -/
def Partial.after (found : Partial) (taken : ArgumentUnit) : Partial where
  className := taken.name?.or found.className
  display := taken.flag?.elim found.display (Flag.set found.display)
  jdkSource :=
    (taken.root?.map fun root => ClassPath.sourceDirectory (.parse root)).or found.jdkSource

theorem take_of_usable {taken : ArgumentUnit} (found : Partial) (h : taken.IsUsable fs) :
    take fs found taken = .ok (found.after taken) := by
  cases taken with
  | single argument =>
    cases hflag : Flag.ofArgument? argument with
    | none => simp [take, Partial.after, name?_single, flag?, root?, hflag]
    | some flag =>
      cases flag with
      | help => exact absurd (Flag.mark_isPrefix hflag) h
      | _ => simp [take, Partial.after, Partial.add, name?_single, flag?, root?, hflag]
  | source root =>
    cases root with
    | none => exact h.elim
    | some root =>
      have hsource := resolveSource_eq_ok_iff.2 ⟨h.1, h.2, rfl⟩
      simp [take, Partial.after, name?, flag?, root?, hsource]

theorem usable_of_take {taken : ArgumentUnit} {found result : Partial}
    (h : take fs found taken = .ok result) : taken.IsUsable fs := by
  cases taken with
  | single argument =>
    intro hhelp
    have hflag : Flag.ofArgument? argument = some .help :=
      Flag.ofArgument?_eq_some_iff.2 ⟨hhelp, nofun⟩
    simp only [take, hflag] at h
    cases h
  | source root =>
    cases root with
    | none => cases h
    | some root =>
      obtain ⟨source, hsource, -⟩ := exists_of_bind_ok h
      obtain ⟨hroot, hdirectory, -⟩ := resolveSource_eq_ok_iff.1 hsource
      exact ⟨hroot, hdirectory⟩

theorem take_of_offends {taken : ArgumentUnit} {error : UsageError} (found : Partial)
    (h : taken.Offends fs error) : take fs found taken = .error (.usage error) := by
  cases taken with
  | single argument =>
    obtain ⟨hhelp, rfl⟩ := h
    have hflag : Flag.ofArgument? argument = some .help :=
      Flag.ofArgument?_eq_some_iff.2 ⟨hhelp, nofun⟩
    simp only [take, hflag]
  | source root =>
    cases root with
    | none =>
      cases h
      rfl
    | some root =>
      have hsource : resolveSource fs (.parse root) = .error (.usage error) := by
        unfold resolveSource
        rcases h with hroot | ⟨hroot, hsource⟩
        · rw [requireDirectory_of_misses hroot]
          rfl
        · rw [requireDirectory_of_isDirectory hroot]
          simp only [requireDirectory_of_misses hsource]
          rfl
      simp only [take, hsource]
      rfl

/-- If the questions about directories are answered, a unit can be used or there is a reason why it
cannot. -/
theorem usable_or_offends {taken : ArgumentUnit} (h : ∀ root ∈ taken.root?, IsAnswered fs root) :
    taken.IsUsable fs ∨ ∃ error, taken.Offends fs error := by
  cases taken with
  | single argument =>
    by_cases hhelp : Flag.help.mark <+: argument
    · exact .inr ⟨_, hhelp, rfl⟩
    · exact .inl hhelp
  | source root =>
    cases root with
    | none => exact .inr ⟨_, rfl⟩
    | some root =>
      obtain ⟨hroot, hsource⟩ := h root rfl
      rcases isDirectory_or_misses hroot with hdirectory | ⟨error, hmisses⟩
      · rcases isDirectory_or_misses (hsource hdirectory) with hsources | ⟨error, hmisses⟩
        · exact .inl ⟨hdirectory, hsources⟩
        · exact .inr ⟨error, .inr ⟨hdirectory, hmisses⟩⟩
      · exact .inr ⟨error, .inl hmisses⟩

/-! ## All units -/

/-- Reading the arguments is taking their units one after the other. -/
theorem read_eq_foldlM (found : Partial) (arguments : List Text) :
    read fs found arguments = (cut arguments).foldlM (take fs) found := by
  fun_induction cut arguments generalizing found with
  | case1 => rfl
  | case2 argument hmark =>
    have hflag : Flag.ofArgument? argument = some .jdkSource :=
      Flag.ofArgument?_eq_some_iff.2 ⟨hmark, nofun⟩
    rw [read_noSource hflag]
    rfl
  | case3 argument hmark root rest ih =>
    have hflag : Flag.ofArgument? argument = some .jdkSource :=
      Flag.ofArgument?_eq_some_iff.2 ⟨hmark, nofun⟩
    rw [read_jdkSource hflag, List.foldlM_cons, take]
    simp only [ih, bind_assoc, pure_bind]
  | case4 argument rest hmark ih =>
    rw [List.foldlM_cons, take]
    cases hflag : Flag.ofArgument? argument with
    | none =>
      rw [read_name hflag, ih]
      rfl
    | some flag =>
      cases flag with
      | help =>
        rw [read_help hflag]
        rfl
      | jdkSource => exact absurd (Flag.mark_isPrefix hflag) hmark
      | _ =>
        rw [read_flag hflag nofun nofun, ih]
        rfl

/-- All units are taken if and only if none of them is at fault. -/
theorem foldlM_take_eq_ok_iff {units : List ArgumentUnit} {found result : Partial} :
    units.foldlM (take fs) found = .ok result ↔
      (∀ taken ∈ units, taken.IsUsable fs) ∧ result = units.foldl Partial.after found := by
  induction units generalizing found with
  | nil =>
    constructor
    · intro h
      cases h
      exact ⟨nofun, rfl⟩
    · rintro ⟨-, rfl⟩
      rfl
  | cons taken rest ih =>
    rw [List.foldlM_cons, List.foldl_cons, List.forall_mem_cons]
    constructor
    · intro h
      obtain ⟨between, htake, hrest⟩ := exists_of_bind_ok h
      have husable := usable_of_take htake
      rw [take_of_usable found husable] at htake
      cases htake
      obtain ⟨hothers, hresult⟩ := ih.1 hrest
      exact ⟨⟨husable, hothers⟩, hresult⟩
    · rintro ⟨⟨husable, hothers⟩, hresult⟩
      rw [take_of_usable found husable]
      exact ih.2 ⟨hothers, hresult⟩

/-- The first unit that is at fault is the one that is told of. -/
theorem foldlM_take_error {units : List ArgumentUnit} {found : Partial} {fault : Fault}
    (hanswered : ∀ root ∈ roots units, IsAnswered fs root)
    (h : units.foldlM (take fs) found = .error fault) :
    ∃ before taken after error, units = before ++ taken :: after ∧
      (∀ earlier ∈ before, earlier.IsUsable fs) ∧ taken.Offends fs error ∧
      fault = .usage error := by
  induction units generalizing found with
  | nil => cases h
  | cons taken rest ih =>
    have hroot : ∀ root ∈ taken.root?, IsAnswered fs root := fun root hmem =>
      hanswered root (List.mem_filterMap.2 ⟨taken, List.mem_cons_self, hmem⟩)
    have hrest : ∀ root ∈ roots rest, IsAnswered fs root := by
      intro root hmem
      obtain ⟨other, hother, hvalue⟩ := List.mem_filterMap.1 hmem
      exact hanswered root (List.mem_filterMap.2 ⟨other, List.mem_cons_of_mem taken hother, hvalue⟩)
    rw [List.foldlM_cons] at h
    rcases usable_or_offends hroot with husable | ⟨error, hoffends⟩
    · rw [take_of_usable found husable] at h
      obtain ⟨before, other, after, error, rfl, hbefore, hoffends, hfault⟩ := ih hrest h
      exact ⟨taken :: before, other, after, error, rfl,
        List.forall_mem_cons.2 ⟨husable, hbefore⟩, hoffends, hfault⟩
    · rw [take_of_offends found hoffends] at h
      cases h
      exact ⟨[], taken, rest, error, rfl, nofun, hoffends, rfl⟩

/-! ## What the units ask for -/

/-- What the units ask for, if there is a name among them. -/
def ofUnits (units : List ArgumentUnit) : Option Options :=
  (names units).getLast?.map fun className =>
    { className
      display := (flags units).foldl Flag.set {}
      jdkSource := (roots units).getLast?.map fun root =>
        ClassPath.sourceDirectory (.parse root) }

theorem foldl_after (units : List ArgumentUnit) (found : Partial) :
    units.foldl Partial.after found =
      { className := (names units).getLast?.or found.className
        display := (flags units).foldl Flag.set found.display
        jdkSource := ((roots units).getLast?.map fun root =>
          ClassPath.sourceDirectory (.parse root)).or found.jdkSource } := by
  induction units generalizing found with
  | nil => rfl
  | cons taken rest ih =>
    rw [List.foldl_cons, ih]
    simp only [names, flags, roots, List.filterMap_eq_flatMap_toList, List.flatMap_cons,
      List.getLast?_append, List.foldl_append, Partial.after]
    congr 1
    · cases taken.name? <;> simp
    · cases taken.flag? <;> rfl
    · cases taken.root? <;> simp

theorem parse_eq_ok_iff {arguments : List Text} {options : Options} :
    parse fs arguments = .ok options ↔
      (∀ taken ∈ cut arguments, taken.IsUsable fs) ∧ ofUnits (cut arguments) = some options := by
  constructor
  · intro h
    obtain ⟨found, hread, h⟩ := exists_of_bind_ok h
    rw [read_eq_foldlM, foldlM_take_eq_ok_iff, foldl_after] at hread
    obtain ⟨husable, rfl⟩ := hread
    refine ⟨husable, ?_⟩
    cases hname : (names (cut arguments)).getLast? with
    | none =>
      simp only [hname] at h
      cases h
    | some className =>
      simp only [hname] at h
      cases h
      simp [ofUnits, hname]
  · rintro ⟨husable, hoptions⟩
    obtain ⟨className, hname, rfl⟩ := Option.map_eq_some_iff.1 hoptions
    have hread := foldlM_take_eq_ok_iff.2 ⟨husable, (foldl_after (cut arguments) {}).symm⟩
    unfold parse
    rw [read_eq_foldlM, hread]
    simp only [hname, Option.or_none]
    rfl

theorem parse_error {arguments : List Text} {fault : Fault}
    (hanswered : ∀ root ∈ roots (cut arguments), IsAnswered fs root)
    (h : parse fs arguments = .error fault) :
    (∃ before taken after error, cut arguments = before ++ taken :: after ∧
        (∀ earlier ∈ before, earlier.IsUsable fs) ∧ taken.Offends fs error ∧
        fault = .usage error) ∨
      (∀ taken ∈ cut arguments, taken.IsUsable fs) ∧ names (cut arguments) = [] ∧
        fault = .usage .noClassName := by
  unfold parse at h
  rw [read_eq_foldlM] at h
  cases hread : (cut arguments).foldlM (take fs) {} with
  | error other =>
    rw [hread] at h
    cases h
    exact .inl (foldlM_take_error hanswered hread)
  | ok found =>
    rw [hread] at h
    obtain ⟨husable, rfl⟩ := foldlM_take_eq_ok_iff.1 hread
    rw [foldl_after] at h
    cases hname : (names (cut arguments)).getLast? with
    | some className =>
      simp only [hname] at h
      cases h
    | none =>
      simp only [hname] at h
      cases h
      exact .inr ⟨husable, List.getLast?_eq_none_iff.1 hname, rfl⟩

theorem isSet_display_iff {arguments : List Text} {options : Options}
    (h : parse fs arguments = .ok options) (flag : Flag) :
    flag.IsSet options.display ↔ ∃ taken ∈ cut arguments, taken.Carries flag := by
  obtain ⟨husable, hoptions⟩ := parse_eq_ok_iff.1 h
  obtain ⟨className, -, rfl⟩ := Option.map_eq_some_iff.1 hoptions
  by_cases hsource : flag = .jdkSource
  · subst hsource
    refine iff_of_false not_false ?_
    rintro ⟨argument | root, hmem, hcarries⟩
    · exact not_jdkSource_of_single_mem hmem hcarries.1
    · exact hcarries
  by_cases hhelp : flag = .help
  · subst hhelp
    refine iff_of_false not_false ?_
    rintro ⟨argument | root, hmem, hcarries⟩
    · exact husable _ hmem hcarries.1
    · exact hcarries
  rw [← mem_flags, ← Flag.isSet_foldl_set _ hsource hhelp]

/-- Two command lines of the same units ask for the same, if their names come in the same order and
their roots do. -/
theorem ofUnits_perm {units others : List ArgumentUnit} (h : others.Perm units)
    (hnames : names others = names units) (hroots : roots others = roots units) :
    ofUnits others = ofUnits units := by
  have hcomm : RightCommutative Flag.set := ⟨Flag.set_comm⟩
  have hflags : (flags others).foldl Flag.set {} = (flags units).foldl Flag.set {} :=
    (h.filterMap flag?).foldl_eq (f := Flag.set) ({} : Display)
  rw [ofUnits, ofUnits, hnames, hroots, hflags]

/-- A command line is a search just if none of its units is at fault and one of them is a name.
Then the display settings are those of its flags, the last name counts and so does the last root of
a JDK, and apart from this it does not matter in which order the units come. Otherwise it is
refused for its first unit that is at fault, and only if there is none, for the name that is
missing. -/
theorem parse_units (fs : FileSystem) (arguments : List Text) :
    let units := cut arguments
    ((∃ options, parse fs arguments = .ok options) ↔
        (∀ taken ∈ units, taken.IsUsable fs) ∧ names units ≠ []) ∧
      (∀ options, parse fs arguments = .ok options →
        (∀ flag : Flag, flag.IsSet options.display ↔ ∃ taken ∈ units, taken.Carries flag) ∧
          (names units).getLast? = some options.className ∧
          options.jdkSource = (roots units).getLast?.map fun root =>
            ClassPath.sourceDirectory (.parse root)) ∧
      (∀ others, (cut others).Perm units → names (cut others) = names units →
        roots (cut others) = roots units →
        ∀ options, parse fs others = .ok options ↔ parse fs arguments = .ok options) ∧
      ((∀ root ∈ roots units, IsAnswered fs root) →
        ∀ fault, parse fs arguments = .error fault →
          (∃ before taken after error, units = before ++ taken :: after ∧
              (∀ earlier ∈ before, earlier.IsUsable fs) ∧ taken.Offends fs error ∧
              fault = .usage error) ∨
            (∀ taken ∈ units, taken.IsUsable fs) ∧ names units = [] ∧
              fault = .usage .noClassName) := by
  intro units
  refine ⟨?_, ?_, ?_, fun hanswered fault => parse_error hanswered⟩
  · have hname : (∃ options, ofUnits units = some options) ↔ names units ≠ [] := by
      rw [← Option.isSome_iff_exists, ofUnits, Option.isSome_map, List.getLast?_isSome]
    simp only [parse_eq_ok_iff, exists_and_left, hname, units]
  · intro options h
    obtain ⟨-, hoptions⟩ := parse_eq_ok_iff.1 h
    have hset := isSet_display_iff h
    obtain ⟨className, hname, rfl⟩ := Option.map_eq_some_iff.1 hoptions
    exact ⟨hset, hname, rfl⟩
  · intro others hperm hnames hroots options
    simp only [parse_eq_ok_iff, hperm.mem_iff, ofUnits_perm hperm hnames hroots, units]

/-- A working directory with a JDK in it that has sources. -/
def jdkFiles : FileSystem :=
  { top := [("jdk".toList, .directory {} [("src".toList, .directory {} [])])]
    workingDirectory := [] }

def jdkLine : List Text := ["-mp".toList, "Foo".toList, "-js".toList, "jdk".toList]

/-- The units of `jdkLine` in another order. -/
def jdkLineReordered : List Text := ["-js".toList, "jdk".toList, "Foo".toList, "-mp".toList]

/-- The root of the JDK is called like a flag here, and is missing. -/
def helpLine : List Text := ["Foo".toList, "-js".toList, "-h".toList, "-h".toList]

/-- The private listing is asked for, and not the public one, in either order of the units; and the
root that is missing is told of before the help that is asked for behind it. -/
theorem parse_units_jdk :
    ((cut jdkLineReordered).Perm (cut jdkLine) ∧
        ∃ options, parse jdkFiles jdkLineReordered = .ok options ∧
          Flag.privateMethods.IsSet options.display ∧ ¬ Flag.methods.IsSet options.display ∧
          options.jdkSource = some ⟨.here, ["jdk".toList, "src".toList]⟩) ∧
      (∀ root ∈ roots (cut helpLine), IsAnswered jdkFiles root) ∧
      ∃ before taken after error, cut helpLine = before ++ taken :: after ∧
        (∀ earlier ∈ before, earlier.IsUsable jdkFiles) ∧ taken.Offends jdkFiles error ∧
        parse jdkFiles helpLine = .error (.usage error) := by
  obtain ⟨-, hok, hperm, -⟩ := parse_units jdkFiles jdkLine
  obtain ⟨-, -, -, herror⟩ := parse_units jdkFiles helpLine
  have hanswered : ∀ root ∈ roots (cut helpLine), IsAnswered jdkFiles root := by
    intro root hmem
    have hroots : roots (cut helpLine) = ["-h".toList] := by decide
    rw [hroots] at hmem
    obtain rfl := List.mem_singleton.1 hmem
    have hexists : jdkFiles.exists? (.parse "-h".toList) = .ok false := by rfl
    have hdirectory : jdkFiles.isDirectory (.parse "-h".toList) = .ok false := by rfl
    rw [IsAnswered, hexists, hdirectory]
    exact ⟨nofun, nofun⟩
  refine ⟨?_, hanswered, ?_⟩
  · have hparsed : parse jdkFiles jdkLine = .ok ⟨"Foo".toList, { showPrivateMethods := true },
        some ⟨.here, ["jdk".toList, "src".toList]⟩⟩ := by
      rfl
    have hreordered : (cut jdkLineReordered).Perm (cut jdkLine) := by decide
    have hsame := (hperm jdkLineReordered hreordered (by decide) (by decide) _).2 hparsed
    obtain ⟨hset, -, hsource⟩ := hok _ hparsed
    exact ⟨hreordered, _, hsame, (hset _).2 ⟨.single "-mp".toList, by decide, by decide, nofun⟩,
      Bool.false_ne_true, hsource.trans (by decide)⟩
  · have hparsed : parse jdkFiles helpLine =
        .error (.usage (.missingPath ⟨.here, ["-h".toList]⟩)) := by
      rfl
    rcases herror hanswered _ hparsed with hoffending | ⟨-, hnames, -⟩
    · obtain ⟨before, taken, after, error, hcut, hbefore, hoffends, hfault⟩ := hoffending
      exact ⟨before, taken, after, error, hcut, hbefore, hoffends, hparsed.trans (by rw [hfault])⟩
    · exact absurd hnames (by decide)

end Options

end ClassLocator
