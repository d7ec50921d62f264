import ClassLocator.CommandLine

/-!
# What the arguments say

Each argument gives a flag or names the class; only the one behind the flag for the sources of a
JDK is neither. Flags add up, so that the display settings of a run are known from the flags that
are among its arguments, and it does not matter where a flag stands.

## Main definitions

* `Flag.given`: the flags among the arguments.
* `Flag.IsSet`: what a flag asks for has been set.
* `Options.add`: what one more flag makes of the options.

## Main statements

* `Options.parse_display`: the settings are those of the flags.
* `Options.parse_flag_cons`: one more flag in front of the arguments.
-/

namespace ClassLocator

/-- A computation succeeds step by step. -/
theorem exists_of_bind_ok {ε α β : Type} {answer : Except ε α} {next : α → Except ε β} {result : β}
    (h : answer >>= next = .ok result) : ∃ value, answer = .ok value ∧ next value = .ok result := by
  cases answer with
  | error cause => cases h
  | ok value => exact ⟨value, rfl, h⟩

/-! ## Flags -/

namespace Flag

/-- The flags among the arguments. The directory of the sources of a JDK is no flag, whatever it is
called. -/
def given : List Text → List Flag
  | [] => []
  | argument :: rest =>
    match ofArgument? argument with
    | none => given rest
    | some .jdkSource =>
      match rest with
      | [] => [.jdkSource]
      | _ :: rest => .jdkSource :: given rest
    | some flag => flag :: given rest

theorem set_comm (display : Display) (flag other : Flag) :
    set (set display flag) other = set (set display other) flag := by
  cases flag <;> cases other <;> rfl

/-- All flags together add what one of them adds. -/
theorem foldl_set_iff {p : Display → Prop} {q : Flag → Prop}
    (h : ∀ display flag, p (set display flag) ↔ p display ∨ q flag) (flags : List Flag)
    (display : Display) :
    p (flags.foldl set display) ↔ p display ∨ ∃ flag ∈ flags, q flag := by
  induction flags generalizing display with
  | nil => simp
  | cons flag rest ih =>
    rw [List.foldl_cons, ih, h, or_assoc]
    simp only [List.mem_cons, or_and_right, exists_or, exists_eq_left]

/-- The display settings are as the flag wants them. Two of the flags are not about display. -/
def IsSet (display : Display) : Flag → Prop
  | privateMethods => display.showPrivateMethods = true
  | methods => display.showMethods = true
  | debug => display.debug = true
  | hidePath => display.showPath = false
  | hidePackage => display.showPackage = false
  | runtimeOnly => display.runtimeOnly = true
  | source => display.sourceMode = true
  | jdkSource | help => False

theorem isSet_foldl_set (flag : Flag) (hsource : flag ≠ .jdkSource) (hhelp : flag ≠ .help)
    (flags : List Flag) : flag.IsSet (flags.foldl set {}) ↔ flag ∈ flags := by
  have hstep : ∀ display other,
      flag.IsSet (set display other) ↔ flag.IsSet display ∨ other = flag := by
    intro display other
    cases flag <;> cases other <;> simp_all [set, IsSet]
  have hnone : ¬ flag.IsSet {} := by
    cases flag <;> simp [IsSet]
  have hfold := foldl_set_iff (p := fun display => flag.IsSet display) (q := (· = flag)) hstep
    flags {}
  simpa [hnone] using hfold

theorem debug_foldl_set (flags : List Flag) :
    (flags.foldl set {}).debug = true ↔ .debug ∈ flags :=
  isSet_foldl_set .debug nofun nofun flags

theorem showPrivateMethods_foldl_set (flags : List Flag) :
    (flags.foldl set {}).showPrivateMethods = true ↔ .privateMethods ∈ flags :=
  isSet_foldl_set .privateMethods nofun nofun flags

theorem listsMethods_foldl_set (flags : List Flag) :
    (flags.foldl set {}).listsMethods = true ↔ .methods ∈ flags ∨ .privateMethods ∈ flags := by
  have h := foldl_set_iff (p := fun display => display.listsMethods = true)
    (q := fun flag => flag = .methods ∨ flag = .privateMethods)
    (fun display flag => by cases flag <;> simp [set, Display.listsMethods]) flags {}
  rw [h]
  simp [Display.listsMethods, and_or_left, exists_or]

end Flag

namespace Options

/-- What the arguments say if there is this flag as well. -/
def Partial.add (flag : Flag) (found : Partial) : Partial :=
  { found with display := flag.set found.display }

/-- The options if there is this flag as well. -/
def add (flag : Flag) (options : Options) : Options :=
  { options with display := flag.set options.display }

section

variable {fs : FileSystem} {argument : Text} {rest arguments : List Text} {found : Partial}
  {flag : Flag}

/-! ## One argument -/

theorem read_name (h : Flag.ofArgument? argument = none) :
    read fs found (argument :: rest) = read fs { found with className := some argument } rest := by
  rw [Options.read.eq_def]
  simp only [h]

theorem read_jdkSource (h : Flag.ofArgument? argument = some .jdkSource) (root : Text) :
    read fs found (argument :: root :: rest) =
      resolveSource fs (.parse root) >>= fun source =>
        read fs { found with jdkSource := some source } rest := by
  rw [Options.read]
  simp only [h]

theorem read_noSource (h : Flag.ofArgument? argument = some .jdkSource) :
    read fs found [argument] = .error (.usage .noSourceLocation) := by
  rw [Options.read]
  simp only [h]

theorem read_help (h : Flag.ofArgument? argument = some .help) :
    read fs found (argument :: rest) = .error (.usage .helpWanted) := by
  rw [Options.read.eq_def]
  simp only [h]

theorem read_flag (h : Flag.ofArgument? argument = some flag) (hsource : flag ≠ .jdkSource)
    (hhelp : flag ≠ .help) :
    read fs found (argument :: rest) = read fs (found.add flag) rest := by
  rw [Options.read.eq_def]
  cases flag with
  | jdkSource => exact absurd rfl hsource
  | help => exact absurd rfl hhelp
  | _ => simp only [h, Partial.add]

/-! ## All arguments -/

theorem read_display {result : Partial} (h : read fs found arguments = .ok result) :
    result.display = (Flag.given arguments).foldl Flag.set found.display := by
  fun_induction Flag.given arguments generalizing found with
  | case1 =>
    cases h
    rfl
  | case2 argument rest hname ih =>
    rw [read_name hname] at h
    rw [ih h]
  | case3 argument hsource =>
    rw [read_noSource hsource] at h
    cases h
  | case4 argument hsource root rest ih =>
    rw [read_jdkSource hsource] at h
    cases hresolve : resolveSource fs (.parse root) with
    | error fault =>
      rw [hresolve] at h
      cases h
    | ok source =>
      rw [hresolve] at h
      rw [ih h]
      rfl
  | case5 argument rest flag hsource hflag ih =>
    by_cases hhelp : flag = .help
    · subst hhelp
      rw [read_help hflag] at h
      cases h
    · rw [read_flag hflag hsource hhelp] at h
      rw [ih h]
      rfl

/-- A flag that is set before changes the display settings, and nothing else. -/
theorem read_add (flag : Flag) (found : Partial) (arguments : List Text) :
    read fs (found.add flag) arguments = (read fs found arguments).map (Partial.add flag) := by
  fun_induction read fs found arguments with
  | case1 found => rfl
  | case2 found argument rest hname ih =>
    rw [read_name hname]
    exact ih
  | case3 found argument rest hhelp =>
    rw [read_help hhelp]
    rfl
  | case4 found argument hsource =>
    rw [read_noSource hsource]
    rfl
  | case5 found argument hsource root rest ih =>
    rw [read_jdkSource hsource]
    cases resolveSource fs (.parse root) with
    | error fault => rfl
    | ok source => exact ih source
  | case6 found argument rest other hhelp hsource hflag ih =>
    rw [read_flag hflag hsource hhelp]
    have hcomm : (found.add flag).add other = (found.add other).add flag := by
      simp only [Partial.add, Flag.set_comm]
    rw [hcomm]
    exact ih

/-- The display settings are those that the flags give together. -/
theorem parse_display {options : Options} (h : parse fs arguments = .ok options) :
    options.display = (Flag.given arguments).foldl Flag.set {} := by
  unfold parse at h
  cases hread : read fs {} arguments with
  | error fault =>
    rw [hread] at h
    cases h
  | ok found =>
    rw [hread] at h
    rw [← read_display hread]
    obtain ⟨className, display, jdkSource⟩ := found
    cases className with
    | none => cases h
    | some className =>
      cases h
      rfl

/-- A flag in front of the arguments changes the display settings, and nothing else. -/
theorem parse_flag_cons (h : Flag.ofArgument? argument = some flag) (hsource : flag ≠ .jdkSource)
    (hhelp : flag ≠ .help) (arguments : List Text) :
    parse fs (argument :: arguments) = (parse fs arguments).map (add flag) := by
  unfold parse
  rw [read_flag h hsource hhelp, read_add]
  cases read fs {} arguments with
  | error fault => rfl
  | ok found =>
    obtain ⟨className, display, jdkSource⟩ := found
    cases className with
    | none => rfl
    | some className => rfl

end

end Options

end ClassLocator
