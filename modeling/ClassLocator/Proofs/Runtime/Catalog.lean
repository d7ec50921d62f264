import ClassLocator.Runtime.Catalog

/-!
# What the catalog lets be known

A catalog that answers a query gives no other notices than records for debugging and the command
that it starts, and no other matches than classes of the runtime. So it says nothing to a user who
does not ask for such records, also where it fails.

## Main definitions

* `Notice.IsPlain`, `Event.IsLoaded`
* `Catalog.Noting.Gives`: what is true of all notices that a computation gives.
* `Catalog.Noting.Starts`: the commands that a computation starts.
* `Catalog.IsListing`: no command, or the one that lists the image of a JDK.

## Main statements

* `Catalog.resolve_only`: the events of a catalog.
* `Catalog.items_resolve`: the notices come first, and at most one of them is a command.
-/

namespace ClassLocator

/-- A record for debugging or a warning, or a command that was started. -/
def Notice.IsPlain : Notice → Prop
  | .record entry => entry.level = .debug ∨ entry.level = .warning
  | .started _ => True

/-- A plain notice, or a class of the runtime. -/
def Event.IsLoaded : Event → Prop
  | .notice given => given.IsPlain
  | .hit found => ∃ loaded : LoadedClass, found = loaded.toMatch

theorem Notice.isPlain_debug (message : Text) : (Notice.debug message).IsPlain := .inl rfl

/-- The command that was started, if the notice tells of one. -/
def Notice.command? : Notice → Option (List Text)
  | .record _ => none
  | .started command => some command

/-- The command that was started, if the event tells of one. -/
def Event.started? : Event → Option (List Text)
  | .notice given => given.command?
  | .hit _ => none

namespace Catalog

/-- The computation adds only notices of which `p` holds. -/
def Noting.Gives {α : Type} (p : Notice → Prop) (action : Noting α) : Prop :=
  ∀ notices : List Notice, (∀ notice ∈ notices, p notice) →
    ∀ notice ∈ (action.run.run notices).2, p notice

namespace Noting.Gives

variable {α β : Type} {p : Notice → Prop}

theorem pure (value : α) : Gives p (Pure.pure value : Noting α) := fun _ h => h

theorem note {notice : Notice} (h : p notice) : Gives p (Catalog.note notice) := by
  intro notices hnotices other hmem
  rcases List.mem_append.1 hmem with hmem | hmem
  · exact hnotices other hmem
  · rw [List.mem_singleton.1 hmem]
    exact h

theorem lift (answer : Except Cause α) : Gives p (liftM answer : Noting α) := by
  intro notices h
  cases answer <;> exact h

theorem bind {action : Noting α} {next : α → Noting β} (h : Gives p action)
    (hnext : ∀ value, Gives p (next value)) : Gives p (action >>= next) := by
  intro notices hnotices
  have hfirst := h notices hnotices
  simp only [ExceptT.run_bind, StateT.run_bind]
  rcases hrun : action.run.run notices with ⟨_ | value, between⟩
  · rw [hrun] at hfirst
    exact hfirst
  · rw [hrun] at hfirst
    exact hnext value between hfirst

end Noting.Gives

theorem list_gives (host : Host) (tool modules : Text) :
    Noting.Gives Notice.IsPlain (list host tool modules) := by
  unfold list
  refine .bind (.note (Notice.isPlain_debug _)) fun _ => .bind (.note trivial) fun _ => ?_
  split
  · exact .bind (.note (Notice.isPlain_debug _)) fun _ => .pure _
  · split
    · exact .bind (.note (Notice.isPlain_debug _)) fun _ => .pure _
    · exact .pure _

theorem load_gives (host : Host) (javaHome : Option Path) :
    Noting.Gives Notice.IsPlain (load host javaHome) := by
  cases javaHome with
  | none => exact .bind (.note (Notice.isPlain_debug _)) fun _ => .pure _
  | some javaHome =>
    refine .bind (.lift _) fun isFile => ?_
    cases isFile with
    | false => exact .bind (.note (Notice.isPlain_debug _)) fun _ => .pure _
    | true =>
      refine .bind (.lift _) fun tool => ?_
      cases tool with
      | none => exact .bind (.note (Notice.isPlain_debug _)) fun _ => .pure _
      | some tool => exact list_gives host tool _

theorem hitsOf_isLoaded (image : RuntimeImage) (query : Query) :
    ∀ event ∈ hitsOf image query, event.IsLoaded := by
  intro event hmem
  obtain ⟨loaded, -, rfl⟩ := List.mem_map.1 hmem
  exact ⟨loaded, rfl⟩

theorem notices_isLoaded {notices : List Notice} (h : ∀ notice ∈ notices, notice.IsPlain) :
    ∀ event ∈ notices.map Event.notice, event.IsLoaded := by
  intro event hmem
  obtain ⟨notice, hnotice, rfl⟩ := List.mem_map.1 hmem
  exact h notice hnotice

theorem resolve_only (host : Host) (query : Query) (catalog : Catalog) :
    (catalog.resolve host query).1.Only Event.IsLoaded fun _ => True := by
  unfold resolve
  have hgives := load_gives host catalog.javaHome [] (by simp)
  split
  case h_1 image _ => exact .ofList (hitsOf_isLoaded image query)
  case h_2 =>
    split
    case h_1 image notices hload =>
      rw [hload] at hgives
      refine .ofList fun event hmem => ?_
      rcases List.mem_append.1 hmem with hmem | hmem
      · exact notices_isLoaded hgives event hmem
      · exact hitsOf_isLoaded image query event hmem
    case h_2 cause notices hload =>
      rw [hload] at hgives
      exact ⟨notices_isLoaded hgives, fun _ _ => trivial⟩

/-! ## The command that is started -/

/-- The computation starts these commands, one after the other. -/
def Noting.Starts {α : Type} (action : Noting α) (commands : List (List Text)) : Prop :=
  ∀ notices : List Notice, (action.run.run notices).2.filterMap Notice.command? =
    notices.filterMap Notice.command? ++ commands

namespace Noting.Starts

variable {α β : Type} {commands : List (List Text)}

theorem pure (value : α) : Starts (Pure.pure value : Noting α) [] := by
  intro notices
  exact (List.append_nil _).symm

theorem note_bind {next : PUnit → Noting β} (notice : Notice) (h : Starts (next ⟨⟩) commands) :
    Starts (Catalog.note notice >>= next) (notice.command?.toList ++ commands) := by
  intro notices
  have hrest := h (notices ++ [notice])
  have hrun : (Catalog.note notice >>= next).run.run notices =
    (next ⟨⟩).run.run (notices ++ [notice]) := rfl
  rw [hrun, hrest, List.filterMap_append, List.append_assoc]
  cases hcommand : notice.command? with
  | none => simp [hcommand]
  | some command => simp [hcommand]

theorem lift_bind {answer : Except Cause α} {value : α} {next : α → Noting β}
    (hanswer : answer = .ok value) (h : Starts (next value) commands) :
    Starts (liftM answer >>= next) commands := by
  subst hanswer
  exact h

theorem lift_error_bind {answer : Except Cause α} {cause : Cause} (next : α → Noting β)
    (hanswer : answer = .error cause) : Starts (liftM answer >>= next) [] := by
  subst hanswer
  intro notices
  exact (List.append_nil _).symm

end Noting.Starts

theorem list_starts (host : Host) (tool modules : Text) :
    (list host tool modules).Starts [[tool, "list".toList, modules]] := by
  unfold list
  refine .note_bind (.debug _) (.note_bind (.started _) ?_)
  cases host.listing [tool, "list".toList, modules] with
  | refused errno => exact .note_bind (.debug _) (.pure _)
  | ran output exit errors =>
    by_cases hexit : exit = 0
    · simp only [hexit, ne_eq, not_true_eq_false, if_false]
      exact .pure _
    · simp only [hexit, ne_eq, not_false_eq_true, if_true]
      exact .note_bind (.debug _) (.pure _)

/-- The commands that are started to list the image of a JDK: none, or the one of the tool. -/
def IsListing (host : Host) (javaHome : Option Path) (commands : List (List Text)) : Prop :=
  commands = [] ∨ ∃ home tool, javaHome = some home ∧ listingTool? host home = .ok (some tool) ∧
    commands = [[tool, "list".toList, ((home.child "lib").child "modules").text]]

theorem load_starts (host : Host) (javaHome : Option Path) :
    ∃ commands, IsListing host javaHome commands ∧ (load host javaHome).Starts commands := by
  cases javaHome with
  | none => exact ⟨[], .inl rfl, .note_bind (.debug _) (.pure _)⟩
  | some home =>
    cases hfile : host.files.isFile ((home.child "lib").child "modules") with
    | error cause => exact ⟨[], .inl rfl, .lift_error_bind _ hfile⟩
    | ok isFile =>
      cases isFile with
      | false => exact ⟨[], .inl rfl, .lift_bind hfile (.note_bind (.debug _) (.pure _))⟩
      | true =>
        cases htool : listingTool? host home with
        | error cause => exact ⟨[], .inl rfl, .lift_bind hfile (.lift_error_bind _ htool)⟩
        | ok tool =>
          cases tool with
          | none =>
            exact ⟨[], .inl rfl,
              .lift_bind hfile (.lift_bind htool (.note_bind (.debug _) (.pure _)))⟩
          | some tool =>
            exact ⟨_, .inr ⟨home, tool, rfl, htool, rfl⟩,
              .lift_bind hfile (.lift_bind htool (list_starts host tool _))⟩

/-- A catalog that has not listed its image yet gives its notices first, and among them the command
that lists the image. -/
theorem items_resolve (host : Host) (query : Query) (javaHome : Option Path) :
    ∃ noted : List Notice, ∃ classes : List LoadedClass,
      (resolve host query ⟨javaHome, none⟩).1.items =
        noted.map .notice ++ classes.map (fun found => .hit found.toMatch) ∧
      IsListing host javaHome (noted.filterMap Notice.command?) := by
  obtain ⟨commands, hlisting, hstarts⟩ := load_starts host javaHome
  have hcommands := hstarts []
  rcases hload : (load host javaHome).run.run [] with ⟨cause | image, noted⟩
  · rw [hload] at hcommands
    refine ⟨noted, [], ?_, hcommands ▸ hlisting⟩
    simp [resolve, hload]
  · rw [hload] at hcommands
    refine ⟨noted, image.resolve query, ?_, hcommands ▸ hlisting⟩
    simp [resolve, hload, Feed.ofList, hitsOf]

end Catalog

end ClassLocator
