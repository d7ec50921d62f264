import ClassLocator.Proofs.Runtime.Catalog

/-!
# Queries to one catalog

A catalog is asked one query after the other, while files and commands may change in between. The
first query that is answered has the image listed, and all later ones are answered from this image,
also if it is empty. A query that fails leaves the catalog as it was, and gives nothing.

## Main definitions

* `Catalog.resolveAll`: what a catalog gives to a sequence of queries.
* `Noting.Succeeds`, `Noting.FailsFirst`: computations that cannot fail, or not after a notice.

## Main statements

* `Catalog.resolve_of_image`, `Catalog.resolve_of_load`, `Catalog.resolve_of_failed_load`: what one
  query does.
* `Catalog.resolveAll_lists_once`: what a sequence of queries does.
-/

namespace ClassLocator.Catalog

/-! ## When listing an image fails -/

namespace Noting

variable {α β : Type}

/-- The computation gives a value. -/
def Succeeds (action : Noting α) : Prop :=
  ∀ notices : List Notice, ∃ value after, action.run.run notices = (.ok value, after)

/-- The computation has not given any notice if it fails. -/
def FailsFirst (action : Noting α) : Prop :=
  ∀ (notices : List Notice) {cause : Cause} {after : List Notice},
    action.run.run notices = (.error cause, after) → after = notices

theorem Succeeds.pure (value : α) : Succeeds (Pure.pure value : Noting α) :=
  fun notices => ⟨value, notices, rfl⟩

theorem Succeeds.note_bind {next : PUnit → Noting β} (notice : Notice) (h : Succeeds (next ⟨⟩)) :
    Succeeds (Catalog.note notice >>= next) :=
  fun notices => h (notices ++ [notice])

theorem Succeeds.failsFirst {action : Noting α} (h : Succeeds action) : FailsFirst action := by
  intro notices cause after hrun
  obtain ⟨value, between, hok⟩ := h notices
  rw [hok] at hrun
  cases hrun

/-- A question in front of a computation gives no notice. -/
theorem FailsFirst.lift_bind {answer : Except Cause α} {next : α → Noting β}
    (h : ∀ value, FailsFirst (next value)) : FailsFirst (liftM answer >>= next) := by
  intro notices cause after hrun
  cases answer with
  | error other =>
    cases hrun
    rfl
  | ok value => exact h value notices hrun

end Noting

theorem list_succeeds (host : Host) (tool modules : Text) : (list host tool modules).Succeeds := by
  unfold list
  refine .note_bind (.debug _) (.note_bind (.started _) ?_)
  cases host.listing [tool, "list".toList, modules] with
  | refused errno => exact .note_bind (.debug _) (.pure _)
  | ran output exit errors =>
    by_cases hexit : exit = 0
    · simp only [hexit, ne_eq, not_true_eq_false, if_false]
      exact .pure _
    · simp only [hexit, ne_eq, not_false_eq_true, if_true]
      exact .note_bind (.debug _) (.pure _)

/-- Only the questions about files can fail, and these come before any notice. -/
theorem load_failsFirst (host : Host) (javaHome : Option Path) :
    (load host javaHome).FailsFirst := by
  cases javaHome with
  | none => exact Noting.Succeeds.failsFirst (.note_bind (.debug _) (.pure _))
  | some home =>
    refine .lift_bind fun isFile => ?_
    cases isFile with
    | false => exact Noting.Succeeds.failsFirst (.note_bind (.debug _) (.pure _))
    | true =>
      refine .lift_bind fun tool => ?_
      cases tool with
      | none => exact Noting.Succeeds.failsFirst (.note_bind (.debug _) (.pure _))
      | some tool => exact (list_succeeds host tool _).failsFirst

theorem load_isListing {host : Host} {javaHome : Option Path} {image : RuntimeImage}
    {noted : List Notice} (h : (load host javaHome).run.run [] = (.ok image, noted)) :
    IsListing host javaHome (noted.filterMap Notice.command?) := by
  obtain ⟨commands, hlisting, hstarts⟩ := load_starts host javaHome
  have hcommands := hstarts []
  rw [h] at hcommands
  exact hcommands ▸ hlisting

/-! ## One query -/

section

variable {host : Host} {query : Query} {javaHome : Option Path} {image : RuntimeImage}
  {noted : List Notice} {cause : Cause}

theorem resolve_of_image :
    resolve host query ⟨javaHome, some image⟩ =
      (.ofList (hitsOf image query), ⟨javaHome, some image⟩) := rfl

theorem resolve_of_load (h : (load host javaHome).run.run [] = (.ok image, noted)) :
    resolve host query ⟨javaHome, none⟩ =
      (.ofList (noted.map .notice ++ hitsOf image query), ⟨javaHome, some image⟩) := by
  unfold resolve
  simp only [h]

theorem resolve_of_failed_load (h : (load host javaHome).run.run [] = (.error cause, noted)) :
    resolve host query ⟨javaHome, none⟩ = (.fail cause, ⟨javaHome, none⟩) := by
  have hnone : noted = [] := load_failsFirst host javaHome [] h
  unfold resolve
  simp only [h, hnone]
  rfl

end

/-! ## All queries -/

/-- What the catalog gives to queries that are put one after the other, each to the host as it is
by then. -/
def resolveAll (catalog : Catalog) : List (Host × Query) → List (Feed Cause Event)
  | [] => []
  | (host, query) :: rest =>
    (resolve host query catalog).1 :: resolveAll (resolve host query catalog).2 rest

/-- Once there is an image, all queries are answered from it. -/
theorem resolveAll_of_image (javaHome : Option Path) (image : RuntimeImage)
    (asked : List (Host × Query)) :
    resolveAll ⟨javaHome, some image⟩ asked =
      asked.map fun step => .ofList (hitsOf image step.2) := by
  induction asked with
  | nil => rfl
  | cons step rest ih => rw [resolveAll, resolve_of_image, ih, List.map_cons]

/-- A query that fails is put in vain: the next one finds the catalog as it was, without image. -/
theorem resolveAll_of_failed_load {host : Host} {query : Query} {javaHome : Option Path}
    {noted : List Notice} {cause : Cause}
    (h : (load host javaHome).run.run [] = (.error cause, noted)) (rest : List (Host × Query)) :
    resolveAll ⟨javaHome, none⟩ ((host, query) :: rest) =
      .fail cause :: resolveAll ⟨javaHome, none⟩ rest := by
  rw [resolveAll, resolve_of_failed_load h]

theorem resolveAll_of_load {host : Host} {query : Query} {javaHome : Option Path}
    {image : RuntimeImage} {noted : List Notice}
    (h : (load host javaHome).run.run [] = (.ok image, noted)) (rest : List (Host × Query)) :
    resolveAll ⟨javaHome, none⟩ ((host, query) :: rest) =
      .ofList (noted.map .notice ++ hitsOf image query) ::
        rest.map fun step => .ofList (hitsOf image step.2) := by
  rw [resolveAll, resolve_of_load h, resolveAll_of_image]

/-- The commands that were started for a query. -/
def startedFor (feed : Feed Cause Event) : List (List Text) := feed.items.filterMap Event.started?

theorem startedFor_answer (image : RuntimeImage) (query : Query) (noted : List Notice) :
    startedFor (.ofList (noted.map .notice ++ hitsOf image query)) =
      noted.filterMap Notice.command? := by
  have hnotices : Event.started? ∘ Event.notice = Notice.command? := rfl
  have hhits : (hitsOf image query).filterMap Event.started? = [] := by
    simp [hitsOf, Event.started?]
  rw [startedFor, Feed.ofList, List.filterMap_append, List.filterMap_map, hnotices, hhits,
    List.append_nil]

theorem IsListing.length_le {host : Host} {javaHome : Option Path} {commands : List (List Text)}
    (h : IsListing host javaHome commands) : commands.length ≤ 1 := by
  rcases h with rfl | ⟨home, tool, -, -, rfl⟩
  · exact Nat.zero_le 1
  · exact Nat.le_refl 1

/-- Whatever changes between the queries, those before the first answer fail without a word, the
first answer has the image listed by at most one command, and all later answers are the classes of
this image, without any notice. -/
theorem resolveAll_lists_once (javaHome : Option Path) (asked : List (Host × Query)) :
    let feeds := resolveAll ⟨javaHome, none⟩ asked
    (feeds.flatMap startedFor).length ≤ 1 ∧
      ((∀ feed ∈ feeds, ∃ cause, feed = .fail cause) ∨
        ∃ failed host query rest image noted,
          asked = failed ++ (host, query) :: rest ∧
          (∀ feed ∈ resolveAll ⟨javaHome, none⟩ failed, ∃ cause, feed = .fail cause) ∧
          (load host javaHome).run.run [] = (.ok image, noted) ∧
          IsListing host javaHome (noted.filterMap Notice.command?) ∧
          feeds = resolveAll ⟨javaHome, none⟩ failed ++
            .ofList (noted.map .notice ++
              (image.resolve query).map fun found => .hit found.toMatch) ::
            rest.map fun step =>
              .ofList ((image.resolve step.2).map fun found => .hit found.toMatch)) := by
  induction asked with
  | nil => exact ⟨Nat.zero_le 1, .inl nofun⟩
  | cons step rest ih =>
    obtain ⟨host, query⟩ := step
    rcases hload : (load host javaHome).run.run [] with ⟨cause | image, noted⟩
    · obtain ⟨honce, hrest⟩ := ih
      rw [resolveAll_of_failed_load hload]
      refine ⟨honce, ?_⟩
      rcases hrest with hfail | ⟨failed, first, asked, later, image, given, rfl, hfailed, hfirst⟩
      · exact .inl (List.forall_mem_cons.2 ⟨⟨cause, rfl⟩, hfail⟩)
      · right
        refine ⟨(host, query) :: failed, first, asked, later, image, given, rfl, ?_, hfirst.1,
          hfirst.2.1, ?_⟩
        · rw [resolveAll_of_failed_load hload]
          exact List.forall_mem_cons.2 ⟨⟨cause, rfl⟩, hfailed⟩
        · rw [resolveAll_of_failed_load hload, hfirst.2.2, List.cons_append]
    · have hlisting := load_isListing hload
      rw [resolveAll_of_load hload]
      refine ⟨?_, .inr ⟨[], host, query, rest, image, noted, rfl, nofun, hload, hlisting, rfl⟩⟩
      have hlater :
          (rest.map fun step => Feed.ofList (hitsOf image step.2)).flatMap startedFor = [] := by
        rw [List.flatMap_eq_nil_iff]
        intro feed hmem
        obtain ⟨step, -, rfl⟩ := List.mem_map.1 hmem
        exact startedFor_answer image step.2 []
      rw [List.flatMap_cons, startedFor_answer, hlater, List.append_nil]
      exact hlisting.length_le

end ClassLocator.Catalog
