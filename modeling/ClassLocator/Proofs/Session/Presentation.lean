import ClassLocator.Proofs.Search.Answering
import ClassLocator.Proofs.Session.Blocks

/-!
# What is shown and what is found

A reporter shows of a match what its display settings ask for, but its answer to the match is a
matter of the source alone, as long as the disassembler can be started. So the settings that only
say what is shown do not change which matches a search hands over and what it ends in.

## Main definitions

* `Match.answer`: what a reporter answers to a match.
* `Reporter.Starts`: the disassembler can be started.
* `Display.SameSearch`: two display settings that look for the same.

## Main statements

* `Reporter.report_follows`: a reporter answers by the source of the match.
* `search_of_presentation`: two searches that look for the same and show what they please.
-/

namespace ClassLocator

variable {σ : Type}

/-! ## Answers -/

/-- A match without a source lets the search go on, a source that is there stops it, and one that
cannot be read is a fault. -/
def Match.answer (found : Match) : Except Fault Flow :=
  match found.source with
  | none => .ok .continue
  | some (.ok _) => .ok .stop
  | some (.error cause) => .error (sourceFault found.sourceName cause)

theorem Match.answer_eq_continue_iff {found : Match} :
    found.answer = .ok .continue ↔ found.source = none := by
  unfold answer
  rcases found.source with _ | cause | bytes <;> simp

theorem Match.answer_eq_stop_iff {found : Match} :
    found.answer = .ok .stop ↔ ∃ bytes, found.source = some (.ok bytes) := by
  unfold answer
  rcases found.source with _ | cause | bytes <;> simp

/-- The disassembler can be started, whatever it is asked for. -/
def Reporter.Starts (reporter : Reporter σ) : Prop :=
  ∀ request state, ((reporter.disassemble request).runFrom state).1 = .ok ⟨⟩

/-- What comes after a step that succeeds goes on from the state that this step leaves. -/
theorem Action.runFrom_bind_of_fst {α β : Type} {action : Action σ α} {value : α} {state : σ}
    (h : (action.runFrom state).1 = .ok value) (next : α → Action σ β) :
    (action >>= next).runFrom state = (next value).runFrom (action.runFrom state).2 :=
  Action.runFrom_bind_ok state (Prod.ext h rfl) next

namespace Reporter

variable {reporter : Reporter σ} {found : Match}

theorem writeLine_succeeds (line : Option Text) (state : σ) :
    ((reporter.writeLine line).runFrom state).1 = .ok ⟨⟩ := by
  cases line with
  | none => rfl
  | some text => rfl

theorem listMethods_succeeds (hstarts : reporter.Starts)
    (hsound : found.IsSound reporter.display.sourceMode) (state : σ) :
    ((reporter.listMethods found).runFrom state).1 = .ok ⟨⟩ := by
  obtain ⟨request, hrequest, -⟩ := disassembly_eq reporter hsound
  unfold listMethods
  cases reporter.display.listsMethods with
  | false => rfl
  | true =>
    simp only [hrequest, if_true]
    exact hstarts request state

theorem writeSource_follows (hsound : found.IsSound reporter.display.sourceMode) :
    Follows Match.answer reporter.writeSource found := by
  intro state
  unfold writeSource Match.answer
  cases hmode : reporter.display.sourceMode with
  | false =>
    rw [hmode] at hsound
    rw [hsound.source_eq_none]
    rfl
  | true =>
    rcases found.source with _ | cause | bytes
    · rfl
    · rfl
    · rfl

/-- What is written for a match, and which members are listed, does not change the answer. -/
theorem report_follows (hstarts : reporter.Starts)
    (hsound : found.IsSound reporter.display.sourceMode) :
    Follows Match.answer reporter.report found := by
  intro state
  unfold report
  rw [Action.runFrom_bind_of_fst (writeLine_succeeds _ _),
    Action.runFrom_bind_of_fst (writeLine_succeeds _ _),
    Action.runFrom_bind_of_fst (listMethods_succeeds hstarts hsound _)]
  exact writeSource_follows hsound _

end Reporter

/-! ## Display settings -/

/-- The two settings look for the same: for sources or for classes, and in the same places. -/
structure Display.SameSearch (display other : Display) : Prop where
  sourceMode : other.sourceMode = display.sourceMode
  runtimeOnly : other.runtimeOnly = display.runtimeOnly

section

variable {display other : Display} (h : display.SameSearch other) (fs : FileSystem) (query : Query)

include h

theorem Element.scan_of_sameSearch (element : Element) :
    element.scan fs query other = element.scan fs query display := by
  cases element with
  | directory path => simp only [Element.scan, scanDirectory, h.sourceMode]
  | jar path => simp only [Element.scan, scanJar, scanArchive, h.sourceMode]

theorem eventStream_of_sameSearch (runtime : Feed Fault Event) (elements : List Element) :
    eventStream fs query other runtime elements =
      eventStream fs query display runtime elements := by
  have hscan : Element.scan fs query other = Element.scan fs query display :=
    funext (Element.scan_of_sameSearch h fs query)
  unfold eventStream
  rw [h.runtimeOnly, hscan]

theorem closing_of_sameSearch (failure : Option Fault) (answer : Except Fault Flow) :
    Outcome.closing other failure answer = Outcome.closing display failure answer := by
  unfold Outcome.closing
  rw [h.runtimeOnly]

end

/-- The matches of a stream are sound if those of its runtime are classes of the runtime. -/
theorem isSound_of_mem_eventStream {fs : FileSystem} {query : Query} {display : Display}
    {runtime : Feed Fault Event} {elements : List Element}
    (hruntime : ∀ found ∈ runtime.items.filterMap Event.match?,
      ∃ loaded : LoadedClass, found = loaded.toMatch) :
    ∀ found ∈ (eventStream fs query display runtime elements).items.filterMap Event.match?,
      found.IsSound display.sourceMode := by
  intro found hmem
  obtain ⟨event, hevent, hfound⟩ := List.mem_filterMap.1 hmem
  obtain ⟨rest, hbegins, hitems⟩ := Feed.items_followedBy runtime _
  rw [eventStream, hitems] at hevent
  rcases List.mem_append.1 hevent with hevent | hevent
  · obtain ⟨loaded, rfl⟩ := hruntime found (List.mem_filterMap.2 ⟨event, hevent, hfound⟩)
    exact loaded.toMatch_isSound
  · have hscanned := (scans_only fs query display elements).items event (hbegins.subset hevent)
    exact hscanned.isSound.match_isSound hfound

/-! ## Two searches -/

/-- What a search comes to that hands its matches to a reporter with these display settings: what it
ends in, the state that it leaves, and the matches that it has handed over. -/
def Reporter.searched (reporter : Reporter σ) (fs : FileSystem) (query : Query)
    (runtime : Feed Fault Event) (elements : List Element) (state : σ) (display : Display) :
    Except Fault Outcome × σ × List Match :=
  (search (.recording { reporter with display }.report) fs query display runtime
    elements).runFrom (state, [])

/-- What is handed over is known from the sources of the matches, and so is the end. -/
theorem searched_eq {reporter : Reporter σ} (hstarts : reporter.Starts) {fs : FileSystem}
    {query : Query} {runtime : Feed Fault Event}
    (hruntime : ∀ found ∈ runtime.items.filterMap Event.match?,
      ∃ loaded : LoadedClass, found = loaded.toMatch) (elements : List Element) (state : σ)
    (display : Display) :
    let stream := eventStream fs query display runtime elements
    ∃ after, reporter.searched fs query runtime elements state display =
      (Outcome.closing display stream.failure
          (lastAnswer Match.answer (stream.items.filterMap Event.match?)),
        after, handedOver Match.answer (stream.items.filterMap Event.match?)) := by
  intro stream
  refine search_recording_of_follows rfl (fun found hmem => ?_) state
  have hsound := isSound_of_mem_eventStream hruntime found hmem
  have hfollows : Follows Match.answer ({ reporter with display } : Reporter σ).report found :=
    Reporter.report_follows hstarts hsound
  exact hfollows

/-- Only the last match that is handed over may have a source. If it is there, the search ends with
it. -/
theorem handedOver_answer_sources (items : List Match) :
    (lastAnswer Match.answer items = .ok .stop ↔
      ∃ found ∈ handedOver Match.answer items, ∃ bytes, found.source = some (.ok bytes)) ∧
    ∀ found ∈ handedOver Match.answer items, found.source ≠ none →
      ∃ before, handedOver Match.answer items = before ++ [found] ∧
        ∀ earlier ∈ before, earlier.source = none := by
  rcases handedOver_cases Match.answer items with
    ⟨hlast, hhanded, hitems⟩ | ⟨before, last, hhanded, hlast, hne, hbefore⟩
  · -- No match has a source, so nothing stops the search.
    have hnone : ∀ found ∈ items, found.source = none :=
      fun found hmem => Match.answer_eq_continue_iff.1 (hitems found hmem)
    rw [hlast, hhanded]
    refine ⟨⟨nofun, ?_⟩, fun found hmem hsource => absurd (hnone found hmem) hsource⟩
    rintro ⟨found, hmem, bytes, hsource⟩
    rw [hnone found hmem] at hsource
    cases hsource
  · have hnone : ∀ found ∈ before, found.source = none :=
      fun found hmem => Match.answer_eq_continue_iff.1 (hbefore found hmem)
    have hfound : ∀ found ∈ before ++ [last], found.source ≠ none → found = last := by
      intro found hmem hsource
      rcases List.mem_append.1 hmem with hmem | hmem
      · exact absurd (hnone found hmem) hsource
      · exact List.mem_singleton.1 hmem
    rw [hlast, hhanded, Match.answer_eq_stop_iff]
    refine ⟨⟨fun hsource => ⟨last, by simp, hsource⟩, ?_⟩, fun found hmem hsource => ?_⟩
    · rintro ⟨found, hmem, bytes, hsource⟩
      obtain rfl := hfound found hmem (by simp [hsource])
      exact ⟨bytes, hsource⟩
    · obtain rfl := hfound found hmem hsource
      exact ⟨before, rfl, hnone⟩

/-- Two searches whose settings look for the same hand over the same matches and end in the same
way, whatever they show of the matches, if the disassembler can be started. They end with a source
just if they look for sources and come upon a match whose source is there; this match is the last
one that they hand over, and none before it has a source. -/
theorem search_of_presentation {reporter : Reporter σ} (hstarts : reporter.Starts)
    {display other : Display} (hsame : display.SameSearch other) (fs : FileSystem) (query : Query)
    {runtime : Feed Fault Event}
    (hruntime : ∀ found ∈ runtime.items.filterMap Event.match?,
      ∃ loaded : LoadedClass, found = loaded.toMatch) (elements : List Element) (state : σ) :
    let searched := reporter.searched fs query runtime elements state
    (searched other).1 = (searched display).1 ∧
    (searched other).2.2 = (searched display).2.2 ∧
    ((searched display).1 = .ok .sourceFound ↔
      display.sourceMode = true ∧
        ∃ found ∈ (searched display).2.2, ∃ bytes, found.source = some (.ok bytes)) ∧
    ∀ found ∈ (searched display).2.2, ∀ bytes, found.source = some (.ok bytes) →
      ∃ before, (searched display).2.2 = before ++ [found] ∧
        ∀ earlier ∈ before, earlier.source = none := by
  intro searched
  obtain ⟨after, hdisplay⟩ := searched_eq hstarts hruntime elements state display
  obtain ⟨after', hother⟩ := searched_eq hstarts hruntime elements state other
  rw [eventStream_of_sameSearch hsame, closing_of_sameSearch hsame] at hother
  obtain ⟨hstop, hlast⟩ := handedOver_answer_sources
    ((eventStream fs query display runtime elements).items.filterMap Event.match?)
  change searched display = _ at hdisplay
  change searched other = _ at hother
  rw [hdisplay, hother]
  refine ⟨rfl, rfl, ?_, fun found hmem bytes hsource => hlast found hmem (by simp [hsource])⟩
  rw [closing_eq_sourceFound_iff, hstop]
  refine ⟨fun hsource => ⟨?_, hsource⟩, fun h => h.2⟩
  -- Only in source mode a match has a source.
  obtain ⟨found, hmem, bytes, hsource⟩ := hsource
  have hsound := isSound_of_mem_eventStream hruntime found ((isPrefix_handedOver _ _).subset hmem)
  exact (hsound.source (by simp [hsource])).1

/-- Writes onto a page; the disassembler writes the name of the class. -/
def pageReporter : Reporter Text where
  display := {}
  disassembler := ["javap"]
  highlightSource := false
  highlighter := Highlight.library
  isTerminal := false
  write text page := page ++ text
  disassemble request := modify (· ++ request.className ++ ['\n'])

/-- Two directories with a source each. -/
def sourceFiles : FileSystem where
  top := [("api".toList, .directory {} [("Foo.java".toList, .file { bytes := [0x46] } false)]),
    ("src".toList, .directory {} [("FooBar.java".toList, .file { bytes := [0x42] } false)])]
  workingDirectory := []

/-- One class of the runtime. -/
def oneClass : Feed Fault Event :=
  .ofList [.hit (LoadedClass.toMatch ⟨"a.Foo".toList, "jrt:/m/a/Foo.class".toList⟩)]

/-- A search for sources, with everything or with members only shown of the matches. -/
theorem search_of_presentation_page :
    let searched := pageReporter.searched sourceFiles ⟨"Foo".toList⟩ oneClass
      [.directory (.parse "api".toList), .directory (.parse "src".toList)] []
    let plain : Display := { sourceMode := true }
    let members : Display :=
      { sourceMode := true, showPrivateMethods := true, showPath := false, showPackage := false }
    pageReporter.Starts ∧ plain.SameSearch members ∧ (searched members).1 = .ok .sourceFound ∧
      (searched members).2.2.map Match.package = ["a.Foo".toList, "Foo.java".toList] ∧
      (searched members).2.1 ≠ (searched plain).2.1 := by
  intro searched plain members
  have hstarts : pageReporter.Starts := fun _ _ => rfl
  have hsame : plain.SameSearch members := ⟨rfl, rfl⟩
  have hruntime : ∀ found ∈ oneClass.items.filterMap Event.match?,
      ∃ loaded : LoadedClass, found = loaded.toMatch := by
    intro found hmem
    exact ⟨_, List.mem_singleton.1 hmem⟩
  obtain ⟨houtcome, hhanded, -, -⟩ := search_of_presentation hstarts hsame sourceFiles
    ⟨"Foo".toList⟩ hruntime [.directory (.parse "api".toList), .directory (.parse "src".toList)] []
  have hplain : (searched plain).1 = .ok .sourceFound := by with_unfolding_all rfl
  have hpackages : (searched plain).2.2.map Match.package =
      ["a.Foo".toList, "Foo.java".toList] := by decide +kernel
  refine ⟨hstarts, hsame, houtcome.trans hplain, ?_, ?_⟩
  · exact (congrArg (List.map Match.package) hhanded).trans hpackages
  · decide +kernel

end ClassLocator
