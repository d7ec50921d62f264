import ClassLocator.Proofs.Search.Delivery

/-!
# The stream of matches

The matches of a search in the order in which they are found: the classes of the runtime, then
what the matchers find in one element after the other. Neither records nor missing containers
leave a mark in the stream. A container that cannot be searched to its end ends it.

A callback is handed the matches of this stream and nothing else, whatever it answers.

## Main definitions

* `Element.hits`: the matches in one element.
* `matchStream`: the matches of a search.
* `Answers`: the calls of a callback, with the states between them.

## Main statements

* `filterMap_eventStream`: the matches among the events of a search are its stream of matches.
* `search_receives`: what a callback receives, and what the search ends in.
-/

namespace ClassLocator

/-! ## The matches of an element -/

namespace Element

/-- What is searched for an element. In source mode it is the archive of the sources of a jar. -/
def container (sourceMode : Bool) : Element → Path
  | .directory path => path
  | .jar path => if sourceMode then sourceArchive path else path

/-- The matches in a container that is there. -/
def hitsIn (fs : FileSystem) (query : Query) (sourceMode : Bool) (container : Path) :
    Element → Feed Fault Match
  | .directory _ =>
    (directoryMatches fs container query sourceMode).mapFailure (directoryFault container)
  | .jar _ =>
    (archiveMatches fs container query sourceMode).mapFailure (archiveFault container)

/-- The matches in an element. There are none if its container is missing. -/
def hits (fs : FileSystem) (query : Query) (display : Display) (element : Element) :
    Feed Fault Match :=
  let container := element.container display.sourceMode
  match fs.exists? container with
  | .ok true => element.hitsIn fs query display.sourceMode container
  | .ok false => .empty
  | .error cause => .fail (.bare cause)

end Element

/-! ## The matches among the events -/

theorem filterMap_hits {ε ε' : Type} (g : ε → ε') (f : Feed ε Match) :
    ((f.map Event.hit).mapFailure g).filterMap Event.match? = f.mapFailure g := by
  have h : Event.match? ∘ Event.hit = some := rfl
  ext1
  · change (f.items.map Event.hit).filterMap Event.match? = f.items
    rw [List.filterMap_map, h, List.filterMap_some]
  · rfl

theorem filterMap_map_notice (messages : List Notice) :
    (messages.map Event.notice).filterMap Event.match? = [] := by
  induction messages with
  | nil => rfl
  | cons message rest ih => exact ih

@[simp] theorem filterMap_notices (messages : List Notice) :
    (notices messages).filterMap Event.match? = .empty :=
  Feed.ext (filterMap_map_notice messages) rfl

theorem filterMap_ifExists (fs : FileSystem) (container : Path)
    (present absent : Feed Fault Event) :
    (ifExists fs container present absent).filterMap Event.match? =
      match fs.exists? container with
      | .ok true => present.filterMap Event.match?
      | .ok false => absent.filterMap Event.match?
      | .error cause => .fail (.bare cause) := by
  unfold ifExists
  rcases fs.exists? container with cause | _ | _ <;> rfl

section

variable (fs : FileSystem) (query : Query) (display : Display)

/-- Notices aside, the scan of an element gives its matches. -/
theorem filterMap_scan (element : Element) :
    (element.scan fs query display).filterMap Event.match? = element.hits fs query display := by
  cases element with
  | directory path =>
    simp only [Element.scan, Element.scanDirectory, Feed.filterMap_followedBy, filterMap_notices,
      Feed.empty_followedBy, filterMap_ifExists, filterMap_hits]
    rfl
  | jar path =>
    cases h : display.sourceMode with
    | false =>
      simp only [Element.scan, Element.scanJar, h, Bool.false_eq_true, if_false,
        Feed.filterMap_followedBy, filterMap_notices, Feed.empty_followedBy, filterMap_ifExists,
        Element.scanArchive, filterMap_hits]
      simp [Element.hits, Element.container, Element.hitsIn, h]
    | true =>
      simp only [Element.scan, Element.scanJar, h, if_true, Feed.filterMap_followedBy,
        filterMap_notices, Feed.empty_followedBy, filterMap_ifExists, Element.scanArchive,
        filterMap_hits]
      simp [Element.hits, Element.container, Element.hitsIn, h]

/-- The matches of a search: those of the runtime, then those of one element after the other
unless only the runtime is searched. Nothing comes after a failure. -/
def matchStream (runtime : Feed Fault Match) (elements : List Element) : Feed Fault Match :=
  runtime.followedBy
    (if display.runtimeOnly then .empty else .join (elements.map (Element.hits fs query display)))

theorem filterMap_eventStream (runtime : Feed Fault Event) (elements : List Element) :
    (eventStream fs query display runtime elements).filterMap Event.match? =
      matchStream fs query display (runtime.filterMap Event.match?) elements := by
  have hscan : (Feed.filterMap Event.match? ∘ Element.scan fs query display) =
      Element.hits fs query display := funext (filterMap_scan fs query display)
  unfold eventStream matchStream
  rw [Feed.filterMap_followedBy]
  split
  · rfl
  · rw [Feed.filterMap_join, List.map_map, hscan]

end

/-! ## What a callback receives -/

variable {σ : Type}

/-- A callback is called with the matches one after the other. It goes on after each but the last
one, whose answer is kept; if it goes on after all of them, the answer says so. -/
inductive Answers (callback : Match → Action σ Flow) :
    σ → List Match → Except Fault Flow → σ → Prop
  | nil (state : σ) : Answers callback state [] (.ok .continue) state
  | last {state after : σ} {found : Match} {answer : Except Fault Flow} :
      (callback found).runFrom state = (answer, after) → answer ≠ .ok .continue →
      Answers callback state [found] answer after
  | next {state between after : σ} {found : Match} {rest : List Match}
      {answer : Except Fault Flow} :
      (callback found).runFrom state = (.ok .continue, between) →
      Answers callback between rest answer after →
      Answers callback state (found :: rest) answer after

/-- Calls a callback, and keeps a list of the matches that it has received. The callback does not
get the notices. -/
def Listener.recording (callback : Match → Action σ Flow) : Listener (σ × List Match) where
  notice _ state := state
  hit found := ExceptT.mk fun (state, received) =>
    let (answer, after) := (callback found).runFrom state
    (answer, after, received ++ [found])

theorem runFrom_recording {callback : Match → Action σ Flow} {found : Match} {state after : σ}
    {received record : List Match} {answer : Except Fault Flow}
    (h : ((Listener.recording callback).hit found).runFrom (state, received) =
      (answer, after, record)) :
    (callback found).runFrom state = (answer, after) ∧ record = received ++ [found] := by
  have hrun : ((Listener.recording callback).hit found).runFrom (state, received) =
    (((callback found).runFrom state).1, ((callback found).runFrom state).2, received ++ [found]) :=
    rfl
  rw [hrun] at h
  cases h
  exact ⟨rfl, rfl⟩

/-- A delivery to a callback is a sequence of calls with the matches among the events. -/
theorem Delivers.answers {callback : Match → Action σ Flow} {events : List Event}
    {before after : σ × List Match} {answer : Except Fault Flow}
    (h : Delivers (.recording callback) before events answer after) :
    Answers callback before.1 (events.filterMap Event.match?) answer after.1 ∧
      after.2 = before.2 ++ events.filterMap Event.match? := by
  induction h with
  | nil state => exact ⟨.nil _, by simp⟩
  | notice _ ih => exact ih
  | last hrun hne =>
    obtain ⟨hcall, hrecord⟩ := runFrom_recording hrun
    exact ⟨.last hcall hne, hrecord⟩
  | next hrun _ ih =>
    obtain ⟨hcall, hrecord⟩ := runFrom_recording hrun
    refine ⟨.next hcall ih.1, ?_⟩
    rw [ih.2, hrecord, List.append_assoc]
    rfl

/-- What a catalog gives to a search when it answers with these classes. On the way it may let be
known some notices. -/
def catalogFeed (noted : List Notice) (classes : List LoadedClass) : Feed Fault Event :=
  .ofList (noted.map .notice ++ classes.map fun found => .hit found.toMatch)

theorem filterMap_catalogFeed (noted : List Notice) (classes : List LoadedClass) :
    (catalogFeed noted classes).filterMap Event.match? =
      .ofList (classes.map LoadedClass.toMatch) := by
  have hclasses : (Event.match? ∘ fun found : LoadedClass => Event.hit found.toMatch) =
    some ∘ LoadedClass.toMatch := rfl
  refine Feed.ext ?_ rfl
  change (noted.map Event.notice ++
    classes.map fun found => Event.hit found.toMatch).filterMap Event.match? = _
  rw [List.filterMap_append, filterMap_map_notice, List.filterMap_map, hclasses,
    List.filterMap_eq_map]
  rfl

/-- Whatever a callback answers, it receives the shortest beginning of the stream that ends in a
match at which it stops or fails, or else the whole stream, and its last answer decides what the
search ends in: a stop is a source that was found, a fault stays as it is, and only a callback that
went on to the end lets the search end as its stream does. -/
theorem search_receives (callback : Match → Action σ Flow) (fs : FileSystem) (query : Query)
    (display : Display) (noted : List Notice) (classes : List LoadedClass)
    (elements : List Element) (state : σ) :
    let stream := matchStream fs query display (.ofList (classes.map LoadedClass.toMatch)) elements
    ∃ received answer after, received <+: stream.items ∧
      Answers callback state received answer after ∧
      (answer = .ok .continue → received = stream.items) ∧
      (search (.recording callback) fs query display (catalogFeed noted classes)
        elements).runFrom (state, []) =
          (match answer with
            | .ok .stop => .ok .sourceFound
            | .error fault => .error fault
            | .ok .continue =>
              match stream.failure with
              | some fault => .error fault
              | none => .ok (if display.runtimeOnly then .runtimeOnly else .completed),
            after, received) := by
  intro stream
  obtain ⟨taken, answer, ⟨after, record⟩, hprefix, hdelivers, hall, hrun⟩ :=
    search_delivers fs query display (catalogFeed noted classes) elements
      (.recording callback) (state, [])
  have hstream : (eventStream fs query display (catalogFeed noted classes) elements).filterMap
      Event.match? = stream := by
    rw [filterMap_eventStream, filterMap_catalogFeed]
  have hitems := congrArg Feed.items hstream
  have hfailure := congrArg Feed.failure hstream
  simp only [Feed.items_filterMap, Feed.failure_filterMap] at hitems hfailure
  obtain ⟨hanswers, hrecord⟩ := hdelivers.answers
  simp only [List.nil_append] at hrecord
  refine ⟨record, answer, after, ?_, ?_, ?_, ?_⟩
  · rw [hrecord, ← hitems]
    exact hprefix.filterMap _
  · rw [hrecord]
    exact hanswers
  · intro h
    rw [hrecord, hall h, hitems]
  · rw [hrun, hfailure]
    rcases answer with fault | _ | _ <;> rfl

end ClassLocator
