import ClassLocator.Proofs.Session.Output
import ClassLocator.Proofs.Session.Setup

/-!
# What a run does not look at

A run takes the events of its search one by one and looks at nothing beyond the one that it stops
at. So a run for the runtime only is the same for every class path, and a run that has stopped at
a source is the same whatever comes on the class path behind the element with this source.

## Main definitions

* `Session.StopsWithin`: a run stops at a match in the runtime or in one of the first elements.

## Main statements

* `search_of_stop`: a search is known from the events up to a stop.
* `Session.run_beyond_stop`: the class paths that give the same run.
-/

namespace ClassLocator

variable {σ : Type}

/-! ## Searches that are stopped -/

theorem Delivers.runFrom_deliver {listener : Listener σ} {state after : σ} {taken : List Event}
    {answer : Except Fault Flow} (h : Delivers listener state taken answer after) :
    (deliver listener taken).runFrom state = (answer, after) := by
  induction h with
  | nil state => rfl
  | @notice state after notice rest answer _ ih =>
    rw [deliver, Action.runFrom_bind_ok state (Action.runFrom_modify state _), ih]
  | @last state after found answer hhit hne =>
    rw [deliver]
    rcases answer with fault | _ | _
    case error => exact Action.runFrom_bind_error state hhit _
    case ok.stop => exact Action.runFrom_bind_ok state hhit _
    case ok.continue => exact absurd rfl hne
  | @next state between after found rest answer hhit _ ih =>
    rw [deliver, Action.runFrom_bind_ok state hhit]
    exact ih

/-- Events behind a stop make no difference. -/
theorem Delivers.runFrom_deliver_append {listener : Listener σ} {state after : σ}
    {taken : List Event} (h : Delivers listener state taken (.ok .stop) after)
    (rest : List Event) :
    (deliver listener (taken ++ rest)).runFrom state = (.ok .stop, after) := by
  rw [deliver_append, Action.runFrom_bind_ok state h.runFrom_deliver]
  rfl

section

variable {fs : FileSystem} {query : Query} {display : Display} {runtime : Feed Fault Event}

/-- A search whose events begin with those up to a stop ends there. -/
theorem search_of_stop {listener : Listener σ} {state after : σ} {taken : List Event}
    {elements : List Element} (h : Delivers listener state taken (.ok .stop) after)
    (hbegins : taken <+: (eventStream fs query display runtime elements).items) :
    (search listener fs query display runtime elements).runFrom state =
      (.ok .sourceFound, after) := by
  obtain ⟨rest, hrest⟩ := hbegins
  rw [search_eq, Feed.deliver, ← hrest, bind_assoc,
    Action.runFrom_bind_ok state (h.runFrom_deliver_append rest)]
  rfl

theorem prefix_followedBy (f : Feed Fault Event) {g g' : Feed Fault Event}
    (h : g.items <+: g'.items) : (f.followedBy g).items <+: (f.followedBy g').items := by
  unfold Feed.followedBy
  split
  · exact (List.prefix_append_right_inj _).2 h
  · exact List.prefix_rfl

/-- The events of the first elements come first. -/
theorem prefix_eventStream {first elements : List Element} (h : first <+: elements) :
    (eventStream fs query display runtime first).items <+:
      (eventStream fs query display runtime elements).items := by
  obtain ⟨rest, rfl⟩ := h
  refine prefix_followedBy runtime ?_
  split
  · exact List.prefix_rfl
  · induction first with
    | nil => exact List.nil_prefix
    | cons element others ih => exact prefix_followedBy _ ih

/-- A search of the runtime only does not look at the elements. -/
theorem search_runtimeOnly (listener : Listener σ) (h : display.runtimeOnly = true)
    (elements others : List Element) :
    search listener fs query display runtime elements =
      search listener fs query display runtime others := by
  unfold search
  simp only [h, if_true]

end

namespace Session

variable {host other : Host} {request : Request} {options : Options} {setup : Setup}
  {first : List Element}

/-! ## Runs that are stopped -/

/-- The run stops, at a match that it comes upon in the runtime or in one of the first elements. A
match makes a run stop by its source. -/
def StopsWithin (host : Host) (options : Options) (setup : Setup) (first : List Element) : Prop :=
  ∃ taken after, taken <+: (stream host options setup).items ∧
    Delivers (listener (reporter host options.display setup)) [] taken (.ok .stop) after ∧
    taken <+: (stream host options { setup with elements := first }).items

/-- A run whose elements begin with the first ones stops within these just if it would stop if
there were no others. -/
theorem stopsWithin_iff (h : first <+: setup.elements) :
    StopsWithin host options setup first ↔
      ((searchAction host options { setup with elements := first }).runFrom []).1 =
        .ok .sourceFound := by
  constructor
  · rintro ⟨taken, after, -, hdelivers, htaken⟩
    exact congrArg Prod.fst (search_of_stop hdelivers htaken)
  · intro hfound
    obtain ⟨taken, answer, after, htaken, hdelivers, -, hrun⟩ :=
      search_delivers host.files ⟨options.className⟩ options.display setup.runtime first
        (listener (reporter host options.display setup)) []
    -- Without the other elements the search ends with a source, so its last answer is a stop.
    have hstop := (closing_eq_sourceFound_iff options.display).1
      ((congrArg Prod.fst hrun).symm.trans hfound)
    rw [hstop] at hdelivers
    exact ⟨taken, after, htaken.trans (prefix_eventStream h), hdelivers, htaken⟩

/-- From the point where a run stops on, it does not matter what elements there are. -/
theorem searchWith_of_stopsWithin {others : List Element} (h : StopsWithin host options setup first)
    (hothers : first <+: others) :
    searchWith host options { setup with elements := others } = searchWith host options setup := by
  obtain ⟨taken, after, hstream, hdelivers, htaken⟩ := h
  have hsearch : (searchAction host options setup).runFrom [] = (.ok .sourceFound, after) :=
    search_of_stop hdelivers hstream
  have hother : (searchAction host options { setup with elements := others }).runFrom [] =
      (.ok .sourceFound, after) :=
    search_of_stop hdelivers (htaken.trans (prefix_eventStream hothers))
  rw [searchWith_ok hsearch, searchWith_ok hother]

theorem searchWith_of_runtimeOnly (h : options.display.runtimeOnly = true) (setup : Setup)
    (others : List Element) :
    searchWith host options { setup with elements := others } = searchWith host options setup := by
  have hsearch : searchAction host options { setup with elements := others } =
    searchAction host options setup := search_runtimeOnly _ h _ _
  unfold searchWith
  rw [hsearch]

/-- Two hosts that differ in their class path only give the same run if it asks for the runtime
only, and also if both class paths begin with the same text in front of a separator, and the run on
one of the hosts stops at a source in the runtime or in one of the elements in this text. -/
theorem run_beyond_stop (h : host.SameButClassPath other) (request : Request) :
    ((∀ options, Options.parse host.files request.arguments = .ok options →
        options.display.runtimeOnly = true) →
      Session.run other request = Session.run host request) ∧
    ∀ options setup beginning rest replaced,
      Options.parse host.files request.arguments = .ok options →
      Session.setup host request options = .ok setup →
      host.environment.get? "CLASSPATH" = some (beginning ++ ':' :: rest) →
      other.environment.get? "CLASSPATH" = some (beginning ++ ':' :: replaced) →
      StopsWithin host options setup
        (ClassPath.elements (ClassPath.texts beginning) none) →
      Session.run other request = Session.run host request := by
  constructor
  · intro hruntime
    -- Only a search asks for the elements; a run may end before it comes to one.
    by_cases hsearched : ∃ options setup,
      Options.parse host.files request.arguments = .ok options ∧
        Session.setup host request options = .ok setup
    · obtain ⟨options, setup, hparsed, hsetup⟩ := hsearched
      rw [run_of_same h hparsed hsetup, run_eq_searchWith hparsed hsetup]
      exact searchWith_of_runtimeOnly (hruntime options hparsed) setup _
    · exact run_of_same_unsearched h fun options setup hparsed hsetup =>
        hsearched ⟨options, setup, hparsed, hsetup⟩
  · intro options setup beginning rest replaced hparsed hsetup hhost hother hstops
    rw [run_of_same h hparsed hsetup, run_eq_searchWith hparsed hsetup]
    refine searchWith_of_stopsWithin hstops ?_
    unfold Host.elements ClassPath.default
    rw [hother]
    exact ClassPath.prefix_elements ..

/-- A host with a source in a directory, and with a file that is no archive. -/
def sourceHost (classPath : Text) : Host :=
  .ofClassPath classPath
    [("lib".toList, .directory {}
        [("Foo.java".toList, .file { bytes := [0x46, 0x6F, 0x6F] } false)]),
      ("bad-sources.jar".toList, .file { bytes := [] } false)]

def sourceRequest : Request where
  arguments := ["-s".toList, "Foo".toList]
  loadedClasses := some []

def sourceOptions : Options := ⟨"Foo".toList, { sourceMode := true }, none⟩

/-- What the search of `sourceRequest` goes through where a missing directory comes second. -/
def sourceSetup : Setup where
  runtime := .empty
  elements := [.directory (.parse "lib".toList), .directory (.parse "gone".toList)]
  disassembler := ["javap".toList]
  highlightSource := false

def runtimeRequest : Request where
  arguments := ["-rt".toList, "Foo".toList]
  loadedClasses := some []

/-- A missing directory behind the one with the source is replaced by a jar that cannot be read. -/
theorem run_beyond_stop_source :
    let host := sourceHost "lib:gone".toList
    let other := sourceHost "lib:bad.jar".toList
    StopsWithin host sourceOptions sourceSetup
        (ClassPath.elements (ClassPath.texts "lib".toList) none) ∧
      Session.run other sourceRequest = Session.run host sourceRequest ∧
      (Session.run host sourceRequest).output =
        "Path: lib/Foo.java\n    Package: Foo.java\nFoo\n".toList ∧
      Session.run other runtimeRequest = Session.run host runtimeRequest := by
  intro host other
  have hsame : host.SameButClassPath other := Host.ofClassPath_same ..
  have hparsed : Options.parse host.files sourceRequest.arguments = .ok sourceOptions := by rfl
  have hsetup : Session.setup host sourceRequest sourceOptions = .ok sourceSetup := by
    with_unfolding_all rfl
  have hstops : StopsWithin host sourceOptions sourceSetup
      (ClassPath.elements (ClassPath.texts "lib".toList) none) := by
    refine (stopsWithin_iff ⟨[.directory (.parse "gone".toList)], by decide +kernel⟩).2 ?_
    with_unfolding_all rfl
  have hruntime : ∀ options, Options.parse host.files runtimeRequest.arguments = .ok options →
      options.display.runtimeOnly = true := by
    rintro _ ⟨⟩
    rfl
  refine ⟨hstops, ?_, by decide +kernel, (run_beyond_stop hsame runtimeRequest).1 hruntime⟩
  exact (run_beyond_stop hsame sourceRequest).2 sourceOptions sourceSetup "lib".toList
    "gone".toList "bad.jar".toList hparsed hsetup rfl rfl hstops

end Session

end ClassLocator
