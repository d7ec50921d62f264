import ClassLocator.Proofs.Search.Stream

/-!
# Narrower queries

A query is narrower than another one if it holds the other one. On the class path it finds, in the
same order, some of what the other one finds. What else a search lets be known, and how it ends,
is a matter of the files alone and not of the query.

## Main definitions

* `Match.unmarked`: a match without regard to its place among the matches of its archive.
* `Listener.collecting`: takes all events and never stops.

## Main statements

* `hits_sublist`: the matches in one element.
* `notices_of_scan`: the notices and the end of the scan of one element.
* `searchElements_narrower`: two searches of the same elements, one for a narrower query.
-/

namespace ClassLocator

open scoped List

/-- Whether a match is the first one in its archive depends on what else is found there. -/
def Match.unmarked (found : Match) : Match := { found with firstInContainer := true }

/-- The notice that an event is, if it is one. -/
def Event.notice? : Event → Option Notice
  | notice given => some given
  | hit _ => none

section

variable {query narrower : Query} (h : query.shortName <:+: narrower.shortName)

/-! ## Names that hold a query -/

theorem occursIn_of_isInfix {needle longer text : Text} (h : needle <:+: longer)
    (hlonger : Text.occursIn longer text = true) : Text.occursIn needle text = true :=
  Text.occursIn_iff.2 (h.trans (Text.occursIn_iff.1 hlonger))

/-- What is selected under a stronger condition is selected under a weaker one. -/
theorem ite_some_of_imp {α : Type} {p q : Prop} [Decidable p] [Decidable q] {value found : α}
    (hpq : p → q) (hfound : (if p then some value else none) = some found) :
    (if q then some value else none) = some found := by
  by_cases hp : p
  · rw [if_pos hp] at hfound
    rw [if_pos (hpq hp), hfound]
  · rw [if_neg hp] at hfound
    cases hfound

include h

theorem isInfix_slashForm : query.slashForm <:+: narrower.slashForm := h.map _

theorem selects_of_narrower {sourceMode : Bool} {memberName : Text}
    (hselects : narrower.selects sourceMode memberName = true) :
    query.selects sourceMode memberName = true := by
  simp only [Query.selects, Bool.and_eq_true] at hselects ⊢
  exact ⟨occursIn_of_isInfix (isInfix_slashForm h) hselects.1, hselects.2⟩

theorem fileMatch?_of_narrower {root : Path} {sourceMode : Bool} {file : FoundFile} {found : Match}
    (hfound : fileMatch? root narrower sourceMode file = some found) :
    fileMatch? root query sourceMode file = some found :=
  ite_some_of_imp (occursIn_of_isInfix h) hfound

end

/-! ## Members that hold a query -/

/-- The match for a member, unmarked. -/
def memberMatch? (archive : Archive) (container : Path) (query : Query) (sourceMode : Bool)
    (member : Archive.Member) : Option Match :=
  if query.selects sourceMode member.name then
    some (memberMatch archive container sourceMode true member)
  else none

theorem map_unmarked_memberMatches (archive : Archive) (container : Path) (query : Query)
    (sourceMode first : Bool) (members : List Archive.Member) :
    (memberMatches archive container query sourceMode first members).map Match.unmarked =
      members.filterMap (memberMatch? archive container query sourceMode) := by
  -- The flag is generalized: what it says is lost when the marks are taken off.
  induction members generalizing first with
  | nil => rfl
  | cons member rest ih =>
    unfold memberMatches
    split
    case isTrue hselects =>
      have hmember : memberMatch? archive container query sourceMode member =
        some (memberMatch archive container sourceMode true member) := if_pos hselects
      rw [List.filterMap_cons_some hmember, List.map_cons, ih]
      rfl
    case isFalse hselects =>
      have hmember : memberMatch? archive container query sourceMode member = none :=
        if_neg hselects
      rw [List.filterMap_cons_none hmember, ih]

theorem filterMap_sublist_filterMap {α β : Type} {f g : α → Option β}
    (hfg : ∀ item value, f item = some value → g item = some value) (items : List α) :
    items.filterMap f <+ items.filterMap g := by
  induction items with
  | nil => exact .slnil
  | cons item rest ih =>
    cases hf : f item with
    | some value =>
      rw [List.filterMap_cons_some hf, List.filterMap_cons_some (hfg item value hf)]
      exact ih.cons_cons value
    | none =>
      rw [List.filterMap_cons_none hf, List.filterMap_cons]
      split
      · exact ih
      · exact ih.cons _

/-! ## Matches in one element -/

section

variable {query narrower : Query} (h : query.shortName <:+: narrower.shortName) (fs : FileSystem)

include h

theorem directoryMatches_sublist (root : Path) (sourceMode : Bool) :
    (directoryMatches fs root narrower sourceMode).items <+
      (directoryMatches fs root query sourceMode).items :=
  filterMap_sublist_filterMap (fun _ _ => fileMatch?_of_narrower h) (fs.walk root).items

theorem archiveMatches_sublist (container : Path) (sourceMode : Bool) :
    (archiveMatches fs container narrower sourceMode).items.map Match.unmarked <+
      (archiveMatches fs container query sourceMode).items.map Match.unmarked := by
  unfold archiveMatches
  split
  case h_1 archive _ =>
    simp only [Feed.ofList, map_unmarked_memberMatches]
    refine filterMap_sublist_filterMap (fun member found hfound => ?_) archive.members
    exact ite_some_of_imp (selects_of_narrower h) hfound
  case h_2 => exact .refl _

theorem hits_sublist (display : Display) (element : Element) :
    (element.hits fs narrower display).items.map Match.unmarked <+
      (element.hits fs query display).items.map Match.unmarked := by
  simp only [Element.hits]
  split
  case h_1 =>
    cases element with
    | directory path => exact (directoryMatches_sublist h fs _ display.sourceMode).map _
    | jar path => exact archiveMatches_sublist h fs _ display.sourceMode
  case h_2 => exact .refl _
  case h_3 => exact .refl _

end

/-! ## Notices and the end -/

theorem failure_archiveMatches (fs : FileSystem) (container : Path) (query narrower : Query)
    (sourceMode : Bool) :
    (archiveMatches fs container narrower sourceMode).failure =
      (archiveMatches fs container query sourceMode).failure := by
  unfold archiveMatches
  split
  · rfl
  · rfl

/-- Of matches nothing is noted but the failure that they end in. -/
theorem filterMap_notice_hits {ε ε' : Type} (g : ε → ε') (f : Feed ε Match) :
    ((f.map Event.hit).mapFailure g).filterMap Event.notice? = ⟨[], f.failure.map g⟩ := by
  have hnone : Event.notice? ∘ Event.hit = fun _ => none := rfl
  ext1
  · simp only [Feed.items_filterMap, Feed.items_mapFailure, Feed.items_map, List.filterMap_map,
      hnone]
    exact List.filterMap_eq_nil_iff.2 fun _ _ => rfl
  · rfl

theorem filterMap_notice_ifExists (fs : FileSystem) (container : Path)
    {present present' : Feed Fault Event} (absent : Feed Fault Event)
    (h : present'.filterMap Event.notice? = present.filterMap Event.notice?) :
    (ifExists fs container present' absent).filterMap Event.notice? =
      (ifExists fs container present absent).filterMap Event.notice? := by
  unfold ifExists
  split
  · exact h
  · rfl
  · rfl

section

variable (fs : FileSystem) (query narrower : Query) (display : Display)

theorem notices_of_scanDirectory (path : Path) :
    (Element.scanDirectory fs narrower display path).filterMap Event.notice? =
      (Element.scanDirectory fs query display path).filterMap Event.notice? := by
  refine filterMap_notice_ifExists fs path _ ?_
  rw [filterMap_notice_hits, filterMap_notice_hits]
  rfl

theorem notices_of_scanArchive (container : Path) :
    (Element.scanArchive fs narrower display container).filterMap Event.notice? =
      (Element.scanArchive fs query display container).filterMap Event.notice? := by
  unfold Element.scanArchive
  rw [filterMap_notice_hits, filterMap_notice_hits,
    failure_archiveMatches fs container query narrower]

theorem notices_of_scanJar (path : Path) :
    (Element.scanJar fs narrower display path).filterMap Event.notice? =
      (Element.scanJar fs query display path).filterMap Event.notice? := by
  unfold Element.scanJar
  split
  · refine filterMap_notice_ifExists fs _ _ ?_
    rw [Feed.filterMap_followedBy, Feed.filterMap_followedBy,
      notices_of_scanArchive fs query narrower]
  · refine filterMap_notice_ifExists fs path _ ?_
    exact notices_of_scanArchive fs query narrower display path

/-- The scan of an element gives the same notices for every query, and ends in the same way. -/
theorem notices_of_scan (element : Element) :
    (element.scan fs narrower display).filterMap Event.notice? =
      (element.scan fs query display).filterMap Event.notice? := by
  unfold Element.scan
  rw [Feed.filterMap_followedBy, Feed.filterMap_followedBy]
  cases element with
  | directory path => rw [notices_of_scanDirectory fs query narrower display path]
  | jar path => rw [notices_of_scanJar fs query narrower display path]

theorem failure_of_scan (element : Element) :
    (element.scan fs narrower display).failure = (element.scan fs query display).failure := by
  rw [← Feed.failure_filterMap Event.notice?, notices_of_scan fs query narrower,
    Feed.failure_filterMap]

end

/-! ## One element after the other -/

/-- Of two series of feeds that fail at the same places, one gives less than the other if each of
its feeds does. -/
theorem join_sublist {ε ι α β : Type} {f g : ι → Feed ε α} {view : α → β}
    (hfailure : ∀ i, (f i).failure = (g i).failure)
    (hitems : ∀ i, (f i).items.map view <+ (g i).items.map view) (series : List ι) :
    (Feed.join (series.map f)).items.map view <+ (Feed.join (series.map g)).items.map view := by
  induction series with
  | nil => exact .slnil
  | cons i rest ih =>
    -- Both series break off at the same place, so what comes behind counts for both or for none.
    simp only [List.map_cons, Feed.join_cons, Feed.followedBy, hfailure i]
    cases (g i).failure with
    | some _ => exact hitems i
    | none =>
      rw [List.map_append, List.map_append]
      exact (hitems i).append ih

/-- Takes all events and never stops. -/
def Listener.collecting : Listener (List Event) where
  notice given events := events ++ [.notice given]
  hit found := do
    modify (· ++ [.hit found])
    return .continue

theorem deliver_collecting (events before : List Event) :
    (deliver .collecting events).runFrom before = (.ok .continue, before ++ events) := by
  induction events generalizing before with
  | nil => rw [List.append_nil]; rfl
  | cons event rest ih =>
    rw [← List.singleton_append, ← List.append_assoc]
    cases event with
    | notice given => exact ih _
    | hit found => exact ih _

/-- A collecting search goes through the elements to the end, or up to the first failure. -/
theorem searchElements_collecting (scan : Element → Feed Fault Event) (elements : List Element) :
    (searchElements .collecting scan elements).runFrom [] =
      (match (Feed.join (elements.map scan)).failure with
        | some fault => .error fault
        | none => .ok .completed,
      (Feed.join (elements.map scan)).items) := by
  rw [searchElements_eq, Feed.deliver, bind_assoc,
    Action.runFrom_bind_ok [] (deliver_collecting _ [])]
  cases (Feed.join (elements.map scan)).failure with
  | none => rfl
  | some fault => rfl

/-- A search that is not stopped finds for a narrower query, in the same order, some of what it
finds for the other one. It gives the same notices and ends in the same way, each element with the
same failure or none. -/
theorem searchElements_narrower {query narrower : Query}
    (h : query.shortName <:+: narrower.shortName) (fs : FileSystem) (display : Display)
    (elements : List Element) :
    let found (query : Query) :=
      (searchElements .collecting (Element.scan fs query display) elements).runFrom []
    ((found narrower).2.filterMap Event.match?).map Match.unmarked <+
        ((found query).2.filterMap Event.match?).map Match.unmarked ∧
      (found narrower).2.filterMap Event.notice? = (found query).2.filterMap Event.notice? ∧
      (found narrower).1 = (found query).1 ∧
      ∀ element : Element, (element.scan fs narrower display).failure =
        (element.scan fs query display).failure := by
  have hscan := failure_of_scan fs query narrower display
  have hnotices : (Feed.join (elements.map (Element.scan fs narrower display))).filterMap
        Event.notice? =
      (Feed.join (elements.map (Element.scan fs query display))).filterMap Event.notice? := by
    simp only [Feed.filterMap_join, List.map_map, Function.comp_def,
      notices_of_scan fs query narrower]
  have hmatches (query : Query) :
      (Feed.join (elements.map (Element.scan fs query display))).filterMap Event.match? =
        Feed.join (elements.map (Element.hits fs query display)) := by
    simp only [Feed.filterMap_join, List.map_map, Function.comp_def, filterMap_scan]
  intro found
  refine ⟨?_, ?_, ?_, hscan⟩
  · simp only [found, searchElements_collecting, ← Feed.items_filterMap, hmatches]
    refine join_sublist (fun element => ?_) (fun element => hits_sublist h fs display element) _
    rw [← filterMap_scan, ← filterMap_scan, Feed.failure_filterMap, Feed.failure_filterMap,
      hscan]
  · simp only [found, searchElements_collecting, ← Feed.items_filterMap, hnotices]
  · have hfailure := congrArg Feed.failure hnotices
    simp only [Feed.failure_filterMap] at hfailure
    simp only [found, searchElements_collecting, hfailure]

/-- Two directories with a class each, and an empty file. -/
def mapFiles : FileSystem where
  top := [("a".toList, .directory {} [("HashMap.class".toList, .file { bytes := [] } false)]),
    ("b".toList, .directory {} [("TreeMap.class".toList, .file { bytes := [] } false)]),
    ("x.jar".toList, .file { bytes := [] } false)]
  workingDirectory := []

def mapElements : List Element :=
  [.directory (.parse "a".toList), .directory (.parse "b".toList), .jar (.parse "x.jar".toList)]

/-- The search of these elements. -/
def mapSearch (query : Query) : Except Fault Outcome × List Event :=
  (searchElements .collecting (Element.scan mapFiles query {}) mapElements).runFrom []

theorem searchElements_narrower_map :
    let query : Query := ⟨"Map".toList⟩
    let narrower : Query := ⟨"HashMap".toList⟩
    query.shortName <:+: narrower.shortName ∧
      ((mapSearch narrower).2.filterMap Event.match?).map Match.unmarked <+
        ((mapSearch query).2.filterMap Event.match?).map Match.unmarked ∧
      (mapSearch narrower).1 = (mapSearch query).1 ∧
      ((mapSearch narrower).2.filterMap Event.match?).map Match.package =
        ["HashMap.class".toList] ∧
      ((mapSearch query).2.filterMap Event.match?).map Match.package =
        ["HashMap.class".toList, "TreeMap.class".toList] := by
  intro query narrower
  have hheld : query.shortName <:+: narrower.shortName := ⟨"Hash".toList, [], rfl⟩
  have hnarrower := searchElements_narrower hheld mapFiles {} mapElements
  refine ⟨hheld, hnarrower.1, hnarrower.2.2.1, ?_, ?_⟩
  · decide +kernel
  · decide +kernel

end ClassLocator
