import ClassLocator.Proofs.Session.Shown

/-!
# Searches that report

A run reports the matches of its search one by one. As long as it goes on, each event of the
search leaves all its pieces in the transcript: a notice itself, a match its whole block. The
report that stops the search, or fails, is the last one.

## Main definitions

* `Session.Renders`: events that were all gone through, and what they left.
* `Session.Searches`: what a search of a run ends in, and its transcript.

## Main statements

* `Session.searchAction_searches`: every search of a run is one of these.
* `Session.Renders.shown`, `Session.Renders.errors`: what stands on the two outputs.
-/

namespace ClassLocator

/-- The text of a warning. -/
def Event.warning? : Event → Option Text
  | .notice (.record ⟨.warning, message⟩) => some message
  | _ => none

/-- The lines of the warnings among the events. -/
def warningLines (events : List Event) : Text :=
  (events.filterMap Event.warning?).flatMap (· ++ ['\n'])

/-- The matches among the events. -/
def matchesOf (events : List Event) : List Match := events.filterMap Event.match?

namespace Session

section

variable (host : Host) (display : Display) (setup : Setup)

/-- The events were gone through to the end and left these pieces. -/
inductive Renders : List Event → Transcript → Prop
  | nil : Renders [] []
  | notice {given : Notice} {rest : List Event} {pieces : Transcript} : Renders rest pieces →
      Renders (.notice given :: rest) (.notice given :: pieces)
  | hit {found : Match} {rest : List Event} {block pieces : Transcript} :
      Reports host display setup found (.ok .continue) block → Renders rest pieces →
      Renders (.hit found :: rest) (block ++ pieces)

end

variable {host : Host} {display : Display} {setup : Setup} {events : List Event}
  {pieces : Transcript}

/-! ## What events leave -/

theorem Renders.source (h : Renders host display setup events pieces) :
    ∀ found ∈ matchesOf events, found.source = none := by
  induction h with
  | nil => exact fun _ hmem => absurd hmem List.not_mem_nil
  | notice _ ih => exact ih
  | hit hreports _ ih =>
    exact List.forall_mem_cons.2 ⟨(hreports.shown_continue {}).1, ih⟩

theorem shown_notice {given : Notice} (hplain : given.IsPlain) (debug : Bool) :
    Transcript.shown (.configure debug {}) [.notice given] = [] := by
  rcases given with ⟨level, message⟩ | command
  · rcases hplain with rfl | rfl
    · rfl
    · cases debug <;> rfl
  · rfl

theorem errors_notice {given : Notice} (hplain : given.IsPlain) (debug : Bool) :
    Transcript.errors (.configure debug {}) [.notice given] =
      warningLines [.notice given] := by
  rcases given with ⟨level, message⟩ | command
  · rcases hplain with rfl | rfl
    · cases debug <;> rfl
    · cases debug
      · exact List.append_nil _
      · exact List.append_nil _
  · rfl

theorem warningLines_cons (event : Event) (rest : List Event) :
    warningLines (event :: rest) = warningLines [event] ++ warningLines rest := by
  rw [← List.singleton_append]
  simp only [warningLines, List.filterMap_append, List.flatMap_append]

theorem Renders.shown (h : Renders host display setup events pieces) (debug : Bool)
    (hsound : ∀ event ∈ events, event.IsSound display.sourceMode) :
    pieces.shown (.configure debug {}) =
      (matchesOf events).flatMap (·.block display setup.disassembler host) := by
  induction h with
  | nil => rfl
  | notice _ ih =>
    obtain ⟨hplain, hrest⟩ := List.forall_mem_cons.1 hsound
    rw [← List.singleton_append, Transcript.shown_append, shown_notice hplain, ih hrest]
    rfl
  | hit hreports _ ih =>
    have hrest := (List.forall_mem_cons.1 hsound).2
    rw [Transcript.shown_append, (hreports.shown_continue _).2, ih hrest]
    rfl

theorem Renders.errors (h : Renders host display setup events pieces) (debug : Bool)
    (hsound : ∀ event ∈ events, event.IsSound display.sourceMode) :
    pieces.errors (.configure debug {}) = warningLines events := by
  induction h with
  | nil => rfl
  | notice _ ih =>
    obtain ⟨hplain, hrest⟩ := List.forall_mem_cons.1 hsound
    rw [warningLines_cons, ← List.singleton_append, Transcript.errors_append,
      errors_notice hplain, ih hrest]
  | hit hreports _ ih =>
    have hrest := (List.forall_mem_cons.1 hsound).2
    rw [Transcript.errors_append, hreports.errors_eq_nil, ih hrest]
    rfl

/-! ## Searches -/

theorem runFrom_hit {found : Match} (hsound : found.IsSound display.sourceMode)
    {before after : Transcript} {answer : Except Fault Flow}
    (h : ((listener (reporter host display setup)).hit found).runFrom before = (answer, after)) :
    ∃ pieces, Reports host display setup found answer pieces ∧ after = before ++ pieces := by
  obtain ⟨given, pieces, hreports, happends⟩ := report_appends host setup hsound
  have hrun := happends before
  change Action.runFrom before ((listener (reporter host display setup)).hit found) = _ at hrun
  rw [h] at hrun
  cases hrun
  exact ⟨pieces, hreports, rfl⟩

/-- A search that reports into a transcript goes through the events up to the report that stops it
or fails. -/
theorem renders_of_delivers {before after : Transcript} {answer : Except Fault Flow}
    (h : Delivers (listener (reporter host display setup)) before events answer after)
    (hsound : ∀ event ∈ events, event.IsSound display.sourceMode) :
    (answer = .ok .continue ∧
      ∃ pieces, Renders host display setup events pieces ∧ after = before ++ pieces) ∨
    ∃ earlier found pieces last, events = earlier ++ [.hit found] ∧ answer ≠ .ok .continue ∧
      Renders host display setup earlier pieces ∧
      Reports host display setup found answer last ∧ after = before ++ (pieces ++ last) := by
  -- Along the delivery the transcript only grows, so what is left of each event can be split off.
  induction h with
  | nil state => exact .inl ⟨rfl, [], .nil, (List.append_nil _).symm⟩
  | @notice state after given rest answer _ ih =>
    have hnotice : (listener (reporter host display setup)).notice given state =
        state ++ [.notice given] := rfl
    rw [hnotice] at ih
    rcases ih (List.forall_mem_cons.1 hsound).2 with
      ⟨rfl, pieces, hrenders, rfl⟩ |
      ⟨earlier, found, pieces, last, rfl, hne, hrenders, hreports, rfl⟩
    · exact .inl ⟨rfl, _, .notice hrenders, by simp⟩
    · exact .inr ⟨_, found, _, last, rfl, hne, .notice hrenders, hreports, by simp⟩
  | last hrun hne =>
    obtain ⟨last, hreports, rfl⟩ := runFrom_hit (List.forall_mem_cons.1 hsound).1 hrun
    exact .inr ⟨[], _, [], last, rfl, hne, .nil, hreports, rfl⟩
  | next hrun _ ih =>
    obtain ⟨block, hblock, rfl⟩ := runFrom_hit (List.forall_mem_cons.1 hsound).1 hrun
    rcases ih (List.forall_mem_cons.1 hsound).2 with
      ⟨rfl, pieces, hrenders, rfl⟩ |
      ⟨earlier, found, pieces, last, rfl, hne, hrenders, hreports, rfl⟩
    · exact .inl ⟨rfl, _, .hit hblock hrenders, by simp⟩
    · exact .inr ⟨_, found, _, last, rfl, hne, .hit hblock hrenders, hreports, by simp⟩

/-- What the search of a run ends in, and its transcript: it goes through all events, or a report
stops it, or a report fails. -/
inductive Searches (host : Host) (display : Display) (setup : Setup)
    (stream : Feed Fault Event) : Except Fault Outcome → Transcript → Prop
  | exhausted {pieces : Transcript} : Renders host display setup stream.items pieces →
      stream.failure = none →
      Searches host display setup stream
        (.ok (if display.runtimeOnly then .runtimeOnly else .completed)) pieces
  | brokenOff {fault : Fault} {pieces : Transcript} :
      Renders host display setup stream.items pieces → stream.failure = some fault →
      Searches host display setup stream (.error fault) pieces
  | stopped {earlier rest : List Event} {found : Match} {pieces last : Transcript} :
      stream.items = earlier ++ .hit found :: rest → Renders host display setup earlier pieces →
      Reports host display setup found (.ok .stop) last →
      Searches host display setup stream (.ok .sourceFound) (pieces ++ last)
  | failed {earlier rest : List Event} {found : Match} {fault : Fault}
      {pieces last : Transcript} :
      stream.items = earlier ++ .hit found :: rest → Renders host display setup earlier pieces →
      Reports host display setup found (.error fault) last →
      Searches host display setup stream (.error fault) (pieces ++ last)

/-- What a search that ends well has shown: all its matches have no source, or it has stopped at
the first one that has one, and the source is there. -/
theorem Searches.shown_ok {stream : Feed Fault Event} {outcome : Outcome} {transcript : Transcript}
    (h : Searches host display setup stream (.ok outcome) transcript)
    (hsound : ∀ event ∈ stream.items, event.IsSound display.sourceMode)
    (hterminal : host.isTerminal = false) (debug : Bool) :
    (stream.failure = none ∧ (∀ each ∈ matchesOf stream.items, each.source = none) ∧
      transcript.shown (.configure debug {}) =
        (matchesOf stream.items).flatMap (·.block display setup.disassembler host)) ∨
    ∃ before last after bytes, matchesOf stream.items = before ++ last :: after ∧
      (∀ each ∈ before, each.source = none) ∧ last.source = some (.ok bytes) ∧
      transcript.shown (.configure debug {}) =
        before.flatMap (·.block display setup.disassembler host) ++
          last.block display setup.disassembler host := by
  cases h with
  | exhausted hrenders hfailure =>
    exact .inl ⟨hfailure, hrenders.source, hrenders.shown debug hsound⟩
  | @stopped earlier rest found pieces last hitems hrenders hreports =>
    have hearlier : ∀ event ∈ earlier, event.IsSound display.sourceMode := by
      intro event hmem
      exact hsound event (hitems ▸ List.mem_append_left _ hmem)
    obtain ⟨⟨bytes, hbytes⟩, hlast⟩ := hreports.shown_stop (.configure debug {}) hterminal
    refine .inr ⟨matchesOf earlier, found, matchesOf rest, bytes, ?_, hrenders.source, hbytes, ?_⟩
    · rw [hitems]
      exact List.filterMap_append
    · rw [Transcript.shown_append, hrenders.shown debug hearlier, hlast]

/-- The events of the search of a run. -/
def stream (host : Host) (options : Options) (setup : Setup) : Feed Fault Event :=
  eventStream host.files ⟨options.className⟩ options.display setup.runtime setup.elements

theorem searchAction_searches {options : Options}
    (hsound : ∀ event ∈ (stream host options setup).items,
      event.IsSound options.display.sourceMode) :
    ∃ result transcript, (searchAction host options setup).runFrom [] = (result, transcript) ∧
      Searches host options.display setup (stream host options setup) result transcript := by
  obtain ⟨taken, answer, after, hprefix, hdelivers, hall, hrun⟩ :=
    search_delivers host.files ⟨options.className⟩ options.display setup.runtime setup.elements
      (listener (reporter host options.display setup)) []
  refine ⟨_, after, hrun, ?_⟩
  change taken <+: (stream host options setup).items at hprefix
  change answer = .ok .continue → taken = (stream host options setup).items at hall
  change Searches _ _ _ _ (Outcome.closing _ (stream host options setup).failure answer) after
  obtain ⟨rest, hitems⟩ := hprefix
  have htaken : ∀ event ∈ taken, event.IsSound options.display.sourceMode := by
    intro event hmem
    exact hsound event (hitems ▸ List.mem_append_left rest hmem)
  rcases renders_of_delivers hdelivers htaken with
    ⟨rfl, pieces, hrenders, rfl⟩ | ⟨earlier, found, pieces, last, rfl, hne, hrenders, hreports, rfl⟩
  · rw [hall rfl] at hrenders
    cases hfailure : (stream host options setup).failure with
    | none => exact .exhausted hrenders hfailure
    | some fault => exact .brokenOff hrenders hfailure
  · have hsplit : (stream host options setup).items = earlier ++ .hit found :: rest := by
      rw [← hitems, List.append_assoc]
      rfl
    rw [List.nil_append]
    rcases answer with fault | _ | _
    · exact .failed hsplit hrenders hreports
    · exact absurd rfl hne
    · exact .stopped hsplit hrenders hreports

end Session

end ClassLocator
