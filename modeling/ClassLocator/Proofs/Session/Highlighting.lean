import ClassLocator.Proofs.Highlight.Escapes
import ClassLocator.Proofs.Session.Output

/-!
# Runs with and without highlighting

Highlighting has no influence on a run but for the one source that ends it. Two runs that differ in
this setting only let be seen the same pieces and end in the same way, and if they show a source,
the one shows it highlighted and the other one as it is.

So what highlighting changes is known from this source. With any library whose lexer keeps the text
that is prepared for it, and which adds escape sequences only, its lines are all there once the
sequences are taken away, but for a byte order mark and the empty lines at either end.

## Main definitions

* `Session.Alike`: two ways to end that differ in the highlighting of one source at most.

## Main statements

* `Session.search_alike`: a search with and without highlighting.
* `Session.highlighted_source`: what a highlighted source shows, and that nothing else differs.
-/

namespace ClassLocator.Session

/-- What two actions give and leave. They agree, or both have stopped at the same source, which the
first one has highlighted. -/
inductive Alike {α : Type} (library : Highlighter) (style : Text) (stopped : α) :
    Except Fault α × Transcript → Except Fault α × Transcript → Prop
  | same (result : Except Fault α × Transcript) : Alike library style stopped result result
  | source (before : Transcript) (raw fileName : Text) :
      Alike library style stopped
        (.ok stopped,
          before ++ [.report (library.colorize style (Text.normalLines raw) fileName)])
        (.ok stopped, before ++ [.report (Text.normalLines raw)])

section

variable {α β : Type} {library : Highlighter} {style : Text}

/-- Behind an action that both begin with. -/
theorem Alike.bind_left {stopped : β} {next other : α → Action Transcript β}
    (action : Action Transcript α)
    (hnext : ∀ answer transcript, Alike library style stopped ((next answer).runFrom transcript)
      ((other answer).runFrom transcript))
    (transcript : Transcript) :
    Alike library style stopped ((action >>= next).runFrom transcript)
      ((action >>= other).runFrom transcript) := by
  rcases hrun : action.runFrom transcript with ⟨fault | answer, after⟩
  · rw [Action.runFrom_bind_error transcript hrun, Action.runFrom_bind_error transcript hrun]
    exact .same _
  · rw [Action.runFrom_bind_ok transcript hrun, Action.runFrom_bind_ok transcript hrun]
    exact hnext answer after

/-- Both go on in the same way, and not at all after they have stopped. -/
theorem Alike.bind {stop : α} {stopped : β} {first second : Action Transcript α}
    {next other : α → Action Transcript β}
    (h : ∀ transcript,
      Alike library style stop (first.runFrom transcript) (second.runFrom transcript))
    (hnext : ∀ answer transcript, Alike library style stopped ((next answer).runFrom transcript)
      ((other answer).runFrom transcript))
    (hstop : next stop = pure stopped) (hstop' : other stop = pure stopped)
    (transcript : Transcript) :
    Alike library style stopped ((first >>= next).runFrom transcript)
      ((second >>= other).runFrom transcript) := by
  have halike := h transcript
  generalize hfirst : first.runFrom transcript = result at halike
  generalize hsecond : second.runFrom transcript = result' at halike
  cases halike with
  | same =>
    rcases result with ⟨fault | answer, after⟩
    · rw [Action.runFrom_bind_error transcript hfirst, Action.runFrom_bind_error transcript hsecond]
      exact .same _
    · rw [Action.runFrom_bind_ok transcript hfirst, Action.runFrom_bind_ok transcript hsecond]
      exact hnext answer after
  | source before raw fileName =>
    rw [Action.runFrom_bind_ok transcript hfirst, Action.runFrom_bind_ok transcript hsecond,
      hstop, hstop']
    exact .source before raw fileName

end

variable {host : Host} {display : Display} {setup : Setup}

/-! ## Reports -/

section

variable (hterminal : host.isTerminal = true) (hhighlight : setup.highlightSource = true)
include hterminal hhighlight

theorem writeSource_alike (found : Match) (transcript : Transcript) :
    Alike host.highlighter setup.style .stop
      (((reporter host display setup).writeSource found).runFrom transcript)
      (((reporter host display { setup with highlightSource := false }).writeSource found).runFrom
        transcript) := by
  unfold Reporter.writeSource
  cases hmode : display.sourceMode with
  | false =>
    simp only [reporter, hmode]
    exact .same _
  | true =>
    simp only [reporter, hmode]
    rcases found.source with _ | cause | bytes
    · exact .same _
    · exact .same _
    · simp only [Reporter.sourceBody, hterminal, hhighlight]
      exact .source transcript (SourceText.decode bytes) found.sourceName

/-- What comes before the source in a report is the same. -/
theorem report_alike (found : Match) (transcript : Transcript) :
    Alike host.highlighter setup.style .stop
      (((reporter host display setup).report found).runFrom transcript)
      (((reporter host display { setup with highlightSource := false }).report found).runFrom
        transcript) := by
  refine .bind_left _ (fun _ => ?_) transcript
  refine .bind_left _ fun _ => ?_
  refine .bind_left _ fun _ => ?_
  exact writeSource_alike hterminal hhighlight found

theorem deliver_alike (events : List Event) (transcript : Transcript) :
    Alike host.highlighter setup.style .stop
      ((deliver (listener (reporter host display setup)) events).runFrom transcript)
      ((deliver (listener (reporter host display { setup with highlightSource := false }))
        events).runFrom transcript) := by
  induction events generalizing transcript with
  | nil => exact .same _
  | cons event rest ih =>
    cases event with
    | notice given => exact .bind_left (modify _) (fun _ => ih) transcript
    | hit found =>
      refine .bind (report_alike hterminal hhighlight found) ?_ (by rfl) (by rfl) transcript
      intro flow
      cases flow with
      | stop => exact fun _ => .same _
      | _ => exact ih

/-! ## Searches -/

theorem search_alike (options : Options) (transcript : Transcript) :
    Alike host.highlighter setup.style .sourceFound
      ((searchAction host options setup).runFrom transcript)
      ((searchAction host options { setup with highlightSource := false }).runFrom transcript) := by
  unfold searchAction
  rw [search_eq, search_eq]
  have hdeliver (feed : Feed Fault Event) (transcript : Transcript) :
        Alike host.highlighter setup.style .stop
        ((feed.deliver (listener (reporter host options.display setup))).runFrom transcript)
        ((feed.deliver (listener (reporter host options.display
          { setup with highlightSource := false }))).runFrom transcript) := by
    refine .bind (deliver_alike hterminal hhighlight feed.items) ?_ (by rfl) (by rfl) transcript
    exact fun _ _ => .same _
  refine .bind (hdeliver _) ?_ (by rfl) (by rfl) transcript
  exact fun _ _ => .same _

theorem searchWith_alike (options : Options) :
    let highlighted := searchWith host options setup
    let plain := searchWith host options { setup with highlightSource := false }
    highlighted.ending = plain.ending ∧ highlighted.logger = plain.logger ∧
      (highlighted.transcript = plain.transcript ∨
        ∃ before raw fileName,
          highlighted.transcript =
            before ++
              [.report (host.highlighter.colorize setup.style (Text.normalLines raw) fileName)] ∧
          plain.transcript = before ++ [.report (Text.normalLines raw)]) := by
  intro highlighted plain
  have halike := search_alike hterminal hhighlight options []
  generalize hrun : (searchAction host options setup).runFrom [] = result at halike
  generalize hrun' :
    (searchAction host options { setup with highlightSource := false }).runFrom [] = result' at halike
  cases halike with
  | same =>
    have hsame : highlighted = plain := by
      simp only [highlighted, plain, searchWith, hrun, hrun']
    rw [hsame]
    exact ⟨rfl, rfl, .inl rfl⟩
  | source before raw fileName =>
    have hhighlighted : highlighted = _ := searchWith_ok hrun
    have hplain : plain = _ := searchWith_ok hrun'
    rw [hhighlighted, hplain]
    exact ⟨rfl, rfl, .inr ⟨before, raw, fileName, rfl, rfl⟩⟩

end

/-- A source without escape characters, once it is highlighted and its escape sequences are taken
away again, is what the lexer was given: the source without a byte order mark and without the empty
lines at its ends. It is the source if there are none of these, or if it is one empty line. Apart
from this a run with highlighting does not differ from the same run without. -/
theorem highlighted_source (raw fileName : Text) (host : Host) (options : Options) (setup : Setup)
    (hkeeps : Highlighter.KeepsPrepared
      (host.highlighter.lexer fileName (Text.normalLines raw)))
    (hadds : host.highlighter.AddsEscapes) (style : Text) :
    let source := Text.normalLines raw
    let shown := Text.withoutEscapes (host.highlighter.colorize style source fileName)
    ('\x1b' ∉ source →
      shown = Highlight.prepared source ∧
        (shown = source ↔ source = ['\n'] ∨
          (¬ ['\uFEFF'] <+: source ∧ ¬ ['\n'] <+: source ∧ ¬ ['\n', '\n'] <:+ source))) ∧
    (host.isTerminal = true → setup.highlightSource = true →
      let highlighted := searchWith host options setup
      let plain := searchWith host options { setup with highlightSource := false }
      highlighted.ending = plain.ending ∧ highlighted.logger = plain.logger ∧
        (highlighted.transcript = plain.transcript ∨
          ∃ before raw fileName,
            highlighted.transcript =
              before ++
                [.report (host.highlighter.colorize setup.style (Text.normalLines raw) fileName)] ∧
            plain.transcript = before ++ [.report (Text.normalLines raw)])) := by
  intro source shown
  refine ⟨fun hplain => ?_, fun hterminal hhighlight =>
    searchWith_alike hterminal hhighlight options⟩
  have hbody : '\r' ∉ ['\n'].intercalate (Text.linesOf raw) := fun hmem =>
    Text.notMem_normalLines raw (List.mem_append_left _ hmem)
  have hshown : shown = Highlight.prepared source :=
    Highlighter.withoutEscapes_colorize hkeeps hadds (Highlight.notMem_prepared hbody hplain) style
  refine ⟨hshown, ?_⟩
  rw [hshown]
  exact Highlight.prepared_eq_self_iff hbody

/-- A host at a terminal, with one source in a directory. -/
def terminalHost (source : Text) : Host where
  files := { workingDirectory := [], top := [("src".toList, .directory {}
    [("Foo.java".toList, .file { bytes := Utf8.encode source } false)])] }
  environment := { bindings := [] }
  isTerminal := true
  listing _ := .refused .noEntry
  disassembly _ := .refused .noEntry

def terminalOptions : Options := ⟨"Foo".toList, { sourceMode := true }, none⟩

def terminalSetup : Setup where
  runtime := .empty
  elements := [.directory (.parse "src".toList)]
  disassembler := ["javap".toList]
  highlightSource := true

theorem highlighted_source_kept :
    let source := "int x;\n".toList
    let host := terminalHost source
    let plain := searchWith host terminalOptions { terminalSetup with highlightSource := false }
    Highlighter.KeepsPrepared
        (host.highlighter.lexer "Foo.java".toList (Text.normalLines source)) ∧
      host.highlighter.AddsEscapes ∧ Text.normalLines source = source ∧ '\x1b' ∉ source ∧
      Text.withoutEscapes (host.highlighter.colorize "vim" source "Foo.java".toList) = source ∧
      host.isTerminal = true ∧ terminalSetup.highlightSource = true ∧
      (searchWith host terminalOptions terminalSetup).ending = plain.ending ∧
      plain.output = "Path: src/Foo.java\n    Package: Foo.java\nint x;\n".toList := by
  intro source host plain
  have hkeeps : Highlighter.KeepsPrepared
      (host.highlighter.lexer "Foo.java".toList (Text.normalLines source)) :=
    Highlight.keepsPrepared_library _ _
  have hadds : host.highlighter.AddsEscapes := Highlight.addsEscapes_library
  obtain ⟨hsource, hrun⟩ := highlighted_source source "Foo.java".toList host terminalOptions
    terminalSetup hkeeps hadds "vim"
  have hplain : '\x1b' ∉ source := by decide
  have hnormal : Text.normalLines source = source := by decide
  obtain ⟨-, hkept⟩ := hsource (hnormal.symm ▸ hplain)
  rw [hnormal] at hkept
  refine ⟨hkeeps, hadds, hnormal, hplain, hkept.2 (.inr ?_), rfl, rfl, (hrun rfl rfl).1, ?_⟩
  · exact ⟨by decide, by decide, by decide⟩
  · decide +kernel

/-- Empty lines at the ends are not shown, and neither is a byte order mark, although all of them
are in the output of the run without highlighting. -/
theorem highlighted_source_trimmed :
    let blank := "\nint x;\n\n".toList
    let marked := "\uFEFFint x;\n".toList
    let highlighted (source : Text) :=
      searchWith (terminalHost source) terminalOptions terminalSetup
    let plain (source : Text) := searchWith (terminalHost source) terminalOptions
      { terminalSetup with highlightSource := false }
    (∀ source ∈ [blank, marked], Text.normalLines source = source ∧ '\x1b' ∉ source ∧
      ∀ style fileName, Text.withoutEscapes (Highlight.library.colorize style source fileName) =
        "int x;\n".toList) ∧
    (plain blank).output =
      "Path: src/Foo.java\n    Package: Foo.java\n\nint x;\n\n".toList ∧
    Text.withoutEscapes (highlighted blank).output =
      "Path: src/Foo.java\n    Package: Foo.java\nint x;\n".toList := by
  intro blank marked highlighted plain
  have hprepared : ∀ source ∈ [blank, marked], Highlight.prepared source = "int x;\n".toList := by
    decide
  have hnormal : ∀ source ∈ [blank, marked],
      Text.normalLines source = source ∧ '\x1b' ∉ source := by decide
  refine ⟨fun source hmem => ?_, by decide +kernel, by decide +kernel⟩
  refine ⟨(hnormal source hmem).1, (hnormal source hmem).2, fun style fileName => ?_⟩
  have htext := hprepared source hmem
  rw [← htext]
  exact Highlighter.withoutEscapes_colorize (Highlight.keepsPrepared_library fileName source)
    Highlight.addsEscapes_library (by rw [htext]; decide) style

end ClassLocator.Session
