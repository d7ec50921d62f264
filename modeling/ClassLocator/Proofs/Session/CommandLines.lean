import ClassLocator.Proofs.Session.Blocks
import ClassLocator.Proofs.Session.Setup
import ClassLocator.Proofs.Session.Shown
import ClassLocator.Proofs.Text.ShellWords

/-!
# The command line of the disassembler

The command of the disassembler can be set in two forms, as a command line and as a list of words.
The command line that is written for some words means the same as these words, whatever is in them.
Without words both forms set nothing.

A run logs the command line of each command before it starts it. Hence what has been logged can be
set, and it is the command that was started.

## Main definitions

* `Settings.WritesCommand`: two documents that differ in the form of the command only.

## Main statements

* `Settings.ofDocument_of_writesCommand`: both forms give the same settings.
* `disassemble_logs`: what is logged and what is started.
* `Settings.command_line_round_trip`: a command line, logged or written for words, is read back.
-/

namespace ClassLocator

namespace Settings

variable {env : Environment} {words : List Text} {joined listed : Option Bytes}

/-! ## Commands -/

theorem command?_text (line : Text) :
    command? (.text line) = (ShellWords.split? line).filter (· ≠ []) := by
  rw [command?]
  rcases ShellWords.split? line with _ | _ | ⟨word, others⟩ <;> rfl

theorem mapM_text?_eq_some_iff {items : List Json} :
    items.mapM Json.text? = some words ↔ items = words.map .text := by
  induction items generalizing words with
  | nil => cases words <;> simp
  | cons item rest ih =>
    cases item with
    | text word =>
      cases words with
      | nil => simp [Json.text?, Option.bind_eq_some_iff]
      | cons first others => simpa [Json.text?, Option.bind_eq_some_iff, ih] using and_comm
    | _ => cases words <;> simp [Json.text?]

theorem command?_array (words : List Text) :
    command? (.array (words.map .text)) = (some words).filter (· ≠ []) := by
  cases words with
  | nil => rfl
  | cons word others => exact mapM_text?_eq_some_iff.2 rfl

/-- A list of words is the only form of a command besides a command line. -/
theorem eq_array_of_command? {value : Json} (h : command? value = some words)
    (hkind : value.isText = false) : value = .array (words.map .text) := by
  cases value with
  | text line => cases hkind
  | array items =>
    cases items with
    | nil => cases h
    | cons item rest => exact congrArg Json.array (mapM_text?_eq_some_iff.1 h)
  | _ => cases h

theorem command?_join (words : List Text) :
    command? (.text (ShellWords.join words)) = (some words).filter (· ≠ []) := by
  rw [command?_text, ShellWords.split?_join]

/-! ## Documents -/

/-- Two documents for the same command. One has its command line and the other one its words, and
all other settings have the same members. -/
structure WritesCommand (env : Environment) (words : List Text) (joined listed : Option Bytes) :
    Prop where
  line : (readDocument env joined).member? Key.disassembler.name =
    some (.text (ShellWords.join words))
  list : (readDocument env listed).member? Key.disassembler.name =
    some (.array (words.map .text))
  others : ∀ key : Key, key ≠ .disassembler →
    (readDocument env joined).member? key.name = (readDocument env listed).member? key.name

theorem WritesCommand.reads {settings : Settings} {key : Key}
    (h : WritesCommand env words joined listed)
    (hjoined : key.Reads env (readDocument env joined) settings) :
    key.Reads env (readDocument env listed) settings := by
  by_cases hkey : key = .disassembler
  · subst hkey
    rw [Key.Reads, h.line, Option.bind_some, command?_join] at hjoined
    rw [Key.Reads, h.list, Option.bind_some, command?_array, hjoined]
  · exact hjoined.of_member (h.others key hkey).symm fun _ _ => rfl

theorem ofDocument_of_writesCommand (h : WritesCommand env words joined listed) :
    ofDocument env joined = ofDocument env listed := by
  have hsame : Key.readHome env (readDocument env listed) =
      Key.readHome env (readDocument env joined) := by
    rw [Key.readHome, Key.readHome, text?, text?, h.others .javaHome (by decide)]
  cases hhome : Key.readHome env (readDocument env joined) with
  | error cause => rw [ofDocument_of_no_home hhome, ofDocument_of_no_home (hsame.trans hhome)]
  | ok home =>
    obtain ⟨settings, hread⟩ := ofDocument_of_home hhome
    rw [hread, eq_comm, ofDocument_eq_ok_iff]
    exact fun key => h.reads (reads_of_ofDocument hread key)

end Settings

/-- A run depends on its document by the settings alone. -/
theorem Session.run_congr {host : Host} {written rewritten : Option Bytes}
    (h : Settings.ofDocument host.environment written =
      Settings.ofDocument host.environment rewritten)
    (arguments : List Text) (loadedClasses : Option (List LoadedClass)) :
    Session.run host ⟨arguments, written, loadedClasses⟩ =
      Session.run host ⟨arguments, rewritten, loadedClasses⟩ := by
  unfold Session.run Session.setup
  simp only [h]

/-! ## Logged commands -/

/-- The disassembler is asked for in one record and started once, whether it can be started or
not. -/
theorem disassemble_logs (host : Host) (request : Disassembly) (transcript : Transcript) :
    let after := ((disassemble host request).runFrom transcript).2
    after.records =
        transcript.records ++ [⟨.debug, ShellWords.join request.command⟩] ∧
      after.commands = transcript.commands ++ [request.command] := by
  cases hchild : host.disassembly request.command with
  | refused errno =>
    rw [Session.disassemble_refused hchild]
    exact ⟨List.filterMap_append, Transcript.commands_append _ _⟩
  | ran output exit errors =>
    rw [Session.disassemble_ran hchild]
    exact ⟨List.filterMap_append, Transcript.commands_append _ _⟩

namespace Settings

/-! ## Both forms -/

/-- A command line that is written for some words sets the command that these words set, and there
is no difference for the settings and for the run; without words it is not set. What is logged for
a command that is started is such a command line: a document that has it for the disassembler sets
the very command. -/
theorem command_line_round_trip (words : List Text) (host : Host) (request : Disassembly)
    (transcript : Transcript) :
    (command? (.text (ShellWords.join words)) = command? (.array (words.map .text)) ∧
      command? (.array (words.map .text)) = if words = [] then none else some words) ∧
    (∀ env joined listed, WritesCommand env words joined listed →
      ofDocument env joined = ofDocument env listed) ∧
    (∀ joined listed, WritesCommand host.environment words joined listed →
      ∀ arguments loadedClasses, Session.run host ⟨arguments, joined, loadedClasses⟩ =
        Session.run host ⟨arguments, listed, loadedClasses⟩) ∧
    ∃ message,
      let after := ((disassemble host request).runFrom transcript).2
      after.records = transcript.records ++ [⟨.debug, message⟩] ∧
      after.commands = transcript.commands ++ [request.command] ∧
      command? (.text message) = some request.command ∧
      ∀ env document settings,
        (readDocument env document).member? Key.disassembler.name = some (.text message) →
        ofDocument env document = .ok settings → settings.disassembler = some request.command := by
  have hne : request.command ≠ [] := List.append_ne_nil_of_right_ne_nil _ (List.cons_ne_nil _ _)
  have hlogged : command? (.text (ShellWords.join request.command)) = some request.command := by
    rw [command?_join, Option.filter_some_pos (by simpa using hne)]
  obtain ⟨hrecords, hcommands⟩ := disassemble_logs host request transcript
  refine ⟨⟨?_, ?_⟩, fun env joined listed hforms => ?_, fun joined listed hforms => ?_, ?_⟩
  · rw [command?_join, command?_array]
  · rw [command?_array]
    cases words <;> rfl
  · exact ofDocument_of_writesCommand hforms
  · exact Session.run_congr (ofDocument_of_writesCommand hforms)
  · refine ⟨_, hrecords, hcommands, hlogged, fun env document settings hmember hread => ?_⟩
    have hkey : Key.disassembler.Reads env (readDocument env document) settings :=
      reads_of_ofDocument hread .disassembler
    rwa [Key.Reads, hmember, Option.bind_some, hlogged, eq_comm] at hkey

/-- Words with a space, with a quote, and with nothing in them. -/
def oddWords : List Text := ["my tool".toList, [], "it's".toList]

def joinedDocument : Bytes :=
  Utf8.encode "\x7b\"javap\": \"'my tool' '' 'it'\\\"'\\\"'s'\", \"style\": \"vim\"\x7d"

def listedDocument : Bytes :=
  Utf8.encode "\x7b\"style\": \"vim\", \"javap\": [\"my tool\", \"\", \"it's\"]\x7d"

theorem writesCommand_oddWords :
    WritesCommand homeEnvironment oddWords (some joinedDocument) (some listedDocument) where
  line := by
    have hline : text? (readDocument homeEnvironment (some joinedDocument)) Key.disassembler.name =
        some (ShellWords.join oddWords) := by decide +kernel
    exact (text?_eq_some_iff.1 hline).1
  list := by
    have hlist : ((readDocument homeEnvironment (some listedDocument)).member?
        Key.disassembler.name).bind command? = some oddWords := by decide +kernel
    have hkind : ((readDocument homeEnvironment (some listedDocument)).member?
        Key.disassembler.name).any Json.isText = false := by decide +kernel
    obtain ⟨value, hvalue, hwords⟩ := Option.bind_eq_some_iff.1 hlist
    rw [hvalue, Option.any_some] at hkind
    rw [hvalue, eq_array_of_command? hwords hkind]
  others := by
    have hstyles : ∀ document ∈ [joinedDocument, listedDocument],
        text? (readDocument homeEnvironment (some document)) Key.style.name =
          some "vim".toList := by decide +kernel
    have habsent : ∀ document ∈ [joinedDocument, listedDocument],
        ∀ each ∈ [Key.javaHome, Key.highlightSource],
          ((readDocument homeEnvironment (some document)).member? each.name).isNone = true := by
      decide +kernel
    rintro (_ | _ | _ | _) hkey
    case disassembler => exact absurd rfl hkey
    case style =>
      rw [(text?_eq_some_iff.1 (hstyles joinedDocument (by simp))).1,
        (text?_eq_some_iff.1 (hstyles listedDocument (by simp))).1]
    all_goals
      rw [Option.isNone_iff_eq_none.1 (habsent joinedDocument (by simp) _ (by simp)),
        Option.isNone_iff_eq_none.1 (habsent listedDocument (by simp) _ (by simp))]

/-- A command line that the reader of documents has read, and one that a run has logged. -/
theorem command_line_round_trip_odd :
    let host := Host.ofClassPath [] []
    let request : Disassembly := ⟨oddWords, "a b/Foo.class".toList, true, none⟩
    let line := "'my tool' '' 'it'\"'\"'s' -p 'a b/Foo.class'".toList
    WritesCommand homeEnvironment oddWords (some joinedDocument) (some listedDocument) ∧
      ofDocument homeEnvironment (some joinedDocument) =
        .ok { disassembler := some oddWords, style := "vim" } ∧
      Transcript.records ((disassemble host request).runFrom []).2 = [⟨.debug, line⟩] ∧
      command? (.text line) = some (oddWords ++ ["-p".toList, "a b/Foo.class".toList]) := by
  intro host request line
  have hforms := writesCommand_oddWords
  obtain ⟨-, hdocuments, -, message, hrecords, -, hmessage, -⟩ :=
    command_line_round_trip oddWords host request []
  have hlisted : ofDocument homeEnvironment (some listedDocument) =
      .ok { disassembler := some oddWords, style := "vim" } := by decide +kernel
  have hlog : Transcript.records ((disassemble host request).runFrom []).2 = [⟨.debug, line⟩] := by
    decide
  obtain rfl : message = line := by
    rw [hlog] at hrecords
    exact (Record.mk.inj (List.singleton_inj.1 hrecords)).2.symm
  exact ⟨hforms, (hdocuments _ _ _ hforms).trans hlisted, hlog, hmessage⟩

end Settings

end ClassLocator
