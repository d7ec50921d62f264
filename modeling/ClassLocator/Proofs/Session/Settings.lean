import ClassLocator.Proofs.Session.Arguments
import ClassLocator.Settings
import Mathlib.Control.Monad.Basic

/-!
# Settings one by one

Each of the settings is read from the member of its own name, and a member that makes no sense
leaves its setting at the default and the others alone. There is one exception: a path that begins
at a home directory that is not known makes no sense either, but no settings at all are read from a
document with such a path.

## Main definitions

* `Settings.BeginsAtUnknownHome`: a path that cannot be expanded.
* `Settings.Key`: the four settings, with the names of their members.
* `Settings.Key.Reads`: a setting is what the document says.
* `Settings.Key.IsUnusable`: a value that makes no sense.

## Main statements

* `Settings.ofDocument_eq_ok_iff`: settings are read one by one.
* `Settings.ofDocument_by_key`: what a member can do to the settings, and when there are none.
-/

namespace ClassLocator.Settings

variable {env other : Environment} {document changed : Json} {settings others : Settings}

/-! ## Home directories -/

/-- The first name of the path is a tilde, or a tilde and the name of a user, that stands for a home
directory that is not known: there is no such user, or the home begins with a tilde itself. -/
def BeginsAtUnknownHome (env : Environment) (path : Path) : Prop :=
  path.anchor = .here ∧ ∃ user rest, path.names = ('~' :: user) :: rest ∧
    ('\x00' ∈ user ∨ ∀ home, env.home? user = some home → (homeText home).head? = some '~')

theorem exists_expandHome_error_iff {path : Path} :
    (∃ cause, expandHome env path = .error cause) ↔ BeginsAtUnknownHome env path := by
  unfold expandHome BeginsAtUnknownHome
  split
  case h_1 user rest hanchor hnames =>
    simp only [hanchor, hnames, true_and, List.cons.injEq, exists_and_right, exists_eq_right']
    by_cases hnul : '\x00' ∈ user
    · simp [hnul]
    · cases hhome : env.home? user with
      | none => simp [hnul, hhome]
      | some home =>
        by_cases htilde : (homeText home).head? = some '~' <;> simp [hnul, hhome, htilde]
  case h_2 hother =>
    refine iff_of_false (by simp) ?_
    rintro ⟨hanchor, user, rest, hnames, -⟩
    exact hother user rest hanchor hnames

theorem expandHome_congr (hhome : ∀ user, env.home? user = other.home? user) (path : Path) :
    expandHome env path = expandHome other path := by
  unfold expandHome
  simp only [hhome]

/-! ## The settings -/

inductive Key where
  | disassembler
  | javaHome
  | highlightSource
  | style
deriving DecidableEq, Repr

namespace Key

/-- The name of the member for a setting. -/
def name : Key → Text
  | disassembler => "javap"
  | javaHome => "java_home"
  | highlightSource => "highlight_source"
  | style => "style"

/-- The path of the JDK, expanded. -/
def readHome (env : Environment) (document : Json) : Except Cause (Option Path) :=
  (text? document javaHome.name).mapM fun home => expandHome env (.parse home)

/-- The two have this setting in common. -/
def Agrees (settings others : Settings) : Key → Prop
  | disassembler => settings.disassembler = others.disassembler
  | javaHome => settings.javaHome = others.javaHome
  | highlightSource => settings.highlightSource = others.highlightSource
  | style => settings.style = others.style

/-- The settings with this one at its default. -/
def reset (settings : Settings) : Key → Settings
  | disassembler => { settings with disassembler := none }
  | javaHome => { settings with javaHome := none }
  | highlightSource => { settings with highlightSource := false }
  | style => { settings with style := Highlighter.defaultStyle }

/-- The setting is what the document says. -/
def Reads (env : Environment) (document : Json) (settings : Settings) : Key → Prop
  | disassembler => (document.member? disassembler.name).bind command? = settings.disassembler
  | javaHome => readHome env document = .ok settings.javaHome
  | highlightSource => flag document highlightSource.name = settings.highlightSource
  | style => (text? document style.name).getD Highlighter.defaultStyle = settings.style

/-- The value makes no sense for the setting: it is of another kind, or it is empty, or it is a
command line that cannot be split, or a path that cannot be expanded. -/
def IsUnusable (env : Environment) : Key → Json → Prop
  | disassembler, .text line => ShellWords.split? line = none ∨ ShellWords.split? line = some []
  | disassembler, .array items => items = [] ∨ ∃ item ∈ items, item.isText = false
  | disassembler, _ => True
  | javaHome, .text home => home = [] ∨ BeginsAtUnknownHome env (.parse home)
  | javaHome, _ => True
  | highlightSource, .bool _ => False
  | highlightSource, _ => True
  | style, .text chosen => chosen = []
  | style, _ => True

theorem ext_of_agrees (h : ∀ key : Key, key.Agrees settings others) : settings = others := by
  cases settings
  cases others
  simpa using ⟨h disassembler, h javaHome, h highlightSource, h style⟩

theorem agrees_reset_self (settings : Settings) (key : Key) :
    key.Agrees (key.reset settings) {} := by
  cases key <;> rfl

theorem agrees_reset_of_ne {key each : Key} (hne : each ≠ key) (settings : Settings) :
    each.Agrees (key.reset settings) settings := by
  cases key <;> cases each <;> first | rfl | exact absurd rfl hne

/-- A document says one thing about a setting. -/
theorem Reads.agrees {key : Key} (h : key.Reads env document settings)
    (h' : key.Reads env document others) : key.Agrees settings others := by
  cases key with
  | javaHome => exact Except.ok.inj (h.symm.trans h')
  | _ => exact h.symm.trans h'

theorem Reads.of_agrees {key : Key} (h : key.Reads env document settings)
    (hagrees : key.Agrees others settings) : key.Reads env document others := by
  cases key with
  | javaHome => exact h.trans (congrArg Except.ok (Eq.symm hagrees))
  | _ => exact h.trans (Eq.symm hagrees)

/-- What a document says about a setting it says by the member of this name. -/
theorem Reads.of_member {key : Key} (h : key.Reads env document settings)
    (hmember : changed.member? key.name = document.member? key.name)
    (hhome : key = javaHome → ∀ user, env.home? user = other.home? user) :
    key.Reads other changed settings := by
  cases key with
  | disassembler => simpa only [Reads, hmember] using h
  | javaHome => simpa only [Reads, readHome, text?, hmember, expandHome_congr (hhome rfl)] using h
  | highlightSource => simpa only [Reads, flag, hmember] using h
  | style => simpa only [Reads, text?, hmember] using h

end Key

/-! ## Values that make no sense -/

theorem text?_eq_some_iff {name text : Text} :
    text? document name = some text ↔ document.member? name = some (.text text) ∧ text ≠ [] := by
  rw [text?]
  rcases document.member? name with _ | value
  · simp
  · cases value <;> simp [Json.text?, Option.filter_eq_some_iff]

theorem text?_eq_none {name : Text} {value : Json} (hmember : document.member? name = some value)
    (hempty : ∀ text, value = .text text → text = []) : text? document name = none := by
  cases value with
  | text text => simp [text?, hmember, Json.text?, hempty text rfl]
  | _ => simp [text?, hmember, Json.text?]

theorem flag_eq_false {name : Text} {value : Json} (hmember : document.member? name = some value)
    (hkind : ∀ set, value ≠ .bool set) : flag document name = false := by
  cases value with
  | bool set => exact absurd rfl (hkind set)
  | _ => simp [flag, hmember]

theorem mapM_text?_eq_none_iff {items : List Json} :
    items.mapM Json.text? = none ↔ ∃ item ∈ items, item.isText = false := by
  induction items with
  | nil => simp
  | cons item rest ih =>
    simp only [List.mem_cons, exists_eq_or_imp, ← ih, List.mapM_cons]
    cases item with
    | text value => cases rest.mapM Json.text? <;> simp [Json.text?, Json.isText]
    | _ => simp [Json.text?, Json.isText]

theorem command?_eq_none_iff {value : Json} :
    command? value = none ↔ Key.disassembler.IsUnusable env value := by
  cases value with
  | text line =>
    simp only [command?, Key.IsUnusable]
    split
    case h_1 hwords => simp [hwords]
    case h_2 hwords => exact ⟨.inl, fun h => h.resolve_right hwords⟩
  | array items =>
    cases items with
    | nil => simp [command?, Key.IsUnusable]
    | cons item rest => simp only [command?, Key.IsUnusable, mapM_text?_eq_none_iff, reduceCtorEq,
        false_or]
  | _ => simp [command?, Key.IsUnusable]

/-- A value that makes no sense leaves the setting at the default. -/
theorem Key.reads_default {key : Key} {value : Json}
    (hmember : document.member? key.name = some value) (hunusable : key.IsUnusable env value)
    (hhome : ∀ home, key = .javaHome → value = .text home →
      ¬ BeginsAtUnknownHome env (.parse home)) :
    key.Reads env document {} := by
  cases key with
  | disassembler =>
    simp only [Reads, hmember, Option.bind_some]
    exact command?_eq_none_iff.2 hunusable
  | javaHome =>
    have hnone : text? document javaHome.name = none := by
      refine text?_eq_none hmember ?_
      rintro home rfl
      exact hunusable.resolve_right (hhome home rfl rfl)
    rw [Reads, readHome, hnone]
    rfl
  | highlightSource =>
    refine flag_eq_false hmember ?_
    rintro set rfl
    exact hunusable
  | style =>
    have hnone : text? document style.name = none := by
      refine text?_eq_none hmember ?_
      rintro chosen rfl
      exact hunusable
    rw [Reads, hnone]
    rfl

/-! ## Documents -/

variable {written rewritten : Option Bytes}

/-- Of the surroundings only the homes matter, and how deep a document may be. -/
theorem ofDocument_congr (hhome : ∀ user, env.home? user = other.home? user)
    (hdeepest : env.deepest = other.deepest) (written : Option Bytes) :
    ofDocument env written = ofDocument other written := by
  unfold ofDocument readDocument
  rw [funext (expandHome_congr hhome), hdeepest]

theorem reads_of_ofDocument (h : ofDocument env written = .ok settings) (key : Key) :
    key.Reads env (readDocument env written) settings := by
  obtain ⟨home, hhome, hrest⟩ := exists_of_bind_ok h
  obtain rfl := Except.ok.inj hrest
  cases key with
  | javaHome => exact hhome
  | _ => rfl

theorem ofDocument_of_home {home : Option Path}
    (h : Key.readHome env (readDocument env written) = .ok home) :
    ∃ settings, ofDocument env written = .ok settings := by
  unfold ofDocument
  exact ⟨_, congrArg (· >>= _) h⟩

theorem ofDocument_of_no_home {cause : Cause}
    (h : Key.readHome env (readDocument env written) = .error cause) :
    ofDocument env written = .error cause := by
  unfold ofDocument
  exact congrArg (· >>= _) h

/-- Settings are read one by one. -/
theorem ofDocument_eq_ok_iff :
    ofDocument env written = .ok settings ↔
      ∀ key : Key, key.Reads env (readDocument env written) settings := by
  refine ⟨reads_of_ofDocument, fun h => ?_⟩
  -- Some settings are read, as the path can be expanded; they agree key by key.
  obtain ⟨found, hfound⟩ := ofDocument_of_home (h .javaHome)
  have hsame : found = settings :=
    Key.ext_of_agrees fun key => (reads_of_ofDocument hfound key).agrees (h key)
  rw [hfound, hsame]

theorem exists_readHome_error_iff :
    (∃ cause, Key.readHome env document = .error cause) ↔
      ∃ home, document.member? Key.javaHome.name = some (.text home) ∧
        BeginsAtUnknownHome env (.parse home) := by
  simp only [Key.readHome, ← exists_expandHome_error_iff]
  constructor
  · rintro ⟨cause, hcause⟩
    cases htext : text? document Key.javaHome.name with
    | none => simp [htext, Option.mapM_none, pure, Except.pure] at hcause
    | some home =>
      refine ⟨home, (text?_eq_some_iff.1 htext).1, ?_⟩
      cases hexpand : expandHome env (.parse home) with
      | error cause => exact ⟨cause, rfl⟩
      | ok path => simp [htext, hexpand, Option.mapM_some, Functor.map, Except.map] at hcause
  · rintro ⟨home, hmember, cause, hcause⟩
    have hne : home ≠ [] := by
      rintro rfl
      cases hcause
    refine ⟨cause, ?_⟩
    simp [text?_eq_some_iff.2 ⟨hmember, hne⟩, hcause, Option.mapM_some, Functor.map, Except.map]

/-- Nothing but a path that cannot be expanded keeps settings from being read. -/
theorem exists_ofDocument_error_iff :
    (∃ cause, ofDocument env written = .error cause) ↔
      ∃ home, (readDocument env written).member? Key.javaHome.name = some (.text home) ∧
        BeginsAtUnknownHome env (.parse home) := by
  rw [← exists_readHome_error_iff]
  constructor
  · rintro ⟨cause, hcause⟩
    cases hhome : Key.readHome env (readDocument env written) with
    | error cause => exact ⟨cause, rfl⟩
    | ok home =>
      obtain ⟨settings, hsettings⟩ := ofDocument_of_home hhome
      rw [hcause] at hsettings
      cases hsettings
  · rintro ⟨cause, hcause⟩
    exact ⟨cause, ofDocument_of_no_home hcause⟩

/-- A member that makes no sense takes back its setting and no other, but for a path that cannot be
expanded. -/
theorem ofDocument_of_unusable {key : Key} {value : Json}
    (hread : ofDocument env written = .ok settings)
    (hothers : ∀ each : Key, each ≠ key →
      (readDocument env rewritten).member? each.name = (readDocument env written).member? each.name)
    (hmember : (readDocument env rewritten).member? key.name = some value)
    (hunusable : key.IsUnusable env value)
    (hhome : ∀ home, key = .javaHome → value = .text home →
      ¬ BeginsAtUnknownHome env (.parse home)) :
    ofDocument env rewritten = .ok (key.reset settings) := by
  rw [ofDocument_eq_ok_iff]
  intro each
  by_cases heach : each = key
  · subst heach
    exact (Key.reads_default hmember hunusable hhome).of_agrees (each.agrees_reset_self settings)
  · have hbefore : each.Reads env (readDocument env rewritten) settings :=
      (reads_of_ofDocument hread each).of_member (hothers each heach) fun _ _ => rfl
    exact hbefore.of_agrees (Key.agrees_reset_of_ne heach settings)

/-- What is no object sets nothing. -/
theorem ofDocument_of_no_object
    (hobject : ∀ text members, written.bind Utf8.decode? = some text →
      Json.parse? env.deepest text ≠ some (.object members)) :
    ofDocument env written = .ok {} := by
  have hempty : readDocument env written = .object [] := by
    unfold readDocument
    split
    case h_1 members h =>
      obtain ⟨text, htext, hmembers⟩ := Option.bind_eq_some_iff.1 h
      exact absurd hmembers (hobject text members htext)
    case h_2 => rfl
  rw [ofDocument_eq_ok_iff, hempty]
  rintro (_ | _ | _ | _) <;> rfl

/-- When settings can be read, what each member does to them, and what a document without members
sets. A setting depends on the member of its name alone, and that of the JDK on the home directories
as well. A member that makes no sense takes back its own setting and no other. Only a path that
begins at an unknown home directory takes back all of them: with it no settings can be read. -/
theorem ofDocument_by_key (env : Environment) (written : Option Bytes) :
    ((∃ cause, ofDocument env written = .error cause) ↔
      ∃ home, (readDocument env written).member? Key.javaHome.name = some (.text home) ∧
        BeginsAtUnknownHome env (.parse home)) ∧
    ((∀ text members, written.bind Utf8.decode? = some text →
        Json.parse? env.deepest text ≠ some (.object members)) →
      ofDocument env written = .ok {}) ∧
    ∀ settings, ofDocument env written = .ok settings →
      (∀ other rewritten others, ofDocument other rewritten = .ok others → ∀ key : Key,
        (readDocument other rewritten).member? key.name =
          (readDocument env written).member? key.name →
        (key = .javaHome → ∀ user, env.home? user = other.home? user) →
        key.Agrees others settings) ∧
      ∀ rewritten (key : Key) value,
        (∀ each : Key, each ≠ key →
          (readDocument env rewritten).member? each.name =
            (readDocument env written).member? each.name) →
        (readDocument env rewritten).member? key.name = some value → key.IsUnusable env value →
        ofDocument env rewritten = .ok (key.reset settings) ∨
          key = .javaHome ∧ ∃ home, value = .text home ∧ BeginsAtUnknownHome env (.parse home) := by
  refine ⟨exists_ofDocument_error_iff, ofDocument_of_no_object, fun settings hread => ⟨?_, ?_⟩⟩
  · intro other rewritten others hothers key hmember hhome
    exact (reads_of_ofDocument hothers key).agrees
      ((reads_of_ofDocument hread key).of_member hmember hhome)
  · intro rewritten key value hothers hmember hunusable
    by_cases hexcept : key = .javaHome ∧
        ∃ home, value = .text home ∧ BeginsAtUnknownHome env (.parse home)
    · exact .inr hexcept
    · refine .inl (ofDocument_of_unusable hread hothers hmember hunusable ?_)
      exact fun home hkey hvalue hunknown => hexcept ⟨hkey, home, hvalue, hunknown⟩

def homeEnvironment : Environment where
  bindings := [("HOME", "/home/me")]
  homes := [("root", "/root")]

def styledDocument : Bytes :=
  Utf8.encode "\x7b\"highlight_source\": true, \"style\": \"vim\"\x7d"

/-- The same with a text in the place of a truth value. -/
def wordedDocument : Bytes :=
  Utf8.encode "\x7b\"highlight_source\": \"on\", \"style\": \"vim\"\x7d"

/-- The text takes back the highlighting and leaves the style as it was. -/
theorem ofDocument_by_key_worded :
    ofDocument homeEnvironment (some styledDocument) =
        .ok { highlightSource := true, style := "vim" } ∧
      text? (readDocument homeEnvironment (some wordedDocument)) Key.highlightSource.name =
        some "on".toList ∧
      ofDocument homeEnvironment (some wordedDocument) = .ok { style := "vim" } := by
  have hread : ofDocument homeEnvironment (some styledDocument) =
      .ok { highlightSource := true, style := "vim" } := by decide +kernel
  have hword : text? (readDocument homeEnvironment (some wordedDocument)) Key.highlightSource.name =
      some "on".toList := by decide +kernel
  have hstyled : text? (readDocument homeEnvironment (some styledDocument)) Key.style.name =
      some "vim".toList := by decide +kernel
  have hworded : text? (readDocument homeEnvironment (some wordedDocument)) Key.style.name =
      some "vim".toList := by decide +kernel
  have habsent : ∀ document ∈ [styledDocument, wordedDocument],
      ∀ each ∈ [Key.disassembler, Key.javaHome],
        ((readDocument homeEnvironment (some document)).member? each.name).isNone = true := by
    decide +kernel
  have hsame : ∀ each : Key, each ≠ .highlightSource →
      (readDocument homeEnvironment (some wordedDocument)).member? each.name =
        (readDocument homeEnvironment (some styledDocument)).member? each.name := by
    rintro (_ | _ | _ | _) hne
    case highlightSource => exact absurd rfl hne
    case style => rw [(text?_eq_some_iff.1 hworded).1, (text?_eq_some_iff.1 hstyled).1]
    all_goals
      rw [Option.isNone_iff_eq_none.1 (habsent wordedDocument (by simp) _ (by simp)),
        Option.isNone_iff_eq_none.1 (habsent styledDocument (by simp) _ (by simp))]
  obtain ⟨-, -, hkeys⟩ := ofDocument_by_key homeEnvironment (some styledDocument)
  refine ⟨hread, hword, ?_⟩
  exact ((hkeys _ hread).2 _ .highlightSource _ hsame (text?_eq_some_iff.1 hword).1
    trivial).resolve_right fun h => absurd h.1 (by decide)

/-- A document with the home directory of a user who is not known. -/
def strangeDocument : Bytes :=
  Utf8.encode "\x7b\"java_home\": \"~nosuchuser/jdk\", \"highlight_source\": true\x7d"

/-- One member makes no sense, and nothing at all is read, not even the member that does. The home
of a user who is known can be used, and so can the own one. -/
theorem ofDocument_of_unknown_home :
    text? (readDocument homeEnvironment (some strangeDocument)) Key.javaHome.name =
        some "~nosuchuser/jdk".toList ∧
      Key.javaHome.IsUnusable homeEnvironment (.text "~nosuchuser/jdk") ∧
      flag (readDocument homeEnvironment (some strangeDocument)) Key.highlightSource.name = true ∧
      ofDocument homeEnvironment (some strangeDocument) = .error .noHome ∧
      expandHome homeEnvironment (.parse "~root/jdk".toList) = .ok (.parse "/root/jdk".toList) ∧
      expandHome homeEnvironment (.parse "~".toList) = .ok (.parse "/home/me".toList) := by
  refine ⟨by decide +kernel, .inr ⟨by decide, "nosuchuser".toList, ["jdk".toList], by decide, ?_⟩,
    by decide +kernel, by decide +kernel, by decide +kernel, by decide +kernel⟩
  have hunknown : homeEnvironment.home? "nosuchuser".toList = none := by decide
  exact .inr fun home hhome => absurd (hunknown.symm.trans hhome) nofun

end ClassLocator.Settings
