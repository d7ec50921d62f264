import ClassLocator.Proofs.ClassPath.Splitting
import ClassLocator.Proofs.Session.Settings
import ClassLocator.Session

/-!
# What the class path is good for

The variable of the class path decides which elements a run searches, and nothing else: two hosts
that differ in this variable alone give a run the same runtime, the same disassembler and the same
reports.

## Main definitions

* `Host.SameButClassPath`: hosts that differ in their class path at most.
* `Host.elements`: the elements that the class path of a host gives.

## Main statements

* `Session.setup_of_same`: what two such hosts set up.
* `Session.run_of_same`: a run on the other host goes on with the same setup, elements apart.
-/

namespace ClassLocator

/-- Two hosts that differ in the variable of the class path at most. -/
structure Host.SameButClassPath (host other : Host) : Prop where
  files : other.files = host.files
  isTerminal : other.isTerminal = host.isTerminal
  highlighter : other.highlighter = host.highlighter
  listing : other.listing = host.listing
  disassembly : other.disassembly = host.disassembly
  environment : ∀ name, name ≠ "CLASSPATH".toList →
    other.environment.get? name = host.environment.get? name
  homes : other.environment.homes = host.environment.homes
  ownHome : other.environment.ownHome = host.environment.ownHome
  deepest : other.environment.deepest = host.environment.deepest

/-- The elements to search. -/
def Host.elements (host : Host) (jdkSource : Option Path) : List Element :=
  ClassPath.elements (ClassPath.texts (ClassPath.default host.environment)) jdkSource

/-- A host with this class path and these files, and without a search path and commands. -/
def Host.ofClassPath (classPath : Text) (files : List (Text × Node)) : Host where
  files := { top := files, workingDirectory := [] }
  environment := { bindings := [("CLASSPATH".toList, classPath), ("PATH".toList, [])] }
  listing _ := .refused .noEntry
  disassembly _ := .refused .noEntry

theorem Host.ofClassPath_same (classPath replaced : Text) (files : List (Text × Node)) :
    (Host.ofClassPath classPath files).SameButClassPath (.ofClassPath replaced files) where
  files := rfl
  isTerminal := rfl
  highlighter := rfl
  listing := rfl
  disassembly := rfl
  environment name hname := by
    have hother : (name == "CLASSPATH".toList) = false := beq_eq_false_iff_ne.2 hname
    simp only [Host.ofClassPath, Environment.get?, List.lookup_cons, hother]
  homes := rfl
  ownHome := rfl
  deepest := rfl

variable {host other : Host} (h : host.SameButClassPath other)

/-! ## Settings and catalog -/

include h

theorem Host.SameButClassPath.searchPath : other.searchPath = host.searchPath := by
  unfold Host.searchPath
  rw [h.environment _ (by decide)]

theorem Host.SameButClassPath.home? (user : Text) :
    other.environment.home? user = host.environment.home? user := by
  unfold Environment.home?
  rw [h.environment _ (by decide), h.homes, h.ownHome]

theorem ofDocument_of_same (document : Option Bytes) :
    Settings.ofDocument other.environment document =
      Settings.ofDocument host.environment document :=
  Settings.ofDocument_congr h.home? h.deepest document

theorem resolveJavaHome_of_same (settings : Settings) :
    settings.resolveJavaHome other = settings.resolveJavaHome host := by
  unfold Settings.resolveJavaHome
  rw [h.environment _ (by decide), h.files, h.searchPath]

theorem resolveDisassembler_of_same (settings : Settings) (javaHome : Option Path) :
    settings.resolveDisassembler other javaHome = settings.resolveDisassembler host javaHome := by
  unfold Settings.resolveDisassembler
  rw [h.files]

theorem load_of_same (javaHome : Option Path) :
    Catalog.load other javaHome = Catalog.load host javaHome := by
  unfold Catalog.load Catalog.listingTool? Catalog.list
  rw [h.files, h.searchPath, h.listing]

theorem resolve_of_same (query : Query) (catalog : Catalog) :
    Catalog.resolve other query catalog = Catalog.resolve host query catalog := by
  unfold Catalog.resolve
  rw [load_of_same h]

namespace Session

/-! ## Setups -/

/-- The elements apart, the two hosts set up the same. -/
theorem setup_of_same (request : Request) (options : Options) :
    Session.setup other request options =
      (Session.setup host request options).map fun setup =>
        { setup with elements := other.elements options.jdkSource } := by
  unfold Session.setup
  simp only [ClassPath.split_separator, ofDocument_of_same h, resolveJavaHome_of_same h,
    resolveDisassembler_of_same h, resolve_of_same h]
  cases Settings.ofDocument host.environment request.document with
  | error cause => rfl
  | ok settings =>
    simp only [bind, Except.bind]
    cases settings.resolveDisassembler host (settings.resolveJavaHome host) with
    | error cause => rfl
    | ok disassembler => rfl

/-! ## Runs -/

theorem disassemble_of_same : ClassLocator.disassemble other = ClassLocator.disassemble host := by
  funext request
  unfold ClassLocator.disassemble
  rw [h.disassembly]

theorem searchWith_of_same (options : Options) (setup : Setup) :
    searchWith other options setup = searchWith host options setup := by
  unfold searchWith searchAction reporter
  rw [h.files, h.isTerminal, h.highlighter, disassemble_of_same h]

theorem run_of_same {request : Request} {options : Options} {setup : Setup}
    (hparsed : Options.parse host.files request.arguments = .ok options)
    (hsetup : Session.setup host request options = .ok setup) :
    Session.run other request =
      searchWith host options { setup with elements := other.elements options.jdkSource } := by
  simp only [Session.run, h.files, hparsed, setup_of_same h, hsetup, Except.map]
  exact searchWith_of_same h options _

/-- A run that does not come to its search does the same on both hosts. -/
theorem run_of_same_unsearched {request : Request}
    (hnone : ∀ options setup, Options.parse host.files request.arguments = .ok options →
      Session.setup host request options ≠ .ok setup) :
    Session.run other request = Session.run host request := by
  unfold Session.run
  rw [h.files]
  cases hparsed : Options.parse host.files request.arguments with
  | error fault => cases fault <;> rfl
  | ok options =>
    simp only [setup_of_same h]
    cases hsetup : Session.setup host request options with
    | error cause => rfl
    | ok setup => exact absurd hsetup (hnone options setup hparsed)

end Session

end ClassLocator
