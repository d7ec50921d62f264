import ClassLocator.Proofs.ClassPath.Faults
import ClassLocator.Proofs.Session.Output
import ClassLocator.Proofs.Session.Setup

/-!
# Runs that a scan ends

A run whose search comes upon an element that cannot be scanned reports what could not be scanned
and ends with exit code 1, if the element is tractable. If it is not, the run breaks off with a
cause that nobody takes up, or waits at a pipe forever, and nothing is reported.

## Main statements

* `Session.scan_reported_iff`: which elements that cannot be scanned are reported.
-/

namespace ClassLocator

variable {host : Host} {request : Request} {options : Options} {setup : Session.Setup}
  {element : Element} {fault : Fault}

/-! ## Faults that are reported -/

theorem Element.Names.isReported {container : Path} (h : Element.Names container fault) :
    fault.isReported = true := by
  obtain ⟨cause, rfl | rfl⟩ := h
  · rfl
  · rfl

/-- What is made of a cause is reported only if it is a fault that names the container. -/
theorem Element.names_of_taken {container : Path} {p : Prop} [Decidable p] {named : Fault}
    {cause : Cause} (hnamed : Element.Names container named)
    (hreported : (if p then named else .bare cause).isReported = true) :
    Element.Names container (if p then named else .bare cause) := by
  by_cases h : p
  · rw [if_pos h]
    exact hnamed
  · rw [if_neg h] at hreported
    cases hreported

/-- A fault of a scan that says what could not be scanned says it of the container. -/
theorem Element.names_of_isReported {fs : FileSystem} {query : Query} {display : Display}
    (hfault : (element.scan fs query display).failure = some fault)
    (hreported : fault.isReported = true) :
    Element.Names (element.container display.sourceMode) fault := by
  rw [failure_scan, hits] at hfault
  split at hfault
  case h_1 =>
    cases element with
    | directory path =>
      obtain ⟨cause, -, rfl⟩ := Option.map_eq_some_iff.1 hfault
      exact names_of_taken ⟨cause, .inl rfl⟩ hreported
    | jar path =>
      obtain ⟨cause, -, rfl⟩ := Option.map_eq_some_iff.1 hfault
      exact names_of_taken ⟨cause, .inr rfl⟩ hreported
  case h_2 => cases hfault
  case h_3 =>
    cases hfault
    cases hreported

/-- Of the faults of a scan just those of tractable elements are reported. -/
theorem Element.isReported_iff {fs : FileSystem} {query : Query} {display : Display}
    (hfault : (element.scan fs query display).failure = some fault) :
    fault.isReported = true ↔ element.IsTractable fs display.sourceMode := by
  rw [← reports_iff fs query display element, hfault]
  constructor
  · rintro hreported _ ⟨⟩
    exact names_of_isReported hfault hreported
  · intro hnames
    exact (hnames fault rfl).isReported

namespace Session

/-! ## Endings -/

theorem run_of_reported (hparsed : Options.parse host.files request.arguments = .ok options)
    (hsetup : Session.setup host request options = .ok setup)
    (hraised : ((searchAction host options setup).runFrom []).1 = .error fault)
    (hreported : fault.isReported = true) :
    (Session.run host request).ending = .exit 1 ∧
      ∃ earlier, (Session.run host request).errors =
        earlier ++ faultComplaint options.display.debug fault := by
  rw [run_eq_searchWith hparsed hsetup, searchWith_reported (Prod.ext hraised rfl) hreported]
  exact ⟨rfl, _, errors_complaint ..⟩

theorem run_of_unreported (hparsed : Options.parse host.files request.arguments = .ok options)
    (hsetup : Session.setup host request options = .ok setup)
    (hraised : ((searchAction host options setup).runFrom []).1 = .error fault)
    (hreported : ¬ fault.isReported = true) :
    (Session.run host request).ending = .ofUnreported fault := by
  have hrun : (searchAction host options setup).runFrom [] = (.error fault, _) :=
    Prod.ext hraised rfl
  rw [run_eq_searchWith hparsed hsetup, searchWith, hrun]
  simp only [hreported]
  rfl

/-- An element that is missing has no matches and does not fail. A scan that fails names the
container of its element just if the element is tractable, and a run that comes to such a failure
reports it just then; otherwise the failure breaks the run off, or the run never ends. -/
theorem scan_reported_iff (host : Host) (options : Options) (element : Element) :
    let scan := element.scan host.files ⟨options.className⟩ options.display
    let container := element.container options.display.sourceMode
    let tractable := element.IsTractable host.files options.display.sourceMode
    (host.files.exists? container = .ok false → scan.filterMap Event.match? = .empty) ∧
    ((∀ fault ∈ scan.failure, Element.Names container fault) ↔ tractable) ∧
    ∀ request setup fault, Options.parse host.files request.arguments = .ok options →
      Session.setup host request options = .ok setup → scan.failure = some fault →
      ((searchAction host options setup).runFrom []).1 = .error fault →
      ((Session.run host request).ending = .exit 1 ↔ tractable) ∧
      (tractable → ∃ earlier, (Session.run host request).errors =
        earlier ++ "jcf: " ++ fault.message ++ ['\n'] ++
          (if options.display.debug = true then "<traceback>\n".toList else [])) ∧
      (¬ tractable → (Session.run host request).ending = .ofUnreported fault) := by
  refine ⟨Element.scan_of_missing, Element.reports_iff .., ?_⟩
  intro request setup fault hparsed hsetup hfault hraised
  rw [← Element.isReported_iff hfault]
  by_cases hreported : fault.isReported = true
  · obtain ⟨hending, earlier, herrors⟩ := run_of_reported hparsed hsetup hraised hreported
    refine ⟨iff_of_true hending hreported, fun _ => ⟨earlier, ?_⟩, absurd hreported⟩
    rw [herrors, faultComplaint_eq]
    simp only [List.append_assoc]
  · have hending := run_of_unreported hparsed hsetup hraised hreported
    refine ⟨iff_of_false ?_ hreported, fun h => absurd h hreported, fun _ => hending⟩
    rw [hending]
    exact ofUnreported_ne_exit fault 1

/-! ## Elements that cannot be scanned -/

def fooRequest : Request where
  arguments := ["Foo".toList]

def fooOptions : Options := ⟨"Foo".toList, {}, none⟩

/-- A host whose class path is a jar that is an empty file. -/
def emptyJarHost : Host :=
  .ofClassPath "x.jar".toList [("x.jar".toList, .file { bytes := [] } false)]

def emptyJar : Element := .jar (.parse "x.jar".toList)

def emptyJarFault : Fault := .archiveScan (.parse "x.jar".toList) (.malformed .notArchive)

/-- What the search of `fooRequest` goes through there. -/
def emptyJarSetup : Setup where
  runtime := .ofList [.notice (.debug "No Java home found; runtime search skipped".toList)]
  elements := [emptyJar]
  disassembler := ["javap".toList]
  highlightSource := false

/-- An empty file is reported as the jar that it was taken for. -/
theorem scan_reported_iff_empty :
    emptyJar.IsTractable emptyJarHost.files false ∧
      (Session.run emptyJarHost fooRequest).ending = .exit 1 ∧
      ∃ earlier, (Session.run emptyJarHost fooRequest).errors =
        earlier ++ "jcf: ".toList ++ emptyJarFault.message ++ ['\n'] ++ [] := by
  obtain ⟨-, -, hrun⟩ := scan_reported_iff emptyJarHost fooOptions emptyJar
  have hparsed : Options.parse emptyJarHost.files fooRequest.arguments = .ok fooOptions := by rfl
  have hsetup : Session.setup emptyJarHost fooRequest fooOptions = .ok emptyJarSetup := by
    with_unfolding_all rfl
  have hfault : (emptyJar.scan emptyJarHost.files ⟨"Foo".toList⟩ {}).failure =
    some emptyJarFault := by rfl
  have hraised : ((searchAction emptyJarHost fooOptions emptyJarSetup).runFrom []).1 =
    .error emptyJarFault := by rfl
  have hending : (Session.run emptyJarHost fooRequest).ending = .exit 1 := by decide +kernel
  obtain ⟨hiff, herrors, -⟩ := hrun fooRequest _ _ hparsed hsetup hfault hraised
  have htractable := hiff.1 hending
  exact ⟨htractable, hending, herrors htractable⟩

def longName : Text := List.replicate 256 'a'

/-- An archive whose directory has one record: with this version, with this byte for the upper half
of the flags, and with this name. -/
def recordArchive (version flags : UInt8) (name : Bytes) : Bytes :=
  let size := UInt8.ofNat name.length
  [0x50, 0x4B, 1, 2, 20, 0, version, 0, 0, flags] ++ List.replicate 18 0 ++ [size, 0] ++
    List.replicate 16 0 ++ name ++
    [0x50, 0x4B, 5, 6, 0, 0, 0, 0, 1, 0, 1, 0, 46 + size, 0, 0, 0, 0, 0, 0, 0, 0, 0]

def newerArchive : Bytes := recordArchive 64 0 (Utf8.encode "Foo.class".toList)

/-- The flags say that the name is UTF-8. -/
def oddArchive : Bytes := recordArchive 20 8 (0xFF :: Utf8.encode ".class".toList)

/-- A run with this class path and these files. -/
def fooRun (classPath : Text) (files : List (Text × Node)) : Session :=
  Session.run (.ofClassPath classPath files) fooRequest

/-- A path that is too long, one through a directory that may not be searched, a pipe, an archive in
a later version of the format, and one with a name that cannot be decoded. -/
theorem run_of_intractable :
    (fooRun longName []).ending = .broken (.bare (.system .nameTooLong (some longName))) ∧
      (fooRun "d/x.jar".toList
          [("d".toList, .directory { isSearchable := false } [])]).ending =
        .broken (.bare (.system .accessDenied (some "d/x.jar".toList))) ∧
      (fooRun "x.jar".toList [("x.jar".toList, .pipe)]).ending = .never ∧
      (fooRun "new.jar".toList
          [("new.jar".toList, .file { bytes := newerArchive } false)]).ending =
        .broken (.bare (.unsupported (.version 64))) ∧
      (fooRun "odd.jar".toList
          [("odd.jar".toList, .file { bytes := oddArchive } false)]).ending =
        .broken (.bare .undecodableName) := by
  refine ⟨?_, ?_, ?_, ?_, ?_⟩
  · decide +kernel
  · decide +kernel
  · decide +kernel
  · decide +kernel
  · decide +kernel

end Session

end ClassLocator
