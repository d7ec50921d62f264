import ClassLocator.FileSystem.Walk
import Mathlib.Tactic.SplitIfs

/-!
# Errors of the file system

A path that is looked up leads somewhere, or to nothing, or is too long, or goes through a
directory that may not be searched; there is no other error. So a question about a path is left open
for one of the last two reasons only, and all that can go wrong with a tree or a file that is there
is an error of the system. A pipe is no file, and whoever reads it waits.

## Main statements

* `FileSystem.holds_eq_error_iff`: when a question about a path is not answered.
* `FileSystem.kind_of_walk`, `FileSystem.kind_of_read`: what ends a walk, and what is wrong with a
  file.
-/

namespace ClassLocator

/-- An error that leaves open what a path leads to. -/
def Errno.LeavesOpen (errno : Errno) : Prop := errno = .nameTooLong ∨ errno = .accessDenied

/-- An error that can come from looking up a path. -/
def Errno.IsLookup (errno : Errno) : Prop := errno.LeavesOpen ∨ errno.meansAbsent = true

theorem Errno.LeavesOpen.meansAbsent {errno : Errno} (h : errno.LeavesOpen) :
    errno.meansAbsent = false := by
  obtain rfl | rfl := h <;> decide

namespace FileSystem

variable {fs : FileSystem} {errno : Errno} {cause : Cause} {path : Path}

/-! ## Looking up -/

theorem advance_error {heeds : Bool} {follow : Trail → List Text → Except Errno Trail}
    (hfollow : ∀ trail names errno, follow trail names = .error errno → errno.IsLookup)
    {trail : Trail} {names : List Text} (h : fs.advance heeds follow trail names = .error errno) :
    errno.IsLookup := by
  induction names generalizing trail with
  | nil => cases h
  | cons name rest ih =>
    unfold advance at h
    split at h
    case h_2 =>
      cases h
      exact .inr rfl
    case h_1 =>
      split_ifs at h
      · exact ih h
      · cases h
        exact .inl (.inr rfl)
      · exact ih h
      · exact ih h
      · cases h
        exact .inl (.inl rfl)
      · split at h
        case h_1 =>
          cases h
          exact .inr rfl
        case h_2 => exact hfollow _ _ _ h
        case h_3 => exact ih h

theorem advanceWith_error {heeds : Bool} (links : Nat) {trail : Trail} {names : List Text}
    (h : fs.advanceWith heeds links trail names = .error errno) : errno.IsLookup := by
  induction links generalizing trail names errno with
  | zero =>
    refine advance_error (fun _ _ _ hfollow => ?_) h
    cases hfollow
    exact .inr rfl
  | succ links ih => exact advance_error (fun _ _ _ hfollow => ih hfollow) h

theorem locate_error {text : Text} (h : fs.locate text = .error errno) : errno.IsLookup := by
  unfold locate at h
  split_ifs at h
  · cases h
    exact .inr rfl
  · cases h
    exact .inl (.inl rfl)
  · exact advanceWith_error _ h
  · cases hworking : fs.workingTrail with
    | error other =>
      rw [hworking] at h
      cases h
      exact advanceWith_error _ hworking
    | ok start =>
      rw [hworking] at h
      exact advanceWith_error _ h

theorem node?_error {text : Text} (h : fs.node? text = .error errno) : errno.IsLookup := by
  unfold node? at h
  cases hlocate : fs.locate text with
  | error other =>
    rw [hlocate] at h
    cases h
    exact locate_error hlocate
  | ok trail =>
    rw [hlocate] at h
    cases h

/-! ## Questions about paths -/

/-- A question about a path is not answered only if looking up the path leaves it open. -/
theorem holds_eq_error_iff {p : Node → Bool} :
    fs.holds p path = .error cause ↔
      '\x00' ∉ path.text ∧ ∃ errno : Errno, errno.LeavesOpen ∧ fs.node? path.text = .error errno ∧
        cause = .system errno (some path.text) := by
  unfold holds
  by_cases hnul : '\x00' ∈ path.text
  · simp [hnul]
  rw [if_neg hnul]
  cases hnode : fs.node? path.text with
  | ok node => simp
  | error errno =>
    rcases node?_error hnode with hopen | habsent
    · have habsent := hopen.meansAbsent
      grind
    · have hanswered : ¬ errno.LeavesOpen := fun hopen =>
        absurd (hopen.meansAbsent.symm.trans habsent) nofun
      grind

/-- Whether a question about a path is answered does not depend on the question. -/
theorem exists_holds_eq_ok {p q : Node → Bool} (h : ∀ cause, fs.holds p path ≠ .error cause) :
    ∃ answer, fs.holds q path = .ok answer := by
  cases hq : fs.holds q path with
  | error cause => exact absurd (holds_eq_error_iff.2 (holds_eq_error_iff.1 hq)) (h cause)
  | ok answer => exact ⟨answer, rfl⟩

/-- What is known of a path holds of the node that it leads to. -/
theorem node?_of_holds {p : Node → Bool} (h : fs.holds p path = .ok true) :
    '\x00' ∉ path.text ∧ ∃ node, fs.node? path.text = .ok node ∧ p node = true := by
  unfold holds at h
  split at h
  case isTrue => cases h
  case isFalse hnul =>
    split at h
    case h_1 node hnode => exact ⟨hnul, node, hnode, Except.ok.inj h⟩
    case h_2 => split at h <;> cases h

/-- A directory is there. -/
theorem exists?_of_isDirectory (h : fs.isDirectory path = .ok true) :
    fs.exists? path = .ok true := by
  obtain ⟨hnul, node, hnode, -⟩ := node?_of_holds h
  simp [exists?, holds, hnul, hnode]

/-- What can be read is there. -/
theorem exists?_of_read {file : Bytes} (h : fs.read path = .ok file) :
    fs.exists? path = .ok true := by
  unfold read at h
  unfold exists? holds
  split_ifs at h with hnul
  rw [if_neg hnul]
  split at h
  case h_1 content executable hnode => simp [hnode]
  all_goals cases h

/-- Only a pipe keeps its reader waiting. -/
theorem exists?_of_unanswered (h : fs.read path = .error .unanswered) :
    fs.exists? path = .ok true := by
  unfold read at h
  by_cases hnul : '\x00' ∈ path.text
  · rw [if_pos hnul] at h
    cases h
  rw [if_neg hnul] at h
  split at h
  case h_1 => split_ifs at h; cases h
  case h_3 hnode => simp [exists?, holds, hnul, hnode]
  all_goals cases h

/-- What is there can be read, or the system refuses it, or it is a pipe. -/
theorem kind_of_read (hexists : fs.exists? path = .ok true) (h : fs.read path = .error cause) :
    cause.kind = .system ∨ cause = .unanswered := by
  unfold exists? holds at hexists
  unfold read at h
  by_cases hnul : '\x00' ∈ path.text
  · rw [if_pos hnul] at hexists
    cases hexists
  rw [if_neg hnul] at h
  split at h
  case h_1 =>
    split_ifs at h
    cases h
    exact .inl rfl
  case h_3 =>
    cases h
    exact .inr rfl
  all_goals
    cases h
    exact .inl rfl

/-! ## Walks -/

theorem kind_of_listing {isOpen : Bool} {place : Path} {access : Access}
    {children : List (Text × Node)} (h : Listing.of isOpen place access children = .error cause) :
    cause.kind = .system := by
  unfold Listing.of at h
  split at h
  case h_1 =>
    cases h
    rfl
  case h_2 => cases h

theorem kind_of_listings (stack : List Listing) :
    ∀ cause ∈ (Listing.walk stack).failure, cause.kind = .system := by
  fun_induction Listing.walk stack with
  | case1 => exact nofun
  | case2 place isOpen stack ih => exact ih
  | case3 place isOpen name content executable rest stack ih => exact ih
  | case4 place isOpen name access children rest stack cause hopened =>
    rintro _ ⟨⟩
    exact kind_of_listing hopened
  | case5 place isOpen name access children rest stack inner hopened ih => exact ih
  | case6 place isOpen name target rest stack ih => exact ih
  | case7 place isOpen name rest stack ih => exact ih

/-- Nothing but an error of the system ends a walk. -/
theorem kind_of_walk (fs : FileSystem) (root : Path) :
    ∀ cause ∈ (fs.walk root).failure, cause.kind = .system := by
  unfold walk
  split
  case h_1 cause hexists =>
    rintro _ ⟨⟩
    obtain ⟨-, errno, -, -, hcause⟩ := holds_eq_error_iff.1 hexists
    rw [hcause]
    rfl
  case h_2 =>
    split
    case h_1 => exact nofun
    case h_2 access children _ =>
      split
      case h_1 cause hopened =>
        rintro _ ⟨⟩
        exact kind_of_listing hopened
      case h_2 => exact kind_of_listings _
    case h_3 => exact nofun

end FileSystem

end ClassLocator
