import ClassLocator.Proofs.FileSystem.Spelling
import Mathlib.Data.List.TakeWhile

/-!
# Longer paths by their texts

The listing of a directory gives each child by a text: that of the directory, a slash unless it ends
with one, and the name of the child. This text is read again before the child is listed or opened.
However the directory is spelled, what is read is its path with one more name. So the names that
lead down from a root are the rest of the path behind it, and joined to the root this rest leads to
the same place again.

## Main definitions

* `Path.entryText`, `Path.entry`: the child of a directory by its text.
* `Path.join`: the path that a text leads to from a root.

## Main statements

* `Path.parse_entryText`, `Path.foldl_entry`: the names that lead to an entry.
* `Path.join_text`: a relative path behind a root.
-/

namespace ClassLocator.Path

variable {path root : Path} {directory name : Text} {names : List Text}

/-- The text under which a directory lists a name. -/
def entryText (directory name : Text) : Text :=
  if directory.getLast? = some '/' then directory ++ name else directory ++ '/' :: name

/-- The path of a child as the listing of its directory gives it. -/
def entry (directory : Path) (name : Text) : Path := parse (entryText directory.text name)

/-- The path that a text leads to from a root. A text with an anchor of its own leads there from
everywhere. -/
def join (root : Path) (text : Text) : Path :=
  if (parse text).anchor = .here then root.append (parse text).names else parse text

/-! ## Entries of a directory -/

theorem text_ne_nil (path : Path) : path.text ≠ [] := by
  unfold text
  split
  case h_1 => exact List.cons_ne_nil _ _
  case h_2 hne => exact hne

/-- A text of slashes alone gets no slash more, so that its anchor stays what it is. -/
theorem ofText_entryText (hdirectory : directory ≠ []) (hname : IsProperName name) :
    Anchor.ofText (entryText directory name) = Anchor.ofText directory := by
  have hbegins : name.takeWhile (· = '/') = [] := by
    cases name with
    | nil => rfl
    | cons c rest =>
      have hc : c ≠ '/' := fun heq => hname.2 (heq ▸ List.mem_cons_self)
      simp [hc]
  have hslashes : (entryText directory name).takeWhile (· = '/') =
      directory.takeWhile (· = '/') := by
    by_cases hall : (directory.takeWhile (· = '/')).length = directory.length
    · have hall : directory.takeWhile (· = '/') = directory :=
        (List.takeWhile_prefix _).eq_of_length hall
      have hslash : ∀ c ∈ directory, c = '/' := by
        rw [← hall]
        exact fun c hmem => by simpa using List.mem_takeWhile_imp hmem
      have hlast : directory.getLast? = some '/' := by
        rw [List.getLast?_eq_some_getLast hdirectory, hslash _ (List.getLast_mem hdirectory)]
      rw [entryText, if_pos hlast, List.takeWhile_append, hbegins]
      simp [hall]
    · unfold entryText
      split <;> rw [List.takeWhile_append, if_neg hall]
  rw [Anchor.ofText, Anchor.ofText, hslashes]

theorem filter_splitOn_append_cons (front rest : Text) :
    (List.splitOn '/' (front ++ '/' :: rest)).filter isName =
      (List.splitOn '/' front).filter isName ++ (List.splitOn '/' rest).filter isName := by
  rw [List.splitOn_append_cons_self, List.filter_append]

/-- However the path of a directory is spelled, the text of an entry is read as the path of the
child. -/
theorem parse_entryText (hdirectory : directory ≠ []) (hname : IsProperName name) :
    parse (entryText directory name) = (parse directory).child name := by
  have hsole : (List.splitOn '/' name).filter isName = [name] := by
    rw [List.splitOn_eq_singleton hname.2]
    simp [hname.1]
  have hnames : (List.splitOn '/' (entryText directory name)).filter isName =
      (List.splitOn '/' directory).filter isName ++ [name] := by
    unfold entryText
    split
    case isTrue hlast =>
      -- The slash at the end parts the name from the rest, and nothing stands behind it.
      obtain ⟨front, rfl⟩ := List.getLast?_eq_some_iff.1 hlast
      rw [List.append_assoc, List.singleton_append, filter_splitOn_append_cons, hsole,
        filter_splitOn_append_cons]
      simp [isName]
    case isFalse => rw [filter_splitOn_append_cons, hsole]
  rw [parse, parse, Text.splitOn_singleton, Text.splitOn_singleton, hnames,
    ofText_entryText hdirectory hname, child]

theorem entry_eq_child (h : path.IsNormal) (hname : IsProperName name) :
    path.entry name = path.child name := by
  rw [entry, parse_entryText path.text_ne_nil hname, parse_text h]

/-- Entry by entry the names lead down from a directory. -/
theorem foldl_entry (h : path.IsNormal) (hnames : AreNames names) :
    names.foldl entry path = path.append names := by
  induction names generalizing path with
  | nil => exact path.append_nil.symm
  | cons name rest ih =>
    obtain ⟨hname, hrest⟩ := List.forall_mem_cons.1 hnames
    rw [List.foldl_cons, entry_eq_child h hname, ih (h.child hname.1 hname.2) hrest, child_append]

/-! ## Relative paths -/

theorem isNormal_of_names (hnames : AreNames names) (anchor : Anchor) :
    (⟨anchor, names⟩ : Path).IsNormal := hnames

theorem IsNormal.append (h : path.IsNormal) (hnames : AreNames names) :
    (path.append names).IsNormal :=
  isNormal_of_names (List.forall_mem_append.2 ⟨h, hnames⟩) path.anchor

theorem join_text (hnames : AreNames names) :
    root.join (⟨.here, names⟩ : Path).text = root.append names := by
  rw [join, parse_text (isNormal_of_names hnames .here), if_pos rfl]

end ClassLocator.Path
