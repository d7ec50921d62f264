import ClassLocator.ClassPath.Matches
import ClassLocator.Proofs.FileSystem.Building
import ClassLocator.Proofs.FileSystem.Lookup
import ClassLocator.Proofs.FileSystem.Traversal

/-!
# The files of a directory

The walk of a directory gives the files of its tree in the order of their names, up to the first
directory that cannot be listed, and in whatever order the directories list their children. The
matches are those of these files whose own name holds the query.

## Main statements

* `FileSystem.walk_directory`: what the walk of a directory and the matches in it are.
-/

namespace ClassLocator

/-- That a path leads to a directory is known only if it is looked up at all. -/
theorem FileSystem.node?_of_isDirectory {fs : FileSystem} {root : Path}
    (h : fs.isDirectory root = .ok true) :
    '\x00' ∉ root.text ∧
      ∃ access children, fs.node? root.text = .ok (.directory access children) := by
  obtain ⟨hnul, node, hnode, hdirectory⟩ := node?_of_holds h
  cases node with
  | directory access children => exact ⟨hnul, access, children, hnode⟩
  | file content executable => cases hdirectory
  | link target => cases hdirectory
  | pipe => cases hdirectory

theorem FileSystem.exists?_of_node? {fs : FileSystem} {root : Path} {node : Node}
    (hnul : '\x00' ∉ root.text) (hnode : fs.node? root.text = .ok node) :
    fs.exists? root = .ok true := by
  simp [exists?, holds, hnul, hnode]

/-- What a match is made of below a directory, where every file has a name of its own. -/
theorem fileMatch?_append {root : Path} {names : List Text} (hne : names ≠ []) (query : Query)
    (sourceMode : Bool) (content : Content) :
    fileMatch? root query sourceMode ⟨root.append names, content⟩ =
      if Text.occursIn query.shortName (names.getLastD []) then
        some (fileMatch root sourceMode ⟨root.append names, content⟩)
      else none := by
  rw [fileMatch?, Path.name_append root hne]

theorem Node.HoldsFile.names_ne_nil {isOpen : Bool} {access : Access}
    {children : List (Text × Node)} {names : List Text} {content : Content}
    (h : (Node.directory access children).HoldsFile isOpen names content) : names ≠ [] := by
  obtain ⟨name, child, rest, -, rfl, -⟩ := Node.holdsFile_directory.1 h
  exact List.cons_ne_nil name rest

theorem items_directoryMatches {fs : FileSystem} {root : Path} {entries : Entries}
    (hwalk : fs.walk root = filesBelow root entries) (hne : ∀ file ∈ entries.items, file.1 ≠ [])
    (query : Query) (sourceMode : Bool) :
    (directoryMatches fs root query sourceMode).items =
      (entries.items.filter fun file => Text.occursIn query.shortName (file.1.getLastD [])).map
        fun file => fileMatch root sourceMode ⟨root.append file.1, file.2⟩ := by
  simp only [directoryMatches, hwalk, filesBelow, Feed.items_filterMap, Feed.items_mapFailure,
    Feed.items_map, List.filterMap_map]
  generalize entries.items = files at hne ⊢
  induction files with
  | nil => rfl
  | cons file rest ih =>
    obtain ⟨hfile, hrest⟩ := List.forall_mem_cons.1 hne
    rw [List.filterMap_cons, List.filter_cons, Function.comp_apply, fileMatch?_append hfile,
      ih hrest]
    by_cases hname : Text.occursIn query.shortName (file.1.getLastD []) = true
    · simp only [hname, if_true, List.map_cons]
    · simp only [hname, if_false, Bool.false_eq_true]

/-- A directory is walked by its tree; all files in it come, each once, in the order of the names
that lead to them and with what opening them there gives, or those before the first directory that
cannot be listed, whose error then ends the walk. Another order of the children changes nothing. The
matches are the files whose own name holds the query. -/
theorem FileSystem.walk_directory {fs : FileSystem} {root : Path} (hapart : fs.NamesApart)
    (hdirectory : fs.isDirectory root = .ok true) :
    ∃ access children entries,
      fs.node? root.text = .ok (.directory access children) ∧
      fs.walk root = (Node.directory access children).files true root ∧
      fs.walk root = filesBelow root entries ∧
      InOrder ((Node.directory access children).HoldsFile true)
        ((Node.directory access children).Refuses true root) entries ∧
      (∀ (other : FileSystem) (node : Node), other.node? root.text = .ok node →
        (Node.directory access children).Rearranged node → other.walk root = fs.walk root) ∧
      ∀ query sourceMode,
        (directoryMatches fs root query sourceMode).items =
          (entries.items.filter fun file =>
            Text.occursIn query.shortName (file.1.getLastD [])).map
              (fun file => fileMatch root sourceMode ⟨root.append file.1, file.2⟩) ∧
        (directoryMatches fs root query sourceMode).failure = (fs.walk root).failure := by
  obtain ⟨hnul, access, children, hnode⟩ := node?_of_isDirectory hdirectory
  have hwalk := walk_eq_files (exists?_of_node? hnul hnode) hnode
  have hapart : (Node.directory access children).NamesApart := hapart.of_node? hnode
  obtain ⟨entries, hfiles, horder⟩ := Node.files_inOrder _ true root hapart
  refine ⟨access, children, entries, hnode, hwalk, hwalk.trans hfiles, horder, ?_, ?_⟩
  · intro other node hother hre
    obtain ⟨others, rfl, -⟩ := hre.eq_directory
    rw [walk_eq_files (exists?_of_node? hnul hother) hother, hwalk, hre.files_eq hapart]
  · intro query sourceMode
    refine ⟨items_directoryMatches (hwalk.trans hfiles) (fun file hmem => ?_) query sourceMode, rfl⟩
    exact ((horder.mem_items _ _).1 hmem).1.names_ne_nil

/-- Below `/r` the files `a.txt` and `a/z`, a link back to `/r`, and a directory `b` that cannot be
listed. The names of `a/z` come before the one of `a.txt`, but the text of its path does not. -/
def FileSystem.nested : FileSystem :=
  let empty : FileSystem := { top := [], workingDirectory := [] }
  let files := (empty.insert [['r'], "a.txt".toList] (.file { bytes := [1] } false)).insert
    [['r'], ['a'], ['z']] (.file { bytes := [2] } false)
  (files.insert [['r'], "loop".toList] (.link "/r".toList)).refuse [['r'], ['b']] .accessDenied

theorem FileSystem.nested_namesApart : nested.NamesApart := by
  have hfirst := (NamesApart.empty []).insert [['r'], "a.txt".toList] (.file { bytes := [1] } false)
  have hfiles := hfirst.insert [['r'], ['a'], ['z']] (.file { bytes := [2] } false)
  exact (hfiles.insert _ (.link _)).refuse _ _

theorem FileSystem.walk_directory_nested :
    nested.NamesApart ∧ nested.isDirectory ⟨.root, [['r']]⟩ = .ok true ∧
      ∃ access children entries,
        nested.node? ("/r".toList) = .ok (.directory access children) ∧
        nested.walk ⟨.root, [['r']]⟩ = filesBelow ⟨.root, [['r']]⟩ entries ∧
        InOrder ((Node.directory access children).HoldsFile true)
          ((Node.directory access children).Refuses true ⟨.root, [['r']]⟩) entries := by
  have hdirectory : nested.isDirectory ⟨.root, [['r']]⟩ = .ok true := by rfl
  obtain ⟨access, children, entries, hnode, -, hwalk, horder, -⟩ :=
    walk_directory nested_namesApart hdirectory
  exact ⟨nested_namesApart, hdirectory, access, children, entries, hnode, hwalk, horder⟩

end ClassLocator
