import ScfSecurity.Library.PathName
import ScfSecurity.Policy.FileContext

/-!
# Paths of files

`SCF_CheckFilePathAndStat` decides on a path by searching it for a few substrings, by cutting it at
its last slash, and by three system calls. Here a file system is what a walk along the names of a
path finds, so that the check can be compared with what the path means.

## Main definitions

- `FileTree`: the file system, from its root
- `FileSystem.ConsistentWith`: the system calls show this file system
- `AcceptablePath`: the path names a file that may be used

## Main results

- `checkFilePathAndStat_append`: the check of a path that is cut at its last slash
- `checkFilePathAndStat_iff_acceptablePath`: below a directory the check finds the acceptable paths
- `checkFilePathAndStat_correct_iff`: when the check is right about a path
-/

namespace Scf

/-! ### The file system -/

/-- What a path leads to: its `stat`, whether it is a directory, and whether the process may read
it. -/
structure FileNode where
  stat : FileStat
  isDir : Bool
  readable : Bool
  isReg_of_isDir : isDir = true → stat.isReg = false

/-- A file system as a process can walk it: what the names of an absolute path lead to, and the
canonical path of it. Only directories have entries, and `.` and `..` lead to directories. -/
structure FileTree where
  node : List StdString → Option FileNode
  canonical : List StdString → Option StdString
  canonical_root : (canonical []).isSome
  isDir_of_entry : ∀ names c n, node (names ++ [c]) = some n →
    ∃ d, node names = some d ∧ d.isDir = true
  isDir_of_dots : ∀ names c n, c = ascii "." ∨ c = ascii ".." → node (names ++ [c]) = some n →
    n.isDir = true

/-- The names of a path. -/
abbrev pathNames (path : StdString) : List StdString := PathName.names 47 path

/-- What an absolute path leads to. A path name and its terminator have at most `PATH_MAX` bytes,
and only the name of a directory may have a slash at its end. -/
def FileTree.lookup (t : FileTree) (path : StdString) : Option FileNode :=
  if path.length < pathMax then
    (t.node (pathNames path)).filter fun n => path.getLast? ≠ some 47 || n.isDir
  else none

/-- `stat` and `access` report what an absolute path leads to, and `realpath` of a directory finds
its canonical path. -/
structure FileSystem.ConsistentWith (fs : FileSystem) (t : FileTree) : Prop where
  stat : ∀ path, path.head? = some 47 → fs.stat path = (t.lookup path).map FileNode.stat
  access : ∀ path, path.head? = some 47 → fs.accessRead path = (t.lookup path).any FileNode.readable
  realpath : ∀ path d, path.head? = some 47 → t.lookup path = some d → d.isDir = true →
    (fs.realpath path).isSome = (t.canonical (pathNames path)).isSome

/-- The system calls on a given file system. -/
def FileTree.system (t : FileTree) : FileSystem where
  realpath path := if (t.lookup path).isSome then t.canonical (pathNames path) else none
  stat path := (t.lookup path).map FileNode.stat
  accessRead path := (t.lookup path).any FileNode.readable
  contents _ := none

theorem FileTree.consistentWith_system (t : FileTree) : t.system.ConsistentWith t where
  stat _ _ := rfl
  access _ _ := rfl
  realpath path d _ hlookup _ := by
    show (if (t.lookup path).isSome then t.canonical (pathNames path) else none).isSome = _
    rw [hlookup, Option.isSome_some, if_pos rfl]

/-- The path names a regular file of 1 byte to 10 MiB that the process may read. -/
def FileTree.HasFile (t : FileTree) (path : StdString) : Prop :=
  ∃ n, t.lookup path = some n ∧ n.stat.isReg = true ∧ n.readable = true ∧
    1 ≤ n.stat.size ∧ n.stat.size ≤ maxFileSize

/-- The path is absolute and not too long, has no `.` or `..` among its names, its parent directory
resolves, and it names such a file. -/
structure AcceptablePath (t : FileTree) (path : StdString) : Prop where
  absolute : path.head? = some 47
  noDot : ascii "." ∉ pathNames path
  noDotDot : ascii ".." ∉ pathNames path
  length : path.length ≤ pathMax
  parent : (t.canonical (pathNames path).dropLast).isSome
  hasFile : t.HasFile path

/-! ### What the check tests -/

/-- The check of a path that is cut at its last slash. -/
theorem checkFilePathAndStat_append {fs : FileSystem} {dir name : StdString}
    (hname : 47 ∉ name) (hnul : 0 ∉ dir ++ 47 :: name) :
    scfCheckFilePathAndStat fs (dir ++ 47 :: name) = true ↔
      isAbsolutePath (dir ++ 47 :: name) = true ∧ (canonicalPath fs dir).isSome ∧
        checkFileStat fs (dir ++ 47 :: name) = true ∧ fs.accessRead (dir ++ 47 :: name) = true := by
  have hfolder : getFolderPath (dir ++ 47 :: name) = some dir := by
    have hmem : (47 : UInt8) ∈ dir ++ 47 :: name := by simp
    rw [getFolderPath, if_pos hmem, PathName.reverse_dropWhile_tail hname]
  simp only [scfCheckFilePathAndStat, checkFilePath, hfolder, (cStr_eq_self_iff _).mpr hnul]
  by_cases habs : isAbsolutePath (dir ++ 47 :: name) = true
  · by_cases hcanonical : (canonicalPath fs dir).isSome
    · simp [habs, hcanonical]
    · simp [habs, hcanonical]
  · simp [habs]

/-- The search for substrings finds the names before the last slash. -/
theorem isAbsolutePath_append {dir name : StdString} (hdir : dir.head? = some 47)
    (hname : 47 ∉ name) (hnul : 0 ∉ dir ++ 47 :: name) :
    isAbsolutePath (dir ++ 47 :: name) = true ↔
      ascii "." ∉ pathNames dir ∧ ascii ".." ∉ pathNames dir := by
  have hrooted : PathName.Rooted 47 dir := .inr hdir
  have hhead : (dir ++ 47 :: name).head? = some 47 := by
    rw [List.head?_append, hdir]
    rfl
  have hdot : ascii "/./" <:+: dir ++ 47 :: name ↔ ascii "." ∈ pathNames dir := by
    rw [show ascii "/./" = 47 :: (ascii "." ++ [47]) by decide]
    exact PathName.infix_iff_mem_names hrooted hname (by decide) (by decide)
  have hdotdot : ascii "/../" <:+: dir ++ 47 :: name ↔ ascii ".." ∈ pathNames dir := by
    rw [show ascii "/../" = 47 :: (ascii ".." ++ [47]) by decide]
    exact PathName.infix_iff_mem_names hrooted hname (by decide) (by decide)
  rw [isAbsolutePath, (cStr_eq_self_iff _).mpr hnul]
  simp [hhead, hdot, hdotdot, and_comm]

section Consistent

variable {fs : FileSystem} {t : FileTree} {path : StdString}

/-- The last two tests, on a path that `stat` and `access` report on. -/
theorem checkFileStat_and_access_iff (hfs : fs.ConsistentWith t) (hhead : path.head? = some 47)
    (hnul : 0 ∉ path) :
    checkFileStat fs path = true ∧ fs.accessRead path = true ↔ t.HasFile path := by
  rw [checkFileStat, (cStr_eq_self_iff _).mpr hnul, hfs.stat path hhead, hfs.access path hhead,
    FileTree.HasFile]
  cases t.lookup path with
  | none => simp
  | some n =>
    have hsize : n.stat.size ≤ maxFileSize ∧ ¬ n.stat.size = 0 ↔
        1 ≤ n.stat.size ∧ n.stat.size ≤ maxFileSize := by omega
    by_cases hreg : n.stat.isReg = true
    · simp [hreg, hsize, and_comm]
    · simp [hreg]

/-- What a path with a file behind it says about the directory of the file. -/
theorem hasFile_append {dir name : StdString} (hname : 47 ∉ name)
    (h : t.HasFile (dir ++ 47 :: name)) :
    name ≠ [] ∧ (dir ++ 47 :: name).length < pathMax ∧
      (∃ d, t.node (pathNames dir) = some d ∧ d.isDir = true) ∧
      name ≠ ascii "." ∧ name ≠ ascii ".." := by
  obtain ⟨n, hlookup, hreg, -⟩ := h
  unfold FileTree.lookup at hlookup
  by_cases hlen : (dir ++ 47 :: name).length < pathMax
  swap
  · rw [if_neg hlen] at hlookup
    cases hlookup
  rw [if_pos hlen, Option.filter_eq_some_iff] at hlookup
  obtain ⟨hnode, hslash⟩ := hlookup
  have hnotDir : n.isDir ≠ true := by
    intro hdir
    rw [n.isReg_of_isDir hdir] at hreg
    cases hreg
  have hne : name ≠ [] := by
    rintro rfl
    simp [hnotDir] at hslash
  rw [pathNames, PathName.names_append, PathName.names_of_notMem hne hname] at hnode
  refine ⟨hne, hlen, t.isDir_of_entry _ _ _ hnode, ?_, ?_⟩
  · exact fun hdot => hnotDir (t.isDir_of_dots _ _ _ (.inl hdot) hnode)
  · exact fun hdots => hnotDir (t.isDir_of_dots _ _ _ (.inr hdots) hnode)

/-- The names of a path with a file behind it. -/
theorem pathNames_append {dir name : StdString} (hname : 47 ∉ name)
    (h : t.HasFile (dir ++ 47 :: name)) :
    pathNames (dir ++ 47 :: name) = pathNames dir ++ [name] := by
  rw [pathNames, PathName.names_append, PathName.names_of_notMem (hasFile_append hname h).1 hname]

/-- An acceptable path, cut at its last slash. -/
theorem acceptablePath_append_iff {dir name : StdString}
    (hhead : (dir ++ 47 :: name).head? = some 47) (hname : 47 ∉ name) :
    AcceptablePath t (dir ++ 47 :: name) ↔
      (ascii "." ∉ pathNames dir ∧ ascii ".." ∉ pathNames dir) ∧
        (t.canonical (pathNames dir)).isSome ∧ t.HasFile (dir ++ 47 :: name) := by
  constructor
  · rintro ⟨-, hdot, hdots, -, hparent, hfile⟩
    rw [pathNames_append hname hfile] at hdot hdots hparent
    rw [List.dropLast_concat] at hparent
    exact ⟨⟨fun hmem => hdot (List.mem_append_left _ hmem),
      fun hmem => hdots (List.mem_append_left _ hmem)⟩, hparent, hfile⟩
  · rintro ⟨⟨hdot, hdots⟩, hparent, hfile⟩
    obtain ⟨-, hlen, -, hnedot, hnedots⟩ := hasFile_append hname hfile
    have hnames := pathNames_append hname hfile
    refine ⟨hhead, ?_, ?_, Nat.le_of_lt hlen, ?_, hfile⟩
    · rw [hnames, List.mem_append, List.mem_singleton]
      exact not_or.mpr ⟨hdot, hnedot.symm⟩
    · rw [hnames, List.mem_append, List.mem_singleton]
      exact not_or.mpr ⟨hdots, hnedots.symm⟩
    · rwa [hnames, List.dropLast_concat]

/-- The path before the last slash of a file leads to a directory, and `realpath` is asked for
it. -/
theorem canonicalPath_isSome {dir name : StdString} (hfs : fs.ConsistentWith t)
    (hdir : dir.head? = some 47) (hname : 47 ∉ name) (hnul : 0 ∉ dir)
    (h : t.HasFile (dir ++ 47 :: name)) :
    (canonicalPath fs dir).isSome = (t.canonical (pathNames dir)).isSome := by
  obtain ⟨-, hlen, ⟨d, hnode, hisDir⟩, -⟩ := hasFile_append hname h
  rw [List.length_append] at hlen
  have hne : dir ≠ [] := by
    rintro rfl
    cases hdir
  have hlookup : t.lookup dir = some d := by
    rw [FileTree.lookup, if_pos (by omega), hnode]
    exact Option.filter_some_pos (by rw [hisDir, Bool.or_true])
  rw [canonicalPath, if_neg (by simp only [hne, false_or]; omega), (cStr_eq_self_iff _).mpr hnul]
  exact hfs.realpath dir d hdir hlookup hisDir

/-- Below a directory other than the root the check finds the acceptable paths. -/
theorem checkFilePathAndStat_iff_acceptablePath {dir name : StdString} (hfs : fs.ConsistentWith t)
    (hdir : dir.head? = some 47) (hname : 47 ∉ name) (hnul : 0 ∉ dir ++ 47 :: name) :
    scfCheckFilePathAndStat fs (dir ++ 47 :: name) = true ↔
      AcceptablePath t (dir ++ 47 :: name) := by
  have hhead : (dir ++ 47 :: name).head? = some 47 := by
    rw [List.head?_append, hdir]
    rfl
  have hnul' : 0 ∉ dir := fun hmem => hnul (List.mem_append_left _ hmem)
  rw [checkFilePathAndStat_append hname hnul, isAbsolutePath_append hdir hname hnul,
    checkFileStat_and_access_iff hfs hhead hnul, acceptablePath_append_iff hhead hname]
  refine and_congr_right fun _ => ?_
  constructor
  · rintro ⟨hcanonical, hfile⟩
    rw [canonicalPath_isSome hfs hdir hname hnul' hfile] at hcanonical
    exact ⟨hcanonical, hfile⟩
  · rintro ⟨hcanonical, hfile⟩
    rw [← canonicalPath_isSome hfs hdir hname hnul' hfile] at hcanonical
    exact ⟨hcanonical, hfile⟩

/-- In the root nothing is accepted: the path before the slash is empty. -/
theorem checkFilePathAndStat_root {name : StdString} (hname : 47 ∉ name) (hnul : 0 ∉ 47 :: name) :
    scfCheckFilePathAndStat fs (47 :: name) = false := by
  have hnone : canonicalPath fs [] = none := if_pos (.inl rfl)
  rw [Bool.eq_false_iff]
  intro haccept
  have haccept' := (@checkFilePathAndStat_append fs [] name hname hnul).mp haccept
  rw [hnone] at haccept'
  cases haccept'.2.1

/-- In the root every file that may be used has an acceptable path. -/
theorem acceptablePath_root_iff {name : StdString} (hname : 47 ∉ name) :
    AcceptablePath t (47 :: name) ↔ t.HasFile (47 :: name) := by
  have hnil : pathNames [] = [] := PathName.names_nil
  have happend := @acceptablePath_append_iff t [] name rfl hname
  rw [hnil] at happend
  simpa [t.canonical_root] using happend

/-- The check accepts exactly the acceptable paths, unless the path is that of a file in the root
directory that may be used. -/
theorem checkFilePathAndStat_correct_iff (hfs : fs.ConsistentWith t) (hnul : 0 ∉ path) :
    (scfCheckFilePathAndStat fs path = true ↔ AcceptablePath t path) ↔
      ¬ ((path.head? = some 47 ∧ 47 ∉ path.tail) ∧ t.HasFile path) := by
  by_cases hhead : path.head? = some 47
  swap
  · have hreject : scfCheckFilePathAndStat fs path = false := by
      simp [scfCheckFilePathAndStat, checkFilePath, isAbsolutePath, hhead]
    simp only [hreject, hhead, false_and, not_false_iff, iff_true, Bool.false_eq_true, false_iff]
    exact fun hpath => hhead hpath.absolute
  obtain ⟨rest, rfl⟩ := List.head?_eq_some_iff.mp hhead
  by_cases hrest : 47 ∈ rest
  · obtain ⟨dir, name, rfl, hname⟩ := PathName.exists_eq_append hrest
    have hiff := @checkFilePathAndStat_iff_acceptablePath fs t (47 :: dir) name hfs rfl hname hnul
    simp only [List.tail_cons, hrest, not_true_eq_false, and_false, false_and, not_false_iff,
      iff_true]
    exact hiff
  · rw [checkFilePathAndStat_root hrest hnul, acceptablePath_root_iff hrest]
    simp [hrest]

end Consistent

/-- What is in a file system with a key in `/etc` and one in the root. -/
def keyNode : List StdString → Option FileNode
  | [] => some ⟨⟨false, 4096⟩, true, true, fun _ => rfl⟩
  | [a] =>
    if a = ascii "etc" then some ⟨⟨false, 4096⟩, true, true, fun _ => rfl⟩
    else if a = ascii "key" then some ⟨⟨true, 1024⟩, false, true, Bool.noConfusion⟩
    else none
  | [a, b] =>
    if a = ascii "etc" ∧ b = ascii "key" then some ⟨⟨true, 1024⟩, false, true, Bool.noConfusion⟩
    else none
  | _ => none

def keyTree : FileTree where
  node := keyNode
  canonical names := some (names.flatMap (47 :: ·))
  canonical_root := rfl
  isDir_of_entry := by
    intro names c n h
    match names, h with
    | [], _ => exact ⟨_, rfl, rfl⟩
    | [a], h =>
      have ha : a = ascii "etc" := by
        by_contra hne
        simp [keyNode, hne] at h
      exact ⟨_, if_pos ha, rfl⟩
    | a :: b :: rest, h => cases rest <;> cases h
  isDir_of_dots := by
    intro names c n hc h
    have hetc : c ≠ ascii "etc" := by
      rintro rfl
      exact absurd hc (by decide)
    have hkey : c ≠ ascii "key" := by
      rintro rfl
      exact absurd hc (by decide)
    match names, h with
    | [], h => simp [keyNode, hetc, hkey] at h
    | [a], h => simp [keyNode, hkey] at h
    | a :: b :: rest, h => cases rest <;> cases h

/-- The key below `/etc` is found. -/
theorem checkFilePathAndStat_correct_etc :
    keyTree.system.ConsistentWith keyTree ∧ 0 ∉ ascii "/etc/key" ∧
      ((scfCheckFilePathAndStat keyTree.system (ascii "/etc/key") = true ↔
          AcceptablePath keyTree (ascii "/etc/key")) ↔
        ¬ (((ascii "/etc/key").head? = some 47 ∧ 47 ∉ (ascii "/etc/key").tail) ∧
          keyTree.HasFile (ascii "/etc/key"))) ∧
      scfCheckFilePathAndStat keyTree.system (ascii "/etc/key") = true :=
  ⟨keyTree.consistentWith_system, by decide,
    checkFilePathAndStat_correct_iff keyTree.consistentWith_system (by decide), by decide⟩

/-- The check refuses the key in the root. -/
theorem checkFilePathAndStat_root_key :
    keyTree.system.ConsistentWith keyTree ∧ AcceptablePath keyTree (ascii "/key") ∧
      scfCheckFilePathAndStat keyTree.system (ascii "/key") = false := by
  refine ⟨keyTree.consistentWith_system, ?_, by decide⟩
  exact (acceptablePath_root_iff (by decide)).mpr ⟨_, rfl, rfl, rfl, by decide, by decide⟩

end Scf
