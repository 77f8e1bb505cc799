import Storyboard.Files.Tree
import Mathlib.Data.List.Nodup

/-!
# Walking along paths

A path is walked segment by segment. Here is what this comes to where the segments are names: a path
of names leads from a place to the place below it that they spell (`FileTree.place_of_walk`), and in
a tree that a file system can hold each file is found under the names that lead to it
(`FileTree.WellFormed.walk_eq`). Joining a path to the path of a directory walks on from there
(`FileTree.resolve_join`).
-/

namespace Storyboard

/-! ### Segments -/

namespace Path

theorem segments_append (a b : String) :
    segments (a ++ "/" ++ b) = segments a ++ segments b := by
  have hsplit : (a ++ "/" ++ b).toList.splitOn '/' =
      a.toList.splitOn '/' ++ b.toList.splitOn '/' := by
    rw [String.toList_append, String.toList_append, List.append_assoc]
    exact List.splitOn_append_cons_self ..
  rw [segments, hsplit, List.map_append]
  rfl

theorem ofSegments_segments (path : String) : ofSegments (segments path) = path := by
  rw [ofSegments, segments, ← String.toList_inj, String.toList_intercalate, List.map_map]
  have hback : (path.toList.splitOn '/').map (String.toList ∘ String.ofList) =
      path.toList.splitOn '/' := by
    simp [Function.comp_def]
  rw [hback]
  exact List.intercalate_splitOn '/'

/-- **Segments without slashes are found again.** -/
theorem segments_ofSegments {names : List String} (hne : names ≠ [])
    (h : ∀ name ∈ names, '/' ∉ name.toList) : segments (ofSegments names) = names := by
  have hsplit : (['/'].intercalate (names.map String.toList)).splitOn '/' =
      names.map String.toList := by
    apply List.splitOn_intercalate
    · intro cs hcs
      obtain ⟨name, hname, rfl⟩ := List.mem_map.1 hcs
      exact h name hname
    · simpa using hne
  have hchars : (ofSegments names).toList = ['/'].intercalate (names.map String.toList) := by
    rw [ofSegments, String.toList_intercalate]
    rfl
  rw [segments, hchars, hsplit, List.map_map]
  simp [Function.comp_def]

/-- A relative path is joined behind a slash, unless there is one already. -/
theorem join_cases (root : String) {path : String} (h : isAbsolute path = false) :
    (root = "" ∧ join root path = path) ∨
    (∃ base, root = base ++ "/" ∧ join root path = base ++ "/" ++ path) ∨
    join root path = root ++ "/" ++ path := by
  rw [join, if_neg (by simp [h])]
  split
  · next hend =>
    rcases Bool.or_eq_true_iff.1 hend with hempty | hlast
    · have hroot : root = "" := String.isEmpty_iff.1 hempty
      exact .inl ⟨hroot, by rw [hroot, String.empty_append]⟩
    · obtain ⟨base, hbase⟩ := List.getLast?_eq_some_iff.1 (of_decide_eq_true hlast)
      have hroot : root = String.ofList base ++ "/" := by
        rw [← String.toList_inj, hbase, String.toList_append, String.toList_ofList]
        rfl
      exact .inr (.inl ⟨String.ofList base, hroot, by rw [hroot]⟩)
  · exact .inr (.inr rfl)

end Path

namespace FileTree

/-- A name that a file or a directory can have. -/
structure IsName (name : String) : Prop where
  /-- It is not empty. -/
  ne_empty : name ≠ ""
  /-- It is not the name for the directory itself. -/
  ne_here : name ≠ "."
  /-- It is not the name for the parent. -/
  ne_up : name ≠ ".."
  /-- It has no slash. -/
  slashless : '/' ∉ name.toList
  /-- It has no NUL character. -/
  nulless : Char.ofNat 0 ∉ name.toList
  /-- It is not too long. -/
  short : name.utf8ByteSize ≤ longestName

/-- A tree of files that a file system can hold. -/
structure WellFormed (tree : FileTree) : Prop where
  /-- Files are at places that names lead to. -/
  named : ∀ file ∈ tree.files, file.1 ≠ [] ∧ ∀ name ∈ file.1, IsName name
  /-- No two files are at the same place. -/
  distinct : (tree.files.map (·.1)).Nodup
  /-- There is no file below a file. -/
  apart : ∀ file ∈ tree.files, ∀ other ∈ tree.files, file.1 <+: other.1 → file.1 = other.1

instance (name : String) : Decidable (IsName name) :=
  decidable_of_iff (name ≠ "" ∧ name ≠ "." ∧ name ≠ ".." ∧ '/' ∉ name.toList ∧
      Char.ofNat 0 ∉ name.toList ∧ name.utf8ByteSize ≤ longestName)
    ⟨fun ⟨h1, h2, h3, h4, h5, h6⟩ => ⟨h1, h2, h3, h4, h5, h6⟩,
      fun ⟨h1, h2, h3, h4, h5, h6⟩ => ⟨h1, h2, h3, h4, h5, h6⟩⟩

instance (tree : FileTree) : Decidable tree.WellFormed :=
  decidable_of_iff ((∀ file ∈ tree.files, file.1 ≠ [] ∧ ∀ name ∈ file.1, IsName name) ∧
      (tree.files.map (·.1)).Nodup ∧
      ∀ file ∈ tree.files, ∀ other ∈ tree.files, file.1 <+: other.1 → file.1 = other.1)
    ⟨fun ⟨h1, h2, h3⟩ => ⟨h1, h2, h3⟩, fun ⟨h1, h2, h3⟩ => ⟨h1, h2, h3⟩⟩

variable {tree : FileTree}

/-- **The files below a place** are those whose places continue it. -/
theorem mem_below_iff {place segments : List String} {content : ByteArray} :
    (segments, content) ∈ tree.below place ↔
      segments ≠ [] ∧ (place ++ segments, content) ∈ tree.files := by
  unfold below
  rw [List.mem_mergeSort, List.mem_map]
  constructor
  · rintro ⟨file, hfile, hrest⟩
    obtain ⟨hmem, hbelow⟩ := List.mem_filter.1 hfile
    obtain ⟨rfl, rfl⟩ := Prod.mk.inj hrest
    rw [Bool.and_eq_true, List.isPrefixOf_iff_prefix] at hbelow
    obtain ⟨⟨rest, hplace⟩, hother⟩ := hbelow
    -- What is left of the place of a file is what continues the one given.
    have hdrop : file.1.drop place.length = rest := by
      rw [← hplace, List.drop_left]
    rw [hdrop, hplace]
    refine ⟨?_, hmem⟩
    rintro rfl
    rw [List.append_nil] at hplace
    exact absurd hplace (by simpa using hother)
  · rintro ⟨hne, hfile⟩
    refine ⟨(place ++ segments, content), List.mem_filter.2 ⟨hfile, ?_⟩, ?_⟩
    · rw [Bool.and_eq_true, List.isPrefixOf_iff_prefix]
      refine ⟨List.prefix_append _ _, ?_⟩
      simpa using hne
    · simp

/-! ### Walks -/

theorem walk_append (place : List String) (node : Node) (first rest : List String) :
    tree.walk place node (first ++ rest) =
      match tree.walk place node first with
      | .error fault => .error fault
      | .ok (place, node) => tree.walk place node rest := by
  induction first generalizing place node with
  | nil => rfl
  | cons segment others ih =>
    cases node with
    | file content => rfl
    | directory =>
      rw [List.cons_append, walk, walk]
      split
      · exact ih _ _
      split
      · exact ih _ _
      split
      · rfl
      split
      · rfl
      · exact ih _ _

/-- **A walk along names leads to the place that they spell.** -/
theorem place_of_walk {place found : List String} {node last : Node} {names : List String}
    (hnames : ∀ name ∈ names, name ≠ "" ∧ name ≠ "." ∧ name ≠ "..")
    (h : tree.walk place node names = .ok (found, last)) : found = place ++ names := by
  induction names generalizing place node with
  | nil =>
    cases h
    exact (List.append_nil _).symm
  | cons name rest ih =>
    obtain ⟨⟨hempty, hhere, hup⟩, hrest⟩ := List.forall_mem_cons.1 hnames
    cases node with
    | file content => cases h
    | directory =>
      -- Only the empty segment, `.` and `..` do not lead to a name below.
      rw [walk, if_neg (not_or.2 ⟨hempty, hhere⟩), if_neg hup] at h
      split at h
      · cases h
      split at h
      · cases h
      · have hfound := ih hrest h
        rw [hfound, List.append_assoc]
        rfl

/-- A walk that leads to a file leads to a file of the tree. -/
theorem file?_of_walk {place found segments : List String} {node : Node} {content : ByteArray}
    (hnode : ∀ inside, node = .file inside → tree.file? place = some inside)
    (h : tree.walk place node segments = .ok (found, .file content)) :
    tree.file? found = some content := by
  induction segments generalizing place node with
  | nil =>
    cases h
    exact hnode content rfl
  | cons segment rest ih =>
    have hdirectory : ∀ (place : List String) inside,
        Node.directory = .file inside → tree.file? place = some inside := nofun
    cases node with
    | file content => cases h
    | directory =>
      rw [walk] at h
      split at h
      · exact ih (hdirectory _) h
      split at h
      · exact ih (hdirectory _) h
      split at h
      · cases h
      split at h
      · cases h
      · next next hnext =>
        -- The next node is looked up at its place, so a file there is one of the tree.
        refine ih (fun inside hinside => ?_) h
        rw [hinside, node?] at hnext
        split at hnext
        · next found hfound =>
          cases hnext
          exact hfound
        · split at hnext <;> cases hnext

/-- A file that is found is one of the tree. -/
theorem mem_of_file? {place : List String} {content : ByteArray}
    (h : tree.file? place = some content) : (place, content) ∈ tree.files := by
  obtain ⟨file, hfile, rfl⟩ := Option.map_eq_some_iff.1 h
  have hplace : file.1 = place := by simpa using List.find?_some hfile
  subst hplace
  exact List.mem_of_find?_eq_some hfile

namespace WellFormed

/-- **A file is found at its place.** -/
theorem file?_eq (h : tree.WellFormed) {place : List String} {content : ByteArray}
    (hfile : (place, content) ∈ tree.files) : tree.file? place = some content := by
  have hsome : (tree.files.find? (·.1 = place)).isSome = true :=
    List.find?_isSome.2 ⟨(place, content), hfile, by simp⟩
  obtain ⟨other, hother⟩ := Option.isSome_iff_exists.1 hsome
  have hplace : other.1 = place := by simpa using List.find?_some hother
  have hsame : other = (place, content) :=
    List.inj_on_of_nodup_map h.distinct (List.mem_of_find?_eq_some hother) hfile hplace
  rw [file?, hother, hsame]
  rfl

/-- What leads to a file is a directory. -/
theorem node?_of_mem (h : tree.WellFormed) {place rest : List String} {content : ByteArray}
    (hrest : rest ≠ []) (hfile : (place ++ rest, content) ∈ tree.files) :
    tree.node? place = some .directory := by
  have hprefix : place <+: place ++ rest := List.prefix_append place rest
  have hnone : tree.file? place = none := by
    rw [Option.eq_none_iff_forall_ne_some]
    intro inside hinside
    have hsame := h.apart _ (mem_of_file? hinside) _ hfile hprefix
    exact hrest (List.append_right_eq_self.1 hsame.symm)
  have hbelow : tree.hasBelow place = true := by
    apply List.any_eq_true.2
    refine ⟨place ++ rest, List.mem_append_left _ (List.mem_map_of_mem hfile), ?_⟩
    exact List.isPrefixOf_iff_prefix.2 hprefix
  rw [node?, hnone]
  simp [hbelow]

/-- **The names of a file lead to it.** -/
theorem walk_eq (h : tree.WellFormed) {place names : List String} {content : ByteArray}
    (hne : names ≠ []) (hfile : (place ++ names, content) ∈ tree.files) :
    tree.walk place .directory names = .ok (place ++ names, .file content) := by
  induction names generalizing place with
  | nil => exact absurd rfl hne
  | cons name rest ih =>
    have hname : IsName name :=
      (h.named _ hfile).2 name (List.mem_append_right _ List.mem_cons_self)
    have hnext : place ++ name :: rest = place ++ [name] ++ rest := by
      rw [List.append_assoc]
      rfl
    rw [hnext] at hfile ⊢
    rw [walk, if_neg (not_or.2 ⟨hname.ne_empty, hname.ne_here⟩), if_neg hname.ne_up,
      if_neg (Nat.not_lt.2 hname.short)]
    by_cases hrest : rest = []
    · -- The last name is that of the file; those before it lead to directories above it.
      subst hrest
      rw [List.append_nil] at hfile ⊢
      rw [node?, h.file?_eq hfile]
      rfl
    · rw [h.node?_of_mem hrest hfile]
      exact ih hrest hfile

end WellFormed

theorem resolve_of_nulless {path : String} (h : Char.ofNat 0 ∉ path.toList) :
    tree.resolve path = tree.walk [] .directory (Path.segments path) := by
  rw [resolve, if_neg (by simpa using h)]

/-- **Joining a relative path to that of a directory** walks on from the directory. -/
theorem resolve_join {root path : String} {place : List String}
    (hroot : tree.resolve root = .ok (place, .directory)) (hpath : Path.isAbsolute path = false)
    (hnul : Char.ofNat 0 ∉ path.toList) :
    tree.resolve (Path.join root path) = tree.walk place .directory (Path.segments path) := by
  -- A path that resolves has no null character.
  have hrootNul : Char.ofNat 0 ∉ root.toList := by
    intro hmem
    rw [resolve, if_pos (by simpa using hmem)] at hroot
    cases hroot
  rw [resolve_of_nulless hrootNul] at hroot
  rcases Path.join_cases root hpath with ⟨rfl, hjoin⟩ | ⟨base, rfl, hjoin⟩ | hjoin
  · -- The empty path stays at the root.
    cases hroot
    rw [hjoin, resolve_of_nulless hnul]
  · have hbaseNul : Char.ofNat 0 ∉ (base ++ "/" ++ path).toList := by
      simp only [String.toList_append, List.mem_append, not_or] at hrootNul ⊢
      exact ⟨hrootNul, hnul⟩
    have hsegments : Path.segments (base ++ "/") = Path.segments base ++ [""] := by
      have happend := Path.segments_append base ""
      rwa [String.append_empty] at happend
    rw [hsegments, walk_append] at hroot
    rw [hjoin, resolve_of_nulless hbaseNul, Path.segments_append, walk_append]
    split at hroot
    · cases hroot
    next found node hbase =>
    -- The empty segment behind the slash stays where it is, which has to be a directory.
    cases node with
    | file content => cases hroot
    | directory =>
      cases hroot
      rfl
  · have hjoinNul : Char.ofNat 0 ∉ (root ++ "/" ++ path).toList := by
      simp only [String.toList_append, List.mem_append, not_or]
      exact ⟨⟨hrootNul, by decide⟩, hnul⟩
    rw [hjoin, resolve_of_nulless hjoinNul, Path.segments_append, walk_append, hroot]

end FileTree

end Storyboard
