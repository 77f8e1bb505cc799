import Storyboard.Proofs.Files.Walk
import Storyboard.Source.Directory
import Mathlib.Data.List.TakeWhile

/-!
# The sheets of a scenario directory

The files below a directory whose names end in `csv` are its sheets. Each of them becomes a grid
under its path from the directory, except for the one that the settings name as the character table.
The two are told apart by name: a sheet is left out when its name, with slashes for backslashes, is
the text of the setting, while the table is the file that this text leads to. Where these agree, the
grids correspond to the sheets other than the table (`Source.Corresponds`). They need not agree: the
same file has many paths, and two files can have names that differ only in the kind of slash.
-/

namespace Storyboard

namespace Path

/-! ### Extensions -/

/-- **The extension of a name** is what follows its last dot, if something stands before the dot. -/
theorem extension?_eq_some_iff (name extension : String) :
    extension? name = some extension ↔
      ∃ stem, stem ≠ "" ∧ name = stem ++ "." ++ extension ∧ '.' ∉ extension.toList := by
  unfold extension?
  dsimp only
  constructor
  · intro h
    split at h
    · next dot last rest hdrop =>
      obtain rfl := Option.some.inj h
      -- The name is searched from behind, so its first dot backwards is its last one.
      have hdot : dot = '.' := by
        have hhead := List.head?_dropWhile_not (· ≠ '.') name.toList.reverse
        rw [hdrop] at hhead
        simpa using hhead
      have hsplit : name.toList.reverse.takeWhile (· ≠ '.') ++ dot :: last :: rest =
          name.toList.reverse := by
        rw [← hdrop]
        exact List.takeWhile_append_dropWhile
      have hchars : name.toList = (last :: rest).reverse ++ '.' ::
          (name.toList.reverse.takeWhile (· ≠ '.')).reverse := by
        have hback := congrArg List.reverse hsplit
        rw [List.reverse_reverse, hdot] at hback
        simpa using hback.symm
      refine ⟨String.ofList (last :: rest).reverse, ?_, ?_, ?_⟩
      · rw [ne_eq, ← String.toList_inj, String.toList_ofList]
        simp
      · rw [← String.toList_inj]
        simpa using hchars
      · intro hmem
        rw [String.toList_ofList, List.mem_reverse] at hmem
        simpa using List.mem_takeWhile_imp hmem
    · cases h
  · rintro ⟨stem, hstem, rfl, hplain⟩
    -- Backwards, the extension comes first, and there is no dot in it to stop at.
    have hback : (stem ++ "." ++ extension).toList.reverse =
        extension.toList.reverse ++ '.' :: stem.toList.reverse := by
      simp
    have hpast : ∀ c ∈ extension.toList.reverse, decide (c ≠ '.') = true := by
      intro c hc
      rw [List.mem_reverse] at hc
      exact decide_eq_true fun heq => hplain (heq ▸ hc)
    rw [hback, List.dropWhile_append_of_pos hpast, List.takeWhile_append_of_pos hpast,
      List.dropWhile_cons_of_neg (by simp), List.takeWhile_cons_of_neg (by simp)]
    have hne : stem.toList.reverse ≠ [] := by simpa using hstem
    obtain ⟨last, rest, hlast⟩ := List.exists_cons_of_ne_nil hne
    rw [hlast]
    simp

/-! ### Characters of paths -/

theorem mem_ofSegments {names : List String} {c : Char} (h : c ∈ (ofSegments names).toList) :
    c = '/' ∨ ∃ name ∈ names, c ∈ name.toList := by
  rw [ofSegments, String.toList_intercalate] at h
  induction names with
  | nil => cases h
  | cons name rest ih =>
    cases rest with
    | nil => exact .inr ⟨name, List.mem_cons_self, by simpa using h⟩
    | cons next others =>
      rw [List.map_cons, List.map_cons, List.intercalate_cons_cons, List.mem_append,
        List.mem_append] at h
      -- A character of the path is in the first name, is the slash behind it, or comes later.
      rcases h with (h | h) | h
      · exact .inr ⟨name, List.mem_cons_self, h⟩
      · exact .inl (by simpa using h)
      · rcases ih h with hslash | ⟨other, hother, hc⟩
        · exact .inl hslash
        · exact .inr ⟨other, List.mem_cons_of_mem _ hother, hc⟩

theorem mem_segments_of_isAbsolute {path : String} (h : isAbsolute path = true) :
    "" ∈ segments path := by
  have hhead : path.toList.head? = some '/' := of_decide_eq_true h
  obtain ⟨rest, hrest⟩ := List.head?_eq_some_iff.1 hhead
  have hsplit : path.toList.splitOn '/' = [] :: rest.splitOn '/' := by
    rw [hrest]
    exact List.splitOn_append_cons_self_of_not_mem List.not_mem_nil rest
  rw [segments, hsplit]
  exact List.mem_cons_self

end Path

namespace Source

/-- A file name with the extension of grids, in either case. -/
def IsSheetName (name : String) : Prop :=
  ∃ stem extension, stem ≠ "" ∧ name = stem ++ "." ++ extension ∧
    extension.map Char.toLower = gridExtension

/-- The files below a place that have the extension of grids, in the order in which the directory is
walked. -/
def sheets (tree : FileTree) (place : List String) : List (List String × ByteArray) :=
  (tree.below place).filter fun file => isGrid file.1

/-- The place that was found, if there is a file at it. -/
def filePlace? : Except PathFault (List String × Node) → Option (List String)
  | .ok (place, .file _) => some place
  | _ => none

/-- The place of the file that the character table is read from. -/
def tablePlace? (tree : FileTree) (root charactersFile : String) : Option (List String) :=
  filePlace? (tree.resolve (Path.join root charactersFile))

/-- The grids of a directory correspond one to one to its sheets other than the character table. -/
structure Corresponds (tree : FileTree) (root : String) (place : List String)
    (charactersFile : String) (found : Dict String) : Prop where
  /-- Each sheet but the table is a grid, with its own text under its own path. -/
  listed : ∀ folders name content, (place ++ (folders ++ [name]), content) ∈ tree.files →
    IsSheetName name → tablePlace? tree root charactersFile ≠ some (place ++ (folders ++ [name])) →
    ∃ text, String.fromUTF8? content = some text ∧
      found.find? (Path.ofSegments (folders ++ [name])) = some text
  /-- Each grid is a sheet that is not the table. -/
  only : ∀ path text, found.find? path = some text → ∃ folders name content,
    (place ++ (folders ++ [name]), content) ∈ tree.files ∧ IsSheetName name ∧
    tablePlace? tree root charactersFile ≠ some (place ++ (folders ++ [name])) ∧
    path = Path.ofSegments (folders ++ [name]) ∧ String.fromUTF8? content = some text
  /-- No two sheets have the same path. -/
  distinct : ∀ first ∈ sheets tree place, ∀ second ∈ sheets tree place,
    Path.ofSegments first.1 = Path.ofSegments second.1 → first = second

variable {tree : FileTree} {root charactersFile : String} {place : List String}

/-! ### Sheets -/

theorem isGrid_concat_iff (folders : List String) (name : String) :
    isGrid (folders ++ [name]) = true ↔ IsSheetName name := by
  have hlast : (folders ++ [name]).getLast?.bind Path.extension? = Path.extension? name := by
    rw [List.getLast?_concat, Option.bind_some]
  unfold isGrid
  rw [hlast]
  constructor
  · intro h
    split at h
    · next extension hextension =>
      obtain ⟨stem, hstem, hname, -⟩ := (Path.extension?_eq_some_iff name extension).1 hextension
      exact ⟨stem, extension, hstem, hname, of_decide_eq_true h⟩
    · cases h
  · rintro ⟨stem, extension, hstem, hname, hcsv⟩
    -- Letters become small and dots stay, so `csv` in any case has no dot in it.
    have hplain : '.' ∉ extension.toList := by
      intro hmem
      have hdot : '.' ∈ (extension.map Char.toLower).toList := by
        rw [String.toList_map]
        exact List.mem_map_of_mem (f := Char.toLower) hmem
      rw [hcsv] at hdot
      exact absurd hdot (by decide)
    rw [(Path.extension?_eq_some_iff name extension).2 ⟨stem, hstem, hname, hplain⟩]
    exact decide_eq_true hcsv

/-- **The sheets below a place** are the files there that have the name of a sheet. -/
theorem mem_sheets_iff {segments : List String} {content : ByteArray} :
    (segments, content) ∈ sheets tree place ↔ (place ++ segments, content) ∈ tree.files ∧
      ∃ folders name, segments = folders ++ [name] ∧ IsSheetName name := by
  rw [sheets, List.mem_filter, FileTree.mem_below_iff]
  constructor
  · rintro ⟨⟨hne, hfile⟩, hgrid⟩
    rcases List.eq_nil_or_concat segments with hnil | ⟨folders, name, rfl⟩
    · exact absurd hnil hne
    rw [List.concat_eq_append] at hfile hgrid ⊢
    exact ⟨hfile, folders, name, rfl, (isGrid_concat_iff folders name).1 hgrid⟩
  · rintro ⟨hfile, folders, name, rfl, hname⟩
    exact ⟨⟨List.concat_ne_nil _ _, hfile⟩, (isGrid_concat_iff folders name).2 hname⟩

/-- The sheets of a directory of readable files are readable. -/
theorem isSome_of_mem_sheets (h : ∀ file ∈ tree.files, (String.fromUTF8? file.2).isSome = true) :
    ∀ sheet ∈ sheets tree place, (String.fromUTF8? sheet.2).isSome = true := by
  intro sheet hsheet
  exact h (place ++ sheet.1, sheet.2) (mem_sheets_iff.1 hsheet).1

/-- The paths of the sheets are made of the names in the tree. -/
theorem backslash_notMem_of_mem_sheets
    (h : ∀ file ∈ tree.files, ∀ name ∈ file.1, '\\' ∉ name.toList) :
    ∀ sheet ∈ sheets tree place, ∀ name ∈ sheet.1, '\\' ∉ name.toList := by
  intro sheet hsheet name hname
  exact h _ (mem_sheets_iff.1 hsheet).1 name (List.mem_append_right _ hname)

/-! ### Names of grids -/

theorem toList_gridName (segments : List String) : (gridName segments).toList =
    (Path.ofSegments segments).toList.map fun c => if c = '\\' then '/' else c := by
  rw [gridName, String.toList_map]

/-- Without backslashes, the name of a grid is its path. -/
theorem gridName_eq {segments : List String} (h : ∀ name ∈ segments, '\\' ∉ name.toList) :
    gridName segments = Path.ofSegments segments := by
  have hkept : ∀ c ∈ (Path.ofSegments segments).toList, (if c = '\\' then '/' else c) = c := by
    intro c hc
    rw [ite_eq_right_iff]
    rintro rfl
    rcases Path.mem_ofSegments hc with hslash | ⟨name, hname, hmem⟩
    · exact absurd hslash (by decide)
    · exact absurd hmem (h name hname)
  rw [← String.toList_inj, toList_gridName]
  exact (List.map_congr_left hkept).trans (List.map_id' _)

theorem backslash_notMem_gridName (segments : List String) : '\\' ∉ (gridName segments).toList := by
  rw [toList_gridName]
  intro hmem
  obtain ⟨c, -, hc⟩ := List.mem_map.1 hmem
  split at hc
  · exact absurd hc (by decide)
  · next hne => exact hne hc

/-- The last sheet with a name, in the order in which the directory is walked. -/
def lastNamed? (tree : FileTree) (place : List String) (name : String) :
    Option (List String × ByteArray) :=
  (sheets tree place).reverse.find? fun sheet => gridName sheet.1 = name

/-- The grids are the sheets by name: there is one under each name but the setting, with the text of
the last sheet of that name. -/
def ListsByName (tree : FileTree) (place : List String) (charactersFile : String)
    (found : Dict String) : Prop :=
  ∀ name, found.find? name = if name = charactersFile then none
    else (lastNamed? tree place name).bind fun sheet => String.fromUTF8? sheet.2

theorem texts_eq {files : List (String × ByteArray)}
    (h : ∀ file ∈ files, (String.fromUTF8? file.2).isSome = true) :
    texts files = .ok (files.map fun file => (file.1, (String.fromUTF8? file.2).getD "")) := by
  induction files with
  | nil => rfl
  | cons file rest ih =>
    obtain ⟨hfile, hrest⟩ := List.forall_mem_cons.1 h
    obtain ⟨text, htext⟩ := Option.isSome_iff_exists.1 hfile
    have hread : textOf file.2 = .ok text := by rw [textOf, htext]
    rw [texts, hread, ih hrest, List.map_cons, htext]
    rfl

/-- A look-up among the texts of the grids finds the last sheet with that name. -/
theorem listsByName_texts
    (hread : ∀ sheet ∈ sheets tree place, (String.fromUTF8? sheet.2).isSome = true) :
    ListsByName tree place charactersFile (Dict.ofList
      ((gridFiles tree place charactersFile).map fun file =>
        (file.1, (String.fromUTF8? file.2).getD ""))) := by
  intro name
  -- The table of texts keeps the last file of each name, that is, the first one backwards.
  have hfind : (Dict.ofList ((gridFiles tree place charactersFile).map fun file =>
      (file.1, (String.fromUTF8? file.2).getD ""))).find? name =
      ((sheets tree place).reverse.find? fun sheet =>
        gridName sheet.1 ≠ charactersFile ∧ gridName sheet.1 = name).map fun sheet =>
          (String.fromUTF8? sheet.2).getD "" := by
    rw [Dict.find?_ofList, ← List.map_reverse, List.find?_map, gridFiles, ← List.filter_reverse,
      ← List.map_reverse, List.find?_filter, List.find?_map, sheets]
    simp [Function.comp_def]
  rw [hfind, lastNamed?]
  split
  · next hname =>
    rw [Option.map_eq_none_iff, List.find?_eq_none]
    simp [hname]
  · next hname =>
    -- Of the two conditions on a sheet, the second implies the first.
    have hsame : (fun sheet : List String × ByteArray => decide
        (gridName sheet.1 ≠ charactersFile ∧ gridName sheet.1 = name)) =
        fun sheet => decide (gridName sheet.1 = name) := by
      funext sheet
      exact decide_eq_decide.2 (and_iff_right_of_imp fun heq => heq ▸ hname)
    rw [hsame]
    cases hlast : (sheets tree place).reverse.find? fun sheet => gridName sheet.1 = name with
    | none => rfl
    | some sheet =>
      have hmem := List.mem_reverse.1 (List.mem_of_find?_eq_some hlast)
      obtain ⟨text, htext⟩ := Option.isSome_iff_exists.1 (hread sheet hmem)
      rw [Option.map_some, Option.bind_some, htext]
      rfl

/-- **What the grids of a directory are**: the sheets whose names are not the setting, the last of
those that share a name; where there are none, the directory is refused. -/
theorem grids_cases (hroot : tree.resolve root = .ok (place, .directory))
    (hread : ∀ sheet ∈ sheets tree place, (String.fromUTF8? sheet.2).isSome = true) :
    ((∀ sheet ∈ sheets tree place, gridName sheet.1 = charactersFile) ∧
      grids tree root charactersFile = .error (.sourceEmpty root)) ∨
    (∃ sheet ∈ sheets tree place, gridName sheet.1 ≠ charactersFile) ∧
      ∃ found, grids tree root charactersFile = .ok found ∧
        ListsByName tree place charactersFile found := by
  have hmem : ∀ file, file ∈ gridFiles tree place charactersFile ↔
      ∃ sheet ∈ sheets tree place, (gridName sheet.1, sheet.2) = file ∧
        gridName sheet.1 ≠ charactersFile := by
    intro file
    rw [gridFiles, List.mem_filter, List.mem_map]
    constructor
    · rintro ⟨⟨sheet, hsheet, rfl⟩, hname⟩
      exact ⟨sheet, hsheet, rfl, of_decide_eq_true hname⟩
    · rintro ⟨sheet, hsheet, rfl, hname⟩
      exact ⟨⟨sheet, hsheet, rfl⟩, decide_eq_true hname⟩
  -- All files can be read, so reading them gives a text for each.
  have htexts : texts (gridFiles tree place charactersFile) = .ok _ := texts_eq fun file hfile => by
    obtain ⟨sheet, hsheet, rfl, -⟩ := (hmem file).1 hfile
    exact hread sheet hsheet
  have hgrids : grids tree root charactersFile =
      if (gridFiles tree place charactersFile).map (fun file =>
        (file.1, (String.fromUTF8? file.2).getD "")) = [] then .error (.sourceEmpty root)
      else .ok (Dict.ofList ((gridFiles tree place charactersFile).map fun file =>
        (file.1, (String.fromUTF8? file.2).getD ""))) := by
    rw [grids, hroot]
    dsimp only
    rw [htexts]
    rfl
  rw [hgrids]
  -- The directory is refused only if no file is left to be a grid.
  by_cases hnone : gridFiles tree place charactersFile = []
  · left
    rw [if_pos (by rw [hnone]; rfl)]
    refine ⟨fun sheet hsheet => ?_, rfl⟩
    by_contra hname
    have hfile := (hmem _).2 ⟨sheet, hsheet, rfl, hname⟩
    rw [hnone] at hfile
    cases hfile
  · right
    rw [if_neg fun hmap => hnone (List.map_eq_nil_iff.1 hmap)]
    obtain ⟨file, hfile⟩ := List.exists_mem_of_ne_nil _ hnone
    obtain ⟨sheet, hsheet, -, hname⟩ := (hmem file).1 hfile
    exact ⟨⟨sheet, hsheet, hname⟩, _, rfl, listsByName_texts hread⟩

/-! ### The character table -/

/-- The path of a sheet leads to it from the directory. -/
theorem tablePlace?_ofSegments (h : tree.WellFormed)
    (hroot : tree.resolve root = .ok (place, .directory)) {names : List String}
    {content : ByteArray} (hne : names ≠ []) (hfile : (place ++ names, content) ∈ tree.files) :
    tablePlace? tree root (Path.ofSegments names) = some (place ++ names) := by
  have hnames : ∀ name ∈ names, FileTree.IsName name := fun name hname =>
    (h.named _ hfile).2 name (List.mem_append_right _ hname)
  have hsegments : Path.segments (Path.ofSegments names) = names :=
    Path.segments_ofSegments hne fun name hname => (hnames name hname).slashless
  -- A path of names is relative: an absolute one has an empty segment in front.
  have hrelative : Path.isAbsolute (Path.ofSegments names) = false := by
    rw [Bool.eq_false_iff]
    intro habsolute
    have hempty := Path.mem_segments_of_isAbsolute habsolute
    rw [hsegments] at hempty
    exact (hnames "" hempty).ne_empty rfl
  have hnul : Char.ofNat 0 ∉ (Path.ofSegments names).toList := by
    intro hmem
    rcases Path.mem_ofSegments hmem with hslash | ⟨name, hname, hinside⟩
    · exact absurd hslash (by decide)
    · exact (hnames name hname).nulless hinside
  rw [tablePlace?, FileTree.resolve_join hroot hrelative hnul, hsegments, h.walk_eq hne hfile,
    filePlace?]

/-- A setting made of names leads nowhere but to the file that they spell. -/
theorem place_of_tablePlace? (hroot : tree.resolve root = .ok (place, .directory))
    (hplain : ∀ name ∈ Path.segments charactersFile, name ≠ "" ∧ name ≠ "." ∧ name ≠ "..")
    {found : List String} (h : tablePlace? tree root charactersFile = some found) :
    found = place ++ Path.segments charactersFile := by
  have hrelative : Path.isAbsolute charactersFile = false := by
    rw [Bool.eq_false_iff]
    intro habsolute
    exact (hplain "" (Path.mem_segments_of_isAbsolute habsolute)).1 rfl
  rw [tablePlace?, filePlace?.eq_def] at h
  split at h
  · next place' content hresolve =>
    obtain rfl := Option.some.inj h
    -- A NUL byte in the setting would be one in the whole path, which leads nowhere.
    have hnul : Char.ofNat 0 ∉ charactersFile.toList := by
      intro hmem
      have hjoin : Char.ofNat 0 ∈ (Path.join root charactersFile).toList := by
        rcases Path.join_cases root hrelative with ⟨-, heq⟩ | ⟨base, -, heq⟩ | heq <;>
          rw [heq]
        · exact hmem
        · rw [String.toList_append]
          exact List.mem_append_right _ hmem
        · rw [String.toList_append]
          exact List.mem_append_right _ hmem
      rw [FileTree.resolve, if_pos (by simpa using hjoin)] at hresolve
      cases hresolve
    rw [FileTree.resolve_join hroot hrelative hnul] at hresolve
    exact FileTree.place_of_walk hplain hresolve
  · cases h

/-- **The table is the file that the setting leads to**, if it leads to one. -/
theorem characters_cases
    (hread : ∀ file ∈ tree.files, (String.fromUTF8? file.2).isSome = true) :
    (∃ file ∈ tree.files, tablePlace? tree root charactersFile = some file.1 ∧
      ∃ text, String.fromUTF8? file.2 = some text ∧
        characters tree root charactersFile = .ok (some text, [])) ∨
    tablePlace? tree root charactersFile = none ∧ characters tree root charactersFile =
      .ok (none, [.tableMissing (Path.join root charactersFile)]) := by
  rw [tablePlace?]
  delta characters FileTree.read
  dsimp only
  cases hresolve : tree.resolve (Path.join root charactersFile) with
  | error fault => exact .inr ⟨rfl, rfl⟩
  | ok found =>
    obtain ⟨found, node⟩ := found
    cases node with
    | directory => exact .inr ⟨rfl, rfl⟩
    | file content =>
      -- The walk ended at a file of the tree, so its content can be read like all others.
      have hfile : tree.file? found = some content := by
        rw [FileTree.resolve] at hresolve
        split at hresolve
        · cases hresolve
        · exact FileTree.file?_of_walk (fun _ hnode => Node.noConfusion hnode) hresolve
      have hmem := FileTree.mem_of_file? hfile
      obtain ⟨text, htext⟩ := Option.isSome_iff_exists.1 (hread _ hmem)
      refine .inl ⟨_, hmem, rfl, text, htext, ?_⟩
      dsimp only
      rw [textOf, htext]
      rfl

/-! ### The correspondence -/

/-- Sheets with the same path are the same. -/
theorem eq_of_ofSegments_eq (h : tree.WellFormed) {first second : List String × ByteArray}
    (hfirst : first ∈ sheets tree place) (hsecond : second ∈ sheets tree place)
    (heq : Path.ofSegments first.1 = Path.ofSegments second.1) : first = second := by
  have hsegments : ∀ sheet ∈ sheets tree place, Path.segments (Path.ofSegments sheet.1) = sheet.1 ∧
      (place ++ sheet.1, sheet.2) ∈ tree.files := by
    intro sheet hsheet
    obtain ⟨hfile, folders, name, hne, -⟩ := mem_sheets_iff.1 hsheet
    refine ⟨Path.segments_ofSegments (hne ▸ List.concat_ne_nil _ _) fun other hother => ?_, hfile⟩
    exact ((h.named _ hfile).2 other (List.mem_append_right _ hother)).slashless
  obtain ⟨hfirstBack, hfirstFile⟩ := hsegments first hfirst
  obtain ⟨hsecondBack, hsecondFile⟩ := hsegments second hsecond
  have hsame : first.1 = second.1 := by rw [← hfirstBack, heq, hsecondBack]
  have hfiles := List.inj_on_of_nodup_map h.distinct hfirstFile hsecondFile (by rw [hsame])
  exact Prod.ext hsame (Prod.mk.inj hfiles).2

/-- Where no name has a backslash, a look-up under the path of a sheet finds that sheet, unless the
path is the setting. -/
theorem lastNamed?_eq_some_iff (h : tree.WellFormed)
    (hslash : ∀ sheet ∈ sheets tree place, ∀ name ∈ sheet.1, '\\' ∉ name.toList)
    {name : String} {sheet : List String × ByteArray} :
    lastNamed? tree place name = some sheet ↔
      sheet ∈ sheets tree place ∧ Path.ofSegments sheet.1 = name := by
  have hsound : ∀ {sheet}, lastNamed? tree place name = some sheet →
      sheet ∈ sheets tree place ∧ Path.ofSegments sheet.1 = name := by
    intro sheet hlast
    have hmem := List.mem_reverse.1 (List.mem_of_find?_eq_some hlast)
    have hname : gridName sheet.1 = name := by simpa using List.find?_some hlast
    exact ⟨hmem, by rw [← gridName_eq (hslash sheet hmem), hname]⟩
  refine ⟨hsound, ?_⟩
  rintro ⟨hmem, hname⟩
  -- Some sheet is found under this path, and distinct sheets have distinct paths.
  have hsome : (lastNamed? tree place name).isSome = true := by
    refine List.find?_isSome.2 ⟨sheet, List.mem_reverse.2 hmem, ?_⟩
    rw [gridName_eq (hslash sheet hmem)]
    exact decide_eq_true hname
  obtain ⟨other, hother⟩ := Option.isSome_iff_exists.1 hsome
  obtain ⟨hotherMem, hotherName⟩ := hsound hother
  rw [hother, eq_of_ofSegments_eq h hotherMem hmem (hotherName.trans hname.symm)]

/-- The setting is the path of the table, if that is one of the sheets. -/
def IsSpelledOut (tree : FileTree) (root : String) (place : List String) (charactersFile : String) :
    Prop :=
  ∀ sheet ∈ sheets tree place, tablePlace? tree root charactersFile = some (place ++ sheet.1) →
    Path.ofSegments sheet.1 = charactersFile

/-- **Where no name has a backslash**, the grids correspond to the sheets other than the table
exactly if the setting does not name the table by another path than its own. -/
theorem corresponds_iff (h : tree.WellFormed)
    (hroot : tree.resolve root = .ok (place, .directory))
    (hread : ∀ sheet ∈ sheets tree place, (String.fromUTF8? sheet.2).isSome = true)
    (hslash : ∀ sheet ∈ sheets tree place, ∀ name ∈ sheet.1, '\\' ∉ name.toList)
    {found : Dict String} (hfound : ListsByName tree place charactersFile found) :
    Corresponds tree root place charactersFile found ↔
      IsSpelledOut tree root place charactersFile := by
  have hentry : ∀ sheet ∈ sheets tree place, Path.ofSegments sheet.1 ≠ charactersFile →
      found.find? (Path.ofSegments sheet.1) = String.fromUTF8? sheet.2 := by
    intro sheet hsheet hname
    have hlast := (lastNamed?_eq_some_iff h hslash).2 ⟨hsheet, rfl⟩
    rw [hfound, if_neg hname, hlast, Option.bind_some]
  constructor
  · -- Were the table a grid under its own path, the grids would list a sheet that is the table.
    intro hcorresponds sheet hsheet htable
    by_contra hname
    obtain ⟨text, htext⟩ := Option.isSome_iff_exists.1 (hread sheet hsheet)
    have hfind := (hentry sheet hsheet hname).trans htext
    obtain ⟨folders, name, content, hfile, hsheetName, hother, hpath, -⟩ :=
      hcorresponds.only _ _ hfind
    have hmem : (folders ++ [name], content) ∈ sheets tree place :=
      mem_sheets_iff.2 ⟨hfile, folders, name, rfl, hsheetName⟩
    have hsame := eq_of_ofSegments_eq h hsheet hmem hpath
    exact hother (by rw [htable, hsame])
  · intro hspelled
    refine ⟨?_, ?_, fun first hfirst second hsecond => eq_of_ofSegments_eq h hfirst hsecond⟩
    · -- A sheet whose path is the setting is the table, so all others are listed.
      intro folders name content hfile hsheetName htable
      have hmem : (folders ++ [name], content) ∈ sheets tree place :=
        mem_sheets_iff.2 ⟨hfile, folders, name, rfl, hsheetName⟩
      obtain ⟨text, htext⟩ := Option.isSome_iff_exists.1 (hread _ hmem)
      refine ⟨text, htext, (hentry _ hmem ?_).trans htext⟩
      rintro rfl
      exact htable (tablePlace?_ofSegments h hroot (List.concat_ne_nil _ _) hfile)
    · -- What is listed is a sheet, and not the table, whose path is the setting.
      intro path text hfind
      rw [hfound] at hfind
      split at hfind
      · cases hfind
      next hpath =>
      obtain ⟨⟨segments, content⟩, hlast, htext⟩ := Option.bind_eq_some_iff.1 hfind
      obtain ⟨hmem, hname⟩ := (lastNamed?_eq_some_iff h hslash).1 hlast
      obtain ⟨hfile, folders, name, rfl, hsheetName⟩ := mem_sheets_iff.1 hmem
      refine ⟨folders, name, content, hfile, hsheetName, fun htable => ?_, hname.symm, htext⟩
      exact hpath (hname.symm.trans (hspelled _ hmem htable))

/-- No grid has a backslash in its name. -/
theorem find?_of_backslash {found : Dict String}
    (hfound : ListsByName tree place charactersFile found) {name : String}
    (hback : '\\' ∈ name.toList) : found.find? name = none := by
  rw [hfound, ite_eq_left_iff]
  intro _
  rw [Option.bind_eq_none_iff]
  intro sheet hlast
  have hname : gridName sheet.1 = name := by simpa using List.find?_some hlast
  rw [← hname] at hback
  exact absurd hback (backslash_notMem_gridName sheet.1)

/-- **Every sheet but the table is a grid, where names tell them apart.** In a directory of readable
files the setting leads to the table, and the grids are the sheets by name: one under each name but
the setting, with the text of the last sheet of that name. Where no name has a backslash, they
correspond one to one to the sheets other than the table, unless the setting names a sheet by
another path than its own, which it cannot do when it is made of names alone. -/
theorem grids_correspond_to_sheets (h : tree.WellFormed)
    (hroot : tree.resolve root = .ok (place, .directory))
    (hread : ∀ file ∈ tree.files, (String.fromUTF8? file.2).isSome = true) :
    ((∃ file ∈ tree.files, tablePlace? tree root charactersFile = some file.1 ∧
        ∃ text, String.fromUTF8? file.2 = some text ∧
          characters tree root charactersFile = .ok (some text, [])) ∨
      tablePlace? tree root charactersFile = none ∧ characters tree root charactersFile =
        .ok (none, [.tableMissing (Path.join root charactersFile)])) ∧
    ((∀ sheet ∈ sheets tree place, gridName sheet.1 = charactersFile) ∧
        grids tree root charactersFile = .error (.sourceEmpty root) ∨
      (∃ sheet ∈ sheets tree place, gridName sheet.1 ≠ charactersFile) ∧
        ∃ found, grids tree root charactersFile = .ok found ∧
          ListsByName tree place charactersFile found ∧
          ((∀ sheet ∈ sheets tree place, ∀ name ∈ sheet.1, '\\' ∉ name.toList) →
            (Corresponds tree root place charactersFile found ↔
              IsSpelledOut tree root place charactersFile))) ∧
    ((∀ name ∈ Path.segments charactersFile, name ≠ "" ∧ name ≠ "." ∧ name ≠ "..") →
      IsSpelledOut tree root place charactersFile) := by
  have hsheets : ∀ sheet ∈ sheets tree place, (String.fromUTF8? sheet.2).isSome = true :=
    isSome_of_mem_sheets hread
  refine ⟨characters_cases hread, ?_, ?_⟩
  · rcases grids_cases hroot hsheets with hnone | ⟨hsome, found, hgrids, hfound⟩
    · exact .inl hnone
    · exact .inr ⟨hsome, found, hgrids, hfound, fun hslash =>
        corresponds_iff h hroot hsheets hslash hfound⟩
  · intro hplain sheet _ htable
    have hplace := place_of_tablePlace? hroot hplain htable
    rw [List.append_cancel_left hplace, Path.ofSegments_segments]

theorem isSheetName_csv (stem : String) (h : stem ≠ "") : IsSheetName (stem ++ "." ++ "csv") := by
  refine ⟨stem, "csv", h, rfl, ?_⟩
  rw [← String.toList_inj, String.toList_map]
  rfl

/-- A directory with two grids, in folders of their own, beside the table and a note. -/
def readingRoom : FileTree where
  files := [
    (["s", "intro.csv"], "Label,Start".toUTF8),
    (["s", "one", "Hall.CSV"], "Label,Hall".toUTF8),
    (["s", "characters.csv"], "Id,Name".toUTF8),
    (["s", "one", "notes.txt"], "later".toUTF8)]
  directories := []

theorem readingRoom_corresponds :
    readingRoom.WellFormed ∧ readingRoom.resolve "/s" = .ok (["s"], .directory) ∧
    (∀ file ∈ readingRoom.files, (String.fromUTF8? file.2).isSome = true) ∧
    ∃ found, grids readingRoom "/s" "characters.csv" = .ok found ∧
      Corresponds readingRoom "/s" ["s"] "characters.csv" found := by
  have h : readingRoom.WellFormed := by decide
  have hroot : readingRoom.resolve "/s" = .ok (["s"], .directory) := rfl
  have hread : ∀ file ∈ readingRoom.files, (String.fromUTF8? file.2).isSome = true := by decide
  have hslash : ∀ file ∈ readingRoom.files, ∀ name ∈ file.1, '\\' ∉ name.toList := by decide
  obtain ⟨-, hgrids, hplain⟩ :=
    @grids_correspond_to_sheets readingRoom "/s" "characters.csv" ["s"] h hroot hread
  refine ⟨h, hroot, hread, ?_⟩
  have hintro : (["intro.csv"], "Label,Start".toUTF8) ∈ sheets readingRoom ["s"] :=
    mem_sheets_iff.2 ⟨List.mem_cons_self, [], _, rfl, isSheetName_csv "intro" (by decide)⟩
  rcases hgrids with ⟨hall, -⟩ | ⟨-, found, hfound, -, hcorresponds⟩
  · have hname : gridName ["intro.csv"] = "characters.csv" := hall _ hintro
    rw [← String.toList_inj, toList_gridName] at hname
    exact absurd hname (by decide)
  · have hnames := hcorresponds (backslash_notMem_of_mem_sheets hslash)
    exact ⟨found, hfound, hnames.2 (hplain (by decide))⟩

/-- A directory with a grid whose name differs from the path of another one by its slash only. -/
def twoSlashes : FileTree where
  files := [
    (["s", "a", "b.csv"], "Label,One".toUTF8),
    (["s", "a\\b.csv"], "Label,Two".toUTF8)]
  directories := []

/-- The grids need not correspond to the sheets: a table that is named by another path than its own
is a grid as well, and of two names that differ by a slash only one is kept. -/
theorem respelled_sheets_do_not_correspond :
    (∃ found, grids readingRoom "/s" "./characters.csv" = .ok found ∧
      found.find? "characters.csv" = some "Id,Name" ∧
      characters readingRoom "/s" "./characters.csv" = .ok (some "Id,Name", []) ∧
      ¬ Corresponds readingRoom "/s" ["s"] "./characters.csv" found) ∧
    ∃ found, grids twoSlashes "/s" "characters.csv" = .ok found ∧ found.find? "a\\b.csv" = none ∧
      ¬ Corresponds twoSlashes "/s" ["s"] "characters.csv" found := by
  constructor
  · have h : readingRoom.WellFormed := by decide
    have hroot : readingRoom.resolve "/s" = .ok (["s"], .directory) := rfl
    have hread : ∀ file ∈ readingRoom.files, (String.fromUTF8? file.2).isSome = true := by decide
    have hslash : ∀ file ∈ readingRoom.files, ∀ name ∈ file.1, '\\' ∉ name.toList := by decide
    have hsheets : ∀ sheet ∈ sheets readingRoom ["s"], (String.fromUTF8? sheet.2).isSome = true :=
      isSome_of_mem_sheets hread
    have hplain : ∀ sheet ∈ sheets readingRoom ["s"], ∀ name ∈ sheet.1, '\\' ∉ name.toList :=
      backslash_notMem_of_mem_sheets hslash
    -- The table is a sheet, and the setting does not spell its path.
    have htable : (["characters.csv"], "Id,Name".toUTF8) ∈ sheets readingRoom ["s"] :=
      mem_sheets_iff.2 ⟨.tail _ (.tail _ (.head _)), [], _, rfl,
        isSheetName_csv "characters" (by decide)⟩
    rcases grids_cases hroot hsheets with ⟨hall, -⟩ | ⟨-, found, hgrids, hfound⟩
    · have hname : gridName ["characters.csv"] = "./characters.csv" := hall _ htable
      rw [← String.toList_inj, toList_gridName] at hname
      exact absurd hname (by decide)
    · refine ⟨found, hgrids, ?_, rfl, ?_⟩
      · have hlast : lastNamed? readingRoom ["s"] "characters.csv" = _ :=
          (lastNamed?_eq_some_iff h hplain).2 ⟨htable, rfl⟩
        rw [hfound, if_neg (by decide), hlast]
        rfl
      · rw [corresponds_iff h hroot hsheets hplain hfound]
        intro hspelled
        exact absurd (hspelled _ htable rfl) (by decide)
  · have hroot : twoSlashes.resolve "/s" = .ok (["s"], .directory) := rfl
    have hread : ∀ file ∈ twoSlashes.files, (String.fromUTF8? file.2).isSome = true := by decide
    have hsheets : ∀ sheet ∈ sheets twoSlashes ["s"], (String.fromUTF8? sheet.2).isSome = true :=
      isSome_of_mem_sheets hread
    have hname : IsSheetName "a\\b.csv" := isSheetName_csv "a\\b" (by decide)
    have hfile : (["s"] ++ ([] ++ ["a\\b.csv"]), "Label,Two".toUTF8) ∈ twoSlashes.files :=
      .tail _ (.head _)
    have hsheet : (["a\\b.csv"], "Label,Two".toUTF8) ∈ sheets twoSlashes ["s"] :=
      mem_sheets_iff.2 ⟨hfile, [], _, rfl, hname⟩
    rcases grids_cases hroot hsheets with ⟨hall, -⟩ | ⟨-, found, hgrids, hfound⟩
    · have hname : gridName ["a\\b.csv"] = "characters.csv" := hall _ hsheet
      rw [← String.toList_inj, toList_gridName] at hname
      exact absurd hname (by decide)
    · -- Both sheets are named `a/b.csv`, so there is nothing under the name with the backslash.
      have hlost : found.find? "a\\b.csv" = none := find?_of_backslash hfound (by decide)
      refine ⟨found, hgrids, hlost, fun hcorresponds => ?_⟩
      obtain ⟨text, -, hfind⟩ := hcorresponds.listed [] "a\\b.csv" _ hfile hname (by decide)
      have hkept : found.find? "a\\b.csv" = some text := hfind
      rw [hlost] at hkept
      cases hkept

end Source

end Storyboard
