import JavaMetrics.Files.Load
import JavaMetrics.Proofs.Dict
import JavaMetrics.Proofs.Paths

/-!
The files that a loader collects. The walk below a root passes over a directory by its name alone, so that it
comes to a file exactly when no directory on the way is passed over; the names on the way, joined to the root,
open the same file from outside. The collected paths are those that the loader takes of these files, each
once and in the order of their components.
-/

set_option autoImplicit false

namespace JavaMetrics

namespace FileTree

/-- The entries of every directory have names, each a name of its own. -/
inductive WellFormed : FileTree → Prop
  | file (content : Text.Source) : WellFormed (file content)
  | directory {entries : List (String × FileTree)} (names : ∀ e ∈ entries, Path.isName e.1 = true)
      (distinct : (entries.map (·.1)).Nodup) (below : ∀ e ∈ entries, WellFormed e.2) :
      WellFormed (directory entries)

def below? : FileTree → List String → Option FileTree
  | t, [] => some t
  | file _, _ :: _ => none
  | directory entries, n :: ns => (entries.lookup n).bind fun t => t.below? ns

theorem below?_nil (t : FileTree) : t.below? [] = some t := by
  cases t <;> rfl

theorem nil_not_mem_filesIn (entries : List (String × FileTree)) : [] ∉ filesIn entries := by
  induction entries with
  | nil => simp [filesIn]
  | cons e rest ih =>
    obtain ⟨n, t⟩ := e
    rw [filesIn, List.mem_append, not_or]
    refine ⟨?_, ih⟩
    split <;> simp

theorem mem_filesIn (entries : List (String × FileTree)) (n : String) (ns : List String) :
    n :: ns ∈ filesIn entries ↔
      ∃ t, (n, t) ∈ entries ∧ (t.isDirectory && isSkipped n) = false ∧ ns ∈ t.files := by
  induction entries with
  | nil => simp [filesIn]
  | cons e rest ih =>
    obtain ⟨m, s⟩ := e
    rw [filesIn, List.mem_append, ih]
    constructor
    · rintro (hmem | ⟨t, ht, hopen, hns⟩)
      · split at hmem
        · cases hmem
        · rename_i hopen
          obtain ⟨ns', hns, heq⟩ := List.mem_map.1 hmem
          cases heq
          exact ⟨s, List.mem_cons_self, by simpa using hopen, hns⟩
      · exact ⟨t, List.mem_cons_of_mem _ ht, hopen, hns⟩
    · rintro ⟨t, ht, hopen, hns⟩
      rcases List.mem_cons.1 ht with heq | ht
      · cases heq
        left
        rw [hopen]
        exact List.mem_map_of_mem hns
      · exact .inr ⟨t, ht, hopen, hns⟩

/-- The walk finds the files to which no directory to be skipped leads. -/
theorem mem_files {t : FileTree} (h : t.WellFormed) (names : List String) :
    names ∈ t.files ↔ (∃ content, t.below? names = some (file content)) ∧
      ∀ d ∈ names.dropLast, isSkipped d = false := by
  induction names generalizing t with
  | nil =>
    cases t with
    | file content => simp [files, below?]
    | directory entries => simp [files, below?, nil_not_mem_filesIn]
  | cons n ns ih =>
    cases h with
    | file content => simp [files, below?]
    | @directory entries hnames hdistinct hbelow =>
      rw [files, mem_filesIn]
      have hstep (t : FileTree) (ht : (n, t) ∈ entries) :
          ((t.isDirectory && isSkipped n) = false ∧ ns ∈ t.files) ↔
            (∃ content, t.below? ns = some (file content)) ∧
              ∀ d ∈ (n :: ns).dropLast, isSkipped d = false := by
        rw [ih (hbelow _ ht)]
        cases ns with
        | nil =>
          -- The last name is that of a file, and its name is not looked at.
          cases t <;> simp [below?, isDirectory]
        | cons m ms =>
          cases t with
          | file content => simp [below?]
          | directory es =>
            simp only [isDirectory, Bool.true_and, List.dropLast_cons_cons, List.forall_mem_cons]
            exact and_left_comm
      simp only [below?, Option.bind_eq_some_iff, Entries.lookup_eq_some_iff hdistinct]
      constructor
      · rintro ⟨t, ht, hfiles⟩
        obtain ⟨⟨content, hcontent⟩, hopen⟩ := (hstep t ht).1 hfiles
        exact ⟨⟨content, t, ht, hcontent⟩, hopen⟩
      · rintro ⟨⟨content, t, ht, hcontent⟩, hopen⟩
        exact ⟨t, ht, (hstep t ht).2 ⟨⟨content, hcontent⟩, hopen⟩⟩

theorem nodup_filesIn {entries : List (String × FileTree)} (hdistinct : (entries.map (·.1)).Nodup)
    (hbelow : ∀ e ∈ entries, e.2.files.Nodup) : (filesIn entries).Nodup := by
  induction entries with
  | nil => simp [filesIn]
  | cons e rest ih =>
    obtain ⟨n, t⟩ := e
    rw [List.map_cons, List.nodup_cons] at hdistinct
    rw [List.forall_mem_cons] at hbelow
    rw [filesIn, List.nodup_append]
    refine ⟨?_, ih hdistinct.2 hbelow.2, ?_⟩
    · split
      · exact List.nodup_nil
      · exact hbelow.1.map fun _ _ h => (List.cons.inj h).2
    · -- What is below other entries starts with other names.
      intro names hnames names' hnames' heq
      subst heq
      split at hnames
      · cases hnames
      · obtain ⟨ns, -, rfl⟩ := List.mem_map.1 hnames
        obtain ⟨s, hs, -⟩ := (mem_filesIn rest n ns).1 hnames'
        exact hdistinct.1 (List.mem_map.2 ⟨(n, s), hs, rfl⟩)

theorem nodup_files {t : FileTree} (h : t.WellFormed) : t.files.Nodup := by
  induction h with
  | file content => simp [files]
  | directory _ hdistinct _ ih =>
    rw [files]
    exact nodup_filesIn hdistinct ih

theorem names_of_below? {t found : FileTree} {names : List String} (h : t.WellFormed)
    (hfound : t.below? names = some found) : ∀ n ∈ names, Path.isName n = true := by
  induction names generalizing t with
  | nil => simp
  | cons n ns ih =>
    cases h with
    | file content => cases hfound
    | directory hnames hdistinct hbelow =>
      obtain ⟨t, hlookup, hfound⟩ := Option.bind_eq_some_iff.1 hfound
      have hmem := (Entries.lookup_eq_some_iff hdistinct).1 hlookup
      rw [List.forall_mem_cons]
      exact ⟨hnames _ hmem, ih (hbelow _ hmem) hfound⟩

theorem follow_cons {up : List FileTree} {t found : FileTree} {c : String} {cs : List String}
    (h : t.follow up (c :: cs) = .ok found) : ∃ (up' : List FileTree) (t' : FileTree),
      (∀ rest, t.follow up (c :: rest) = t'.follow up' rest) ∧
      (t.WellFormed → (∀ d ∈ up, d.WellFormed) → t'.WellFormed ∧ ∀ d ∈ up', d.WellFormed) := by
  cases t with
  | file content => cases h
  | directory entries =>
    by_cases hdot : (c == ".") = true
    · exact ⟨up, directory entries, fun rest => by simp [follow, hdot], fun ht hup => ⟨ht, hup⟩⟩
    by_cases hparent : (c == "..") = true
    · cases up with
      | nil =>
        exact ⟨[], directory entries, fun rest => by simp [follow, hdot, hparent],
          fun ht hup => ⟨ht, hup⟩⟩
      | cons above up =>
        refine ⟨up, above, fun rest => by simp [follow, hdot, hparent], fun _ hup => ?_⟩
        exact List.forall_mem_cons.1 hup
    cases hchild : entries.lookup c with
    | none => simp [follow, hdot, hparent, hchild] at h
    | some child =>
      refine ⟨directory entries :: up, child,
        fun rest => by simp [follow, hdot, hparent, hchild], fun ht hup => ?_⟩
      refine ⟨?_, List.forall_mem_cons.2 ⟨ht, hup⟩⟩
      cases ht with
      | directory _ hdistinct hbelow =>
        exact hbelow _ ((Entries.lookup_eq_some_iff hdistinct).1 hchild)

theorem follow_append {up : List FileTree} {t found : FileTree} {cs : List String}
    (h : t.follow up cs = .ok found) :
    ∃ up', ∀ names, t.follow up (cs ++ names) = found.follow up' names := by
  induction cs generalizing up t with
  | nil =>
    cases h
    exact ⟨up, fun names => rfl⟩
  | cons c cs ih =>
    obtain ⟨up', t', hstep, -⟩ := follow_cons h
    rw [hstep] at h
    obtain ⟨up'', hrest⟩ := ih h
    refine ⟨up'', fun names => ?_⟩
    rw [List.cons_append, hstep, hrest]

theorem wellFormed_of_follow {up : List FileTree} {t found : FileTree} {cs : List String}
    (ht : t.WellFormed) (hup : ∀ d ∈ up, d.WellFormed) (h : t.follow up cs = .ok found) :
    found.WellFormed := by
  induction cs generalizing up t with
  | nil =>
    cases h
    exact ht
  | cons c cs ih =>
    obtain ⟨up', t', hstep, hkeep⟩ := follow_cons h
    rw [hstep] at h
    obtain ⟨ht', hup'⟩ := hkeep ht hup
    exact ih ht' hup' h

theorem follow_names {names : List String} (h : ∀ n ∈ names, Path.isName n = true)
    (up : List FileTree) (t found : FileTree) :
    t.follow up names = .ok found ↔ t.below? names = some found := by
  induction names generalizing up t with
  | nil => simp [follow, below?_nil]
  | cons n ns ih =>
    rw [List.forall_mem_cons] at h
    obtain ⟨hdot, hparent⟩ : (n == ".") = false ∧ (n == "..") = false := by
      simp_all [Path.isName]
    cases t with
    | file content => simp [follow, below?]
    | directory entries =>
      cases hchild : entries.lookup n with
      | none => simp [follow, below?, hdot, hparent, hchild]
      | some child => simpa [follow, below?, hdot, hparent, hchild] using ih h.2 _ child

end FileTree

namespace FileSystem

theorem fromRoot_append (fs : FileSystem) {cs : List String} (h : cs ≠ []) (names : List String) :
    fs.fromRoot (cs ++ names) = fs.fromRoot cs ++ names := by
  obtain ⟨c, cs, rfl⟩ := List.exists_cons_of_ne_nil h
  by_cases hc : c = "/" <;> simp [fromRoot, hc]

theorem open?_eq (fs : FileSystem) {p : String} (h : Path.components p ≠ []) :
    fs.open? p = (fs.root.follow [] (fs.fromRoot (Path.components p))).bind fun found =>
      if !found.isDirectory && (Text.endsWith p "/" || Text.endsWith p "/.") then
        .error .notDirectory
      else .ok found := by
  unfold open?
  split
  · contradiction
  · cases fs.root.follow [] (fs.fromRoot (Path.components p)) <;> rfl

/-- An absolute path leads to the same place from every directory. -/
theorem open?_absolute (fs : FileSystem) {p : String} (h : Text.startsWith p "/" = true) :
    fs.open? p = (fs.root : FileSystem).open? p := by
  have hcomponents : Path.components p = "/" :: (Text.split '/' p).filter Path.counts := by
    rw [Path.components_eq, h]
    rfl
  have hne : Path.components p ≠ [] := hcomponents ▸ List.cons_ne_nil _ _
  rw [open?_eq fs hne, open?_eq _ hne, hcomponents]
  rfl

/-- Any other path is followed from the current directory, with the directories above it still in reach. -/
theorem open?_relative {fs : FileSystem} {here : FileTree} (hhere : fs.root.follow [] fs.current = .ok here) :
    ∃ up, ∀ p, Text.startsWith p "/" = false → Path.components p ≠ [] →
      fs.open? p = (here.follow up (Path.components p)).bind fun found =>
        if !found.isDirectory && (Text.endsWith p "/" || Text.endsWith p "/.") then
          .error .notDirectory
        else .ok found := by
  obtain ⟨up, hup⟩ := FileTree.follow_append hhere
  refine ⟨up, fun p hrelative hne => ?_⟩
  have hfrom : fs.fromRoot (Path.components p) = fs.current ++ Path.components p := by
    have hslash := Path.slash_not_mem_components hrelative
    unfold fromRoot
    split
    · rename_i heq
      exact absurd (heq ▸ List.mem_cons_self) hslash
    · rfl
  rw [open?_eq fs hne, hfrom, hup]

theorem read?_eq_ok (fs : FileSystem) (p : String) (content : Text.Source) :
    fs.read? p = .ok content ↔ fs.open? p = .ok (.file content) := by
  unfold read?
  split <;> simp_all

section Open

variable {fs : FileSystem} {tree : FileTree} {root : String} (h : fs.open? root = .ok tree)
include h

theorem components_of_open? : Path.components root ≠ [] := by
  intro hnil
  rw [open?, hnil] at h
  cases h

theorem follow_of_open? : fs.root.follow [] (fs.fromRoot (Path.components root)) = .ok tree := by
  rw [open?_eq fs (components_of_open? h)] at h
  cases hfollow : fs.root.follow [] (fs.fromRoot (Path.components root)) with
  | error e =>
    rw [hfollow] at h
    cases h
  | ok found =>
    rw [hfollow] at h
    change (if _ then _ else _) = _ at h
    split at h
    · cases h
    · exact h

theorem wellFormed_of_open? (hfs : fs.root.WellFormed) : tree.WellFormed :=
  FileTree.wellFormed_of_follow hfs (by simp) (follow_of_open? h)

theorem open?_join {names : List String} (hnames : ∀ n ∈ names, Path.isName n = true)
    (found : FileTree) :
    fs.open? (Path.join root names) = .ok found ↔ tree.below? names = some found := by
  by_cases hne : names = []
  · simp [hne, Path.join, h, FileTree.below?_nil]
  have hroot := components_of_open? h
  have hcomponents := Path.components_join hroot hnames
  have hjoined : Path.components (Path.join root names) ≠ [] := by
    rw [hcomponents]
    exact List.append_ne_nil_of_left_ne_nil hroot names
  obtain ⟨hslash, hdot⟩ := @Path.not_endsWith_join root _ hnames hne
  obtain ⟨up, hup⟩ := FileTree.follow_append (follow_of_open? h)
  rw [open?_eq fs hjoined, hcomponents, fromRoot_append fs hroot, hup,
    ← FileTree.follow_names hnames up tree found, hslash, hdot]
  cases tree.follow up names <;> simp [Except.bind]

end Open

end FileSystem

theorem Config.exists_exclusions {patterns : List String}
    (h : ∀ p ∈ patterns, ∃ g, Glob.parse p = .ok g) : ∃ globs, exclusions patterns = .ok globs ∧
      ∀ g, g ∈ globs ↔ ∃ p ∈ patterns, Glob.parse p = .ok g := by
  induction patterns with
  | nil => exact ⟨[], rfl, by simp⟩
  | cons p patterns ih =>
    rw [List.forall_mem_cons] at h
    obtain ⟨⟨g, hg⟩, hrest⟩ := h
    obtain ⟨globs, hglobs, hmem⟩ := ih hrest
    refine ⟨g :: globs, ?_, ?_⟩
    · rw [exclusions, hg, hglobs]
      rfl
    · intro g'
      rw [List.mem_cons, hmem, List.exists_mem_cons_iff, hg, Except.ok.injEq, eq_comm]

namespace Loader

/-- A file at or below the root that the loader asks for, where `excluded` says which to leave out. -/
structure Selects (l : Loader) (fs : FileSystem) (excluded : String → Prop) (names : List String)
    (p : String) : Prop where
  named : ∀ n ∈ names, Path.isName n = true
  path : p = Path.join l.root names
  regular : ∃ content, fs.read? p = .ok content
  extension : Path.extension? p = some "java"
  entered : ∀ d ∈ names.dropLast, Text.startsWith d "." = false ∧ d ∉ FileTree.toolDirectories
  kept : ¬ excluded (Path.relativeTo l.root p)
  wanted : l.includeTests = true ∨ Path.isTestSource (Path.relativeTo l.root p) = false

/-- Paths, each once and in the order of its components, of what a loader selects. -/
structure Collects (l : Loader) (fs : FileSystem) (excluded : String → Prop)
    (result : List String × List AnalysisError) : Prop where
  noErrors : result.2 = []
  ascending : result.1.Pairwise fun p q => Path.components p < Path.components q
  exact : ∀ p, p ∈ result.1 ↔ ∃ names, l.Selects fs excluded names p

theorem Collects.congr {l : Loader} {fs : FileSystem} {excluded excluded' : String → Prop}
    {result : List String × List AnalysisError} (h : l.Collects fs excluded result)
    (hexcluded : ∀ p, excluded p ↔ excluded' p) : l.Collects fs excluded' result := by
  have heq : excluded = excluded' := funext fun p => propext (hexcluded p)
  exact heq ▸ h

section Walk

variable {l : Loader} {fs : FileSystem} {tree : FileTree} (hfs : fs.root.WellFormed)
  (hroot : fs.open? l.root = .ok tree) (excluded : String → Bool)

include hroot in
theorem takes_iff {names : List String} (hnames : ∀ n ∈ names, Path.isName n = true) :
    l.takes excluded names = true ↔ Path.extension? (Path.join l.root names) = some "java" ∧
      ¬ excluded (Path.relativeTo l.root (Path.join l.root names)) = true ∧
      (l.includeTests = true ∨
        Path.isTestSource (Path.relativeTo l.root (Path.join l.root names)) = false) := by
  have hextensions : registeredExtensions = ["java"] := rfl
  rw [Path.relativeTo_join (FileSystem.components_of_open? hroot) hnames, takes, hextensions]
  simp only [Bool.and_eq_true, Bool.or_eq_true, Bool.not_eq_true', Bool.not_eq_true,
    Option.any_eq_true, List.contains_iff_mem, List.mem_singleton, exists_eq_right, and_assoc]

include hfs hroot in
theorem mem_collect (p : String) :
    p ∈ l.collect excluded tree ↔ ∃ names, l.Selects fs (excluded · = true) names p := by
  have htree := FileSystem.wellFormed_of_open? hroot hfs
  simp only [collect, List.mem_map, List.mem_mergeSort, List.mem_filter, FileTree.mem_files htree]
  constructor
  · rintro ⟨names, ⟨⟨⟨content, hcontent⟩, hentered⟩, htakes⟩, rfl⟩
    have hnames := FileTree.names_of_below? htree hcontent
    have hregular := (FileSystem.open?_join hroot hnames _).2 hcontent
    obtain ⟨hextension, hkept, hwanted⟩ := (takes_iff hroot excluded hnames).1 htakes
    refine ⟨names, hnames, rfl, ⟨content, (fs.read?_eq_ok _ _).2 hregular⟩, hextension, ?_, hkept,
      hwanted⟩
    intro d hd
    simpa [FileTree.isSkipped] using hentered d hd
  · rintro ⟨names, hnames, rfl, ⟨content, hcontent⟩, hextension, hentered, hkept, hwanted⟩
    have hbelow := (FileSystem.open?_join hroot hnames _).1 ((fs.read?_eq_ok _ _).1 hcontent)
    have htakes := (takes_iff hroot excluded hnames).2 ⟨hextension, hkept, hwanted⟩
    refine ⟨names, ⟨⟨⟨content, hbelow⟩, ?_⟩, htakes⟩, rfl⟩
    intro d hd
    simpa [FileTree.isSkipped] using hentered d hd

include hfs hroot in
theorem pairwise_collect :
    (l.collect excluded tree).Pairwise fun p q => Path.components p < Path.components q := by
  have htree := FileSystem.wellFormed_of_open? hroot hfs
  have hcomponents : ∀ names ∈ (tree.files.filter (l.takes excluded)).mergeSort Path.notAfter,
      Path.components (Path.join l.root names) = Path.components l.root ++ names := by
    intro names hmem
    rw [List.mem_mergeSort, List.mem_filter, FileTree.mem_files htree] at hmem
    obtain ⟨⟨⟨content, hcontent⟩, -⟩, -⟩ := hmem
    exact Path.components_join (FileSystem.components_of_open? hroot)
      (FileTree.names_of_below? htree hcontent)
  have hsorted := List.pairwise_mergeSort Path.notAfter_trans Path.notAfter_total
    (tree.files.filter (l.takes excluded))
  have hnodup : ((tree.files.filter (l.takes excluded)).mergeSort Path.notAfter).Nodup :=
    (List.mergeSort_perm _ _).nodup_iff.2 ((FileTree.nodup_files htree).filter _)
  rw [collect, List.pairwise_map]
  refine (hsorted.and hnodup).imp_of_mem ?_
  intro names names' hmem hmem' ⟨hle, hne⟩
  rw [hcomponents names hmem, hcomponents names' hmem']
  exact List.append_left_lt (((Path.notAfter_iff names names').1 hle).resolve_left hne)

include hfs hroot in
theorem collects_collectFrom : l.Collects fs (excluded · = true) (l.collectFrom excluded fs) := by
  rw [collectFrom, hroot]
  exact ⟨rfl, pairwise_collect hfs hroot excluded, mem_collect hfs hroot excluded⟩

end Walk

/-- Below a root that exists, a loader collects what it selects, whatever says which files to leave out; with
patterns that can be read, these are the files that one of them matches. -/
theorem collectFiles_exact {l : Loader} {fs : FileSystem} {tree : FileTree}
    (hfs : fs.root.WellFormed) (hroot : fs.open? l.root = .ok tree) :
    (∀ excluded : String → Bool,
      l.Collects fs (fun p => excluded p = true) (l.collectFrom excluded fs)) ∧
    ((∀ pattern ∈ l.excludedPaths, ∃ g, Glob.parse pattern = .ok g) →
      l.Collects fs
        (fun p => ∃ pattern ∈ l.excludedPaths, ∃ g, Glob.parse pattern = .ok g ∧ g.matches p = true)
        (l.collectFiles fs)) := by
  refine ⟨collects_collectFrom hfs hroot, fun hpatterns => ?_⟩
  obtain ⟨globs, hglobs, hmem⟩ := Config.exists_exclusions hpatterns
  rw [collectFiles, hglobs]
  refine (collects_collectFrom hfs hroot _).congr fun p => ?_
  rw [List.any_eq_true]
  constructor
  · rintro ⟨g, hg, hmatch⟩
    obtain ⟨pattern, hpattern, hparse⟩ := (hmem g).1 hg
    exact ⟨pattern, hpattern, g, hparse, hmatch⟩
  · rintro ⟨pattern, hpattern, g, hparse, hmatch⟩
    exact ⟨g, (hmem g).2 ⟨pattern, hpattern, hparse⟩, hmatch⟩

namespace Sample

def sheet : FileTree := .file (.ofString "")

def sources : FileTree := .directory
  [("Order.java", sheet), ("notes.md", sheet), ("gen", .directory [("Stub.java", sheet)])]

def shop : FileTree := .directory
  [("src", sources), (".cache", .directory [("Old.java", sheet)]), (".Draft.java", sheet)]

def disk : FileSystem where
  root := .directory [("home", .directory [("shop", shop), ("tools", .directory [])])]
  current := ["home", "tools"]

def loader (root : String) : Loader where
  root := root
  excludedPaths := ["**/gen/**"]

def generated : Glob := ⟨[.anyFront, .literal 'g', .literal 'e', .literal 'n', .anyBelow]⟩

theorem wellFormed_sheet : sheet.WellFormed := .file _

theorem wellFormed_folder {n : String} {t : FileTree} (h : Path.isName n = true)
    (ht : t.WellFormed) : (FileTree.directory [(n, t)]).WellFormed :=
  .directory (List.forall_mem_singleton.2 h) (List.nodup_singleton n)
    (List.forall_mem_singleton.2 ht)

theorem wellFormed_sources : sources.WellFormed := by
  refine .directory (by decide) (by decide) ?_
  simp only [List.forall_mem_cons]
  exact ⟨wellFormed_sheet, wellFormed_sheet, wellFormed_folder (by decide) wellFormed_sheet, by simp⟩

theorem wellFormed_shop : shop.WellFormed := by
  refine .directory (by decide) (by decide) ?_
  simp only [List.forall_mem_cons]
  exact ⟨wellFormed_sources, wellFormed_folder (by decide) wellFormed_sheet, wellFormed_sheet, by simp⟩

theorem wellFormed_disk : disk.root.WellFormed := by
  refine wellFormed_folder (by decide) (.directory (by decide) (by decide) ?_)
  simp only [List.forall_mem_cons]
  exact ⟨wellFormed_shop, .directory (by simp) (by simp) (by simp), by simp⟩

theorem parse_generated : Glob.parse "**/gen/**" = .ok generated := by
  simp [Glob.parse, Glob.readParts, Glob.Draft.doubleStar, Glob.Draft.push, Glob.Draft.wholeComponent,
    Glob.Draft.inGroup, generated]

theorem exists_parse (root : String) :
    ∀ pattern ∈ (loader root).excludedPaths, ∃ g, Glob.parse pattern = .ok g :=
  List.forall_mem_singleton.2 ⟨generated, parse_generated⟩

theorem excluded_iff (root p : String) :
    (∃ pattern ∈ (loader root).excludedPaths, ∃ g, Glob.parse pattern = .ok g ∧ g.matches p = true) ↔
      generated.matches p = true := by
  simp [loader, parse_generated]

theorem order_of_collects {root order stub : String} {result : List String × List AnalysisError}
    (hroot : disk.open? root = .ok shop) (horder : order = Path.join root ["src", "Order.java"])
    (hstub : stub = Path.join root ["src", "gen", "Stub.java"])
    (hextension : Path.extension? order = some "java")
    (h : (loader root).Collects disk (fun p => generated.matches p = true) result) :
    order ∈ result.1 ∧ stub ∉ result.1 := by
  have hbehind {names : List String} (hnames : ∀ n ∈ names, Path.isName n = true) :=
    Path.relativeTo_join (FileSystem.components_of_open? hroot) hnames
  have hnames : ∀ n ∈ ["src", "Order.java"], Path.isName n = true := by decide
  constructor
  · have hsource : Path.relativeTo root order = "src/Order.java" := by
      rw [horder, hbehind hnames]
      decide
    have hkept : generated.matches "src/Order.java" = false := by decide +kernel
    refine (h.exact _).2 ⟨["src", "Order.java"], hnames, horder, ⟨.ofString "", ?_⟩, hextension,
      by decide, ?_, .inr ?_⟩
    · rw [FileSystem.read?_eq_ok, horder]
      exact (FileSystem.open?_join hroot hnames _).2 rfl
    · rw [loader, hsource, hkept]
      exact Bool.false_ne_true
    · rw [loader, hsource]
      decide
  · intro hmem
    obtain ⟨names, hselects⟩ := (h.exact _).1 hmem
    have hsource : Path.relativeTo root stub = "src/gen/Stub.java" := by
      rw [hstub, hbehind (by decide)]
      decide
    have hmatch : generated.matches "src/gen/Stub.java" = true := by decide +kernel
    refine hselects.kept ?_
    rw [loader, hsource, hmatch]

end Sample

/-- A root above the current directory, and the same place by its absolute path: a file in an excluded directory
is not collected, one beside it is. -/
theorem collectFiles_exact_project : Sample.disk.root.WellFormed ∧
    ("../shop/src/Order.java" ∈ ((Sample.loader "../shop/").collectFiles Sample.disk).1 ∧
      "../shop/src/gen/Stub.java" ∉ ((Sample.loader "../shop/").collectFiles Sample.disk).1) ∧
    "/home/shop/src/Order.java" ∈ ((Sample.loader "/home/shop").collectFiles Sample.disk).1 ∧
      "/home/shop/src/gen/Stub.java" ∉ ((Sample.loader "/home/shop").collectFiles Sample.disk).1 := by
  have habove := (collectFiles_exact (l := Sample.loader "../shop/") Sample.wellFormed_disk rfl).2
    (Sample.exists_parse _)
  have habsolute := (collectFiles_exact (l := Sample.loader "/home/shop") Sample.wellFormed_disk rfl).2
    (Sample.exists_parse _)
  refine ⟨Sample.wellFormed_disk, ?_, ?_⟩
  · exact Sample.order_of_collects rfl (by decide) (by decide) (by decide)
      (habove.congr (Sample.excluded_iff _))
  · exact Sample.order_of_collects rfl (by decide) (by decide) (by decide)
      (habsolute.congr (Sample.excluded_iff _))

end Loader

end JavaMetrics
