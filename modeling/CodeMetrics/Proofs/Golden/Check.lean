import CodeMetrics.Golden.Directory
import CodeMetrics.Proofs.Cst.Conversion
import CodeMetrics.Proofs.FileTree
import CodeMetrics.Proofs.Golden.Suite

/-!
# Checks of directories

A check of a directory of fixtures loads what can be read and compares it by identifier. A source is
*verified* (`FixtureFile.Verified`) if it can be read and analysed and the report stored for it is the
one it gives. The identifier of a source is its name without the extension, so sources that differ in
nothing else share one; of these the last one that can be read stands for all of them
(`FixtureFile.Decides`), and the check says nothing about the others.
-/

namespace CodeMetrics

/-! ### The empty source -/

/-- The document of the empty text. -/
def Document.ofEmpty (language : Language) : Document where
  language
  root := ⟨.translationUnit, ⟨0, 0, 1, 1⟩, none, none, []⟩
  lines := ⟨[], []⟩

/-- The model of the empty text. -/
def StructuralModel.ofEmpty (language : Language) : StructuralModel := ⟨language, [], ⟨0, 0, 0⟩, []⟩

theorem Cst.ofSyntax_ofEmpty (language : Language) :
    Cst.ofSyntax (.ofLanguage language) [] .ofEmpty = ((Document.ofEmpty language).root, []) := by
  obtain ⟨hroot, hcomments⟩ := Cst.ofSyntax_eq (.ofLanguage language) [] .ofEmpty
  have hnone : SyntaxTree.ofEmpty.commentSpans (.ofLanguage language) = [] := by
    cases language <;> decide +kernel
  have himage :
      Cst.image (.ofLanguage language) [] none .ofEmpty = (Document.ofEmpty language).root := by
    cases language <;> with_unfolding_all rfl
  rw [hnone] at hcomments
  exact Prod.ext (hroot.trans himage) hcomments.eq_nil

theorem Document.parse_empty (language : Language) :
    Document.parse language "" = .ok (.ofEmpty language) := by
  have htree : Document.ofTree language "" .ofEmpty = .ok (.ofEmpty language) := by
    have herror : SyntaxTree.ofEmpty.hasError = false := rfl
    have hchars : "".toList = [] := rfl
    simp only [Document.ofTree, herror, hchars, Cst.ofSyntax_ofEmpty, Bool.false_eq_true, if_false]
    rfl
  exact htree

theorem analyze_empty (config : Config) (language : Language) :
    analyze config language "" = .ok ((StructuralModel.ofEmpty language).report config) := by
  have hmodel : StructuralModel.ofDocument (.ofEmpty language) = .ok (.ofEmpty language) := by
    with_unfolding_all rfl
  simp only [analyze, Document.parse_empty, Document.analyze, hmodel]

/-! ### Fixtures -/

/-- A fixture passes if its stored report is the one that its source gives. -/
theorem Fixture.compare_eq_same_iff {config : Config} {f : Fixture} :
    f.compare config = .ok .same ↔
      ∃ r, analyze config f.language f.source = .ok r ∧ Report.ofText? f.expected = some r := by
  unfold Fixture.compare
  cases analyze config f.language f.source with
  | error e => simp
  | ok actual =>
    cases Report.ofText? f.expected with
    | none => simp
    | some expected =>
      by_cases h : expected = actual
      · simp [Comparison.ofReports_eq, h]
      · simp [Comparison.ofReports_eq, h]

namespace FixtureFile

variable {tree : FileTree} {config : Config} {f : FixtureFile} {files : List FixtureFile}

/-- **A source whose stored report is right**: both can be read, the source can be analysed, and the
report it gives is the stored one. -/
def Verified (config : Config) (tree : FileTree) (f : FixtureFile) : Prop :=
  ∃ source text r, tree.read f.sourcePath = .ok source ∧ tree.read f.goldenPath = .ok text ∧
    analyze config f.language source = .ok r ∧ Report.ofText? text = some r

theorem load?_eq_some_iff {x : Fixture} :
    f.load? tree = some x ↔ x.id = f.id ∧ x.language = f.language ∧
      tree.read f.sourcePath = .ok x.source ∧ tree.read f.goldenPath = .ok x.expected := by
  unfold load?
  cases hg : f.hasGolden tree with
  | false =>
    have hread : ∀ s, tree.read f.goldenPath ≠ .ok s := fun s hs => by
      simp [hasGolden, FileTree.isFile_of_read hs] at hg
    simp [hread]
  | true =>
    cases tree.read f.sourcePath <;> cases tree.read f.goldenPath <;> cases x <;> simp [eq_comm]

/-- **The source that decides about its identifier**: it can be loaded, and none that comes later and
has the same identifier can. -/
def Decides (tree : FileTree) (files : List FixtureFile) (f : FixtureFile) : Prop :=
  ∃ before after, files = before ++ f :: after ∧ (f.load? tree).isSome ∧
    ∀ g ∈ after, g.id = f.id → g.load? tree = none

theorem decides_concat {g : FixtureFile} :
    Decides tree (files ++ [g]) f ↔ f = g ∧ (g.load? tree).isSome ∨
      Decides tree files f ∧ (g.id = f.id → g.load? tree = none) := by
  constructor
  · rintro ⟨before, after, heq, hload, hlater⟩
    rcases List.eq_nil_or_concat after with rfl | ⟨after, last, rfl⟩
    · obtain ⟨-, hg⟩ := List.append_inj' heq rfl
      obtain rfl : g = f := by simpa using hg
      exact Or.inl ⟨rfl, hload⟩
    · have heq : files ++ [g] = (before ++ f :: after) ++ [last] := by simpa using heq
      obtain ⟨hfiles, hg⟩ := List.append_inj' heq rfl
      obtain rfl : g = last := by simpa using hg
      exact Or.inr ⟨⟨before, after, hfiles, hload, fun k hk => hlater k (by simp [hk])⟩,
        hlater g (by simp)⟩
  · rintro (⟨rfl, hload⟩ | ⟨⟨before, after, rfl, hload, hlater⟩, hg⟩)
    · exact ⟨files, [], rfl, hload, by simp⟩
    · refine ⟨before, after ++ [g], by simp, hload, fun k hk => ?_⟩
      rcases List.mem_append.1 hk with hk | hk
      · exact hlater k hk
      · obtain rfl := List.mem_singleton.1 hk
        exact hg

/-- What is loaded under an identifier comes from the source that decides about it. -/
theorem get?_loadFixtures {id : String} {x : Fixture} :
    (tree.loadFixtures files).get? id = some x ↔
      ∃ f, Decides tree files f ∧ f.id = id ∧ f.load? tree = some x := by
  induction files using List.reverseRecOn with
  | nil => simp [FileTree.loadFixtures, Decides]
  | append_singleton files g ih =>
    cases hg : g.load? tree with
    | none =>
      have hsame : tree.loadFixtures (files ++ [g]) = tree.loadFixtures files := by
        simp [FileTree.loadFixtures, hg]
      rw [hsame, ih]
      simp [decides_concat, hg]
    | some y =>
      have hadd : tree.loadFixtures (files ++ [g]) = (tree.loadFixtures files).add y := by
        simp [FileTree.loadFixtures, hg]
      obtain ⟨hy, -⟩ := load?_eq_some_iff.1 hg
      rw [hadd, FixtureStore.add, Keyed.get?_insert, hy]
      by_cases hid : id = g.id
      · -- the last source has the identifier, so it decides
        rw [if_pos hid]
        constructor
        · intro hxy
          exact ⟨g, decides_concat.2 (Or.inl ⟨rfl, by simp [hg]⟩), hid.symm, hg.trans hxy⟩
        · rintro ⟨f, hf, hfid, hload⟩
          rcases decides_concat.1 hf with ⟨rfl, -⟩ | ⟨-, hlater⟩
          · exact hg.symm.trans hload
          · have := hlater (hid.symm.trans hfid.symm)
            rw [hg] at this
            cases this
      · rw [if_neg hid, ih]
        constructor
        · rintro ⟨f, hf, rfl, hload⟩
          exact ⟨f, decides_concat.2 (Or.inr ⟨hf, fun h => absurd h.symm hid⟩), rfl, hload⟩
        · rintro ⟨f, hf, rfl, hload⟩
          rcases decides_concat.1 hf with ⟨rfl, -⟩ | ⟨hf, -⟩
          · exact absurd rfl hid
          · exact ⟨f, hf, rfl, hload⟩

theorem Decides.mem (h : Decides tree files f) : f ∈ files := by
  obtain ⟨before, after, rfl, -⟩ := h
  simp

/-- With distinct identifiers every source that can be loaded decides. -/
theorem decides_of_nodup (hids : (files.map FixtureFile.id).Nodup) (hf : f ∈ files)
    (hload : (f.load? tree).isSome) : Decides tree files f := by
  obtain ⟨before, after, rfl⟩ := List.append_of_mem hf
  refine ⟨before, after, rfl, hload, fun g hg hid => ?_⟩
  rw [List.map_append, List.map_cons, List.nodup_append, List.nodup_cons] at hids
  exact absurd (List.mem_map.2 ⟨g, hg, hid⟩) hids.2.1.1

theorem Verified.isSome_load? (h : f.Verified config tree) : (f.load? tree).isSome := by
  obtain ⟨source, text, -, hs, hg, -⟩ := h
  have hgolden : f.hasGolden tree := FileTree.isFile_of_read hg
  simp [load?, hgolden, hs, hg]

/-- A loaded fixture passes if the source it comes from is verified. -/
theorem compare_eq_same_iff {x : Fixture} (h : f.load? tree = some x) :
    x.compare config = .ok .same ↔ f.Verified config tree := by
  obtain ⟨-, hl, hs, hg⟩ := load?_eq_some_iff.1 h
  rw [Fixture.compare_eq_same_iff, hl]
  constructor
  · rintro ⟨r, hr, ht⟩
    exact ⟨x.source, x.expected, r, hs, hg, hr, ht⟩
  · rintro ⟨source, text, r, hs', hg', hr, ht⟩
    rw [hs] at hs'
    rw [hg] at hg'
    cases hs'
    cases hg'
    exact ⟨r, hr, ht⟩

/-- **An identifier passes** if a source decides about it and is verified. -/
theorem compare_loadFixtures_iff {id : String} :
    FixtureStore.compare config (tree.loadFixtures files) id = .ok .same ↔
      ∃ f, Decides tree files f ∧ f.id = id ∧ f.Verified config tree := by
  constructor
  · intro h
    unfold FixtureStore.compare FixtureStore.find at h
    cases hx : (tree.loadFixtures files).get? id with
    | none => simp [hx] at h
    | some x =>
      obtain ⟨f, hf, hid, hload⟩ := get?_loadFixtures.1 hx
      simp only [hx] at h
      exact ⟨f, hf, hid, (compare_eq_same_iff hload).1 h⟩
  · rintro ⟨f, hf, rfl, hv⟩
    obtain ⟨x, hx⟩ := Option.isSome_iff_exists.1 hv.isSome_load?
    have hget := get?_loadFixtures.2 ⟨f, hf, rfl, hx⟩
    simp only [FixtureStore.compare, FixtureStore.find, hget]
    exact (compare_eq_same_iff hx).2 hv

end FixtureFile

/-! ### Sources of a directory -/

namespace FileTree

variable {tree : FileTree} {config : Config} {directory : String} {files : List FixtureFile}

theorem mem_fileNames {place : Place} {name : String} :
    name ∈ tree.fileNames place ↔
      ∃ content, tree.node? (place ++ [name]) = some (.file content) := by
  rw [fileNames, List.mem_filter, mem_entryNames]
  constructor
  · rintro ⟨-, hfile⟩
    rcases hn : tree.node? (place ++ [name]) with _ | ⟨content | _ | _⟩
    case some.file => exact ⟨content, rfl⟩
    all_goals simp [hn, FileNode.isFile] at hfile
  · rintro ⟨content, hn⟩
    exact ⟨⟨_, mem_nodes_of_node? (by simp) hn⟩, by simp [hn, FileNode.isFile]⟩

/-- **The fixtures of a directory** are the files in it with the extension of a source. -/
theorem mem_fixtureFiles (hfiles : tree.fixtureFiles directory = .ok files) (f : FixtureFile) :
    f ∈ files ↔ ∃ place name content, tree.find directory = .ok (place, .directory) ∧
      tree.node? (place ++ [name]) = some (.file content) ∧
      FixtureFile.ofEntry? directory name = some f := by
  unfold fixtureFiles at hfiles
  split at hfiles
  · cases hfiles
  · next place hd =>
    cases hfiles
    simp only [List.mem_mergeSort, List.mem_filterMap, mem_fileNames]
    constructor
    · rintro ⟨name, ⟨content, hn⟩, hf⟩
      exact ⟨place, name, content, hd, hn, hf⟩
    · rintro ⟨p, name, content, hp, hn, hf⟩
      rw [hd] at hp
      cases hp
      exact ⟨name, ⟨content, hn⟩, hf⟩
  · next arrival hother harrival =>
    cases hfiles
    simp only [List.not_mem_nil, false_iff]
    rintro ⟨p, name, content, hp, -⟩
    rw [harrival] at hp
    cases hp
    exact hother p rfl

theorem isSuccess_checkFixtures_iff :
    (tree.checkFixtures config files).isSuccess ↔ ∀ f ∈ files,
      ∃ g, FixtureFile.Decides tree files g ∧ g.id = f.id ∧ g.Verified config tree := by
  rw [checkFixtures, (FixtureStore.reflects_runSuite config _ _).isSuccess_iff]
  simp only [List.mem_reverse, List.forall_mem_map, FixtureFile.compare_loadFixtures_iff]

/-- With distinct identifiers a check succeeds exactly if every source is verified. -/
theorem isSuccess_checkFixtures_iff_of_nodup (hids : (files.map FixtureFile.id).Nodup) :
    (tree.checkFixtures config files).isSuccess ↔ ∀ f ∈ files, f.Verified config tree := by
  rw [isSuccess_checkFixtures_iff]
  refine forall₂_congr fun f hf => ⟨?_, fun hv => ?_⟩
  · rintro ⟨g, hg, hid, hv⟩
    rwa [List.inj_on_of_nodup_map hids hg.mem hf hid] at hv
  · exact ⟨f, FixtureFile.decides_of_nodup hids hf hv.isSome_load?, rfl, hv⟩

/-- **What a check of a directory says.** Its fixtures are the files in the directory with the
extension of a source. In whatever order they are listed, the check succeeds exactly if for each of
them the last source listed with the same identifier that can be read, with a stored report that can
be read, is verified; so if no two sources share an identifier, it succeeds exactly if every source
is verified. -/
theorem check_verifies (config : Config) (hfiles : tree.fixtureFiles directory = .ok files) :
    (∀ f, f ∈ files ↔ ∃ place name content, tree.find directory = .ok (place, .directory) ∧
      tree.node? (place ++ [name]) = some (.file content) ∧
      FixtureFile.ofEntry? directory name = some f) ∧
    ∀ listed : List FixtureFile, listed.Perm files →
      ((tree.checkFixtures config listed).isSuccess ↔ ∀ f ∈ files,
        ∃ g, FixtureFile.Decides tree listed g ∧ g.id = f.id ∧ g.Verified config tree) ∧
      ((files.map FixtureFile.id).Nodup →
        ((tree.checkFixtures config listed).isSuccess ↔ ∀ f ∈ files, f.Verified config tree)) := by
  refine ⟨mem_fixtureFiles hfiles, fun listed hperm => ⟨?_, fun hids => ?_⟩⟩
  · rw [isSuccess_checkFixtures_iff]
    exact forall_congr' fun f => by rw [hperm.mem_iff]
  · rw [isSuccess_checkFixtures_iff_of_nodup ((hperm.map _).nodup_iff.2 hids)]
    exact forall_congr' fun f => by rw [hperm.mem_iff]

/-! ### A small directory -/

/-- A tree with one directory, `d`, and given entries in it. -/
def ofEntries (entries : List (String × FileNode)) : FileTree where
  nodes := (["d"], .directory) :: entries.map fun e => (["d", e.1], e.2)

theorem entryNames_ofEntries {entries : List (String × FileNode)}
    (h : (entries.map Prod.fst).Pairwise (· ≤ ·)) :
    (ofEntries entries).entryNames ["d"] = entries.map Prod.fst := by
  have hnames : ((ofEntries entries).nodes.filterMap fun n => nameIn? ["d"] n.1) =
      entries.map Prod.fst := by
    simp [ofEntries, nameIn?, List.filterMap_map]
  rw [entryNames, hnames]
  exact List.mergeSort_of_pairwise (by simpa using h)

theorem node?_ofEntries (entries : List (String × FileNode)) (name : String) :
    (ofEntries entries).node? ["d", name] = entries.lookup name := by
  have hlookup : (entries.map fun e => (["d", e.1], e.2)).lookup ["d", name] =
      entries.lookup name := by
    induction entries with
    | nil => rfl
    | cons e entries ih =>
      rw [List.map_cons, Keyed.lookup_cons, Keyed.lookup_cons, ih]
      simp
  simpa [node?, ofEntries, Keyed.lookup_cons] using hlookup

theorem find_ofEntries (entries : List (String × FileNode)) :
    (ofEntries entries).find "d" = .ok (["d"], .directory) := by
  have hd : (ofEntries entries).node? ["d"] = some .directory := rfl
  have hsegments : Path.segments "d" = [['d']] := by decide
  refine find_eq_ok_iff.2 ⟨⟨by decide, ?_⟩, hd⟩
  rw [hsegments]
  exact .enter rfl (by decide) hd nofun .done

theorem leadsTo_entry {entries : List (String × FileNode)} (name : String) (hname : Path.IsName name)
    (hl : ∀ target, entries.lookup name ≠ some (.link target)) :
    (ofEntries entries).LeadsTo (Path.join "d" name) ["d", name] :=
  (find_eq_ok_iff.1 (find_ofEntries entries)).1.join rfl hname fun target =>
    (node?_ofEntries entries name).trans_ne (hl target)

theorem find_entry {entries : List (String × FileNode)} (name : String) (hname : Path.IsName name)
    {content : FileContent} (hn : entries.lookup name = some (.file content)) :
    (ofEntries entries).find (Path.join "d" name) = .ok (["d", name], .file content) :=
  find_eq_ok_iff.2 ⟨leadsTo_entry name hname fun target => by simp [hn],
    (node?_ofEntries entries name).trans hn⟩

theorem fixtureFiles_ofEntries {entries : List (String × FileNode)} {files : List FixtureFile}
    (hnames : (entries.map Prod.fst).Pairwise (· ≤ ·))
    (hfiles : ((entries.map Prod.fst).filter fun name =>
      (entries.lookup name).any FileNode.isFile).filterMap (FixtureFile.ofEntry? "d") = files)
    (hids : files.Pairwise fun a b => a.id ≤ b.id) :
    (ofEntries entries).fixtureFiles "d" = .ok files := by
  have hlisted : (ofEntries entries).fileNames ["d"] = (entries.map Prod.fst).filter fun name =>
      (entries.lookup name).any FileNode.isFile := by
    rw [fileNames, entryNames_ofEntries hnames]
    refine List.filter_congr fun name _ => ?_
    exact congrArg _ (node?_ofEntries entries name)
  simp only [fixtureFiles, find_ofEntries, hlisted, hfiles]
  rw [List.mergeSort_of_pairwise (by simpa using hids)]

/-- The stored report of the empty source. -/
def storedEmpty : FileNode := .file (.text ((StructuralModel.ofEmpty .cpp).report {}).canonical)

/-- An empty source with its stored report. -/
def tidyEntries : List (String × FileNode) :=
  [("a.cpp", .file (.text "")), ("a.golden.json", storedEmpty)]

/-- The same, and another source of the same name that cannot be read. -/
def shadowedEntries : List (String × FileNode) :=
  ("a.c", .file (.binary ⟨#[0xff]⟩)) :: tidyEntries

/-- The fixture of the empty source. -/
def fixtureA (language : Language) : FixtureFile where
  id := "a"
  language
  sourcePath := "d/a." ++ language.canonicalExtension
  goldenPath := "d/a.golden.json"

theorem fixtureFiles_tidy : (ofEntries tidyEntries).fixtureFiles "d" = .ok [fixtureA .cpp] :=
  fixtureFiles_ofEntries (by decide) (by decide +kernel) (by decide)

theorem fixtureFiles_shadowed :
    (ofEntries shadowedEntries).fixtureFiles "d" = .ok [fixtureA .c, fixtureA .cpp] :=
  fixtureFiles_ofEntries (by decide) (by decide +kernel) (by decide)

/-- The empty source is verified wherever its stored report is next to it. -/
theorem verified_fixtureA {entries : List (String × FileNode)}
    (hsource : entries.lookup "a.cpp" = some (.file (.text "")))
    (hgolden : entries.lookup "a.golden.json" = some storedEmpty) :
    (fixtureA .cpp).Verified {} (ofEntries entries) := by
  have hs : (ofEntries entries).find (fixtureA .cpp).sourcePath = _ :=
    find_entry "a.cpp" (by decide) hsource
  have hg : (ofEntries entries).find (fixtureA .cpp).goldenPath = _ :=
    find_entry "a.golden.json" (by decide) hgolden
  exact ⟨"", _, _, by rw [read, hs], by rw [read, hg], analyze_empty {} .cpp,
    Report.ofText?_canonical _⟩

/-- The check of a directory with one source succeeds, since the source is verified. -/
theorem check_verifies_tidy :
    (ofEntries tidyEntries).fixtureFiles "d" = .ok [fixtureA .cpp] ∧
      ((ofEntries tidyEntries).checkFixtures {} [fixtureA .cpp]).isSuccess := by
  obtain ⟨-, hchecks⟩ := check_verifies {} fixtureFiles_tidy
  obtain ⟨-, hverified⟩ := hchecks _ (List.Perm.refl _)
  refine ⟨fixtureFiles_tidy, (hverified (by decide)).2 fun f hf => ?_⟩
  obtain rfl := List.mem_singleton.1 hf
  exact verified_fixtureA rfl rfl

/-- **A source may hide behind another one of the same name**: the check succeeds, though the first
source cannot even be read. -/
theorem check_passes_unread_source :
    (ofEntries shadowedEntries).fixtureFiles "d" = .ok [fixtureA .c, fixtureA .cpp] ∧
      ((ofEntries shadowedEntries).checkFixtures {} [fixtureA .c, fixtureA .cpp]).isSuccess ∧
      (ofEntries shadowedEntries).read (fixtureA .c).sourcePath = .error .notText ∧
      ¬(fixtureA .c).Verified {} (ofEntries shadowedEntries) := by
  have hs : (ofEntries shadowedEntries).find (fixtureA .c).sourcePath = _ :=
    find_entry "a.c" (by decide) rfl
  have hread : (ofEntries shadowedEntries).read (fixtureA .c).sourcePath = .error .notText := by
    rw [read, hs]
  have hcpp : (fixtureA .cpp).Verified {} (ofEntries shadowedEntries) := verified_fixtureA rfl rfl
  refine ⟨fixtureFiles_shadowed, isSuccess_checkFixtures_iff.2 fun f hf => ?_, hread, ?_⟩
  · refine ⟨fixtureA .cpp, ⟨[fixtureA .c], [], rfl, hcpp.isSome_load?, by simp⟩, ?_, hcpp⟩
    rcases List.mem_cons.1 hf with rfl | hf
    · rfl
    · rw [List.mem_singleton.1 hf]
  · rintro ⟨source, -, -, hsource, -⟩
    rw [hread] at hsource
    cases hsource

end FileTree

end CodeMetrics
