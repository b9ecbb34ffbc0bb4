import CodeMetrics.Proofs.Golden.Check
import Mathlib.Data.List.Sort

/-!
# Blessed directories

Blessing a directory writes, for each source in it, the report that the source gives. This file shows
that a check of the directory then passes, and that blessing it again changes nothing.

The argument is about where the stored reports are. Writing one changes neither the directories nor
the links of the tree, so every path leads where it did (`FileTree.SameWays`), and what is written is
found again at the places it was written to (`FileTree.Blessed`). No source is overwritten and none
is made, as long as no stored report is a link to the name of a source, be there one of that name or
not (`FileTree.GoldensApart`); the name of a stored report itself is never that of a source
(`FixtureFile.ofEntry?_golden`).
-/

namespace CodeMetrics

open CodeMetrics.Path

/-! ### Names of stored reports -/

namespace FixtureFile

variable {directory name : String} {f : FixtureFile}

/-- The fixture of an entry has the stem of its name as identifier. -/
theorem of_ofEntry? (hd : directory ≠ "") (hn : IsName name)
    (h : ofEntry? directory name = some f) :
    f.id = (splitName name).1 ∧ f.sourcePath = Path.join directory name ∧
      f.goldenPath = Path.join directory (f.id ++ goldenSuffix) := by
  unfold ofEntry? at h
  dsimp only at h
  split at h
  · next language id hl hs =>
    rw [stem?_join hd hn] at hs
    cases hs
    cases h
    exact ⟨rfl, rfl, rfl⟩
  · cases h

/-- The name of a stored report can stand in a directory. -/
theorem isName_golden (hn : IsName name) : IsName ((splitName name).1 ++ goldenSuffix) := by
  have hlist : ((splitName name).1 ++ goldenSuffix).toList =
      (splitName name).1.toList ++ ".golden.json".toList := String.toList_append
  have hlength : ∀ short : String, short.toList.length ≤ 2 →
      (splitName name).1 ++ goldenSuffix ≠ short := by
    rintro short hshort rfl
    rw [hlist, List.length_append] at hshort
    have : ".golden.json".toList.length = 12 := by decide
    omega
  refine ⟨hlength _ (by decide), ?_, hlength _ (by decide), hlength _ (by decide)⟩
  rw [hlist, List.mem_append, not_or]
  exact ⟨fun h => hn.no_slash ((startsWith_splitName name).subset h), by decide⟩

/-- **The name of a stored report is that of no source.** -/
theorem ofEntry?_golden (hd : directory ≠ "") {id : String} (hn : IsName (id ++ goldenSuffix)) :
    ofEntry? directory (id ++ goldenSuffix) = none := by
  have hsplit : splitName (id ++ goldenSuffix) = (id ++ ".golden", some "json") := by
    have hsuffix : id ++ goldenSuffix = id ++ ".golden" ++ "." ++ "json" := by
      rw [String.append_assoc, String.append_assoc]
      rfl
    rw [hsuffix]
    exact splitName_append (by simp) (by decide)
  have hlanguage : Language.ofPath? (Path.join directory (id ++ goldenSuffix)) = none := by
    rw [Language.ofPath?, extension?_join hd hn, hsplit]
    show Language.ofExtension? "json" = none
    decide
  unfold ofEntry?
  simp only [hlanguage]

end FixtureFile

/-! ### One fixture -/

section

variable {config : Config} {tree next : FileTree} {f : FixtureFile}

theorem mapError_eq_ok_iff {ε ε' α : Type} {x : Except ε α} {g : ε → ε'} {a : α} :
    x.mapError g = .ok a ↔ x = .ok a := by
  cases x <;> simp [Except.mapError]

/-- **What blessing one fixture does**: it puts the report on the source where the path of the stored
report leads. -/
theorem FixtureFile.bless_eq_ok_iff :
    f.bless config tree = .ok next ↔ ∃ source r p, tree.read f.sourcePath = .ok source ∧
      analyze config f.language source = .ok r ∧ tree.LeadsTo f.goldenPath p ∧
      tree.node? p ≠ some .directory ∧ next = tree.put p (.file (.text r.canonical)) := by
  constructor
  · intro h
    unfold FixtureFile.bless at h
    split at h
    · cases h
    · next source hs =>
      split at h
      · cases h
      · next golden hg =>
        unfold renderGolden at hg
        split at hg
        · cases hg
        · next r hr =>
          cases hg
          obtain ⟨p, hp, hd, hnext⟩ := FileTree.write_eq_ok_iff.1 (mapError_eq_ok_iff.1 h)
          exact ⟨source, r, p, mapError_eq_ok_iff.1 hs, hr, hp, hd, hnext⟩
  · rintro ⟨source, r, p, hs, hr, hp, hd, rfl⟩
    have hread : tree.readText f.sourcePath = .ok source := mapError_eq_ok_iff.2 hs
    have hgolden : renderGolden config f.id f.language source = .ok r.canonical := by
      rw [renderGolden, hr]
    simp only [FixtureFile.bless, hread, hgolden]
    exact mapError_eq_ok_iff.2 (FileTree.write_eq_ok_iff.2 ⟨p, hp, hd, rfl⟩)

end

namespace FileTree

variable {config : Config} {original tree next after : FileTree} {files : List FixtureFile}

/-- What a path is read to does not change if nothing changes where it leads. -/
theorem SameWays.read_eq_ok_iff (h : SameWays tree next) {path text : String}
    (hnode : ∀ p, tree.LeadsTo path p → next.node? p = tree.node? p) :
    next.read path = .ok text ↔ tree.read path = .ok text := by
  rw [FileTree.read_eq_ok_iff, FileTree.read_eq_ok_iff]
  refine exists_congr fun p => ?_
  rw [h.leadsTo_iff]
  exact and_congr_right fun hp => by rw [hnode p hp]

/-! ### One fixture after the other -/

/-- **Fixtures whose stored reports are apart**, from each other and from the sources. -/
structure Apart (tree : FileTree) (files : List FixtureFile) : Prop where
  sources : ∀ f ∈ files, ∀ g ∈ files, ∀ p,
    tree.LeadsTo f.goldenPath p → ¬tree.LeadsTo g.sourcePath p
  goldens : files.Pairwise fun f g => ∀ p,
    tree.LeadsTo f.goldenPath p → ¬tree.LeadsTo g.goldenPath p

theorem Apart.tail (h : SameWays tree next) {f : FixtureFile} (hapart : Apart tree (f :: files)) :
    Apart next files := by
  refine ⟨fun g hg k hk p => ?_, (List.pairwise_cons.1 hapart.goldens).2.imp fun hgk p => ?_⟩
  · rw [h.leadsTo_iff, h.leadsTo_iff]
    exact hapart.sources g (List.mem_cons_of_mem f hg) k (List.mem_cons_of_mem f hk) p
  · rw [h.leadsTo_iff, h.leadsTo_iff]
    exact hgk p

/-- **A tree after its fixtures are blessed**: it has the ways it had, everything but the stored
reports is as it was, and each stored report is the one that its source gave. -/
structure Blessed (config : Config) (tree after : FileTree) (files : List FixtureFile) : Prop where
  ways : SameWays tree after
  others : ∀ p, (∀ f ∈ files, ¬tree.LeadsTo f.goldenPath p) → after.node? p = tree.node? p
  stored : ∀ f ∈ files, ∃ source r p, tree.read f.sourcePath = .ok source ∧
    analyze config f.language source = .ok r ∧ tree.LeadsTo f.goldenPath p ∧
    after.node? p = some (.file (.text r.canonical))
  distinct : (tree.nodes.map Prod.fst).Nodup → (after.nodes.map Prod.fst).Nodup

theorem Blessed.nil (config : Config) (tree : FileTree) : Blessed config tree tree [] :=
  ⟨⟨rfl, fun _ => rfl⟩, fun _ _ => rfl, by simp, id⟩

/-- Blessing one more fixture before the others. -/
theorem Blessed.cons {f : FixtureFile} {source : String} {r : Report} {p : Place} (hp : p ≠ [])
    (hfree : FileNode.onWay? (tree.node? p) = none) (hsource : tree.read f.sourcePath = .ok source)
    (hr : analyze config f.language source = .ok r) (hgolden : tree.LeadsTo f.goldenPath p)
    (hapart : Apart tree (f :: files))
    (h : Blessed config (tree.put p (.file (.text r.canonical))) after files) :
    Blessed config tree after (f :: files) := by
  have hways := SameWays.put hp hfree (.text r.canonical)
  have hnode : ∀ q, q ≠ p → (tree.put p (.file (.text r.canonical))).node? q = tree.node? q :=
    fun q hq => (node?_put hp _ q).trans (if_neg hq)
  refine ⟨hways.trans h.ways, fun q hq => ?_, fun g hg => ?_,
    fun hd => h.distinct (distinct_put hd p _)⟩
  · have hqp : q ≠ p := by
      rintro rfl
      exact hq f List.mem_cons_self hgolden
    refine (h.others q fun g hg => ?_).trans (hnode q hqp)
    rw [hways.leadsTo_iff]
    exact hq g (List.mem_cons_of_mem f hg)
  · rcases List.mem_cons.1 hg with rfl | hg
    · -- the later fixtures are stored elsewhere
      refine ⟨source, r, p, hsource, hr, hgolden, (h.others p fun k hk => ?_).trans ?_⟩
      · rw [hways.leadsTo_iff]
        exact (List.pairwise_cons.1 hapart.goldens).1 k hk p hgolden
      · rw [node?_put hp, if_pos rfl]
    · obtain ⟨source, r', q, hs, hr', hq, hn⟩ := h.stored g hg
      refine ⟨source, r', q, (hways.read_eq_ok_iff fun k hk => hnode k ?_).1 hs, hr',
        (hways.leadsTo_iff _ q).1 hq, hn⟩
      rintro rfl
      exact hapart.sources f List.mem_cons_self g (List.mem_cons_of_mem f hg) k hgolden hk

/-- **Blessing fixtures one after the other.** -/
theorem blessed_of_blessFiles (hwf : original.WellFormed) (hways : SameWays original tree)
    (hapart : Apart tree files) {paths : List String}
    (h : blessFiles config tree files = (after, .ok paths)) :
    Blessed config tree after files ∧ paths = files.map FixtureFile.goldenPath := by
  induction files generalizing tree after paths with
  | nil =>
    cases h
    exact ⟨.nil config tree, rfl⟩
  | cons f files ih =>
    rw [blessFiles] at h
    split at h
    · cases h
    · next next hbless =>
      split at h
      · next last rest hrest =>
        cases h
        obtain ⟨source, r, p, hsource, hr, hgolden, hd, rfl⟩ := FixtureFile.bless_eq_ok_iff.1 hbless
        -- what may be written to in this tree is what could be at the beginning
        obtain ⟨hp, hfree⟩ := hwf.onWay?_eq_none ((hways.leadsTo_iff _ p).1 hgolden)
          fun h => hd ((hways.directory_iff p).2 h)
        rw [← hways.node] at hfree
        have hput := SameWays.put hp hfree (.text r.canonical)
        obtain ⟨hblessed, rfl⟩ := ih (hways.trans hput) (hapart.tail hput) hrest
        exact ⟨hblessed.cons hp hfree hsource hr hgolden hapart, rfl⟩
      · cases h

/-! ### A directory -/

variable {directory : String} {place : Place}

/-- **Stored reports that are links** lead to no name of a source in the directory, whether there is an
entry of that name or not: writing through a link to a free name makes a source of that name. Nor do
they lead to where another stored report is. -/
structure GoldensApart (tree : FileTree) (directory : String) (place : Place)
    (files : List FixtureFile) : Prop where
  noSource : ∀ f ∈ files, ∀ target,
    tree.node? (place ++ [f.id ++ goldenSuffix]) = some (.link target) →
    ∀ name, tree.LeadsTo f.goldenPath (place ++ [name]) → FixtureFile.ofEntry? directory name = none
  noGolden : ∀ f ∈ files, ∀ target,
    tree.node? (place ++ [f.id ++ goldenSuffix]) = some (.link target) →
    ∀ g ∈ files, g.id ≠ f.id → ∀ p, tree.LeadsTo f.goldenPath p → ¬tree.LeadsTo g.goldenPath p

/-- **A directory of fixtures**, each with an identifier of its own, in a tree that a file system may
have. -/
structure FixtureDirectory (tree : FileTree) (directory : String) (place : Place)
    (files : List FixtureFile) : Prop where
  wellFormed : tree.WellFormed
  find : tree.find directory = .ok (place, .directory)
  listed : tree.fixtureFiles directory = .ok files
  ids : (files.map FixtureFile.id).Nodup
  apart : tree.GoldensApart directory place files

namespace FixtureDirectory

variable {f : FixtureFile}

theorem leadsTo (h : FixtureDirectory tree directory place files) :
    tree.LeadsTo directory place :=
  (find_eq_ok_iff.1 h.find).1

theorem isDirectory (h : FixtureDirectory tree directory place files) :
    tree.node? place = some .directory :=
  (find_eq_ok_iff.1 h.find).2

/-- A fixture is an entry of the directory. -/
theorem exists_entry (h : FixtureDirectory tree directory place files) (hf : f ∈ files) :
    ∃ name, IsName name ∧ FixtureFile.ofEntry? directory name = some f ∧
      tree.LeadsTo f.sourcePath (place ++ [name]) := by
  obtain ⟨q, name, content, hq, hn, hentry⟩ := (mem_fixtureFiles h.listed f).1 hf
  rw [h.find] at hq
  cases hq
  have hname := h.wellFormed.isName hn
  refine ⟨name, hname, hentry, ?_⟩
  rw [(FixtureFile.of_ofEntry? h.leadsTo.1 hname hentry).2.1]
  exact h.leadsTo.join h.isDirectory hname fun target => by simp [hn]

theorem isName_golden (h : FixtureDirectory tree directory place files) (hf : f ∈ files) :
    IsName (f.id ++ goldenSuffix) ∧ f.goldenPath = Path.join directory (f.id ++ goldenSuffix) := by
  obtain ⟨name, hname, hentry, -⟩ := h.exists_entry hf
  obtain ⟨hid, -, hgolden⟩ := FixtureFile.of_ofEntry? h.leadsTo.1 hname hentry
  exact ⟨hid ▸ FixtureFile.isName_golden hname, hgolden⟩

/-- A stored report that is no link is an entry of the directory. -/
theorem leadsTo_golden (h : FixtureDirectory tree directory place files) (hf : f ∈ files)
    (hl : ∀ target, tree.node? (place ++ [f.id ++ goldenSuffix]) ≠ some (.link target)) :
    tree.LeadsTo f.goldenPath (place ++ [f.id ++ goldenSuffix]) := by
  obtain ⟨hname, hgolden⟩ := h.isName_golden hf
  rw [hgolden]
  exact h.leadsTo.join h.isDirectory hname hl

/-- **No stored report is where a source is or may be.** -/
theorem ofEntry?_eq_none (h : FixtureDirectory tree directory place files) (hf : f ∈ files)
    {name : String} (hp : tree.LeadsTo f.goldenPath (place ++ [name])) :
    FixtureFile.ofEntry? directory name = none := by
  by_cases hl : ∃ target, tree.node? (place ++ [f.id ++ goldenSuffix]) = some (.link target)
  · obtain ⟨target, hl⟩ := hl
    exact h.apart.noSource f hf target hl name hp
  · -- no link, so the place is that of the stored report itself
    have hgolden := h.leadsTo_golden hf fun target htarget => hl ⟨target, htarget⟩
    obtain rfl : name = f.id ++ goldenSuffix := by simpa using hp.unique hgolden
    exact FixtureFile.ofEntry?_golden h.leadsTo.1 (h.isName_golden hf).1

/-- No two fixtures are stored in one place. -/
theorem ne_golden (h : FixtureDirectory tree directory place files) (hf : f ∈ files)
    {g : FixtureFile} (hg : g ∈ files) (hne : f.id ≠ g.id) {p : Place}
    (hp : tree.LeadsTo f.goldenPath p) : ¬tree.LeadsTo g.goldenPath p := by
  intro hp'
  by_cases hlf : ∃ target, tree.node? (place ++ [f.id ++ goldenSuffix]) = some (.link target)
  · obtain ⟨target, hl⟩ := hlf
    exact h.apart.noGolden f hf target hl g hg (Ne.symm hne) p hp hp'
  by_cases hlg : ∃ target, tree.node? (place ++ [g.id ++ goldenSuffix]) = some (.link target)
  · obtain ⟨target, hl⟩ := hlg
    exact h.apart.noGolden g hg target hl f hf hne p hp' hp
  · -- neither is a link, so both are entries of the directory, and the names differ
    have hgf := hp.unique (h.leadsTo_golden hf fun target ht => hlf ⟨target, ht⟩)
    have hgg := hp'.unique (h.leadsTo_golden hg fun target ht => hlg ⟨target, ht⟩)
    have heq : f.id ++ goldenSuffix = g.id ++ goldenSuffix := by simpa using hgf.symm.trans hgg
    refine hne (String.toList_injective ?_)
    have := congrArg String.toList heq
    rw [String.toList_append, String.toList_append] at this
    exact List.append_cancel_right this

theorem toApart (h : FixtureDirectory tree directory place files) : Apart tree files := by
  constructor
  · intro f hf g hg p hp hp'
    obtain ⟨name, -, hentry, hsource⟩ := h.exists_entry hg
    obtain rfl := hp'.unique hsource
    rw [h.ofEntry?_eq_none hf hp] at hentry
    cases hentry
  · have hids : files.Pairwise fun f g => f.id ≠ g.id := List.pairwise_map.1 h.ids
    exact hids.imp_of_mem fun hf hg hne p hp => h.ne_golden hf hg hne hp

/-- The identifiers are in increasing order. -/
theorem pairwise_ids (h : FixtureDirectory tree directory place files) :
    (files.map FixtureFile.id).Pairwise (· < ·) := by
  have hsorted : files.Pairwise fun f g => f.id ≤ g.id := by
    have hlisted := h.listed
    simp only [fixtureFiles, h.find, Except.ok.injEq] at hlisted
    rw [← hlisted]
    refine (List.pairwise_mergeSort (fun a b c => ?_) (fun a b => ?_) _).imp fun hab => by
      simpa using hab
    · simpa using le_trans
    · simpa using le_total a.id b.id
  refine ((List.pairwise_map.2 hsorted).and h.ids).imp fun hab => ?_
  exact lt_of_le_of_ne hab.1 hab.2

end FixtureDirectory

/-! ### The directory after it is blessed -/

theorem pairwise_fileNames (h : (tree.nodes.map Prod.fst).Nodup) (p : Place) :
    (tree.fileNames p).Pairwise (· < ·) :=
  (pairwise_entryNames h p).filter _

/-- What is made of the names of a directory depends only on the names that something is made of. -/
theorem filterMap_eq_of_mem_iff {α : Type} {g : String → Option α} {l m : List String}
    (hl : l.Pairwise (· < ·)) (hm : m.Pairwise (· < ·))
    (h : ∀ name, (g name).isSome → (name ∈ l ↔ name ∈ m)) : l.filterMap g = m.filterMap g := by
  have hfilter (k : List String) :
      k.filterMap g = (k.filter fun name => (g name).isSome).filterMap g := by
    rw [List.filterMap_filter]
    refine List.filterMap_congr fun name _ => ?_
    cases g name <;> simp
  rw [hfilter l, hfilter m]
  congr 1
  refine (hl.filter _).eq_of_mem_iff (hm.filter _) fun name => ?_
  rw [List.mem_filter, List.mem_filter]
  exact and_congr_left (h name)

namespace Blessed

variable {f : FixtureFile}

/-- **Every source gives the report that is stored for it.** -/
theorem exists_report (h : Blessed config tree after files) (hapart : Apart tree files)
    (hf : f ∈ files) : ∃ source r, after.read f.sourcePath = .ok source ∧
      analyze config f.language source = .ok r ∧ after.read f.goldenPath = .ok r.canonical := by
  obtain ⟨source, r, p, hs, hr, hp, hn⟩ := h.stored f hf
  refine ⟨source, r, (h.ways.read_eq_ok_iff fun q hq => ?_).2 hs, hr, ?_⟩
  · exact h.others q fun g hg hgq => hapart.sources g hg f hf q hgq hq
  · exact read_eq_ok_iff.2 ⟨p, (h.ways.leadsTo_iff _ p).2 hp, hn⟩

/-- **The directory has the fixtures that it had.** -/
theorem fixtureFiles_eq (h : Blessed config tree after files)
    (hdir : FixtureDirectory tree directory place files) :
    after.fixtureFiles directory = .ok files := by
  have hfind : after.find directory = .ok (place, .directory) :=
    find_eq_ok_iff.2 ⟨(h.ways.leadsTo_iff _ _).2 hdir.leadsTo,
      (h.ways.directory_iff _).2 hdir.isDirectory⟩
  -- new names may have come in, but no name of a source
  have hnames : (after.fileNames place).filterMap (FixtureFile.ofEntry? directory) =
      (tree.fileNames place).filterMap (FixtureFile.ofEntry? directory) := by
    have hdistinct := hdir.wellFormed.distinct
    refine filterMap_eq_of_mem_iff (pairwise_fileNames (h.distinct hdistinct) place)
      (pairwise_fileNames hdistinct place) fun name hname => ?_
    rw [mem_fileNames, mem_fileNames, h.others]
    intro f hf hp
    rw [hdir.ofEntry?_eq_none hf hp] at hname
    cases hname
  have hlisted := hdir.listed
  simp only [fixtureFiles, hdir.find] at hlisted
  simp only [fixtureFiles, hfind, hnames, hlisted]

/-- Blessing a fixture again changes nothing. -/
theorem bless_eq (h : Blessed config tree after files)
    (hdir : FixtureDirectory tree directory place files) (hf : f ∈ files) :
    f.bless config after = .ok after := by
  obtain ⟨source, r, hs, hr, hg⟩ := h.exists_report hdir.toApart hf
  obtain ⟨p, hp, hn⟩ := read_eq_ok_iff.1 hg
  have hnil : p ≠ [] := by
    rintro rfl
    cases hn
  refine FixtureFile.bless_eq_ok_iff.2 ⟨source, r, p, hs, hr, hp, by simp [hn], ?_⟩
  exact (put_eq_self (h.distinct hdir.wellFormed.distinct) hnil hn).symm

end Blessed

theorem blessFiles_eq_self (h : ∀ f ∈ files, f.bless config tree = .ok tree) :
    blessFiles config tree files = (tree, .ok (files.map FixtureFile.goldenPath)) := by
  induction files with
  | nil => rfl
  | cons f files ih =>
    simp only [blessFiles, h f List.mem_cons_self, ih fun g hg => h g (List.mem_cons_of_mem f hg),
      List.map_cons]

/-- **All fixtures pass** if all sources are verified. -/
theorem checkFixtures_of_verified (hids : (files.map FixtureFile.id).Pairwise (· < ·))
    (hv : ∀ f ∈ files, f.Verified config tree) :
    (tree.checkFixtures config files).passed.names = files.map FixtureFile.id ∧
      (tree.checkFixtures config files).failed.names = [] ∧
      (tree.checkFixtures config files).errors.names = [] := by
  have hsame : ∀ id ∈ (files.map FixtureFile.id).reverse,
      FixtureStore.compare config (tree.loadFixtures files) id = .ok .same := by
    simp only [List.mem_reverse, List.forall_mem_map]
    intro f hf
    have hload := (hv f hf).isSome_load?
    exact FixtureFile.compare_loadFixtures_iff.2
      ⟨f, FixtureFile.decides_of_nodup hids.nodup hf hload, rfl, hv f hf⟩
  have hreflects := FixtureStore.reflects_runSuite config (tree.loadFixtures files)
    (files.map FixtureFile.id)
  obtain ⟨hpassed, hfailed, herrors⟩ := hreflects.names_of_forall_same hsame
  refine ⟨?_, hfailed, herrors⟩
  refine hreflects.passed.sorted.pairwise_names.eq_of_mem_iff hids fun id => ?_
  rw [hpassed, List.mem_reverse]

/-- **A blessed directory passes.** Say that a directory has fixtures with distinct identifiers, that
where a stored report is a link it leads neither to the name of a source in the directory, taken or
free, nor to where another one is stored, and that blessing succeeds. Then

* nothing is changed but the stored reports: what is at the name of one, or, if that is a link, where
  it leads;
* the paths given are those of the stored reports, in the order of the identifiers;
* the directory has the same fixtures, and a check finds that all of them pass;
* blessing the directory again changes nothing. -/
theorem bless_then_check (config : Config) (hdir : FixtureDirectory tree directory place files)
    {paths : List String} (hbless : tree.bless config directory = (after, .ok paths)) :
    (∀ p, after.node? p ≠ tree.node? p → ∃ f ∈ files, tree.LeadsTo f.goldenPath p ∧
      (p = place ++ [f.id ++ goldenSuffix] ∨
        ∃ target, tree.node? (place ++ [f.id ++ goldenSuffix]) = some (.link target))) ∧
    (paths = files.map fun f => Path.join directory (f.id ++ goldenSuffix)) ∧
    (files.map FixtureFile.id).Pairwise (· < ·) ∧
    after.fixtureFiles directory = .ok files ∧
    (after.checkFixtures config files).passed.names = files.map FixtureFile.id ∧
    (after.checkFixtures config files).failed.names = [] ∧
    (after.checkFixtures config files).errors.names = [] ∧
    after.bless config directory = (after, .ok paths) := by
  rw [bless, hdir.listed] at hbless
  obtain ⟨h, rfl⟩ := blessed_of_blessFiles hdir.wellFormed ⟨rfl, fun _ => rfl⟩ hdir.toApart hbless
  have hverified : ∀ f ∈ files, f.Verified config after := by
    intro f hf
    obtain ⟨source, r, hs, hr, hg⟩ := h.exists_report hdir.toApart hf
    exact ⟨source, r.canonical, r, hs, hg, hr, Report.ofText?_canonical r⟩
  obtain ⟨hpassed, hfailed, herrors⟩ := checkFixtures_of_verified hdir.pairwise_ids hverified
  refine ⟨fun p hp => ?_, List.map_congr_left fun f hf => (hdir.isName_golden hf).2,
    hdir.pairwise_ids, h.fixtureFiles_eq hdir, hpassed, hfailed, herrors, ?_⟩
  · by_contra hnone
    refine hp (h.others p fun f hf hgolden => hnone ⟨f, hf, hgolden, ?_⟩)
    by_cases hl : ∃ target, tree.node? (place ++ [f.id ++ goldenSuffix]) = some (.link target)
    · exact Or.inr hl
    · exact Or.inl (hgolden.unique (hdir.leadsTo_golden hf fun target ht => hl ⟨target, ht⟩))
  · rw [bless, h.fixtureFiles_eq hdir]
    exact blessFiles_eq_self fun f hf => h.bless_eq hdir hf

/-! ### Small directories -/

theorem wellFormed_ofEntries {entries : List (String × FileNode)}
    (hnames : ∀ e ∈ entries, IsName e.1) (hdistinct : (entries.map Prod.fst).Nodup) :
    (ofEntries entries).WellFormed := by
  have hd : IsName "d" := by decide
  constructor
  · simp only [ofEntries, List.forall_mem_cons, List.forall_mem_map]
    exact ⟨by simpa using hd, fun e he => by simpa using ⟨hd, hnames e he⟩⟩
  · have hmap : (entries.map fun e => ["d", e.1]) =
        (entries.map Prod.fst).map fun name => ["d", name] := by simp
    simp only [ofEntries, List.map_cons, List.map_map, Function.comp_def, List.nodup_cons]
    refine ⟨by simp, ?_⟩
    rw [hmap]
    exact hdistinct.map fun a b h => by simpa using h
  · simp only [ofEntries, List.forall_mem_cons, List.forall_mem_map]
    exact ⟨rfl, fun e _ => rfl⟩
  · rfl

/-- The fixture of a second source. -/
def fixtureB : FixtureFile := ⟨"b", .cpp, "d/b.cpp", "d/b.golden.json"⟩

/-- Where the stored report of the second source is if it is a link to an entry. -/
theorem leadsTo_linked {entries : List (String × FileNode)} (target : String)
    (hname : IsName target) (htarget : isAbsolute target = false)
    (hlink : entries.lookup "b.golden.json" = some (.link target))
    (hl : ∀ other, entries.lookup target ≠ some (.link other)) :
    (ofEntries entries).LeadsTo "d/b.golden.json" ["d", target] := by
  have hpath : segments "d/b.golden.json" = ["d".toList, "b.golden.json".toList] := by decide
  have hsegments : segments target = [target.toList] := Text.splitOn_of_not_mem hname.no_slash
  have hentry : ∀ other, (ofEntries entries).node? ["d", String.ofList target.toList] ≠
      some (.link other) := by
    rw [String.ofList_toList, node?_ofEntries]
    exact hl
  refine ⟨by decide, ?_⟩
  rw [hpath]
  refine .enter (n := .directory) rfl (by decide) rfl nofun ?_
  refine .follow rfl (by decide) ((node?_ofEntries _ _).trans hlink) ?_
  rw [htarget, hsegments]
  have hway : Way (ofEntries entries) 39 ["d"] [target.toList]
      ["d", String.ofList target.toList] := way_name rfl hname.segment_not_mem hentry
  rwa [String.ofList_toList] at hway

/-- Two empty sources. What is stored for the first is no report, and for the second there is a link
to a file that is not there yet. -/
def staleEntries : List (String × FileNode) :=
  [("a.cpp", .file (.text "")), ("a.golden.json", .file (.text "[]")),
    ("b.cpp", .file (.text "")), ("b.golden.json", .link "c.json")]

/-- The same with the reports of the sources. -/
def blessedEntries : List (String × FileNode) :=
  [("a.cpp", .file (.text "")), ("a.golden.json", storedEmpty),
    ("b.cpp", .file (.text "")), ("b.golden.json", .link "c.json"), ("c.json", storedEmpty)]

theorem leadsTo_stale :
    (ofEntries staleEntries).LeadsTo "d/a.golden.json" ["d", "a.golden.json"] ∧
      (ofEntries staleEntries).LeadsTo "d/b.golden.json" ["d", "c.json"] := by
  have hfree : staleEntries.lookup "c.json" = none := rfl
  exact ⟨leadsTo_entry "a.golden.json" (by decide) nofun,
    leadsTo_linked "c.json" (by decide) rfl rfl (by simp [hfree])⟩

theorem fixtureDirectory_stale :
    FixtureDirectory (ofEntries staleEntries) "d" ["d"] [fixtureA .cpp, fixtureB] := by
  obtain ⟨hfirst, hsecond⟩ := leadsTo_stale
  have hno : ∀ target, (ofEntries staleEntries).node? ["d", "a.golden.json"] ≠
      some (.link target) := fun target => (node?_ofEntries _ _).trans_ne nofun
  have hapart : (ofEntries staleEntries).GoldensApart "d" ["d"] [fixtureA .cpp, fixtureB] := by
    constructor
    · rintro f hf target hl name hp
      rcases List.mem_pair.1 hf with rfl | rfl
      · exact absurd hl (hno target)
      · obtain rfl : name = "c.json" := by simpa using hp.unique hsecond
        decide +kernel
    · rintro f hf target hl g hg hne p hp hp'
      rcases List.mem_pair.1 hf with rfl | rfl
      · exact hno target hl
      · rcases List.mem_pair.1 hg with rfl | rfl
        · have hsame := (hp'.unique hfirst).symm.trans (hp.unique hsecond)
          simp at hsame
        · exact hne rfl
  exact ⟨wellFormed_ofEntries (by decide) (by decide), find_ofEntries _,
    fixtureFiles_ofEntries (by decide) (by decide +kernel) (by decide), by decide, hapart⟩

/-- What blessing an empty source in the small directory does. -/
theorem bless_empty {entries : List (String × FileNode)} {f : FixtureFile} {p : Place}
    (name : String) (hname : IsName name) (hpath : f.sourcePath = Path.join "d" name)
    (hsource : entries.lookup name = some (.file (.text "")))
    (hgolden : (ofEntries entries).LeadsTo f.goldenPath p)
    (hp : (ofEntries entries).node? p ≠ some .directory) :
    f.bless {} (ofEntries entries) = .ok ((ofEntries entries).put p
      (.file (.text ((StructuralModel.ofEmpty f.language).report {}).canonical))) := by
  refine FixtureFile.bless_eq_ok_iff.2 ⟨"", _, p, ?_, analyze_empty {} f.language, hgolden, hp, rfl⟩
  rw [hpath, read, find_entry name hname hsource]

/-- Blessing brings the stored reports up to date, also behind the link, and the check passes. -/
theorem bless_then_check_stale :
    (ofEntries staleEntries).bless {} "d" =
        (ofEntries blessedEntries, .ok ["d/a.golden.json", "d/b.golden.json"]) ∧
      ((ofEntries blessedEntries).checkFixtures {} [fixtureA .cpp, fixtureB]).passed.names =
        ["a", "b"] ∧
      (ofEntries blessedEntries).bless {} "d" =
        (ofEntries blessedEntries, .ok ["d/a.golden.json", "d/b.golden.json"]) := by
  let between := staleEntries.set 1 ("a.golden.json", storedEmpty)
  have hfirst : (fixtureA .cpp).bless {} (ofEntries staleEntries) = .ok (ofEntries between) :=
    bless_empty "a.cpp" (by decide) rfl rfl leadsTo_stale.1
      ((node?_ofEntries staleEntries "a.golden.json").trans_ne nofun)
  have hfree : between.lookup "c.json" = none := rfl
  have hsecond : fixtureB.bless {} (ofEntries between) = .ok (ofEntries blessedEntries) :=
    bless_empty "b.cpp" (by decide) rfl rfl
      (leadsTo_linked "c.json" (by decide) rfl rfl (by simp [hfree]))
      ((node?_ofEntries between "c.json").trans_ne (by simp [hfree]))
  have hbless : (ofEntries staleEntries).bless {} "d" =
      (ofEntries blessedEntries, .ok ["d/a.golden.json", "d/b.golden.json"]) := by
    simp only [bless, fixtureDirectory_stale.listed, blessFiles, hfirst, hsecond]
    rfl
  obtain ⟨-, -, -, -, hpassed, -, -, hagain⟩ :=
    bless_then_check {} fixtureDirectory_stale hbless
  exact ⟨hbless, hpassed, hagain⟩

/-- Two empty sources, and a link to the first in place of the stored report of the second. -/
def linkedEntries : List (String × FileNode) :=
  [("a.cpp", .file (.text "")), ("b.cpp", .file (.text "")), ("b.golden.json", .link "a.cpp")]

/-- **A stored report that is a link to a source**: blessing succeeds, and writes over the source. -/
theorem bless_overwrites_linked_source :
    (ofEntries linkedEntries).fixtureFiles "d" = .ok [fixtureA .cpp, fixtureB] ∧
      ∃ after, (ofEntries linkedEntries).bless {} "d" =
          (after, .ok ["d/a.golden.json", "d/b.golden.json"]) ∧
        (ofEntries linkedEntries).read "d/a.cpp" = .ok "" ∧ after.read "d/a.cpp" ≠ .ok "" := by
  have hlisted : (ofEntries linkedEntries).fixtureFiles "d" = .ok [fixtureA .cpp, fixtureB] :=
    fixtureFiles_ofEntries (by decide) (by decide +kernel) (by decide)
  let between := linkedEntries ++ [("a.golden.json", storedEmpty)]
  let after := ("a.cpp", storedEmpty) :: between.tail
  have hfree : linkedEntries.lookup "a.golden.json" = none := rfl
  have hfirst : (fixtureA .cpp).bless {} (ofEntries linkedEntries) = .ok (ofEntries between) :=
    bless_empty "a.cpp" (by decide) rfl rfl
      (leadsTo_entry "a.golden.json" (by decide) fun target => by simp [hfree])
      ((node?_ofEntries linkedEntries "a.golden.json").trans_ne (by simp [hfree]))
  have hsource : between.lookup "a.cpp" = some (.file (.text "")) := rfl
  have hsecond : fixtureB.bless {} (ofEntries between) = .ok (ofEntries after) :=
    bless_empty "b.cpp" (by decide) rfl rfl
      (leadsTo_linked "a.cpp" (by decide) rfl rfl (by simp [hsource]))
      ((node?_ofEntries between "a.cpp").trans_ne (by simp [hsource]))
  refine ⟨hlisted, ofEntries after, ?_, ?_, ?_⟩
  · simp only [bless, hlisted, blessFiles, hfirst, hsecond]
    rfl
  · exact read_eq_ok_iff.2 ⟨_, find_eq_ok_iff.1 (find_entry "a.cpp" (by decide) rfl)⟩
  · -- the empty text is no report
    have hread : (ofEntries after).read "d/a.cpp" = .ok _ :=
      read_eq_ok_iff.2 ⟨_, find_eq_ok_iff.1 (find_entry "a.cpp" (by decide) rfl)⟩
    rw [hread]
    intro hempty
    have hparsed := Report.ofText?_canonical ((StructuralModel.ofEmpty .cpp).report {})
    rw [Except.ok.inj hempty] at hparsed
    cases hparsed

end FileTree

end CodeMetrics
