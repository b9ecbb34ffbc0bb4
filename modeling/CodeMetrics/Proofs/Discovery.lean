import CodeMetrics.Discovery
import CodeMetrics.Proofs.FileTree
import CodeMetrics.Proofs.Path.Order
import Mathlib.Data.List.Induction
import Mathlib.Data.List.Perm.Subperm
import Mathlib.Data.List.Sort

/-!
# Which sources are found

What a user names with a path (`FileTree.OffersAt`) is a file, or the files below a directory with
no hidden name on the way down from it. In a tree without links the walk through a directory finds
exactly these files (`FileTree.mem_filesBelow`): a place is never deeper than the tree has nodes, so
the walk goes deep enough.

Paths that name the same file may overlap. The sources of all paths are sorted, which brings paths
with the same components together, and all but the first of them are dropped; what is left is in
strictly increasing order (`FileTree.pairwise_arrange`) and depends only on which components there
are (`FileTree.map_value_arrange_congr`).
-/

namespace CodeMetrics

open CodeMetrics.Path Std

/-- The path of a source as its components, and its language. -/
def FoundSource.value (s : FoundSource) : List Component × Language :=
  (components s.path, s.language)

namespace FileTree

variable {tree : FileTree}

/-! ### Sorting and dropping -/

/-- Sources in the order of their paths, each path once. -/
def arrange (listed : List FoundSource) : List FoundSource :=
  dropRepeats (listed.mergeSort fun a b => (Path.order a.path b.path).isLE)

theorem discover_eq (tree : FileTree) (paths : List String) :
    tree.discover paths = (tree.sourcesAtAll paths).map arrange := by
  rw [discover]
  split <;> next h => rw [h]; rfl

theorem mem_of_mem_dropRepeats {listed : List FoundSource} {s : FoundSource}
    (h : s ∈ dropRepeats listed) : s ∈ listed := by
  fun_induction dropRepeats listed with
  | case1 => exact h
  | case2 => exact h
  | case3 a b rest _ ih =>
    rcases List.mem_cons.1 (ih h) with rfl | hs
    · exact List.mem_cons_self
    · exact List.mem_cons_of_mem a (List.mem_cons_of_mem b hs)
  | case4 a b rest _ ih =>
    rcases List.mem_cons.1 h with rfl | hs
    · exact List.mem_cons_self
    · exact List.mem_cons_of_mem a (ih hs)

/-- A source is dropped only if another one with the same path stays. -/
theorem exists_mem_dropRepeats {listed : List FoundSource} {s : FoundSource} (h : s ∈ listed) :
    ∃ t ∈ dropRepeats listed, components t.path = components s.path := by
  fun_induction dropRepeats listed generalizing s with
  | case1 => cases h
  | case2 a => exact ⟨s, h, rfl⟩
  | case3 a b rest heq ih =>
    rcases List.mem_cons.1 h with rfl | h
    · exact ih List.mem_cons_self
    · rcases List.mem_cons.1 h with rfl | h
      · obtain ⟨t, ht, hpath⟩ := ih List.mem_cons_self
        exact ⟨t, ht, hpath.trans (order_eq_iff.1 heq)⟩
      · exact ih (List.mem_cons_of_mem a h)
  | case4 a b rest _ ih =>
    rcases List.mem_cons.1 h with rfl | h
    · exact ⟨s, List.mem_cons_self, rfl⟩
    · obtain ⟨t, ht, hpath⟩ := ih h
      exact ⟨t, List.mem_cons_of_mem a ht, hpath⟩

theorem pairwise_dropRepeats {listed : List FoundSource}
    (h : listed.Pairwise fun a b => (Path.order a.path b.path).isLE) :
    (dropRepeats listed).Pairwise fun a b => Path.order a.path b.path = .lt := by
  fun_induction dropRepeats listed with
  | case1 => exact List.Pairwise.nil
  | case2 a => exact List.pairwise_singleton _ a
  | case3 a b rest _ ih => exact ih (h.sublist ((List.sublist_cons_self b rest).cons_cons a))
  | case4 a b rest hne ih =>
    obtain ⟨ha, hrest⟩ := List.pairwise_cons.1 h
    refine List.pairwise_cons.2 ⟨fun t ht => ?_, ih hrest⟩
    have hab : Path.order a.path b.path = .lt := by
      have hle := ha b List.mem_cons_self
      cases hcmp : Path.order a.path b.path <;> simp_all
    -- whatever stays does not come before `b`
    rcases List.mem_cons.1 (mem_of_mem_dropRepeats ht) with rfl | ht
    · exact hab
    · exact TransCmp.lt_of_lt_of_isLE hab ((List.pairwise_cons.1 hrest).1 t ht)

/-- **Found sources are in strictly increasing order.** -/
theorem pairwise_arrange (listed : List FoundSource) :
    (arrange listed).Pairwise fun a b => Path.order a.path b.path = .lt := by
  refine pairwise_dropRepeats (List.pairwise_mergeSort (fun a b c => TransCmp.isLE_trans) ?_ _)
  intro a b
  have hswap : Path.order b.path a.path = (Path.order a.path b.path).swap := OrientedCmp.eq_swap
  rw [hswap]
  cases Path.order a.path b.path <;> rfl

/-- Whether the languages of sources are those of their paths. -/
def Sourced (listed : List FoundSource) : Prop :=
  ∀ s ∈ listed, Language.ofPath? s.path = some s.language

theorem Sourced.mem_map_value_arrange {listed : List FoundSource} (h : Sourced listed)
    (v : List Component × Language) :
    v ∈ (arrange listed).map FoundSource.value ↔ v ∈ listed.map FoundSource.value := by
  have hmem : ∀ s, s ∈ (listed.mergeSort fun a b => (Path.order a.path b.path).isLE) ↔ s ∈ listed :=
    fun s => List.mem_mergeSort
  constructor
  · intro hv
    obtain ⟨s, hs, rfl⟩ := List.mem_map.1 hv
    exact List.mem_map_of_mem ((hmem s).1 (mem_of_mem_dropRepeats hs))
  · intro hv
    obtain ⟨s, hs, rfl⟩ := List.mem_map.1 hv
    obtain ⟨t, ht, hpath⟩ := exists_mem_dropRepeats ((hmem s).2 hs)
    have hlanguage : some t.language = some s.language := by
      rw [← h t ((hmem t).1 (mem_of_mem_dropRepeats ht)), ofPath?_congr hpath, h s hs]
    exact List.mem_map.2 ⟨t, ht, Prod.ext hpath (Option.some.inj hlanguage)⟩

/-- **Only which paths there are matters**, not in which order and how often. -/
theorem map_value_arrange_congr {listed listed' : List FoundSource} (h : Sourced listed)
    (h' : Sourced listed')
    (hmem : ∀ v, v ∈ listed.map FoundSource.value ↔ v ∈ listed'.map FoundSource.value) :
    (arrange listed).map FoundSource.value = (arrange listed').map FoundSource.value := by
  let before (v w : List Component × Language) : Prop := orderComponents v.1 w.1 = .lt
  have hne (v : List Component × Language) : ¬before v v := by
    have hself : orderComponents v.1 v.1 = .eq := ReflCmp.compare_self
    simp [before, hself]
  have hirrefl : Std.Irrefl before := ⟨hne⟩
  have hantisymm : Std.Antisymm before :=
    ⟨fun v w hvw hwv => absurd (TransCmp.lt_trans hvw hwv) (hne v)⟩
  have hsorted (l : List FoundSource) : ((arrange l).map FoundSource.value).Pairwise before :=
    List.pairwise_map.2 (pairwise_arrange l)
  refine (hsorted listed).eq_of_mem_iff (hsorted listed') fun v => ?_
  rw [h.mem_map_value_arrange, h'.mem_map_value_arrange, hmem]

/-! ### Files below a directory -/

/-- A tree without symbolic links. -/
def LinkFree (tree : FileTree) : Prop := ∀ n ∈ tree.nodes, ∀ target, n.2 ≠ .link target

theorem LinkFree.ne_link (h : tree.LinkFree) (place : Place) (target : String) :
    tree.node? place ≠ some (.link target) := by
  intro hn
  cases place with
  | nil => cases hn
  | cons name place => exact h _ (mem_of_lookup hn) target rfl

/-- **A file that a walk from a directory shows**: the names on the way down to it, none of which
begins with a dot. -/
structure ShowsFile (tree : FileTree) (place : Place) (names : List String) : Prop where
  ne_nil : names ≠ []
  shown : ∀ name ∈ names, ∀ rest, name ≠ "." ++ rest
  file : ∃ content, tree.node? (place ++ names) = some (.file content)

/-- Above everything is a directory. -/
theorem WellFormed.directory_of_append (h : tree.WellFormed) {place : Place} {names : List String}
    (hne : names ≠ []) {n : FileNode} (hn : tree.node? (place ++ names) = some n) :
    tree.node? place = some .directory := by
  induction names using List.reverseRecOn generalizing n with
  | nil => exact absurd rfl hne
  | append_singleton names name ih =>
    have hparent := h.parent hn
    rw [← List.append_assoc, List.dropLast_concat] at hparent
    by_cases hnil : names = []
    · rwa [hnil, List.append_nil] at hparent
    · exact ih hnil hparent

/-- No place is deeper than there are nodes. -/
theorem WellFormed.length_le (h : tree.WellFormed) {place : Place} {names : List String}
    {n : FileNode} (hn : tree.node? (place ++ names) = some n) :
    names.length ≤ tree.nodes.length := by
  let above (i : Nat) : Place := place ++ names.take (i + 1)
  have hlength (i : Nat) (hi : i < names.length) :
      (above i).length = place.length + (i + 1) := by
    simp only [above, List.length_append, List.length_take]
    omega
  have hnodup : ((List.range names.length).map above).Nodup := by
    refine List.Nodup.map_on (fun i hi j hj heq => ?_) List.nodup_range
    have hlengths := congrArg List.length heq
    rw [hlength i (List.mem_range.1 hi), hlength j (List.mem_range.1 hj)] at hlengths
    omega
  have hsubset : (List.range names.length).map above ⊆ tree.nodes.map Prod.fst := by
    intro p hp
    obtain ⟨i, hi, rfl⟩ := List.mem_map.1 hp
    have hi := List.mem_range.1 hi
    obtain ⟨m, hm⟩ : ∃ m, tree.node? (above i) = some m := by
      by_cases hlast : names.drop (i + 1) = []
      · have htake := List.take_of_length_le (List.drop_eq_nil_iff.1 hlast)
        exact ⟨n, by simpa only [above, htake] using hn⟩
      · refine ⟨.directory, h.directory_of_append hlast ?_ (n := n)⟩
        rw [List.append_assoc, List.take_append_drop, hn]
    have hne : above i ≠ [] := by
      have := hlength i hi
      exact List.ne_nil_of_length_pos (by omega)
    exact List.mem_map_of_mem (mem_nodes_of_node? hne hm)
  have hle := (List.subperm_of_subset hnodup hsubset).length_le
  simpa using hle

theorem mem_entryNames_of_node? {place : Place} {name : String} {n : FileNode}
    (hn : tree.node? (place ++ [name]) = some n) : name ∈ tree.entryNames place :=
  mem_entryNames.2 ⟨n, mem_nodes_of_node? (by simp) hn⟩

/-- **The files that a walk finds** below a directory, if it goes deep enough. -/
theorem mem_filesBelow (h : tree.WellFormed) (hlinks : tree.LinkFree) {depth : Nat}
    {entered : List Place} {path : String} {place : Place} {q : String} :
    q ∈ tree.filesBelow depth entered path place ↔
      ∃ names, names.length ≤ depth ∧ tree.ShowsFile place names ∧ q = descend path names := by
  induction depth generalizing entered path place with
  | zero =>
    constructor
    · intro hq
      cases hq
    · rintro ⟨names, hle, hshows, -⟩
      exact absurd (List.length_eq_zero_iff.1 (Nat.le_zero.1 hle)) hshows.ne_nil
  | succ depth ih =>
    rw [filesBelow, List.mem_flatMap]
    constructor
    · rintro ⟨name, -, hq⟩
      simp only at hq
      split at hq
      · cases hq
      · next hidden =>
        have hname := isHidden_eq_false_iff.1 (by simpa using hidden)
        split at hq
        · next hd =>
          obtain ⟨names, hle, hshows, rfl⟩ := ih.1 hq
          obtain ⟨content, hfile⟩ := hshows.file
          refine ⟨name :: names, by simpa using hle, ⟨by simp, ?_, content, ?_⟩, rfl⟩
          · exact List.forall_mem_cons.2 ⟨hname, hshows.shown⟩
          · rwa [List.append_assoc, List.singleton_append] at hfile
        · next content hfile =>
          obtain rfl := List.mem_singleton.1 hq
          exact ⟨[name], by simp, ⟨by simp, by simpa using hname, content, hfile⟩, rfl⟩
        · next target hlink => exact absurd hlink (hlinks.ne_link _ _)
        · cases hq
    · rintro ⟨names, hle, hshows, rfl⟩
      obtain ⟨name, rest, rfl⟩ := List.exists_cons_of_ne_nil hshows.ne_nil
      obtain ⟨content, hfile⟩ := hshows.file
      obtain ⟨hdot, hrest⟩ := List.forall_mem_cons.1 hshows.shown
      have hname := isHidden_eq_false_iff.2 hdot
      have happend : place ++ name :: rest = place ++ [name] ++ rest := by simp
      rw [happend] at hfile
      cases rest with
      | nil =>
        rw [List.append_nil] at hfile
        refine ⟨name, mem_entryNames_of_node? hfile, ?_⟩
        simp [hname, hfile, descend]
      | cons next rest =>
        have hd := h.directory_of_append (by simp) hfile
        refine ⟨name, mem_entryNames_of_node? hd, ?_⟩
        simp only [hname, Bool.false_eq_true, if_false, hd]
        exact ih.2 ⟨next :: rest, by simpa using hle, ⟨by simp, hrest, content, hfile⟩, rfl⟩

/-! ### Sources at paths -/

/-- **What a path offers**, as components: the file that it leads to, or the files below the
directory that it leads to with no hidden name on the way down from it. -/
inductive OffersAt (tree : FileTree) (path : String) : List Component → Prop
  | file {place : Place} {content : FileContent} (hplace : tree.LeadsTo path place)
      (hfile : tree.node? place = some (.file content)) : OffersAt tree path (components path)
  | below {place : Place} {names : List String} (hplace : tree.LeadsTo path place)
      (hdirectory : tree.node? place = some .directory) (hshows : tree.ShowsFile place names) :
      OffersAt tree path (components path ++ names.map .name)

/-- What some of the paths offer. -/
def Offers (tree : FileTree) (paths : List String) (cs : List Component) : Prop :=
  ∃ path ∈ paths, tree.OffersAt path cs

/-- **The paths at which no sources can be looked for**: nothing is there, or a file that is no
source by its extension. -/
def Refuses (tree : FileTree) (path : String) : Prop :=
  (¬∃ place n, tree.LeadsTo path place ∧ tree.node? place = some n) ∨
    (∃ place content, tree.LeadsTo path place ∧ tree.node? place = some (.file content)) ∧
      Language.ofPath? path = none

/-- What there is at a path. -/
theorem sourcesAt_cases (hlinks : tree.LinkFree) (path : String) :
    (tree.Refuses path ∧ ∃ e, tree.sourcesAt path = .error e) ∨
    (∃ place content language, tree.LeadsTo path place ∧
      tree.node? place = some (.file content) ∧ Language.ofPath? path = some language ∧
      tree.sourcesAt path = .ok [⟨path, language⟩]) ∨
    (∃ place, tree.LeadsTo path place ∧ tree.node? place = some .directory ∧
      tree.sourcesAt path =
        .ok ((tree.filesBelow tree.maxDepth [place] path place).filterMap source?)) := by
  rw [sourcesAt]
  cases hfind : tree.find path with
  | error e =>
    refine Or.inl ⟨Or.inl ?_, _, rfl⟩
    rintro ⟨place, n, hplace, hn⟩
    rw [find_eq_ok_iff.2 ⟨hplace, hn⟩] at hfind
    cases hfind
  | ok arrival =>
    obtain ⟨place, n⟩ := arrival
    obtain ⟨hplace, hn⟩ := find_eq_ok_iff.1 hfind
    cases n with
    | link target => exact absurd hn (hlinks.ne_link place target)
    | directory => exact Or.inr (Or.inr ⟨place, hplace, hn, rfl⟩)
    | file content =>
      cases hlanguage : Language.ofPath? path with
      | none =>
        refine Or.inl ⟨Or.inr ⟨⟨place, content, hplace, hn⟩, hlanguage⟩, ?_⟩
        simp [source?, hlanguage]
      | some language =>
        refine Or.inr (Or.inl ⟨place, content, language, hplace, hn, rfl, ?_⟩)
        simp [source?, hlanguage]

section

variable {path : String} {place : Place} {cs : List Component} (hplace : tree.LeadsTo path place)
include hplace

theorem offersAt_iff_of_file {content : FileContent}
    (hfile : tree.node? place = some (.file content)) :
    tree.OffersAt path cs ↔ cs = components path := by
  constructor
  · rintro (_ | ⟨hother, hdirectory, -⟩)
    · rfl
    · rw [hother.unique hplace, hfile] at hdirectory
      cases hdirectory
  · rintro rfl
    exact .file hplace hfile

theorem offersAt_iff_of_directory (hdirectory : tree.node? place = some .directory) :
    tree.OffersAt path cs ↔
      ∃ names, tree.ShowsFile place names ∧ cs = components path ++ names.map .name := by
  constructor
  · rintro (⟨hother, hfile⟩ | ⟨hother, -, hshows⟩)
    · rw [hother.unique hplace, hdirectory] at hfile
      cases hfile
    · exact ⟨_, hother.unique hplace ▸ hshows, rfl⟩
  · rintro ⟨names, hshows, rfl⟩
    exact .below hplace hdirectory hshows

/-- Directories and sources are not refused. -/
theorem not_refuses {n : FileNode} (hn : tree.node? place = some n)
    (h : n.isDirectory ∨ (Language.ofPath? path).isSome) : ¬tree.Refuses path := by
  rintro (hnothing | ⟨⟨other, content, hother, hfile⟩, hnone⟩)
  · exact hnothing ⟨place, n, hplace, hn⟩
  · rw [hother.unique hplace, hn] at hfile
    cases hfile
    simp [hnone, FileNode.isDirectory] at h

end

/-- A path is refused exactly if there is an error. -/
theorem sourcesAt_error_iff (hlinks : tree.LinkFree) (path : String) :
    (∃ e, tree.sourcesAt path = .error e) ↔ tree.Refuses path := by
  rcases sourcesAt_cases hlinks path with ⟨hrefuses, herror⟩ |
    ⟨place, content, language, hplace, hfile, hlanguage, hok⟩ | ⟨place, hplace, hdirectory, hok⟩
  · exact iff_of_true herror hrefuses
  · exact iff_of_false (by simp [hok]) (not_refuses hplace hfile (Or.inr (by simp [hlanguage])))
  · exact iff_of_false (by simp [hok]) (not_refuses hplace hdirectory (Or.inl rfl))

/-- **Sources that are listed as they are offered**: every path is listed with the language of its
extension, if it has one. -/
structure Lists (offers : List Component → Prop) (listed : List FoundSource) : Prop where
  sourced : Sourced listed
  mem_iff : ∀ p language, (components p, language) ∈ listed.map FoundSource.value ↔
    offers (components p) ∧ Language.ofPath? p = some language

theorem mem_source? {q : String} {s : FoundSource} :
    source? q = some s ↔ s.path = q ∧ Language.ofPath? q = some s.language := by
  rw [source?, Option.map_eq_some_iff]
  constructor
  · rintro ⟨language, hlanguage, rfl⟩
    exact ⟨rfl, hlanguage⟩
  · rintro ⟨rfl, hlanguage⟩
    exact ⟨s.language, hlanguage, rfl⟩

theorem WellFormed.isName_of_shows (h : tree.WellFormed) {place : Place} {names : List String}
    (hshows : tree.ShowsFile place names) : ∀ name ∈ names, IsName name := by
  obtain ⟨content, hfile⟩ := hshows.file
  have hne : place ++ names ≠ [] := by simp [hshows.ne_nil]
  intro name hname
  exact (h.names _ (mem_nodes_of_node? hne hfile)).2 name (List.mem_append_right place hname)

theorem lists_file (path : String) {language : Language}
    (hlanguage : Language.ofPath? path = some language) :
    Lists (· = components path) [⟨path, language⟩] := by
  refine ⟨by simpa [Sourced] using hlanguage, fun p l => ?_⟩
  simp only [List.map_singleton, List.mem_singleton, FoundSource.value, Prod.mk.injEq]
  refine and_congr_right fun hp => ?_
  rw [ofPath?_congr hp, hlanguage, Option.some.injEq, eq_comm]

/-- A walk through a directory lists the sources that it shows. -/
theorem lists_below (h : tree.WellFormed) (hlinks : tree.LinkFree) {path : String}
    (hpath : path ≠ "") (place : Place) :
    Lists (fun cs => ∃ names, tree.ShowsFile place names ∧ cs = components path ++ names.map .name)
      ((tree.filesBelow tree.maxDepth [place] path place).filterMap source?) := by
  have hmem {s : FoundSource} :
      s ∈ (tree.filesBelow tree.maxDepth [place] path place).filterMap source? ↔
        (∃ names, tree.ShowsFile place names ∧ s.path = descend path names) ∧
          Language.ofPath? s.path = some s.language := by
    simp only [List.mem_filterMap, mem_source?, mem_filesBelow h hlinks]
    constructor
    · rintro ⟨q, ⟨names, -, hshows, hq⟩, rfl, hlanguage⟩
      exact ⟨⟨names, hshows, hq⟩, hlanguage⟩
    · rintro ⟨⟨names, hshows, hq⟩, hlanguage⟩
      obtain ⟨content, hfile⟩ := hshows.file
      have hdepth : names.length ≤ tree.maxDepth := by
        have hnodes := h.length_le hfile
        rw [maxDepth]
        exact (hnodes.trans (Nat.le_succ _)).trans (Nat.le_mul_of_pos_left _ (Nat.succ_pos _))
      exact ⟨_, ⟨names, hdepth, hshows, hq⟩, rfl, hlanguage⟩
  refine ⟨fun s hs => (hmem.1 hs).2, fun p language => ?_⟩
  rw [List.mem_map]
  constructor
  · rintro ⟨s, hs, hvalue⟩
    obtain ⟨⟨names, hshows, hq⟩, hlanguage⟩ := hmem.1 hs
    obtain ⟨hp, rfl⟩ := Prod.mk.inj hvalue
    rw [← hp, ← ofPath?_congr hp]
    refine ⟨⟨names, hshows, ?_⟩, hlanguage⟩
    rw [hq, components_descend hpath (h.isName_of_shows hshows)]
  · rintro ⟨⟨names, hshows, hp⟩, hlanguage⟩
    rw [← components_descend hpath (h.isName_of_shows hshows)] at hp
    refine ⟨⟨descend path names, language⟩, hmem.2 ⟨⟨names, hshows, rfl⟩, ?_⟩, ?_⟩
    · exact (ofPath?_congr hp).symm.trans hlanguage
    · exact Prod.ext hp.symm rfl

/-- What is found at a path is what it offers. -/
theorem lists_sourcesAt (h : tree.WellFormed) (hlinks : tree.LinkFree) {path : String}
    {found : List FoundSource} (hok : tree.sourcesAt path = .ok found) :
    Lists (tree.OffersAt path) found := by
  rcases sourcesAt_cases hlinks path with ⟨-, e, herror⟩ |
    ⟨place, content, language, hplace, hfile, hlanguage, hok'⟩ | ⟨place, hplace, hdirectory, hok'⟩
  · rw [herror] at hok
    cases hok
  · rw [hok'] at hok
    cases hok
    have hoffers : tree.OffersAt path = (· = components path) :=
      funext fun cs => propext (offersAt_iff_of_file hplace hfile)
    rw [hoffers]
    exact lists_file path hlanguage
  · rw [hok'] at hok
    cases hok
    have hoffers : tree.OffersAt path =
        fun cs => ∃ names, tree.ShowsFile place names ∧ cs = components path ++ names.map .name :=
      funext fun cs => propext (offersAt_iff_of_directory hplace hdirectory)
    rw [hoffers]
    exact lists_below h hlinks hplace.1 place

/-! ### All paths -/

theorem sourcesAtAll_error_iff (hlinks : tree.LinkFree) (paths : List String) :
    (∃ e, tree.sourcesAtAll paths = .error e) ↔ ∃ path ∈ paths, tree.Refuses path := by
  induction paths with
  | nil => simp [sourcesAtAll]
  | cons path paths ih =>
    rw [List.exists_mem_cons_iff, ← sourcesAt_error_iff hlinks, ← ih, sourcesAtAll]
    cases hpath : tree.sourcesAt path with
    | error e => simp
    | ok found => cases hrest : tree.sourcesAtAll paths <;> simp

theorem lists_sourcesAtAll (h : tree.WellFormed) (hlinks : tree.LinkFree) {paths : List String}
    {listed : List FoundSource} (hok : tree.sourcesAtAll paths = .ok listed) :
    Lists (tree.Offers paths) listed := by
  induction paths generalizing listed with
  | nil =>
    cases hok
    exact ⟨by simp [Sourced], by simp [Offers]⟩
  | cons path paths ih =>
    rw [sourcesAtAll] at hok
    cases hfound : tree.sourcesAt path with
    | error e => simp [hfound] at hok
    | ok found =>
      cases hmore : tree.sourcesAtAll paths with
      | error e => simp [hfound, hmore] at hok
      | ok more =>
        simp only [hfound, hmore, Except.ok.injEq] at hok
        subst hok
        have hfirst := lists_sourcesAt h hlinks hfound
        have hrest := ih hmore
        refine ⟨List.forall_mem_append.2 ⟨hfirst.sourced, hrest.sourced⟩, fun p language => ?_⟩
        rw [List.map_append, List.mem_append, hfirst.mem_iff, hrest.mem_iff, Offers, Offers,
          List.exists_mem_cons_iff, or_and_right]

section

variable {offers offers' : List Component → Prop} {listed listed' : List FoundSource}

theorem lists_arrange (h : Lists offers listed) : Lists offers (arrange listed) where
  sourced s hs := h.sourced s (List.mem_mergeSort.1 (mem_of_mem_dropRepeats hs))
  mem_iff p language := (h.sourced.mem_map_value_arrange _).trans (h.mem_iff p language)

/-- Lists of what is offered alike are arranged alike. -/
theorem Lists.map_value_arrange_eq (h : Lists offers listed) (h' : Lists offers' listed')
    (hoffers : ∀ cs, offers cs ↔ offers' cs) :
    (arrange listed).map FoundSource.value = (arrange listed').map FoundSource.value := by
  have hmem : ∀ p language, (components p, language) ∈ listed.map FoundSource.value ↔
      (components p, language) ∈ listed'.map FoundSource.value := fun p language => by
    rw [h.mem_iff, h'.mem_iff, hoffers]
  refine map_value_arrange_congr h.sourced h'.sourced fun v => ⟨fun hv => ?_, fun hv => ?_⟩
  · obtain ⟨s, -, rfl⟩ := List.mem_map.1 hv
    exact (hmem s.path s.language).1 hv
  · obtain ⟨s, -, rfl⟩ := List.mem_map.1 hv
    exact (hmem s.path s.language).2 hv

end

theorem discover_eq_ok_iff {paths : List String} {found : List FoundSource} :
    tree.discover paths = .ok found ↔
      ∃ listed, tree.sourcesAtAll paths = .ok listed ∧ arrange listed = found := by
  rw [discover_eq]
  cases tree.sourcesAtAll paths <;> simp [Except.map]

theorem discover_error_iff (hlinks : tree.LinkFree) (paths : List String) :
    (∃ e, tree.discover paths = .error e) ↔ ∃ path ∈ paths, tree.Refuses path := by
  rw [← sourcesAtAll_error_iff hlinks, discover_eq]
  cases tree.sourcesAtAll paths <;> simp [Except.map]

/-- **Paths that offer the same lead to the same sources**, if none of them is refused. -/
theorem discover_congr (h : tree.WellFormed) (hlinks : tree.LinkFree) {paths paths' : List String}
    {found : List FoundSource} (hok : tree.discover paths = .ok found)
    (hpaths' : ∀ path ∈ paths', ¬tree.Refuses path)
    (hoffers : ∀ cs, tree.Offers paths' cs ↔ tree.Offers paths cs) :
    ∃ found', tree.discover paths' = .ok found' ∧
      found'.map FoundSource.value = found.map FoundSource.value := by
  obtain ⟨listed, hlisted, rfl⟩ := discover_eq_ok_iff.1 hok
  cases hlisted' : tree.sourcesAtAll paths' with
  | error e =>
    obtain ⟨path, hpath, hrefuses⟩ := (sourcesAtAll_error_iff hlinks paths').1 ⟨e, hlisted'⟩
    exact absurd hrefuses (hpaths' path hpath)
  | ok listed' =>
    refine ⟨_, discover_eq_ok_iff.2 ⟨listed', hlisted', rfl⟩, ?_⟩
    exact (lists_sourcesAtAll h hlinks hlisted').map_value_arrange_eq
      (lists_sourcesAtAll h hlinks hlisted) hoffers

/-- **The sources that paths lead to.** There is an error exactly if one of the paths is refused.
Otherwise the sources are in strictly increasing order, and a path is among them exactly if it is
offered and its extension is that of a source. In which order directories are listed makes no
difference, nor do the order of the paths, repetitions, and paths that offer what others offer. -/
theorem discover_finds (h : tree.WellFormed) (hlinks : tree.LinkFree) (paths : List String) :
    ((∃ e, tree.discover paths = .error e) ↔ ∃ path ∈ paths, tree.Refuses path) ∧
    ∀ found, tree.discover paths = .ok found →
      found.Pairwise (fun a b => Path.order a.path b.path = .lt) ∧
      (∀ p language, (components p, language) ∈ found.map FoundSource.value ↔
        tree.Offers paths (components p) ∧ Language.ofPath? p = some language) ∧
      (∀ listed listed', tree.sourcesAtAll paths = .ok listed → listed'.Perm listed →
        (arrange listed').map FoundSource.value = found.map FoundSource.value) ∧
      (∀ paths', (∀ path, path ∈ paths' ↔ path ∈ paths) →
        ∃ found', tree.discover paths' = .ok found' ∧
          found'.map FoundSource.value = found.map FoundSource.value) ∧
      (∀ paths', (∀ path ∈ paths', ¬tree.Refuses path) →
        (∀ cs, tree.Offers paths' cs ↔ tree.Offers paths cs) →
        ∃ found', tree.discover paths' = .ok found' ∧
          found'.map FoundSource.value = found.map FoundSource.value) := by
  refine ⟨discover_error_iff hlinks paths, fun found hok => ?_⟩
  obtain ⟨listed, hlisted, rfl⟩ := discover_eq_ok_iff.1 hok
  have hlists := lists_sourcesAtAll h hlinks hlisted
  have haccepted : ∀ path ∈ paths, ¬tree.Refuses path := fun path hpath hrefuses => by
    obtain ⟨e, he⟩ := (discover_error_iff hlinks paths).2 ⟨path, hpath, hrefuses⟩
    rw [hok] at he
    cases he
  refine ⟨pairwise_arrange listed, (lists_arrange hlists).mem_iff, ?_, fun paths' hmem => ?_,
    fun paths' => discover_congr h hlinks hok⟩
  · rintro same listed' hsame hperm
    obtain rfl := Except.ok.inj (hlisted.symm.trans hsame)
    have hsourced : Sourced listed' := fun s hs => hlists.sourced s (hperm.mem_iff.1 hs)
    exact map_value_arrange_congr hsourced hlists.sourced fun v => (hperm.map _).mem_iff
  · refine discover_congr h hlinks hok (fun path hpath => haccepted path ((hmem path).1 hpath)) ?_
    exact fun cs => exists_congr fun path => and_congr_left fun _ => hmem path

/-- A directory with a hidden directory in it, and a source in each of them. -/
def shelf : FileTree where
  nodes := [(["d"], .directory), (["d", "a.c"], .file (.text "")), (["d", ".h"], .directory),
    (["d", ".h", "b.cpp"], .file (.text "")), (["d", "notes"], .file (.text ""))]

theorem wellFormed_shelf : shelf.WellFormed where
  names := by decide
  distinct := by decide
  parents := by simpa [shelf] using ⟨rfl, rfl, rfl, rfl⟩
  working := rfl

theorem linkFree_shelf : shelf.LinkFree := by simp [LinkFree, shelf]

theorem leadsTo_shelf :
    shelf.LeadsTo "d" ["d"] ∧ shelf.LeadsTo "d/.h" ["d", ".h"] ∧
      shelf.LeadsTo "d/a.c" ["d", "a.c"] := by
  have hd : shelf.LeadsTo "d" ["d"] := by
    have hsegments : segments "d" = [['d']] := by decide
    refine ⟨by decide, ?_⟩
    rw [hsegments]
    exact .enter rfl (by decide) rfl nofun .done
  have hentry (name : String) (hname : IsName name) :
      shelf.LeadsTo (Path.join "d" name) ["d", name] :=
    hd.join rfl hname (linkFree_shelf.ne_link _)
  exact ⟨hd, hentry ".h" (by decide), hentry "a.c" (by decide)⟩

/-- The file in the hidden directory is not offered by the directory around it. -/
theorem not_offersAt_shelf : ¬shelf.OffersAt "d" (components "d/.h/b.cpp") := by
  intro h
  obtain ⟨names, hshows, hnames⟩ := (offersAt_iff_of_directory leadsTo_shelf.1 rfl).1 h
  have hcomponents : components "d/.h/b.cpp" = components "d" ++ [".h", "b.cpp"].map .name := by
    decide
  rw [hcomponents, List.append_cancel_left_eq] at hnames
  have hinjective : Function.Injective Component.name := fun a b => by simp
  obtain rfl := hinjective.list_map hnames
  exact hshows.shown ".h" (by simp) "h" rfl

/-- A hidden directory is passed over, but looked through if it is named; and a file that is named
next to its directory is found once. -/
theorem discover_finds_shelf :
    shelf.WellFormed ∧ shelf.LinkFree ∧
    (∃ found, shelf.discover ["d"] = .ok found ∧
      (components "d/.h/b.cpp", .cpp) ∉ found.map FoundSource.value) ∧
    ∃ found, shelf.discover ["d/.h", "d", "d/a.c"] = .ok found ∧
      found.Pairwise (fun a b => Path.order a.path b.path = .lt) ∧
      (components "d/.h/b.cpp", .cpp) ∈ found.map FoundSource.value ∧
      (components "d/a.c", .c) ∈ found.map FoundSource.value ∧
      ∃ found', shelf.discover ["d", "d/.h"] = .ok found' ∧
        found'.map FoundSource.value = found.map FoundSource.value := by
  obtain ⟨hd, hh, ha⟩ := leadsTo_shelf
  have hdirectory : ¬shelf.Refuses "d" := not_refuses hd rfl (Or.inl rfl)
  have hhidden : ¬shelf.Refuses "d/.h" := not_refuses hh rfl (Or.inl rfl)
  have hfile : ¬shelf.Refuses "d/a.c" := not_refuses ha rfl (Or.inr (by decide))
  have hshown : shelf.ShowsFile ["d"] ["a.c"] :=
    ⟨by simp, List.forall_mem_singleton.2 (isHidden_eq_false_iff.1 (by decide)), _, rfl⟩
  have hbelow : shelf.ShowsFile ["d", ".h"] ["b.cpp"] :=
    ⟨by simp, List.forall_mem_singleton.2 (isHidden_eq_false_iff.1 (by decide)), _, rfl⟩
  have hoffers : shelf.OffersAt "d" (components "d/a.c") := .below hd rfl hshown
  have hpruned : ∃ found, shelf.discover ["d"] = .ok found ∧
      (components "d/.h/b.cpp", .cpp) ∉ found.map FoundSource.value := by
    obtain ⟨herror, hfinds⟩ := discover_finds wellFormed_shelf linkFree_shelf ["d"]
    cases hfound : shelf.discover ["d"] with
    | error e => simpa [hdirectory] using herror.1 ⟨e, hfound⟩
    | ok found =>
      refine ⟨found, rfl, fun hmem => ?_⟩
      obtain ⟨⟨path, hpath, hoffered⟩, -⟩ := ((hfinds found hfound).2.1 _ _).1 hmem
      obtain rfl := List.mem_singleton.1 hpath
      exact not_offersAt_shelf hoffered
  obtain ⟨herror, hfinds⟩ := discover_finds wellFormed_shelf linkFree_shelf ["d/.h", "d", "d/a.c"]
  cases hfound : shelf.discover ["d/.h", "d", "d/a.c"] with
  | error e => simpa [hdirectory, hhidden, hfile] using herror.1 ⟨e, hfound⟩
  | ok found =>
    obtain ⟨hincreasing, hmem, -, -, hsame⟩ := hfinds found hfound
    refine ⟨wellFormed_shelf, linkFree_shelf, hpruned, found, rfl, hincreasing, ?_, ?_, ?_⟩
    · exact (hmem _ _).2 ⟨⟨"d/.h", by simp, .below hh rfl hbelow⟩, by decide⟩
    · exact (hmem _ _).2 ⟨⟨"d", by simp, hoffers⟩, by decide⟩
    · refine hsame ["d", "d/.h"] (by simp [hdirectory, hhidden]) fun cs => ?_
      -- what the file offers, its directory offers as well
      have hcovered : shelf.OffersAt "d/a.c" cs → shelf.OffersAt "d" cs := fun h =>
        (offersAt_iff_of_file ha rfl).1 h ▸ hoffers
      simp only [Offers, List.mem_cons, List.not_mem_nil, or_false, exists_eq_or_imp,
        exists_eq_left]
      tauto

end FileTree

end CodeMetrics
