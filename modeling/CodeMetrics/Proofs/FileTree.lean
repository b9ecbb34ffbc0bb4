import CodeMetrics.FileTree
import CodeMetrics.Proofs.Keyed
import CodeMetrics.Proofs.Path
import Mathlib.Data.List.Nodup

/-!
# Where paths lead

Reading and writing go by the place that a path leads to (`FileTree.LeadsTo`) and by what stands
there. On the way to a place only directories and links matter, so a file that is written changes no
way: every path leads where it did (`FileTree.SameWays.leadsTo_iff`).
-/

namespace CodeMetrics

open CodeMetrics.Path

/-- What is of use on the way to a place: a directory or a link. -/
def FileNode.onWay? : Option FileNode → Option FileNode
  | some .directory => some .directory
  | some (.link target) => some (.link target)
  | _ => none

namespace FileTree

variable {tree next : FileTree}

/-! ### Nodes -/

theorem lookup_map_put (nodes : List (Place × FileNode)) (p q : Place) (n : FileNode) :
    (nodes.map fun m => if m.1 = p then (p, n) else m).lookup q =
      if q = p then (nodes.lookup p).map fun _ => n else nodes.lookup q := by
  induction nodes with
  | nil => simp
  | cons m nodes ih =>
    rw [List.map_cons, Keyed.lookup_cons, ih, Keyed.lookup_cons, Keyed.lookup_cons]
    by_cases hq : q = p
    · subst hq
      by_cases hm : m.1 = q
      · simp [hm]
      · simp [hm, Ne.symm hm]
    · by_cases hm : m.1 = p
      · simp [hm, hq]
      · simp [hm, hq]

theorem isSome_lookup (nodes : List (Place × FileNode)) (p : Place) :
    (nodes.lookup p).isSome = nodes.any fun m => m.1 == p := by
  induction nodes with
  | nil => rfl
  | cons m nodes ih =>
    rw [Keyed.lookup_cons, List.any_cons, ← ih]
    by_cases hm : p = m.1
    · simp [hm]
    · simp [hm, beq_false_of_ne (Ne.symm hm)]

theorem mem_of_lookup {nodes : List (Place × FileNode)} {p : Place} {n : FileNode}
    (h : nodes.lookup p = some n) : (p, n) ∈ nodes := by
  induction nodes with
  | nil => cases h
  | cons m nodes ih =>
    rw [Keyed.lookup_cons] at h
    split at h
    · next hm =>
      cases h
      rw [hm]
      exact List.mem_cons_self
    · exact List.mem_cons_of_mem m (ih h)

/-- **What stands at a place after a node is put somewhere.** -/
theorem node?_put {p : Place} (hp : p ≠ []) (n : FileNode) (q : Place) :
    (tree.put p n).node? q = if q = p then some n else tree.node? q := by
  cases q with
  | nil => rw [if_neg (Ne.symm hp)]; rfl
  | cons a q =>
    simp only [node?, put]
    rw [← isSome_lookup]
    cases hlookup : tree.nodes.lookup p with
    | some m =>
      rw [if_pos Option.isSome_some, lookup_map_put, hlookup]
      rfl
    | none =>
      rw [if_neg (by simp), List.lookup_append, Keyed.lookup_cons]
      by_cases hq : a :: q = p
      · rw [if_pos hq, if_pos hq, hq, hlookup]
        rfl
      · rw [if_neg hq, if_neg hq]
        exact Option.or_none

theorem mem_nodes_of_node? {p : Place} {n : FileNode} (hp : p ≠ []) (h : tree.node? p = some n) :
    (p, n) ∈ tree.nodes := by
  cases p with
  | nil => exact absurd rfl hp
  | cons a p => exact mem_of_lookup h

/-! ### Ways -/

/-- **The ways through a tree**: which segments lead from a place to another one, and how many links
may be followed. Every step starts in a directory. -/
inductive Way (tree : FileTree) : Nat → Place → List (List Char) → Place → Prop
  | done {links : Nat} {place : Place} : Way tree links place [] place
  | stay {links : Nat} {place p : Place} {segment : List Char} {rest : List (List Char)}
      (hd : tree.node? place = some .directory) (hs : segment = [] ∨ segment = ['.'])
      (h : Way tree links place rest p) : Way tree links place (segment :: rest) p
  | up {links : Nat} {place p : Place} {rest : List (List Char)}
      (hd : tree.node? place = some .directory) (h : Way tree links place.dropLast rest p) :
      Way tree links place (['.', '.'] :: rest) p
  /-- To a place that nothing stands at; the way ends there. -/
  | free {links : Nat} {place : Place} {segment : List Char}
      (hd : tree.node? place = some .directory) (hs : segment ∉ [[], ['.'], ['.', '.']])
      (hn : tree.node? (place ++ [String.ofList segment]) = none) :
      Way tree links place [segment] (place ++ [String.ofList segment])
  | enter {links : Nat} {place p : Place} {segment : List Char} {rest : List (List Char)}
      {n : FileNode} (hd : tree.node? place = some .directory)
      (hs : segment ∉ [[], ['.'], ['.', '.']])
      (hn : tree.node? (place ++ [String.ofList segment]) = some n)
      (hl : ∀ target, n ≠ .link target)
      (h : Way tree links (place ++ [String.ofList segment]) rest p) :
      Way tree links place (segment :: rest) p
  | follow {links : Nat} {place p : Place} {segment : List Char} {rest : List (List Char)}
      {target : String} (hd : tree.node? place = some .directory)
      (hs : segment ∉ [[], ['.'], ['.', '.']])
      (hn : tree.node? (place ++ [String.ofList segment]) = some (.link target))
      (h : Way tree links (if isAbsolute target then [] else place) (segments target ++ rest) p) :
      Way tree (links + 1) place (segment :: rest) p

theorem any_isDirectory_iff {n : Option FileNode} :
    n.any FileNode.isDirectory = true ↔ n = some .directory := by
  rcases n with _ | ⟨_ | _ | _⟩ <;> simp [FileNode.isDirectory]

/-- A walk that ends has gone a way. -/
theorem way_of_walk {links : Nat} {place : Place} {segments : List (List Char)} {arrival : Arrival}
    (h : tree.walk links place segments = .ok arrival) :
    Way tree links place segments arrival.1 ∧ arrival.2 = tree.node? arrival.1 := by
  fun_induction walk tree links place segments with
  | case1 links place =>
    cases h
    exact ⟨.done, rfl⟩
  | case2 links place segment rest hd hs ih =>
    obtain ⟨hway, hn⟩ := ih h
    exact ⟨.stay (any_isDirectory_iff.1 hd) hs hway, hn⟩
  | case3 links place rest hd hs ih =>
    obtain ⟨hway, hn⟩ := ih h
    exact ⟨.up (any_isDirectory_iff.1 hd) hway, hn⟩
  | case4 links place segment rest hd hs hup next hn hrest =>
    cases h
    obtain rfl := List.isEmpty_iff.1 hrest
    exact ⟨.free (any_isDirectory_iff.1 hd) (by simp_all) hn, hn.symm⟩
  | case5 => cases h
  | case6 => cases h
  | case7 place segment rest hd hs hup next target hn links ih =>
    simp only [dite_eq_ite] at ih
    obtain ⟨hway, hnode⟩ := ih h
    exact ⟨.follow (any_isDirectory_iff.1 hd) (by simp_all) hn hway, hnode⟩
  | case8 links place segment rest hd hs hup next n hl hn ih =>
    obtain ⟨hway, hnode⟩ := ih h
    exact ⟨.enter (any_isDirectory_iff.1 hd) (by simp_all) hn hl hway, hnode⟩
  | case9 => cases h

/-- A walk goes on at a name. -/
theorem walk_name {links : Nat} {place : Place} {segment : List Char} {rest : List (List Char)}
    (hd : tree.node? place = some .directory) (hs : segment ∉ [[], ['.'], ['.', '.']]) :
    tree.walk links place (segment :: rest) =
      match tree.node? (place ++ [String.ofList segment]) with
      | none =>
        if rest.isEmpty then .ok (place ++ [String.ofList segment], none) else .error .notFound
      | some (.link target) =>
        match links with
        | 0 => .error .tooManyLinks
        | links + 1 =>
          tree.walk links (if isAbsolute target then [] else place) (segments target ++ rest)
      | some _ => tree.walk links (place ++ [String.ofList segment]) rest := by
  simp only [List.mem_cons, List.not_mem_nil, or_false, not_or] at hs
  rewrite [walk, if_pos (any_isDirectory_iff.2 hd), if_neg (not_or.2 ⟨hs.1, hs.2.1⟩), if_neg hs.2.2]
  rfl

/-- Every way is walked. -/
theorem Way.walk {links : Nat} {place p : Place} {segments : List (List Char)}
    (h : Way tree links place segments p) :
    tree.walk links place segments = .ok (p, tree.node? p) := by
  induction h with
  | done => rw [FileTree.walk]
  | stay hd hs _ ih => rw [FileTree.walk, if_pos (any_isDirectory_iff.2 hd), if_pos hs, ih]
  | up hd _ ih =>
    rw [FileTree.walk, if_pos (any_isDirectory_iff.2 hd), if_neg (by simp), if_pos rfl, ih]
  | free hd hs hn =>
    rw [walk_name hd hs, hn]
    rfl
  | @enter _ _ _ _ _ n hd hs hn hl _ ih =>
    rw [walk_name hd hs, hn]
    cases n with
    | link target => exact absurd rfl (hl target)
    | file _ | directory => exact ih
  | follow hd hs hn _ ih =>
    rw [walk_name hd hs, hn]
    exact ih

/-- Segments lead to one place only. -/
theorem Way.unique {links : Nat} {place p q : Place} {segments : List (List Char)}
    (h : Way tree links place segments p) (h' : Way tree links place segments q) : p = q := by
  have heq := h.walk.symm.trans h'.walk
  injection heq with heq
  exact congrArg Prod.fst heq

/-- No way goes on where no directory is. -/
theorem Way.eq_of_ne_directory {links : Nat} {place p : Place} {segments : List (List Char)}
    (h : Way tree links place segments p) (hd : tree.node? place ≠ some .directory) :
    segments = [] ∧ p = place := by
  cases h with
  | done => exact ⟨rfl, rfl⟩
  | stay h | up h | free h | enter h | follow h => exact absurd h hd

/-- A name leads to an entry that is no link. -/
theorem way_name {links : Nat} {place : Place} {segment : List Char}
    (hd : tree.node? place = some .directory) (hs : segment ∉ [[], ['.'], ['.', '.']])
    (hl : ∀ target, tree.node? (place ++ [String.ofList segment]) ≠ some (.link target)) :
    Way tree links place [segment] (place ++ [String.ofList segment]) := by
  cases hn : tree.node? (place ++ [String.ofList segment]) with
  | none => exact .free hd hs hn
  | some n => exact .enter hd hs hn (fun target h => hl target (h ▸ hn)) .done

/-- Where the way of a path starts. -/
def startOf (tree : FileTree) (path : String) : Place :=
  if isAbsolute path then [] else tree.workingDirectory

/-- The place that a path leads to. -/
def LeadsTo (tree : FileTree) (path : String) (p : Place) : Prop :=
  path ≠ "" ∧ Way tree maxLinks (tree.startOf path) (segments path) p

theorem LeadsTo.unique {path : String} {p q : Place} (h : tree.LeadsTo path p)
    (h' : tree.LeadsTo path q) : p = q :=
  h.2.unique h'.2

theorem LeadsTo.resolve {path : String} {p : Place} (h : tree.LeadsTo path p) :
    tree.resolve path = .ok (p, tree.node? p) := by
  have hempty : path.isEmpty = false := by simpa using h.1
  rw [FileTree.resolve, hempty]
  exact h.2.walk

theorem leadsTo_of_resolve {path : String} {arrival : Arrival}
    (h : tree.resolve path = .ok arrival) :
    tree.LeadsTo path arrival.1 ∧ arrival.2 = tree.node? arrival.1 := by
  unfold FileTree.resolve at h
  split at h
  · cases h
  · next hempty =>
    obtain ⟨hway, hn⟩ := way_of_walk h
    exact ⟨⟨by simpa using hempty, hway⟩, hn⟩

/-! ### Operations -/

theorem find_eq_ok_iff {path : String} {p : Place} {n : FileNode} :
    tree.find path = .ok (p, n) ↔ tree.LeadsTo path p ∧ tree.node? p = some n := by
  constructor
  · intro h
    unfold find at h
    split at h
    · cases h
    · cases h
    · next hr =>
      cases h
      obtain ⟨hp, hn⟩ := leadsTo_of_resolve hr
      exact ⟨hp, hn.symm⟩
  · rintro ⟨hp, hn⟩
    rw [find, hp.resolve, hn]

/-- **Reading a path** gives the text of the file that it leads to. -/
theorem read_eq_ok_iff {path text : String} :
    tree.read path = .ok text ↔
      ∃ p, tree.LeadsTo path p ∧ tree.node? p = some (.file (.text text)) := by
  constructor
  · intro h
    unfold read at h
    split at h
    · cases h
    · next p s hf =>
      cases h
      exact ⟨p, find_eq_ok_iff.1 hf⟩
    all_goals cases h
  · rintro ⟨p, hp⟩
    rw [read, find_eq_ok_iff.2 hp]

/-- What can be read is a file. -/
theorem isFile_of_read {path text : String} (h : tree.read path = .ok text) :
    tree.isFile path = true := by
  obtain ⟨p, hp⟩ := read_eq_ok_iff.1 h
  rw [isFile, find_eq_ok_iff.2 hp]
  rfl

/-- **Writing to a path** puts a file where it leads to, unless a directory is there. -/
theorem write_eq_ok_iff {path text : String} :
    tree.write path text = .ok next ↔ ∃ p, tree.LeadsTo path p ∧
      tree.node? p ≠ some .directory ∧ next = tree.put p (.file (.text text)) := by
  constructor
  · intro h
    unfold write at h
    split at h
    · cases h
    · cases h
    · next p n hdirectory hr =>
      cases h
      obtain ⟨hp, hn⟩ := leadsTo_of_resolve hr
      exact ⟨p, hp, fun hd => hdirectory (hn.trans hd), rfl⟩
  · rintro ⟨p, hp, hd, rfl⟩
    rw [write, hp.resolve]
    split
    · next h => cases h
    · next h =>
      injection h with h
      exact absurd (congrArg Prod.snd h) hd
    · next h =>
      cases h
      rfl

/-! ### Trees with the same ways -/

/-- **Trees with the same directories and links**, seen from the same directory. -/
structure SameWays (tree next : FileTree) : Prop where
  workingDirectory : next.workingDirectory = tree.workingDirectory
  node : ∀ p, FileNode.onWay? (next.node? p) = FileNode.onWay? (tree.node? p)

namespace SameWays

theorem symm (h : SameWays tree next) : SameWays next tree :=
  ⟨h.workingDirectory.symm, fun p => (h.node p).symm⟩

theorem trans {last : FileTree} (h : SameWays tree next) (h' : SameWays next last) :
    SameWays tree last :=
  ⟨h'.workingDirectory.trans h.workingDirectory, fun p => (h'.node p).trans (h.node p)⟩

theorem directory_iff (h : SameWays tree next) (p : Place) :
    next.node? p = some .directory ↔ tree.node? p = some .directory := by
  have hp := h.node p
  rcases hn : next.node? p with _ | ⟨_ | _ | _⟩ <;>
    rcases ht : tree.node? p with _ | ⟨_ | _ | _⟩ <;> simp_all [FileNode.onWay?]

theorem link_iff (h : SameWays tree next) (p : Place) (target : String) :
    next.node? p = some (.link target) ↔ tree.node? p = some (.link target) := by
  have hp := h.node p
  rcases hn : next.node? p with _ | ⟨_ | _ | _⟩ <;>
    rcases ht : tree.node? p with _ | ⟨_ | _ | _⟩ <;> simp_all [FileNode.onWay?]

/-- **Trees with the same directories and links have the same ways.** -/
theorem way (h : SameWays tree next) {links : Nat} {place p : Place} {segments : List (List Char)}
    (hway : Way tree links place segments p) : Way next links place segments p := by
  induction hway with
  | done => exact .done
  | stay hd hs _ ih => exact .stay ((h.directory_iff _).2 hd) hs ih
  | up hd _ ih => exact .up ((h.directory_iff _).2 hd) ih
  | follow hd hs hn _ ih => exact .follow ((h.directory_iff _).2 hd) hs ((h.link_iff _ _).2 hn) ih
  | free hd hs hn =>
    refine way_name ((h.directory_iff _).2 hd) hs fun target hl => ?_
    rw [h.link_iff, hn] at hl
    cases hl
  | @enter _ place _ segment _ n hd hs hn hl hrest ih =>
    by_cases hdirectory : n = .directory
    · subst hdirectory
      exact .enter ((h.directory_iff _).2 hd) hs ((h.directory_iff _).2 hn) (by simp) ih
    · -- the way ends here, and here it may end in the other tree as well
      obtain ⟨rfl, rfl⟩ := hrest.eq_of_ne_directory (by simpa [hn] using hdirectory)
      refine way_name ((h.directory_iff _).2 hd) hs fun target hlink => ?_
      rw [h.link_iff, hn] at hlink
      exact hl target (Option.some.inj hlink)

/-- **Every path leads where it did.** -/
theorem leadsTo_iff (h : SameWays tree next) (path : String) (p : Place) :
    next.LeadsTo path p ↔ tree.LeadsTo path p := by
  have hstart : next.startOf path = tree.startOf path := by
    rw [startOf, startOf, h.workingDirectory]
  rw [LeadsTo, LeadsTo, hstart]
  exact and_congr_right fun _ => ⟨h.symm.way, h.way⟩

/-- A file may be put where a file or nothing is. -/
theorem put {p : Place} (hp : p ≠ []) (hn : FileNode.onWay? (tree.node? p) = none)
    (content : FileContent) : SameWays tree (tree.put p (.file content)) := by
  refine ⟨rfl, fun q => ?_⟩
  rw [node?_put hp]
  split
  · next hq => rw [hq, hn]; rfl
  · rfl

end SameWays

/-! ### Well-formed trees -/

/-- **Trees that a file system may have**: the names are names, no place is taken twice, everything
stands in a directory, and so does whoever looks at the tree. -/
structure WellFormed (tree : FileTree) : Prop where
  names : ∀ n ∈ tree.nodes, n.1 ≠ [] ∧ ∀ name ∈ n.1, IsName name
  distinct : (tree.nodes.map Prod.fst).Nodup
  parents : ∀ n ∈ tree.nodes, tree.node? n.1.dropLast = some .directory
  working : tree.node? tree.workingDirectory = some .directory

namespace WellFormed

theorem parent (h : tree.WellFormed) {p : Place} {n : FileNode} (hp : tree.node? p = some n) :
    tree.node? p.dropLast = some .directory := by
  by_cases hnil : p = []
  · subst hnil
    rfl
  · exact h.parents _ (mem_nodes_of_node? hnil hp)

theorem isName (h : tree.WellFormed) {place : Place} {name : String} {n : FileNode}
    (hn : tree.node? (place ++ [name]) = some n) : IsName name :=
  (h.names _ (mem_nodes_of_node? (by simp) hn)).2 name (by simp)

/-- No way ends at a link. -/
theorem ne_link_of_way (h : tree.WellFormed) {links : Nat} {place p : Place}
    {segments : List (List Char)} (hway : Way tree links place segments p)
    (hplace : ∀ target, tree.node? place ≠ some (.link target)) (target : String) :
    tree.node? p ≠ some (.link target) := by
  have hnot : ∀ {q : Place}, tree.node? q = some .directory →
      ∀ target, tree.node? q ≠ some (.link target) := fun hd target => by simp [hd]
  -- what is kept: the place that the way goes on from is no link
  induction hway with
  | done => exact hplace target
  | stay _ _ _ ih => exact ih hplace
  | up hd _ ih => exact ih (hnot (h.parent hd))
  | free _ _ hn => simp [hn]
  | enter _ _ hn hl _ ih =>
    refine ih fun target hlink => hl target ?_
    exact Option.some.inj (hn.symm.trans hlink)
  | follow hd _ _ _ ih =>
    refine ih ?_
    split
    · exact hnot rfl
    · exact hnot hd

/-- **Where a path leads that can be written to**, a file or nothing is. -/
theorem onWay?_eq_none (h : tree.WellFormed) {path : String} {p : Place}
    (hp : tree.LeadsTo path p) (hd : tree.node? p ≠ some .directory) :
    p ≠ [] ∧ FileNode.onWay? (tree.node? p) = none := by
  have hstart : tree.node? (tree.startOf path) = some .directory := by
    unfold startOf
    split
    · rfl
    · exact h.working
  have hlink := h.ne_link_of_way hp.2 (fun target => by simp [hstart])
  constructor
  · rintro rfl
    exact hd rfl
  · rcases hn : tree.node? p with _ | ⟨_ | _ | target⟩
    · rfl
    · rfl
    · exact absurd hn hd
    · exact absurd hn (hlink target)

end WellFormed

/-! ### Entries of a directory -/

/-- A way to a directory can be gone on with. -/
theorem Way.append {links : Nat} {place q : Place} {segments : List (List Char)}
    (h : Way tree links place segments q) (hq : tree.node? q = some .directory) :
    ∃ left, ∀ more p, Way tree left q more p → Way tree links place (segments ++ more) p := by
  induction h with
  | @done links place => exact ⟨links, fun more p h => h⟩
  | stay hd hs _ ih =>
    obtain ⟨left, hleft⟩ := ih hq
    exact ⟨left, fun more p h => .stay hd hs (hleft more p h)⟩
  | up hd _ ih =>
    obtain ⟨left, hleft⟩ := ih hq
    exact ⟨left, fun more p h => .up hd (hleft more p h)⟩
  | free hd hs hn =>
    rw [hn] at hq
    cases hq
  | enter hd hs hn hl _ ih =>
    obtain ⟨left, hleft⟩ := ih hq
    exact ⟨left, fun more p h => .enter hd hs hn hl (hleft more p h)⟩
  | follow hd hs hn _ ih =>
    obtain ⟨left, hleft⟩ := ih hq
    refine ⟨left, fun more p h => .follow hd hs hn ?_⟩
    have hmore := hleft more p h
    rwa [List.append_assoc] at hmore

/-- An empty segment at the end leads nowhere else. -/
theorem Way.of_append_nil {links : Nat} {place p : Place} {segments : List (List Char)}
    (h : Way tree links place (segments ++ [[]]) p) : Way tree links place segments p := by
  have hne : ∀ {segment : List Char}, segment ∉ [[], ['.'], ['.', '.']] → [] ≠ segment := by
    rintro _ hs rfl
    simp at hs
  generalize hall : segments ++ [[]] = all at h
  induction h generalizing segments with
  | done => simp at hall
  | @stay _ _ _ _ rest hd hs hrest ih =>
    cases segments with
    | nil =>
      obtain ⟨-, rfl⟩ := List.cons.inj hall
      exact hrest
    | cons s segments =>
      obtain ⟨rfl, htail⟩ := List.cons.inj hall
      exact .stay hd hs (ih htail)
  | up hd _ ih =>
    cases segments with
    | nil => cases (List.cons.inj hall).1
    | cons s segments =>
      obtain ⟨rfl, htail⟩ := List.cons.inj hall
      exact .up hd (ih htail)
  | free hd hs hn =>
    cases segments with
    | nil => exact absurd (List.cons.inj hall).1 (hne hs)
    | cons s segments => simp at hall
  | enter hd hs hn hl _ ih =>
    cases segments with
    | nil => exact absurd (List.cons.inj hall).1 (hne hs)
    | cons s segments =>
      obtain ⟨rfl, htail⟩ := List.cons.inj hall
      exact .enter hd hs hn hl (ih htail)
  | follow hd hs hn _ ih =>
    cases segments with
    | nil => exact absurd (List.cons.inj hall).1 (hne hs)
    | cons s segments =>
      obtain ⟨rfl, htail⟩ := List.cons.inj hall
      refine .follow hd hs hn (ih ?_)
      rw [List.append_assoc]
      exact congrArg _ htail

/-- **The path of an entry leads to the entry**, if it is no link. -/
theorem LeadsTo.join {directory name : String} {place : Place} (h : tree.LeadsTo directory place)
    (hd : tree.node? place = some .directory) (hname : IsName name)
    (hl : ∀ target, tree.node? (place ++ [name]) ≠ some (.link target)) :
    tree.LeadsTo (Path.join directory name) (place ++ [name]) := by
  obtain ⟨above, -, hsegments, habove⟩ := exists_segments_join h.1 hname
  have hway : Way tree maxLinks (tree.startOf directory) above place := by
    rcases habove with habove | habove
    · exact habove ▸ h.2
    · exact (habove ▸ h.2).of_append_nil
  have hstart : tree.startOf (Path.join directory name) = tree.startOf directory := by
    rw [startOf, startOf, isAbsolute_join h.1]
  obtain ⟨left, hleft⟩ := hway.append hd
  have hentry : Way tree left place [name.toList] (place ++ [String.ofList name.toList]) :=
    way_name hd hname.segment_not_mem (by rwa [String.ofList_toList])
  rw [String.ofList_toList] at hentry
  refine ⟨join_ne_empty h.1, ?_⟩
  rw [hstart, hsegments]
  exact hleft _ _ hentry

theorem nameIn?_eq_some_iff {directory place : Place} {name : String} :
    nameIn? directory place = some name ↔ place = directory ++ [name] := by
  constructor
  · intro h
    unfold nameIn? at h
    split at h
    · next last hlast =>
      split at h
      · next hd =>
        cases h
        rw [← hd, List.dropLast_append_getLast? _ hlast]
      · cases h
    · cases h
  · rintro rfl
    simp [nameIn?]

theorem mem_entryNames {directory : Place} {name : String} :
    name ∈ tree.entryNames directory ↔ ∃ n, (directory ++ [name], n) ∈ tree.nodes := by
  simp only [entryNames, List.mem_mergeSort, List.mem_filterMap, nameIn?_eq_some_iff]
  constructor
  · rintro ⟨⟨p, n⟩, hmem, rfl⟩
    exact ⟨n, hmem⟩
  · rintro ⟨n, hmem⟩
    exact ⟨_, hmem, rfl⟩

/-- **The names in a directory are in increasing order**, each once. -/
theorem pairwise_entryNames (h : (tree.nodes.map Prod.fst).Nodup) (directory : Place) :
    (tree.entryNames directory).Pairwise (· < ·) := by
  have hnodup : (tree.entryNames directory).Nodup := by
    rw [entryNames, (List.mergeSort_perm _ _).nodup_iff]
    have hmap : (tree.nodes.filterMap fun n => nameIn? directory n.1) =
        (tree.nodes.map Prod.fst).filterMap (nameIn? directory) := by
      rw [List.filterMap_map]
      rfl
    rw [hmap]
    refine List.Nodup.filterMap (fun p q name hp hq => ?_) h
    rw [nameIn?_eq_some_iff.1 hp, nameIn?_eq_some_iff.1 hq]
  have hsorted : (tree.entryNames directory).Pairwise fun a b => decide (a ≤ b) :=
    List.pairwise_mergeSort (fun a b c => by simpa using le_trans)
      (fun a b => by simpa using le_total a b) _
  refine (hsorted.and hnodup).imp fun hab => ?_
  exact lt_of_le_of_ne (by simpa using hab.1) hab.2

theorem distinct_put (h : (tree.nodes.map Prod.fst).Nodup) (p : Place) (n : FileNode) :
    ((tree.put p n).nodes.map Prod.fst).Nodup := by
  simp only [put]
  split
  · have hmap : (tree.nodes.map fun m => if m.1 = p then (p, n) else m).map Prod.fst =
        tree.nodes.map Prod.fst := by
      rw [List.map_map]
      refine List.map_congr_left fun m _ => ?_
      by_cases hm : m.1 = p <;> simp [hm]
    rwa [hmap]
  · next hany =>
    rw [List.map_append, List.map_singleton, ← List.concat_eq_append, List.nodup_concat]
    refine ⟨fun hmem => hany ?_, h⟩
    obtain ⟨m, hm, hp⟩ := List.mem_map.1 hmem
    exact List.any_eq_true.2 ⟨m, hm, by simpa using hp⟩

/-- Putting a node where it stands changes nothing. -/
theorem put_eq_self (h : (tree.nodes.map Prod.fst).Nodup) {p : Place} (hp : p ≠ []) {n : FileNode}
    (hn : tree.node? p = some n) : tree.put p n = tree := by
  have hmem := mem_nodes_of_node? hp hn
  have hany : tree.nodes.any fun m => m.1 == p := List.any_eq_true.2 ⟨_, hmem, by simp⟩
  have hmap : (tree.nodes.map fun m => if m.1 = p then (p, n) else m) = tree.nodes := by
    refine (List.map_congr_left fun m hm => ?_).trans (List.map_id _)
    split
    · next heq => exact List.inj_on_of_nodup_map h hmem hm heq.symm
    · rfl
  rw [put, if_pos hany, hmap]

end FileTree

end CodeMetrics
