import CodeMetrics.Path
import CodeMetrics.Proofs.Text.Split

/-!
# Entries of directories

A name that may stand in a directory is one segment of a path (`Path.IsName`). The path of an entry
of a directory has the segments of the directory, and the name as one more at the end
(`Path.exists_segments_join`); so the file that it names is the entry (`Path.fileName?_join`).
-/

namespace CodeMetrics.Path

/-- **A name that an entry of a directory may have**: it is not empty, has no slash in it, and is
none of the two segments that stand for directories. -/
structure IsName (name : String) : Prop where
  ne_empty : name ≠ ""
  no_slash : '/' ∉ name.toList
  ne_here : name ≠ "."
  ne_up : name ≠ ".."

namespace IsName

variable {name : String}

instance : Decidable (IsName name) :=
  decidable_of_iff (name ≠ "" ∧ '/' ∉ name.toList ∧ name ≠ "." ∧ name ≠ "..")
    ⟨fun ⟨hempty, hslash, hhere, hup⟩ => ⟨hempty, hslash, hhere, hup⟩,
      fun h => ⟨h.ne_empty, h.no_slash, h.ne_here, h.ne_up⟩⟩

theorem segment_not_mem (h : IsName name) : name.toList ∉ [[], ['.'], ['.', '.']] := by
  have hname : ∀ cs : List Char, name.toList = cs → name = String.ofList cs := by
    rintro cs rfl
    rw [String.ofList_toList]
  simp only [List.mem_cons, List.not_mem_nil, or_false, not_or]
  exact ⟨fun hn => h.ne_empty (hname _ hn), fun hn => h.ne_here (hname _ hn),
    fun hn => h.ne_up (hname _ hn)⟩

theorem ofSegment?_eq (h : IsName name) :
    Component.ofSegment? name.toList = some (.name name) := by
  have hsegment := h.segment_not_mem
  unfold Component.ofSegment?
  split
  case h_4 => rw [String.ofList_toList]
  all_goals simp_all

end IsName

/-! ### The path of an entry -/

section

variable {directory name : String}

theorem isAbsolute_join (hd : directory ≠ "") : isAbsolute (join directory name) =
    isAbsolute directory := by
  have hne : directory.toList ≠ [] := by simpa using hd
  obtain ⟨first, rest, hfirst⟩ := List.exists_cons_of_ne_nil hne
  unfold isAbsolute join
  split <;> simp [hfirst]

theorem join_ne_empty (hd : directory ≠ "") : join directory name ≠ "" := by
  unfold join
  split <;> simp [hd]

/-- **The segments of the path of an entry** are those of the directory and the name. A slash at the
end of the path of the directory gives it an empty segment more. -/
theorem exists_segments_join (hd : directory ≠ "") (hn : IsName name) :
    ∃ above, above ≠ [] ∧ segments (join directory name) = above ++ [name.toList] ∧
      (segments directory = above ∨ segments directory = above ++ [[]]) := by
  have hname : Text.splitOn ['/'] name.toList = [name.toList] :=
    Text.splitOn_of_not_mem hn.no_slash
  have hnil : Text.splitOn ['/'] [] = [[]] := rfl
  unfold join
  split
  · next hslash =>
    have hlast : directory.toList.getLast? = some '/' := by
      simpa [hd] using hslash
    obtain ⟨above, habove⟩ := List.getLast?_eq_some_iff.1 hlast
    refine ⟨Text.splitOn ['/'] above, Text.splitOn_ne_nil above, ?_, Or.inr ?_⟩
    · rw [segments, String.toList_append, habove, List.append_assoc, List.singleton_append,
        Text.splitOn_append, hname]
    · rw [segments, habove, Text.splitOn_append, hnil]
  · refine ⟨segments directory, Text.splitOn_ne_nil _, ?_, Or.inl rfl⟩
    have hslash : "/".toList = ['/'] := rfl
    rw [segments, String.toList_append, String.toList_append, hslash, List.append_assoc,
      List.singleton_append, Text.splitOn_append, hname, segments]

/-- **The path of an entry names the entry.** -/
theorem fileName?_join (hd : directory ≠ "") (hn : IsName name) :
    fileName? (join directory name) = some name := by
  obtain ⟨above, hne, hsegments, -⟩ := exists_segments_join hd hn
  obtain ⟨first, rest, rfl⟩ := List.exists_cons_of_ne_nil hne
  have hlast : (components (join directory name)).getLast? = some (.name name) := by
    rw [components, hsegments]
    simp [hn.ofSegment?_eq]
  rw [fileName?, hlast]

theorem stem?_join (hd : directory ≠ "") (hn : IsName name) :
    stem? (join directory name) = some (splitName name).1 := by
  rw [stem?, fileName?_join hd hn, Option.map_some]

theorem extension?_join (hd : directory ≠ "") (hn : IsName name) :
    extension? (join directory name) = (splitName name).2 := by
  rw [extension?, fileName?_join hd hn, Option.bind_some]

end

/-! ### Stems -/

/-- The stem of a name is the beginning of it. -/
theorem startsWith_splitName (name : String) : (splitName name).1.toList <+: name.toList := by
  unfold splitName
  split
  · exact List.prefix_refl _
  · exact List.prefix_refl _
  · next before after _ hcut =>
    have hcut := (Text.isLastCut_of_splitLast? (by simp) hcut).eq
    rw [hcut, String.toList_ofList, List.append_assoc]
    exact List.prefix_append _ _

/-- What stands before and after a dot, if it is not at the front and no other one follows. -/
theorem splitName_append {stem extension : String} (hs : stem ≠ "") (he : '.' ∉ extension.toList) :
    splitName (stem ++ "." ++ extension) = (stem, some extension) := by
  have hdot : ".".toList = ['.'] := rfl
  have hcut : Text.splitLast? ['.'] (stem ++ "." ++ extension).toList =
      some (stem.toList, extension.toList) := by
    rw [String.toList_append, String.toList_append, hdot, List.append_assoc,
      List.singleton_append, Text.splitLast?_append he]
  have hne : stem.toList ≠ [] := by simpa using hs
  rw [splitName, hcut]
  obtain ⟨first, rest, hstem⟩ := List.exists_cons_of_ne_nil hne
  simp only [hstem]
  rw [← hstem, String.ofList_toList, String.ofList_toList]

end CodeMetrics.Path
