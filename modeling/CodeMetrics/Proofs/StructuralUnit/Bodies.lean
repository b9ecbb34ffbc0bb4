import CodeMetrics.Proofs.Statement.Exact
import CodeMetrics.Proofs.StructuralUnit.Units
import CodeMetrics.StructuralModel

/-!
# The bodies of units

What a unit keeps of its callable is what the visits of the body become
(`StructuralUnit.Place.HasBody`). The units of a model are those found in its tree, in another order
(`StructuralModel.exists_units_of_ofDocument`), so a property of all units of a model is one of the
bodies at the places of its tree.
-/

namespace CodeMetrics

open Cst Build

namespace StructuralUnit

/-- A unit of given statements, at no particular place. -/
def unitOf (body : List Statement) (lambdaCount : Nat) : StructuralUnit where
  name := "f"
  kind := .function
  parameterCount := 0
  body
  span := {}
  enclosingType := none
  lambdaCount
  realLines := 0

namespace Place

/-- The visit that the body of a callable begins with, if it has a body. -/
def starts (p : Place) : List Visit := (p.node.childWithRole? .body).toList.map Visit.start

/-- The visits of the body of a callable. -/
def visits (p : Place) : List Visit := p.starts.flatMap Visit.visits

/-- **The unit at a place holds the body at the place**: the statements that the body becomes and
the lambdas in it, nothing of which is at fault. -/
structure HasBody (p : Place) (u : StructuralUnit) : Prop where
  body : u.body = p.starts.flatMap Visit.statements
  lambdaCount : u.lambdaCount = Build.lambdaCount p.visits
  faultless : ∀ e, ¬Build.Faults p.visits e

variable {p : Place} {u : StructuralUnit}

theorem hasBody_of_ofBody {b : Node} (hb : p.node.childWithRole? .body = some b)
    (h : ofBody b = .ok (u.body, u.lambdaCount)) : p.HasBody u := by
  obtain ⟨hbody, hcount, hfaults⟩ := ofBody_eq_ok h
  have hs : p.starts = [Visit.start b] := by simp [starts, hb]
  have hv : p.visits = (Visit.start b).visits := by simp [visits, hs]
  exact ⟨by simpa [hs] using hbody, by rw [hv, hcount], by rwa [hv]⟩

theorem Describes.hasBody {lines : LineIndex} {q : List Place × Place} (h : Describes lines q u) :
    q.2.HasBody u := by
  rcases h with h | h
  · obtain ⟨b, hb, hbody⟩ := h.body
    exact hasBody_of_ofBody hb hbody
  · rcases h.body with ⟨b, hb, hbody⟩ | ⟨hb, hbody, hcount⟩
    · exact hasBody_of_ofBody hb hbody
    · have hs : q.2.starts = [] := by simp [starts, hb]
      have hv : q.2.visits = [] := by simp [visits, hs]
      exact ⟨by simp [hs, hbody], by simp [hv, hcount], by simp [hv]⟩

theorem map_snd_ofUnits (before ps : List Place) :
    (ofUnits before ps).map Prod.snd = ps.filter hasUnit := by
  induction ps generalizing before with
  | nil => rfl
  | cons p ps ih => by_cases h : p.hasUnit <;> simp [ofUnits, h, ih]

end Place

/-- The units of a tree are those at its places, one by one, each after the places before it. -/
theorem forall₂_ofUnits_of_collect {lines : LineIndex} {root : Node} {units : List StructuralUnit}
    {R : List Place × Place → StructuralUnit → Prop} (hR : ∀ q u, Place.Describes lines q u → R q u)
    (h : collect lines root = .ok units) :
    List.Forall₂ R (Place.ofUnits [] (Place.root root).places) units := by
  rw [collect_eq] at h
  obtain ⟨w, hfold, hunits⟩ := bind_eq_ok h
  obtain ⟨us, hus, hdescribed⟩ := Place.foldlM_meet_eq_ok Place.remembers_nil hfold
  cases hunits
  rw [hus]
  exact hdescribed.imp hR

/-- The units of a tree are those at its places, one by one. -/
theorem forall₂_of_collect {lines : LineIndex} {root : Node} {units : List StructuralUnit}
    {R : Place → StructuralUnit → Prop} (hR : ∀ q u, Place.Describes lines q u → R q.2 u)
    (h : collect lines root = .ok units) :
    List.Forall₂ R ((Place.root root).places.filter Place.hasUnit) units := by
  rw [← Place.map_snd_ofUnits [], List.forall₂_map_left_iff]
  exact forall₂_ofUnits_of_collect hR h

/-- **The units of a tree hold the bodies at its places**, one by one. -/
theorem collect_hasBody {lines : LineIndex} {root : Node} {units : List StructuralUnit}
    (h : collect lines root = .ok units) :
    List.Forall₂ Place.HasBody ((Place.root root).places.filter Place.hasUnit) units :=
  forall₂_of_collect (fun _ _ => Place.Describes.hasBody) h

end StructuralUnit

namespace StructuralModel

open StructuralUnit

variable {d : Document} {m : StructuralModel}

/-- The units of a model are those of its tree in another order. -/
theorem exists_units_of_ofDocument (h : ofDocument d = .ok m) : ∃ units, units.Perm m.units ∧
    List.Forall₂ Place.HasBody ((Place.root d.root).places.filter Place.hasUnit) units := by
  obtain ⟨units, hunits, hm⟩ := bind_eq_ok h
  cases hm
  exact ⟨units, (List.mergeSort_perm ..).symm, collect_hasBody hunits⟩

/-- A unit of a model is described by one of the places of its tree that have units. -/
theorem exists_describes_of_mem_units {u : StructuralUnit} (h : ofDocument d = .ok m)
    (hu : u ∈ m.units) :
    ∃ q ∈ Place.ofUnits [] (Place.root d.root).places, Place.Describes d.lines q u := by
  obtain ⟨units, hunits, hm⟩ := bind_eq_ok h
  cases hm
  have hdescribed : List.Forall₂ (Place.Describes d.lines) _ units :=
    forall₂_ofUnits_of_collect (fun _ _ hq => hq) hunits
  obtain ⟨i, hi, rfl⟩ := List.mem_iff_getElem.1 ((List.mergeSort_perm ..).mem_iff.1 hu)
  have hlt := hdescribed.length_eq ▸ hi
  exact ⟨_, List.getElem_mem hlt, hdescribed.get hlt hi⟩

theorem exists_place_of_mem_units {u : StructuralUnit} (h : ofDocument d = .ok m)
    (hu : u ∈ m.units) : ∃ p ∈ (Place.root d.root).places, p.HasBody u := by
  obtain ⟨q, hq, hdescribed⟩ := exists_describes_of_mem_units h hu
  have hplace : q.2 ∈ (Place.root d.root).places.filter Place.hasUnit := by
    rw [← Place.map_snd_ofUnits []]
    exact List.mem_map_of_mem hq
  exact ⟨q.2, (List.mem_filter.1 hplace).1, hdescribed.hasBody⟩

end StructuralModel

end CodeMetrics
