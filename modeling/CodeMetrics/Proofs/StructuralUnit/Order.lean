import CodeMetrics.Metrics
import CodeMetrics.Proofs.Cst.Spans
import CodeMetrics.Proofs.StructuralUnit.Bodies

/-!
# Units come in source order

The units of a model are found by a walk over the tree and then sorted by where they begin. If the
spans of the tree are those of a text, the sort has nothing to do: nothing is looked at below a
callable, so of two units that are found neither lies in the other, and the one that is found first
ends before the other one begins (`StructuralUnit.Place.pairwise_places`). The order of the units is
then that of their positions, in whatever order they are found.
-/

namespace CodeMetrics

open Cst

namespace StructuralUnit

namespace Place

theorem isCallable_of_hasUnit {p : Place} (h : p.hasUnit) : p.isCallable := by
  unfold hasUnit at h
  unfold isCallable
  cases hl : p.isLambda <;> simp_all

theorem below_eq_nil {p : Place} (h : p.isCallable) : p.below = [] := by
  rw [below, if_pos h]

/-- The places below a place come in the order of the text, as the children do. -/
theorem pairwise_below {p : Place} (h : p.node.SpansInOrder) :
    p.below.Pairwise fun q r => q.node.span.Before r.node.span := by
  unfold below
  split
  · exact .nil
  · have hchildren := h.siblings p.node (Node.mem_nodes_self _)
    exact List.pairwise_map.2 (hchildren.sublist List.filter_sublist)

/-- **The places of units come in the order of the text**, and none lies in another one. -/
theorem pairwise_places {p : Place} (h : p.node.SpansInOrder) :
    (p.places.filter hasUnit).Pairwise fun q r => q.node.span.Before r.node.span := by
  induction p using places.induct with
  | case1 p ih =>
    rw [places_eq, List.filter_cons]
    split
    · next hunit =>
      rw [below_eq_nil (isCallable_of_hasUnit hunit)]
      exact List.pairwise_singleton _ _
    · have hbelow {q : Place} (hq : q ∈ p.below) : q.node.SpansInOrder :=
        h.of_mem_children (mem_children_of_mem_below hq)
      rw [List.filter_flatMap, List.pairwise_flatMap]
      refine ⟨fun q hq => ih ⟨q, hq⟩ (hbelow hq), ?_⟩
      -- whatever is found below two siblings lies in their spans
      refine (pairwise_below h).imp_of_mem fun {q r} hq hr hqr x hx y hy => ?_
      have hx := node_mem_nodes_of_mem_places (List.mem_filter.1 hx).1
      have hy := node_mem_nodes_of_mem_places (List.mem_filter.1 hy).1
      exact hqr.of_contains ((hbelow hq).nest.contains_of_mem_nodes hx)
        ((hbelow hr).nest.contains_of_mem_nodes hy)

theorem Describes.span_eq {lines : LineIndex} {q : List Place × Place} {u : StructuralUnit}
    (h : Describes lines q u) : q.2.node.span = u.span := by
  rcases h with h | h
  · exact h.span.symm
  · exact h.span.symm

end Place

section Collect

variable {lines : LineIndex} {root : Node} {units : List StructuralUnit}

theorem map_span_of_collect (h : collect lines root = .ok units) :
    ((Place.root root).places.filter Place.hasUnit).map (fun p => p.node.span) =
      units.map fun u => u.span := by
  have hspans : List.Forall₂ (fun (p : Place) u => p.node.span = u.span) _ units :=
    forall₂_of_collect (fun _ _ => Place.Describes.span_eq) h
  rw [← List.forall₂_eq_eq_eq, List.forall₂_map_left_iff, List.forall₂_map_right_iff]
  exact hspans

/-- **The units of a tree are found in the order of the text.** -/
theorem pairwise_before_of_collect (hroot : root.SpansInOrder)
    (h : collect lines root = .ok units) :
    units.Pairwise fun u v => u.span.Before v.span := by
  have hplaces : (Place.root root).node.SpansInOrder := hroot
  have hspans : (units.map fun u => u.span).Pairwise Span.Before := by
    rw [← map_span_of_collect h]
    exact List.pairwise_map.2 (Place.pairwise_places hplaces)
  exact List.pairwise_map.1 hspans

theorem start_le_stop_of_collect (hroot : root.SpansInOrder) (h : collect lines root = .ok units) :
    ∀ u ∈ units, u.span.start ≤ u.span.stop := by
  intro u hu
  have hspan : u.span ∈ units.map fun u => u.span := List.mem_map_of_mem hu
  rw [← map_span_of_collect h] at hspan
  obtain ⟨p, hp, heq⟩ := List.mem_map.1 hspan
  have hnode := Place.node_mem_nodes_of_mem_places (List.mem_filter.1 hp).1
  exact heq ▸ hroot.start_le_stop p.node hnode

end Collect

end StructuralUnit

namespace StructuralModel

open StructuralUnit

/-! ### Sorting -/

theorem sortUnits_eq_self {units : List StructuralUnit}
    (h : units.Pairwise fun u v => u.span.start ≤ v.span.start) : sortUnits units = units :=
  List.mergeSort_of_pairwise (by simpa using h)

theorem pairwise_sortUnits (units : List StructuralUnit) :
    (sortUnits units).Pairwise fun u v => u.span.start ≤ v.span.start := by
  have hsorted : (sortUnits units).Pairwise fun u v => decide (u.span.start ≤ v.span.start) :=
    List.pairwise_mergeSort (fun u v w => by simpa using Nat.le_trans)
      (fun u v => by simpa using Nat.le_total _ _) units
  simpa using hsorted

/-- Units of which no two begin at the same byte have one order only. -/
theorem sortUnits_eq_of_perm {us units : List StructuralUnit} (hperm : us.Perm units)
    (h : units.Pairwise fun u v => u.span.start < v.span.start) : sortUnits us = units := by
  have hnodup : (units.map fun u => u.span.start).Nodup :=
    List.pairwise_map.2 (h.imp Nat.ne_of_lt)
  have hsort : (sortUnits us).Perm units := (List.mergeSort_perm us _).trans hperm
  refine hsort.eq_of_pairwise (fun u v hu hv huv hvu => ?_) (pairwise_sortUnits us)
    (h.imp Nat.le_of_lt)
  exact List.inj_on_of_nodup_map hnodup (hsort.mem_iff.1 hu) hv (Nat.le_antisymm huv hvu)

/-- The bytes between which a unit stands. -/
def position (u : StructuralUnit) : Nat × Nat := (u.span.start, u.span.stop)

/-- Units that follow each other in the text have one order of positions only. -/
theorem map_position_eq_of_perm {us units : List StructuralUnit} (hperm : us.Perm units)
    (hle : ∀ u ∈ units, u.span.start ≤ u.span.stop)
    (hus : us.Pairwise fun u v => u.span.stop ≤ v.span.start)
    (hunits : units.Pairwise fun u v => u.span.stop ≤ v.span.start) :
    us.map position = units.map position := by
  have hmap (vs : List StructuralUnit) (h : vs.Pairwise fun u v => u.span.stop ≤ v.span.start) :
      (vs.map position).Pairwise fun p q => p.2 ≤ q.1 := List.pairwise_map.2 h
  refine (hperm.map position).eq_of_pairwise ?_ (hmap us hus) (hmap units hunits)
  intro p q hp hq hpq hqp
  obtain ⟨u, hu, rfl⟩ := List.mem_map.1 hp
  obtain ⟨v, hv, rfl⟩ := List.mem_map.1 hq
  have hu := hle u (hperm.mem_iff.1 hu)
  have hv := hle v hv
  simp only [position, Prod.mk.injEq] at *
  omega

/-- Whether a byte of the source belongs to a unit. -/
def holdsByte (byte : Nat) (u : StructuralUnit) : Bool :=
  u.span.start ≤ byte && byte < u.span.stop

theorem countP_holdsByte_le {units : List StructuralUnit}
    (h : units.Pairwise fun u v => u.span.Before v.span) (byte : Nat) :
    units.countP (holdsByte byte) ≤ 1 := by
  induction h with
  | nil => simp
  | @cons u units hu _ ih =>
    rw [List.countP_cons]
    split
    · next hbyte =>
      have hrest : units.countP (holdsByte byte) = 0 := by
        refine List.countP_eq_zero.2 fun v hv hvbyte => ?_
        have hbefore := hu v hv
        simp only [holdsByte, Bool.and_eq_true, decide_eq_true_eq, Span.Before] at *
        omega
      omega
    · exact ih

/-- **Units come in source order and do not overlap**, if the spans of the tree come in the order of
a text. A unit ends before the next one begins, so no byte belongs to two units; they are found in
this order and the sort leaves it; and the report keeps it. There is only one such order of
positions; and in whatever order the units are found, the same report comes out, if none of them is
empty. -/
theorem units_inOrder {d : Document} {m : StructuralModel} (hroot : d.root.SpansInOrder)
    (h : ofDocument d = .ok m) :
    (m.units.Pairwise fun u v => u.span.stop ≤ v.span.start) ∧
      (∀ byte, m.units.countP (holdsByte byte) ≤ 1) ∧
      (m.units.Pairwise fun u v => u.span.start ≤ v.span.start) ∧
      collect d.lines d.root = .ok m.units ∧
      (∀ config, (m.report config).units = m.units.map (StructuralUnit.metrics config)) ∧
      (∀ found : List StructuralUnit, found.Perm m.units →
        (found.Pairwise fun u v => u.span.stop ≤ v.span.start) →
          found.map position = m.units.map position) ∧
      ∀ found : List StructuralUnit, found.Perm m.units →
        (∀ u ∈ found, u.span.start < u.span.stop) →
          ∀ config, { m with units := sortUnits found }.report config = m.report config := by
  obtain ⟨units, hunits, hm⟩ := bind_eq_ok h
  have hbefore := pairwise_before_of_collect hroot hunits
  have hle := start_le_stop_of_collect hroot hunits
  have hstarts : units.Pairwise fun u v => u.span.start ≤ v.span.start :=
    hbefore.imp_of_mem fun hu _ huv => Nat.le_trans (hle _ hu) huv
  rw [sortUnits_eq_self hstarts] at hm
  cases hm
  refine ⟨hbefore, countP_holdsByte_le hbefore, hstarts, hunits, fun config => rfl,
    fun found hperm hfound => map_position_eq_of_perm hperm hle hfound hbefore, ?_⟩
  intro found hperm hpos config
  have hlt : units.Pairwise fun u v => u.span.start < v.span.start := by
    refine hbefore.imp_of_mem fun hu _ huv => ?_
    exact Nat.lt_of_lt_of_le (hpos _ (hperm.mem_iff.2 hu)) huv
  rw [sortUnits_eq_of_perm hperm hlt]

/-- A function definition with an empty body, from one byte to another. -/
def functionAt (name : String) (start stop : Nat) : Node :=
  ⟨.functionDefinition, { start, stop }, none, none, [
    ⟨.identifier, { start, stop := start + 1 }, some .declarator, some name, []⟩,
    ⟨.compound, { start := start + 2, stop }, some .body, none, []⟩]⟩

/-- Two functions in a namespace, and a lambda right after it. -/
def namespaceRoot : Node :=
  ⟨.translationUnit, { stop := 30 }, none, none, [
    ⟨.namespaceDefinition, { stop := 20 }, none, none, [
      ⟨.identifier, { start := 2, stop := 3 }, some .name, some "a", []⟩,
      functionAt "f" 4 10, functionAt "g" 10 18]⟩,
    ⟨.other, { start := 20, stop := 30 }, none, none, [
      ⟨.lambda, { start := 20, stop := 28 }, none, none, []⟩]⟩]⟩

/-- A unit with an empty body, from one byte to another. -/
def unitAt (name : String) (kind : UnitKind) (start stop : Nat) : StructuralUnit where
  name := name
  kind := kind
  parameterCount := 0
  body := []
  span := { start, stop }
  enclosingType := none
  lambdaCount := 0
  realLines := 0

/-- The model of `namespaceRoot`. -/
def namespaceModel : StructuralModel where
  language := .cpp
  units := [unitAt "a::f" .function 4 10, unitAt "a::g" .function 10 18,
    unitAt "<lambda>" .lambda 20 28]
  lines := {}
  callChains := []

theorem spansInOrder_namespaceRoot : namespaceRoot.SpansInOrder := by
  constructor <;>
    simp [namespaceRoot, functionAt, Node.SpansNest, Node.nodes_eq, Node.nodesBelow, Span.contains,
      Span.Before]

/-- The units of `namespaceRoot` follow each other, and if they were found from the last to the
first, the report on them would be the same. -/
theorem units_inOrder_namespace :
    namespaceRoot.SpansInOrder ∧
      ofDocument ⟨.cpp, namespaceRoot, ⟨[], []⟩⟩ = .ok namespaceModel ∧
      (namespaceModel.units.Pairwise fun u v => u.span.stop ≤ v.span.start) ∧
      collect ⟨[], []⟩ namespaceRoot = .ok namespaceModel.units ∧
      { namespaceModel with units := sortUnits namespaceModel.units.reverse }.report {} =
        namespaceModel.report {} := by
  have h : ofDocument ⟨.cpp, namespaceRoot, ⟨[], []⟩⟩ = .ok namespaceModel := by cbv
  obtain ⟨hbefore, -, -, hcollect, -, -, hfound⟩ := units_inOrder spansInOrder_namespaceRoot h
  exact ⟨spansInOrder_namespaceRoot, h, hbefore, hcollect,
    hfound _ (List.reverse_perm _) (by decide) {}⟩

end StructuralModel

end CodeMetrics
