import CodeMetrics.Proofs.Metrics.Wrappers
import CodeMetrics.Proofs.Statement.Counter

/-!
# The limit on nesting

The limit on open statements bounds what is built. The statements of a unit are at most as high as
the limit, and so is the nesting that is reported for it, whatever the configuration; and building
with a counter of open statements leaves the counter as it finds it, however it ends
(`StructuralModel.nesting_within_limit`).
-/

namespace CodeMetrics

open Cst Build Counting Statement

theorem Build.heightAll_of_ofBody {n : Node} {ss : List Statement} {lambdas : Nat}
    (h : ofBody n = .ok (ss, lambdas)) : heightAll ss ≤ nestingLimit := by
  have hcalls : (calls (nestingLimit + 1)).Follow (level nestingLimit) 0 nestingLimit :=
    follow_calls (Nat.zero_add _) (Nat.lt_succ_self _)
  exact (follows_body hcalls n 0).of_run h

namespace StructuralUnit

theorem Place.HasBody.heightAll_le {p : Place} {u : StructuralUnit} (h : p.HasBody u) :
    heightAll u.body ≤ nestingLimit := by
  rw [h.body]
  refine heightAll_flatMap_le fun v hv => ?_
  obtain ⟨b, hb, rfl⟩ := List.mem_map.1 hv
  -- nothing of the body is at fault, so it is built
  refine heightAll_of_ofBody (ofBody_of_not_faults fun e he => ?_)
  obtain ⟨w, hw, hoffends⟩ := he
  exact h.faultless e ⟨w, List.mem_flatMap.2 ⟨_, hv, hw⟩, hoffends⟩

theorem maxNesting_metrics_le {u : StructuralUnit} (h : heightAll u.body ≤ nestingLimit)
    (config : Config) : (u.metrics config).maxNesting.toNat ≤ nestingLimit := by
  have hle : (Tally.ofStatements config 0 u.body).maxNesting ≤ nestingLimit := by
    have := maxNesting_ofStatements_le config 0 u.body
    omega
  have hlt : (Tally.ofStatements config 0 u.body).maxNesting < UInt32.size :=
    lt_of_le_of_lt hle (by decide)
  exact (UInt32.toNat_ofNat_of_lt' hlt).trans_le hle

end StructuralUnit

namespace StructuralModel

open StructuralUnit

/-- **The limit on nesting bounds every unit, and the counter of open statements never leaks.**

* In a model, the statements of every unit are at most as high as the limit, and in every report on
  it, whatever the configuration, every unit has at most that nesting.
* Building with a counter, unfolded often enough, comes to what building by levels does. A call from
  a builder within the limit leaves as many statements open as it finds, on success and on failure.
* A ladder of any length takes up one level: it is built exactly if each of its arms and its end
  are, each alone with the one statement open. -/
theorem nesting_within_limit :
    (∀ d m, ofDocument d = .ok m →
      (∀ u ∈ m.units, heightAll u.body ≤ nestingLimit) ∧
        ∀ config, ∀ r ∈ (m.report config).units, r.maxNesting.toNat ≤ nestingLimit) ∧
    ∀ j, nestingLimit < j →
      (∀ n, toExcept ((Counting.body (calls j) n 0).run {}) = ofBody n) ∧
      (∀ b : Builder, b.opened ≤ nestingLimit → ∀ n ns d,
        Balanced (Counting.body (calls j) n d) b ∧
          Balanced ((calls j).statement n d) b ∧
          Balanced (Counting.switchItems (calls j) d ns) b ∧
          Balanced (Counting.mergeLambdas (calls j) n d) b) ∧
      (∀ (b : Builder) n d, n.kind = .ifStatement → b.opened < nestingLimit →
        (Succeeds ((calls (j + 1)).statement n d) b ↔
          (∀ m ∈ n :: (ladder n).1, Succeeds (Counting.buildArm (calls j) m d) b.enter) ∧
            Succeeds (Counting.buildEnd (calls j) d (ladder n).2) b.enter)) := by
  constructor
  · intro d m h
    have hheight : ∀ u ∈ m.units, heightAll u.body ≤ nestingLimit := by
      intro u hu
      obtain ⟨p, -, hbody⟩ := exists_place_of_mem_units h hu
      exact hbody.heightAll_le
    refine ⟨hheight, fun config r hr => ?_⟩
    obtain ⟨u, hu, rfl⟩ := List.mem_map.1 hr
    exact maxNesting_metrics_le (hheight u hu) config
  · intro j hj
    refine ⟨fun n => ?_, fun b hb n ns d => ?_, fun b n d hk hb => ?_⟩
    · have hcalls : (calls j).Follow (level nestingLimit) 0 nestingLimit :=
        follow_calls (Nat.zero_add _) hj
      exact (follows_body hcalls n 0).toExcept_run (b := {})
    · have hcalls : (calls j).Follow (level (nestingLimit - b.opened)) b.opened
          (nestingLimit - b.opened) := follow_calls (by omega) (by omega)
      exact ⟨(follows_body hcalls n d).balanced, (hcalls.statement n d).balanced,
        (follows_switchItems hcalls d ns).balanced, (follows_mergeLambdas hcalls n d).balanced⟩
    · exact succeeds_statement_ladder d hj hk hb

/-- The last `if` of `flatLadder`. -/
def lastRung : Node :=
  .bare .ifStatement none [.identifier .condition "y", .bare .compound (some .consequence) []]

/-- A ladder of two arms that hold nothing. -/
def flatLadder : Node :=
  .bare .ifStatement none [
    .identifier .condition "x",
    .bare .compound (some .consequence) [],
    .bare .elseClause (some .alternative) [lastRung]]

/-- The tree of a function whose body is `flatLadder`. -/
def ladderRoot : Node :=
  .bare .translationUnit none [
    .bare .functionDefinition none [
      .identifier .declarator "f",
      .bare .compound (some .body) [flatLadder]]]

/-- The unit of `ladderRoot`. -/
def ladderUnit : StructuralUnit := unitOf [.mk (.ifElse [.mk 0 [], .mk 0 []] none) {} 0 0] 0

/-- With all but one of the levels used up there is room for the two arms of `flatLadder`, which
need one level; and the builder is left as it was found by a call that has no level left. -/
theorem nesting_within_limit_ladder :
    ofDocument ⟨.c, ladderRoot, ⟨[], []⟩⟩ = .ok ⟨.c, [ladderUnit], {}, []⟩ ∧
      heightAll ladderUnit.body ≤ nestingLimit ∧
      Succeeds ((calls (nestingLimit + 2)).statement flatLadder 0) ⟨5, 127⟩ ∧
      Balanced ((calls (nestingLimit + 1)).statement flatLadder 0) ⟨5, 128⟩ := by
  have hmodel : ofDocument ⟨.c, ladderRoot, ⟨[], []⟩⟩ = .ok ⟨.c, [ladderUnit], {}, []⟩ := by cbv
  obtain ⟨hbound, hcounter⟩ := nesting_within_limit
  obtain ⟨-, hbalanced, hladder⟩ := hcounter (nestingLimit + 1) (Nat.lt_succ_self _)
  have hnext : ladderNext flatLadder = .next lastRung := rfl
  have hlast : ladderNext lastRung = .done .open := rfl
  have hmembers : ladder flatLadder = ([lastRung], .open) := by
    rw [Visit.ladder_of_next hnext, Visit.ladder_of_done hlast]
  have harm : ∀ m ∈ [flatLadder, lastRung],
      Succeeds (Counting.buildArm (calls (nestingLimit + 1)) m 0) ⟨5, 128⟩ := by
    refine List.forall_mem_cons.2 ⟨⟨⟨0, [], .mk 0 []⟩, ⟨5, 128⟩, ?_⟩,
      List.forall_mem_singleton.2 ⟨⟨0, [], .mk 0 []⟩, ⟨5, 128⟩, ?_⟩⟩
    · with_unfolding_all rfl
    · with_unfolding_all rfl
  refine ⟨hmodel, (hbound _ _ hmodel).1 ladderUnit List.mem_cons_self, ?_,
    (hbalanced ⟨5, 128⟩ (by decide) flatLadder [] 0).2.1⟩
  refine (hladder ⟨5, 127⟩ flatLadder 0 rfl (by decide)).2 ?_
  rw [hmembers]
  exact ⟨harm, none, ⟨5, 128⟩, rfl⟩

end StructuralModel

end CodeMetrics
