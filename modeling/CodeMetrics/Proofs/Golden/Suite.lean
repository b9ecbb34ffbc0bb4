import CodeMetrics.Golden.Suite
import CodeMetrics.Proofs.Golden.RoundTrip
import CodeMetrics.Proofs.Keyed
import Mathlib.Data.Finset.Card

/-!
# The results of a suite

A suite records one outcome after the other in three groups. What comes out is decided by the set of
identifiers alone: each group tabulates what the outcomes of the identifiers say about it
(`SuiteResult.Reflects`), since recording one more outcome keeps it that way and the outcome of an
identifier is the same whenever it is found. An outcome says something about exactly one group, so
the groups share no identifier and leave none out.
-/

namespace CodeMetrics

/-! ### Outcomes -/

/-- What comparing one fixture comes to. -/
abbrev GoldenOutcome := Except GoldenError Comparison

namespace GoldenOutcome

/-- Whether a fixture passes. -/
def passed? : GoldenOutcome → Option Unit
  | .ok .same => some ()
  | _ => none

/-- The differences of a fixture that fails. -/
def mismatches? : GoldenOutcome → Option (List Mismatch)
  | .ok (.different _ mismatches) => some mismatches
  | _ => none

/-- Why a fixture cannot be compared. -/
def error? : GoldenOutcome → Option GoldenError
  | .error e => some e
  | _ => none

theorem passed?_eq_some {o : GoldenOutcome} : passed? o = some () ↔ o = .ok .same := by
  rcases o with _ | _ | _ <;> simp [passed?]

theorem mismatches?_eq_some {o : GoldenOutcome} {ms : List Mismatch} :
    mismatches? o = some ms ↔ ∃ id, o = .ok (.different id ms) := by
  rcases o with _ | _ | _ <;> simp [mismatches?]

theorem error?_eq_some {o : GoldenOutcome} {e : GoldenError} :
    error? o = some e ↔ o = .error e := by
  rcases o with _ | _ | _ <;> simp [error?]

end GoldenOutcome

open GoldenOutcome

theorem Comparison.ofReports_ne_different_nil (id i : String) (e a : Report) :
    ofReports id e a ≠ .different i [] := by
  unfold ofReports
  split
  · nofun
  · next hne =>
    intro h
    injection h with _ hnil
    exact hne hnil

/-- A fixture that fails has differences. -/
theorem Fixture.compare_ne_different_nil (config : Config) (f : Fixture) (id : String) :
    f.compare config ≠ .ok (.different id []) := by
  unfold Fixture.compare
  split
  · nofun
  · split
    · nofun
    · exact fun h => Comparison.ofReports_ne_different_nil _ _ _ _ (Except.ok.inj h)

namespace FixtureStore

variable {config : Config} {store : FixtureStore} {id : String}

theorem compare_ne_different_nil (i : String) :
    compare config store id ≠ .ok (.different i []) := by
  unfold compare
  split
  · nofun
  · next f _ => exact f.compare_ne_different_nil config i

/-- A fixture that is not in the store is not found. -/
theorem compare_of_get?_eq_none (h : store.get? id = none) :
    compare config store id = .error (.notFound id) := by
  simp [compare, find, h]

end FixtureStore

/-! ### Recording outcomes -/

namespace SuiteResult

/-- **What the results of a suite say about identifiers with known outcomes**: each group tabulates
its part of the outcomes. -/
structure Reflects (outcome : String → GoldenOutcome) (ids : List String) (r : SuiteResult) :
    Prop where
  passed : r.passed.Tabulates (fun id => passed? (outcome id)) ids
  failed : r.failed.Tabulates (fun id => mismatches? (outcome id)) ids
  errors : r.errors.Tabulates (fun id => error? (outcome id)) ids

/-- Records outcomes one after the other. -/
def recordAll (r : SuiteResult) (outcomes : List (String × GoldenOutcome)) : SuiteResult :=
  outcomes.foldl (fun r o => r.record o.1 o.2) r

namespace Reflects

variable {outcome : String → GoldenOutcome} {ids ids' : List String} {r r' : SuiteResult}

theorem empty : Reflects outcome [] {} := ⟨.empty, .empty, .empty⟩

/-- Recording the outcome of one more identifier puts it into its group and leaves the others. -/
theorem record (h : Reflects outcome ids r) (id : String) :
    Reflects outcome (id :: ids) (r.record id (outcome id)) := by
  obtain ⟨hpassed, hfailed, herrors⟩ := h
  rcases ho : outcome id with e | _ | ⟨i, ms⟩
  · exact ⟨hpassed.skip (by simp [ho, passed?]), hfailed.skip (by simp [ho, mismatches?]),
      herrors.insert (by simp [ho, error?])⟩
  · exact ⟨hpassed.insert (by simp [ho, passed?]), hfailed.skip (by simp [ho, mismatches?]),
      herrors.skip (by simp [ho, error?])⟩
  · exact ⟨hpassed.skip (by simp [ho, passed?]), hfailed.insert (by simp [ho, mismatches?]),
      herrors.skip (by simp [ho, error?])⟩

/-- **Recording the outcomes of identifiers**, in any order and any number of times. -/
theorem recordAll {outcomes : List (String × GoldenOutcome)} (h : Reflects outcome ids r)
    (ho : ∀ o ∈ outcomes, o.2 = outcome o.1) :
    Reflects outcome ((outcomes.map Prod.fst).reverse ++ ids) (r.recordAll outcomes) := by
  induction outcomes generalizing ids r with
  | nil => exact h
  | cons o outcomes ih =>
    have hone := h.record o.1
    rw [← ho o List.mem_cons_self] at hone
    have hrest := ih hone fun p hp => ho p (List.mem_cons_of_mem o hp)
    simpa [SuiteResult.recordAll] using hrest

/-- Nothing but the set of identifiers decides the results. -/
theorem eq_of_mem_iff (h : Reflects outcome ids r) (h' : Reflects outcome ids' r')
    (hmem : ∀ id, id ∈ ids ↔ id ∈ ids') : r = r' := by
  have hpassed := h.passed.eq_of_mem_iff h'.passed hmem
  have hfailed := h.failed.eq_of_mem_iff h'.failed hmem
  have herrors := h.errors.eq_of_mem_iff h'.errors hmem
  cases r
  cases r'
  simp_all

/-- No two groups share an identifier, for an outcome belongs to one group only. -/
theorem disjoint (h : Reflects outcome ids r) :
    r.passed.names.Disjoint r.failed.names ∧ r.passed.names.Disjoint r.errors.names ∧
      r.failed.names.Disjoint r.errors.names := by
  simp only [List.Disjoint, h.passed.mem_names, h.failed.mem_names, h.errors.mem_names]
  refine ⟨fun {id} hp hf => ?_, fun {id} hp he => ?_, fun {id} hf he => ?_⟩ <;>
    rcases ho : outcome id with _ | _ | _ <;> simp_all [passed?, mismatches?, error?]

/-- No identifier is left out, for an outcome belongs to some group. -/
theorem mem_names (h : Reflects outcome ids r) (id : String) :
    id ∈ r.passed.names ++ r.failed.names ++ r.errors.names ↔ id ∈ ids := by
  simp only [List.mem_append, h.passed.mem_names, h.failed.mem_names, h.errors.mem_names]
  rcases outcome id with _ | _ | _ <;> simp [passed?, mismatches?, error?]

/-- The number of fixtures of the results is that of the identifiers, each counted once. -/
theorem total_eq (h : Reflects outcome ids r) : r.total = ids.toFinset.card := by
  obtain ⟨hpf, hpe, hfe⟩ := h.disjoint
  have hnodup : (r.passed.names ++ r.failed.names ++ r.errors.names).Nodup := by
    refine (h.passed.sorted.nodup_names.append h.failed.sorted.nodup_names hpf).append
      h.errors.sorted.nodup_names ?_
    exact List.disjoint_append_left.2 ⟨hpe, hfe⟩
  have hset : (r.passed.names ++ r.failed.names ++ r.errors.names).toFinset = ids.toFinset :=
    Finset.ext fun id => by rw [List.mem_toFinset, List.mem_toFinset, h.mem_names]
  rw [← hset, List.toFinset_card_of_nodup hnodup]
  simp [SuiteResult.total, Keyed.size, Keyed.names, Nat.add_assoc]

theorem isSuccess_iff (h : Reflects outcome ids r) :
    r.isSuccess ↔ ∀ id ∈ ids, outcome id = .ok .same := by
  have hsame (id : String) : outcome id = .ok .same ↔
      (mismatches? (outcome id)).isSome = false ∧ (error? (outcome id)).isSome = false := by
    rcases outcome id with _ | _ | _ <;> simp [mismatches?, error?]
  simp only [SuiteResult.isSuccess, Bool.and_eq_true, Keyed.isEmpty_iff, h.failed.mem_names,
    h.errors.mem_names, hsame]
  constructor
  · intro ⟨hfailed, herrors⟩ id hid
    exact ⟨by simpa [hid] using hfailed id, by simpa [hid] using herrors id⟩
  · intro hall
    exact ⟨fun id ⟨hid, hf⟩ => by simp [hall id hid] at hf,
      fun id ⟨hid, he⟩ => by simp [hall id hid] at he⟩

/-- If every outcome is a pass, there is nothing in the other groups. -/
theorem names_of_forall_same (h : Reflects outcome ids r)
    (hsame : ∀ id ∈ ids, outcome id = .ok .same) :
    (∀ id, id ∈ r.passed.names ↔ id ∈ ids) ∧ r.failed.names = [] ∧ r.errors.names = [] := by
  simp only [List.eq_nil_iff_forall_not_mem, h.passed.mem_names, h.failed.mem_names,
    h.errors.mem_names]
  refine ⟨fun id => ⟨And.left, fun hid => ⟨hid, ?_⟩⟩, fun id ⟨hid, hf⟩ => ?_, fun id ⟨hid, he⟩ => ?_⟩
  · simp [hsame id hid, passed?]
  · simp [hsame id hid, mismatches?] at hf
  · simp [hsame id hid, error?] at he

end Reflects

end SuiteResult

namespace FixtureStore

open SuiteResult

theorem runSuite_eq_recordAll (config : Config) (store : FixtureStore) (ids : List String) :
    runSuite config store ids =
      ({} : SuiteResult).recordAll (ids.map fun id => (id, compare config store id)) := by
  rw [runSuite, recordAll, List.foldl_map]

theorem reflects_runSuite (config : Config) (store : FixtureStore) (ids : List String) :
    Reflects (compare config store) ids.reverse (runSuite config store ids) := by
  have hcompared : ∀ o ∈ ids.map fun id => (id, compare config store id),
      o.2 = compare config store o.1 := by simp
  have hids : (ids.map fun id => (id, compare config store id)).map Prod.fst = ids := by
    simp [Function.comp_def]
  have h := Reflects.empty.recordAll hcompared
  rwa [hids, List.append_nil, ← runSuite_eq_recordAll] at h

/-- **The results of a suite sort the identifiers into three groups**, each where comparing it alone
puts it, with what comparing it alone gives, and count each of them once. A fixture that fails has
differences, and one that is not in the store is recorded as not found; all fixtures pass exactly if
each does. In which order and how often the identifiers are given, or their outcomes recorded,
makes no difference. -/
theorem runSuite_sorts (config : Config) (store : FixtureStore) (ids : List String) :
    let r := runSuite config store ids
    (r.passed.names.Disjoint r.failed.names ∧ r.passed.names.Disjoint r.errors.names ∧
        r.failed.names.Disjoint r.errors.names) ∧
      (∀ id, id ∈ r.passed.names ++ r.failed.names ++ r.errors.names ↔ id ∈ ids) ∧
      (∀ id, id ∈ r.passed.names ↔ id ∈ ids ∧ compare config store id = .ok .same) ∧
      (∀ id ms, r.failed.get? id = some ms ↔
        id ∈ ids ∧ ∃ i, compare config store id = .ok (.different i ms)) ∧
      (∀ id e, r.errors.get? id = some e ↔ id ∈ ids ∧ compare config store id = .error e) ∧
      (∀ entry ∈ r.failed.entries, entry.2 ≠ []) ∧
      (∀ id ∈ ids, store.get? id = none → r.errors.get? id = some (.notFound id)) ∧
      r.total = ids.toFinset.card ∧
      (r.isSuccess ↔ ∀ id ∈ ids, compare config store id = .ok .same) ∧
      (∀ ids' : List String, (∀ id, id ∈ ids' ↔ id ∈ ids) → runSuite config store ids' = r) ∧
      ∀ outcomes : List (String × GoldenOutcome),
        (∀ o, o ∈ outcomes ↔ ∃ id ∈ ids, o = (id, compare config store id)) →
          ({} : SuiteResult).recordAll outcomes = r := by
  intro r
  have h : Reflects (compare config store) ids.reverse r := reflects_runSuite config store ids
  have hfailed (id : String) (ms : List Mismatch) : r.failed.get? id = some ms ↔
      id ∈ ids ∧ ∃ i, compare config store id = .ok (.different i ms) := by
    rw [h.failed.get?_eq_some, List.mem_reverse, mismatches?_eq_some]
  have herrors (id : String) (e : GoldenError) : r.errors.get? id = some e ↔
      id ∈ ids ∧ compare config store id = .error e := by
    rw [h.errors.get?_eq_some, List.mem_reverse, error?_eq_some]
  refine ⟨h.disjoint, fun id => by rw [h.mem_names, List.mem_reverse], fun id => ?_, hfailed,
    herrors, fun entry hentry hnil => ?_, fun id hid hstore => ?_, ?_, ?_, fun ids' hids => ?_,
    fun outcomes ho => ?_⟩
  · rw [h.passed.mem_names, List.mem_reverse, Option.isSome_iff_exists, ← passed?_eq_some]
    exact and_congr_right fun _ => ⟨fun ⟨_, hp⟩ => hp, fun hp => ⟨(), hp⟩⟩
  · obtain ⟨-, i, hi⟩ := (hfailed _ _).1 (h.failed.sorted.mem_entries.1 hentry)
    exact compare_ne_different_nil i (hnil ▸ hi)
  · exact (herrors id _).2 ⟨hid, compare_of_get?_eq_none hstore⟩
  · rw [h.total_eq, List.toFinset_reverse]
  · rw [h.isSuccess_iff]
    simp only [List.mem_reverse]
  · refine (reflects_runSuite config store ids').eq_of_mem_iff h fun id => ?_
    rw [List.mem_reverse, List.mem_reverse, hids]
  · have hcompared : ∀ o ∈ outcomes, o.2 = compare config store o.1 := by
      intro o hmem
      obtain ⟨id, -, rfl⟩ := (ho o).1 hmem
      rfl
    refine (Reflects.empty.recordAll hcompared).eq_of_mem_iff h fun id => ?_
    simp [ho]

/-- A store with one fixture, whose stored report cannot be read. -/
def unreadableStore : FixtureStore := FixtureStore.add {} ⟨"a", .c, "", "no report"⟩

/-- An identifier that is given twice counts once, and its place in the list makes no difference. -/
theorem runSuite_sorts_unknown :
    (runSuite {} unreadableStore ["b", "a", "b"]).total = 2 ∧
      unreadableStore.get? "b" = none ∧
      (runSuite {} unreadableStore ["b", "a", "b"]).errors.get? "b" = some (.notFound "b") ∧
      runSuite {} unreadableStore ["a", "b"] =
        runSuite {} unreadableStore ["b", "a", "b"] := by
  obtain ⟨-, -, -, -, -, -, hunknown, htotal, -, hids, -⟩ :=
    runSuite_sorts {} unreadableStore ["b", "a", "b"]
  have hb : unreadableStore.get? "b" = none := by decide
  exact ⟨htotal.trans (by decide), hb, hunknown "b" List.mem_cons_self hb,
    hids _ (by simp [or_comm])⟩

end FixtureStore

end CodeMetrics
