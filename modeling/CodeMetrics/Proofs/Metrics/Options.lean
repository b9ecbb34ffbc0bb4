import CodeMetrics.Proofs.Golden.Diff
import CodeMetrics.Proofs.Metrics.Statements

/-!
# What the options of a configuration govern

The options fall into groups (`OptionGroup`), and each group governs some fields of a report: the
options of counting the cyclomatic complexity and what is derived from it, each threshold the number
or the flag that it decides. Reports on one model under configurations that differ in one group
differ only in the fields of the group (`StructuralModel.differsOnlyIn_report`).

Within its group, an option works in one direction: what is counted in addition adds to the
complexity, and a higher threshold is passed by less.
-/

namespace CodeMetrics

open Tally ReportField Mismatch

/-! ### Reports that differ in some fields only -/

/-- **Reports that differ in some fields only**: their differences are in fields of the file with
one of some names, or in fields of a unit with one of some other names. -/
def Report.DiffersOnlyIn (file unit : List String) (e a : Report) : Prop :=
  ∀ d ∈ e.diff a, (d.unit = fileUnit ∧ d.field ∈ file) ∨
    ∃ u ∈ e.units, d.unit = u.name ∧ d.field ∈ unit

namespace ReportField

variable {α : Type}

/-- Whether two records agree on all fields of a table but those with some names. -/
def AgreeBut (names : List String) (table : List (ReportField α)) (a b : α) : Prop :=
  ∀ f ∈ table, f.name ∉ names → f.get a = f.get b

theorem AgreeBut.of_mem_filterMap {names : List String} {table : List (ReportField α)} {a b : α}
    (h : AgreeBut names table a b) {unit : String} {d : Mismatch}
    (hd : d ∈ table.filterMap (mismatch? unit a b)) : d.unit = unit ∧ d.field ∈ names := by
  obtain ⟨f, hf, hd⟩ := List.mem_filterMap.1 hd
  unfold mismatch? at hd
  split at hd
  · cases hd
  · next hne =>
    cases hd
    exact ⟨rfl, by_contra fun hname => hne (h f hf hname)⟩

end ReportField

theorem Mismatch.mem_ofUnits {names : List String} {es as : List UnitMetrics}
    (h : List.Forall₂ (AgreeBut names UnitMetrics.table) es as) {d : Mismatch}
    (hd : d ∈ ofUnits es as) : ∃ u ∈ es, d.unit = u.name ∧ d.field ∈ names := by
  induction h with
  | nil => simp [ofUnits] at hd
  | @cons e a es as hagree _ ih =>
    rw [ofUnits, UnitMetrics.fields_eq, UnitMetrics.fields_eq, ofFields_texts] at hd
    rcases List.mem_append.1 hd with hd | hd
    · exact ⟨e, List.mem_cons_self, hagree.of_mem_filterMap hd⟩
    · obtain ⟨u, hu, hd⟩ := ih hd
      exact ⟨u, List.mem_cons_of_mem e hu, hd⟩

theorem Report.differsOnlyIn_of_agreeBut {file unit : List String} {e a : Report}
    (hl : e.language = a.language) (hs : AgreeBut file FileSummary.table e.summary a.summary)
    (hu : List.Forall₂ (AgreeBut unit UnitMetrics.table) e.units a.units) :
    e.DiffersOnlyIn file unit a := by
  intro d hd
  have htable : AgreeBut file Report.table e a := fun f hf hname => by
    rcases List.mem_cons.1 hf with rfl | hf
    · exact hl
    · obtain ⟨g, hg, rfl⟩ := List.mem_map.1 hf
      exact hs g hg hname
  rw [Report.diff_eq] at hd
  rcases List.mem_append.1 hd with hd | hd
  · exact Or.inl (htable.of_mem_filterMap hd)
  · exact Or.inr (mem_ofUnits hu hd)

/-! ### Groups of options -/

/-- The options of a configuration, by what they govern. -/
inductive OptionGroup where
  /-- What is counted as a decision. -/
  | counting
  | longMethods
  | longParameterLists
  | messageChains
  | excessiveComments
  deriving DecidableEq

namespace OptionGroup

/-- Whether two configurations have the same options of a group. -/
def Same (c c' : Config) : OptionGroup → Prop
  | counting =>
    c.countLogicalOperators = c'.countLogicalOperators ∧
      c.countDefaultLabel = c'.countDefaultLabel ∧ c.countElseBranch = c'.countElseBranch ∧
      c.countConditionalExpressions = c'.countConditionalExpressions
  | longMethods =>
    c.longMethodThreshold = c'.longMethodThreshold ∧ c.longMethodMeasure = c'.longMethodMeasure
  | longParameterLists => c.longParameterListThreshold = c'.longParameterListThreshold
  | messageChains => c.messageChainThreshold = c'.messageChainThreshold
  | excessiveComments => c.excessiveCommentsThreshold = c'.excessiveCommentsThreshold

/-- The fields of a summary that a group governs. -/
def fileFields : OptionGroup → List String
  | counting =>
    ["total_cyclomatic", "cyclomatic.min", "cyclomatic.max", "cyclomatic.mean",
      "cyclomatic.median"]
  | longMethods => ["long_methods"]
  | longParameterLists => ["long_parameter_lists"]
  | messageChains => ["message_chains"]
  | excessiveComments => ["excessive_comments"]

/-- The fields of the metrics of a unit that a group governs. -/
def unitFields : OptionGroup → List String
  | counting => ["cyclomatic"]
  | longMethods => ["long_method"]
  | longParameterLists | messageChains | excessiveComments => []

/-- A summary with the fields that a group governs taken from another one. -/
def summaryFrom (s t : FileSummary) : OptionGroup → FileSummary
  | counting => { s with totalCyclomatic := t.totalCyclomatic, cyclomatic := t.cyclomatic }
  | longMethods => { s with longMethods := t.longMethods }
  | longParameterLists => { s with longParameterLists := t.longParameterLists }
  | messageChains => { s with messageChains := t.messageChains }
  | excessiveComments => { s with excessiveComments := t.excessiveComments }

/-- Metrics of a unit with the fields that a group governs taken from other ones. -/
def metricsFrom (u v : UnitMetrics) : OptionGroup → UnitMetrics
  | counting => { u with cyclomatic := v.cyclomatic }
  | longMethods => { u with longMethod := v.longMethod }
  | longParameterLists | messageChains | excessiveComments => u

theorem agreeBut_summaryFrom (g : OptionGroup) (s t : FileSummary) :
    AgreeBut g.fileFields FileSummary.table s (g.summaryFrom s t) := by
  cases g <;>
    simp [AgreeBut, FileSummary.table, Distribution.table, fileFields, summaryFrom, within,
      ofUInt64, ofUInt32, ofBool, ofHundredths]

theorem agreeBut_metricsFrom (g : OptionGroup) (u v : UnitMetrics) :
    AgreeBut g.unitFields UnitMetrics.table u (g.metricsFrom u v) := by
  cases g <;>
    simp [AgreeBut, UnitMetrics.table, unitFields, metricsFrom, ofString, ofUnitKind, ofUInt64,
      ofUInt32, ofBool]

end OptionGroup

/-! ### Units -/

namespace StructuralUnit

variable {c c' : Config} (u : StructuralUnit)

/-- **The metrics of a unit depend on the configuration in two fields.** -/
theorem metrics_eq (c c' : Config) :
    u.metrics c' = { u.metrics c with
      cyclomatic := (u.metrics c').cyclomatic, longMethod := (u.metrics c').longMethod } := by
  have h := withoutDecisions_ofStatements c c' 0 u.body
  have hnesting := congrArg Tally.maxNesting h
  have hstatements := congrArg Tally.statements h
  have hbranches := congrArg Tally.branches h
  have hloops := congrArg Tally.loops h
  simp only [withoutDecisions] at hnesting hstatements hbranches hloops
  simp only [metrics, hnesting, hstatements, hbranches, hloops]

theorem exactCyclomatic_eq (c : Config) :
    u.exactCyclomatic c = 1 + (total Statement.points (Statement.allWithin u.body) +
      when c.countLogicalOperators (total Statement.logicalOperators (Statement.allWithin u.body)) +
      when c.countDefaultLabel ((Statement.allWithin u.body).countP Statement.hasDefault) +
      when c.countElseBranch ((Statement.allWithin u.body).countP Statement.hasElse) +
      when c.countConditionalExpressions
        (total Statement.conditionalExpressions (Statement.allWithin u.body))) := by
  rw [exactCyclomatic, Statement.decisions_ofStatements, Statement.total_decisions]

theorem exactCyclomatic_congr (h : OptionGroup.counting.Same c c') :
    u.exactCyclomatic c' = u.exactCyclomatic c := by
  obtain ⟨hl, hd, he, hc⟩ := h
  rw [exactCyclomatic_eq, exactCyclomatic_eq, hl, hd, he, hc]

theorem cyclomatic_congr (h : OptionGroup.counting.Same c c') :
    (u.metrics c').cyclomatic = (u.metrics c).cyclomatic :=
  congrArg UInt32.ofNat (u.exactCyclomatic_congr h)

/-- The size of a unit by a measure. -/
def measured (u : StructuralUnit) : LongMethodMeasure → UInt64
  | .statements => .ofNat (ofStatements {} 0 u.body).statements
  | .lines => .ofNat u.span.lineCount

theorem longMethod_eq (c : Config) :
    (u.metrics c).longMethod = decide (u.measured c.longMethodMeasure > c.longMethodThreshold) := by
  have h := congrArg Tally.statements (withoutDecisions_ofStatements c {} 0 u.body)
  simp only [withoutDecisions] at h
  simp only [metrics, h]
  cases c.longMethodMeasure <;> rfl

theorem longMethod_congr (h : OptionGroup.longMethods.Same c c') :
    (u.metrics c').longMethod = (u.metrics c).longMethod := by
  rw [longMethod_eq, longMethod_eq, h.1, h.2]

/-- The metrics of a unit under configurations that differ in one group. -/
theorem metrics_eq_metricsFrom {g : OptionGroup} (h : ∀ g', g' ≠ g → g'.Same c c') :
    u.metrics c' = g.metricsFrom (u.metrics c) (u.metrics c') := by
  have hcyclomatic : g ≠ .counting → (u.metrics c').cyclomatic = (u.metrics c).cyclomatic :=
    fun hg => u.cyclomatic_congr (h .counting hg.symm)
  have hlong : g ≠ .longMethods → (u.metrics c').longMethod = (u.metrics c).longMethod :=
    fun hg => u.longMethod_congr (h .longMethods hg.symm)
  refine (u.metrics_eq c c').trans ?_
  cases g <;> simp_all [OptionGroup.metricsFrom]

end StructuralUnit

/-! ### Reports -/

namespace StructuralModel

variable {c c' : Config} (m : StructuralModel)

theorem map_units_congr {β : Type} (φ : UnitMetrics → β)
    (h : ∀ u : StructuralUnit, φ (u.metrics c') = φ (u.metrics c)) :
    (m.units.map (StructuralUnit.metrics c')).map φ =
      (m.units.map (StructuralUnit.metrics c)).map φ := by
  rw [List.map_map, List.map_map]
  exact List.map_congr_left fun u _ => h u

/-- **A summary depends on the configuration in the fields that some group governs.** -/
theorem summary_report_eq (c c' : Config) :
    (m.report c').summary = { (m.report c).summary with
      totalCyclomatic := (m.report c').summary.totalCyclomatic
      longMethods := (m.report c').summary.longMethods
      longParameterLists := (m.report c').summary.longParameterLists
      messageChains := (m.report c').summary.messageChains
      excessiveComments := (m.report c').summary.excessiveComments
      cyclomatic := (m.report c').summary.cyclomatic } := by
  have hunit (u : StructuralUnit) : (u.metrics c').maxNesting = (u.metrics c).maxNesting := by
    rw [u.metrics_eq c c']
  have hnesting := m.map_units_congr (fun u => u.maxNesting) hunit
  simp only [report, summary, greatestNesting, hnesting, List.map_map, List.length_map]
  rfl

theorem longMethods_report (c : Config) :
    (m.report c).summary.longMethods = .ofNat (m.units.countP fun u => (u.metrics c).longMethod) :=
  congrArg UInt64.ofNat List.countP_map

theorem longParameterLists_report (c : Config) :
    (m.report c).summary.longParameterLists = .ofNat (m.units.countP fun u =>
      UInt64.ofNat u.parameterCount > c.longParameterListThreshold) :=
  congrArg UInt64.ofNat List.countP_map

section Governed

theorem totalCyclomatic_congr (h : OptionGroup.counting.Same c c') :
    (m.report c').summary.totalCyclomatic = (m.report c).summary.totalCyclomatic := by
  rw [totalCyclomatic_report, totalCyclomatic_report, exactCyclomatic, exactCyclomatic,
    total_congr fun u _ => u.exactCyclomatic_congr h]

theorem cyclomatic_congr (h : OptionGroup.counting.Same c c') :
    (m.report c').summary.cyclomatic = (m.report c).summary.cyclomatic := by
  have hcyclomatic := m.map_units_congr (fun u => u.cyclomatic.toUInt64) fun u =>
    congrArg UInt32.toUInt64 (u.cyclomatic_congr h)
  exact congrArg Distribution.of hcyclomatic

theorem longMethods_congr (h : OptionGroup.longMethods.Same c c') :
    (m.report c').summary.longMethods = (m.report c).summary.longMethods := by
  rw [longMethods_report, longMethods_report]
  exact congrArg _ (List.countP_congr fun u _ => by rw [u.longMethod_congr h])

theorem longParameterLists_congr (h : OptionGroup.longParameterLists.Same c c') :
    (m.report c').summary.longParameterLists = (m.report c).summary.longParameterLists := by
  rw [longParameterLists_report, longParameterLists_report, show _ = _ from h]

theorem messageChains_congr (h : OptionGroup.messageChains.Same c c') :
    (m.report c').summary.messageChains = (m.report c).summary.messageChains := by
  simp only [report, summary, show c.messageChainThreshold = c'.messageChainThreshold from h]

theorem excessiveComments_congr (h : OptionGroup.excessiveComments.Same c c') :
    (m.report c').summary.excessiveComments = (m.report c).summary.excessiveComments := by
  simp only [report, summary,
    show c.excessiveCommentsThreshold = c'.excessiveCommentsThreshold from h]

end Governed

/-- The summary of reports under configurations that differ in one group. -/
theorem summary_eq_summaryFrom {g : OptionGroup} (h : ∀ g', g' ≠ g → g'.Same c c') :
    (m.report c').summary = g.summaryFrom (m.report c).summary (m.report c').summary := by
  have htotal (hg : g ≠ .counting) := m.totalCyclomatic_congr (h .counting hg.symm)
  have hcyclomatic (hg : g ≠ .counting) := m.cyclomatic_congr (h .counting hg.symm)
  have hmethods (hg : g ≠ .longMethods) := m.longMethods_congr (h .longMethods hg.symm)
  have hlists (hg : g ≠ .longParameterLists) :=
    m.longParameterLists_congr (h .longParameterLists hg.symm)
  have hchains (hg : g ≠ .messageChains) := m.messageChains_congr (h .messageChains hg.symm)
  have hcomments (hg : g ≠ .excessiveComments) :=
    m.excessiveComments_congr (h .excessiveComments hg.symm)
  refine (m.summary_report_eq c c').trans ?_
  cases g <;>
    simp [OptionGroup.summaryFrom, htotal, hcyclomatic, hmethods, hlists, hchains, hcomments]

/-- **Options do not interfere**: reports under configurations that differ in one group of options
differ only in the fields that the group governs. -/
theorem differsOnlyIn_report {g : OptionGroup} (h : ∀ g', g' ≠ g → g'.Same c c') :
    (m.report c).DiffersOnlyIn g.fileFields g.unitFields (m.report c') := by
  refine Report.differsOnlyIn_of_agreeBut rfl ?_ ?_
  · rw [m.summary_eq_summaryFrom h]
    exact g.agreeBut_summaryFrom _ _
  · refine List.forall₂_map_left_iff.2 (List.forall₂_map_right_iff.2 (List.forall₂_same.2 ?_))
    intro u _
    rw [u.metrics_eq_metricsFrom h]
    exact g.agreeBut_metricsFrom _ _

end StructuralModel

/-! ### Directions -/

/-- Whether everything that one configuration counts as a decision is counted by another one. -/
structure Config.CountsAtMost (c c' : Config) : Prop where
  logicalOperators : c.countLogicalOperators → c'.countLogicalOperators
  defaultLabel : c.countDefaultLabel → c'.countDefaultLabel
  elseBranch : c.countElseBranch → c'.countElseBranch
  conditionalExpressions : c.countConditionalExpressions → c'.countConditionalExpressions

theorem Tally.when_le_of_imp {a b : Bool} (h : a → b) (n : Nat) : when a n ≤ when b n := by
  cases a <;> cases b <;> simp_all [when]

theorem StructuralUnit.exactCyclomatic_mono {c c' : Config} (h : c.CountsAtMost c')
    (u : StructuralUnit) : u.exactCyclomatic c ≤ u.exactCyclomatic c' := by
  rw [exactCyclomatic_eq, exactCyclomatic_eq]
  generalize Statement.allWithin u.body = ss
  have hl := when_le_of_imp h.logicalOperators (total Statement.logicalOperators ss)
  have hd := when_le_of_imp h.defaultLabel (ss.countP Statement.hasDefault)
  have he := when_le_of_imp h.elseBranch (ss.countP Statement.hasElse)
  have hc := when_le_of_imp h.conditionalExpressions (total Statement.conditionalExpressions ss)
  omega

/-- Counts over a list that is not too long compare as the numbers do. -/
theorem ofNat_countP_le {α : Type} {p q : α → Bool} {as : List α} (has : as.length < UInt64.size)
    (h : ∀ a ∈ as, p a → q a) : UInt64.ofNat (as.countP p) ≤ UInt64.ofNat (as.countP q) := by
  have hp := List.countP_le_length (p := p) (l := as)
  have hq := List.countP_le_length (p := q) (l := as)
  exact (UInt64.ofNat_le_iff_le (by omega) (by omega)).2 (List.countP_mono_left h)

theorem StructuralUnit.longMethod_anti (u : StructuralUnit) (c : Config) {t t' : UInt64}
    (ht : t ≤ t') (h : (u.metrics { c with longMethodThreshold := t' }).longMethod) :
    (u.metrics { c with longMethodThreshold := t }).longMethod := by
  rw [longMethod_eq, decide_eq_true_eq] at h ⊢
  exact UInt64.lt_of_le_of_lt ht h

namespace StructuralModel

/-- **Options do not interfere, and each works in one direction.** Reports on a model under
configurations that differ in one group of options differ only in the fields that the group governs.
Counting more never lowers the complexity of a unit, and raising a threshold never raises the number
that it decides or sets its flag, as long as the numbers fit the words that hold them. -/
theorem report_options (m : StructuralModel) :
    (∀ (g : OptionGroup) (c c' : Config), (∀ g', g' ≠ g → g'.Same c c') →
        (m.report c).DiffersOnlyIn g.fileFields g.unitFields (m.report c')) ∧
      (∀ c c', c.CountsAtMost c' → ∀ u ∈ m.units, u.exactCyclomatic c' < UInt32.size →
        (u.metrics c).cyclomatic ≤ (u.metrics c').cyclomatic) ∧
      (∀ (c : Config) (t t' : UInt64), t ≤ t' → ∀ u ∈ m.units,
        (u.metrics { c with longMethodThreshold := t' }).longMethod →
          (u.metrics { c with longMethodThreshold := t }).longMethod) ∧
      (∀ (c : Config) (t t' : UInt64), t ≤ t' → m.units.length < UInt64.size →
        (m.report { c with longMethodThreshold := t' }).summary.longMethods ≤
          (m.report { c with longMethodThreshold := t }).summary.longMethods) ∧
      (∀ (c : Config) (t t' : UInt64), t ≤ t' → m.units.length < UInt64.size →
        (m.report { c with longParameterListThreshold := t' }).summary.longParameterLists ≤
          (m.report { c with longParameterListThreshold := t }).summary.longParameterLists) ∧
      (∀ (c : Config) (t t' : UInt32), t ≤ t' → m.callChains.length < UInt64.size →
        (m.report { c with messageChainThreshold := t' }).summary.messageChains ≤
          (m.report { c with messageChainThreshold := t }).summary.messageChains) ∧
      (∀ (c : Config) (t t' : UInt64), t ≤ t' →
        (m.report { c with excessiveCommentsThreshold := t' }).summary.excessiveComments →
          (m.report { c with excessiveCommentsThreshold := t }).summary.excessiveComments) := by
  refine ⟨fun g c c' h => m.differsOnlyIn_report h, fun c c' h u _ hu => ?_,
    fun c t t' ht u _ h => u.longMethod_anti c ht h, fun c t t' ht hm => ?_,
    fun c t t' ht hm => ?_, fun c t t' ht hm => ?_, fun c t t' ht h => ?_⟩
  · have hle := u.exactCyclomatic_mono h
    exact (UInt32.ofNat_le_iff_le (Nat.lt_of_le_of_lt hle hu) hu).2 hle
  · rw [longMethods_report, longMethods_report]
    exact ofNat_countP_le hm fun u _ h => u.longMethod_anti c ht h
  · rw [longParameterLists_report, longParameterLists_report]
    refine ofNat_countP_le hm fun u _ h => ?_
    rw [decide_eq_true_eq] at h ⊢
    exact UInt64.lt_of_le_of_lt ht h
  · refine ofNat_countP_le hm fun n _ h => ?_
    rw [decide_eq_true_eq] at h ⊢
    exact Nat.le_trans ht h
  · have h : UInt64.ofNat m.lines.commentLines > t' := by simpa [report, summary] using h
    simpa [report, summary] using UInt64.lt_of_le_of_lt ht h

/-- A unit with five parameters: an `if` with a logical operator in its condition, and a statement
in it. -/
def operatorUnit : StructuralUnit where
  name := "f"
  kind := .function
  parameterCount := 5
  body := [.mk (.ifElse [.mk 1 [.mk .sequential {} 1 0]] none) {} 0 0]
  span := {}
  enclosingType := none
  lambdaCount := 0
  realLines := 0

/-- The model of `operatorUnit`, with a chain of four calls and eleven lines of comments. -/
def operatorModel : StructuralModel where
  language := .c
  units := [operatorUnit]
  lines := { commentLines := 11 }
  callChains := [4]

/-- Counting logical operators changes complexities and nothing else, and it changes some. Raising a
threshold turns off what it decides. -/
theorem report_options_operator :
    (operatorModel.report {}).DiffersOnlyIn OptionGroup.counting.fileFields ["cyclomatic"]
        (operatorModel.report { countLogicalOperators := true }) ∧
      ((operatorModel.report {}).summary.totalCyclomatic = 2 ∧
        (operatorModel.report { countLogicalOperators := true }).summary.totalCyclomatic = 3) ∧
      (operatorUnit.metrics {}).cyclomatic ≤
        (operatorUnit.metrics { countLogicalOperators := true }).cyclomatic ∧
      (operatorUnit.metrics { longMethodThreshold := 0 }).longMethod ∧
      (operatorModel.report { longMethodThreshold := 2 }).summary.longMethods ≤
        (operatorModel.report { longMethodThreshold := 1 }).summary.longMethods ∧
      (operatorModel.report { longParameterListThreshold := 5 }).summary.longParameterLists ≤
        (operatorModel.report { longParameterListThreshold := 4 }).summary.longParameterLists ∧
      (operatorModel.report { messageChainThreshold := 5 }).summary.messageChains ≤
        (operatorModel.report { messageChainThreshold := 4 }).summary.messageChains ∧
      (operatorModel.report { excessiveCommentsThreshold := 9 }).summary.excessiveComments := by
  obtain ⟨hdiffers, hcounting, hlong, hmethods, hlists, hchains, hcomments⟩ :=
    report_options operatorModel
  have hsame : ∀ g, g ≠ .counting →
      OptionGroup.Same {} { countLogicalOperators := true } g := by
    intro g hg
    cases g <;> simp_all [OptionGroup.Same]
  have hcounts : Config.CountsAtMost {} { countLogicalOperators := true } := by
    constructor <;> decide
  have hfits : operatorUnit.exactCyclomatic { countLogicalOperators := true } < UInt32.size := by
    decide
  exact ⟨hdiffers .counting _ _ hsame, ⟨by decide, by decide⟩,
    hcounting _ _ hcounts operatorUnit List.mem_cons_self hfits,
    hlong {} 0 1 (by decide) operatorUnit List.mem_cons_self (by decide),
    hmethods {} 1 2 (by decide) (by decide), hlists {} 4 5 (by decide) (by decide),
    hchains {} 4 5 (by decide) (by decide), hcomments {} 9 10 (by decide) (by decide)⟩

end StructuralModel

end CodeMetrics
