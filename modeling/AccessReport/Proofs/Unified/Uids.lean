import AccessReport.Unified.Results
import Mathlib.Data.List.Nodup
/-!
# Uids over many conversions

A converter is used for one conversion after the other, each with its own mode and scan. What it
does is the same as going through the nodes of all conversions and drawing the next uid for each of
them: `Emits` says so node by node. All else is read off a row of such steps, however long it is and
wherever one conversion ends and the next begins.

* `foldl_pushNode`: the loops over buckets, rules and nodes emit one node after the other.
* `convert_emits`, `convertAll_emits`: one conversion, and a row of them.
* `Emits.drawn`, `Emits.map_uid`, `Emits.made`: how many uids are drawn, which ones, and for what.
* `results_eq`: the results of one conversion without its loops.
* `uids_of_conversions`: uids are given once, in order and for one node each.
-/
namespace AccessReport

/-- One use of a converter. There may be no scan yet. -/
structure Conversion where
  mode : ConversionMode
  scan : Option ScanResults

/-- The nodes of rule results, which all get the same status. -/
def RuleResult.taken (status : ResultStatus) (rules : List RuleResult) : List TakenNode :=
  rules.flatMap fun rule => rule.nodes.map fun node => (status, rule, node)

/-- The nodes that a conversion goes through, in the order of its loops. -/
def ConversionMode.nodesOf (mode : ConversionMode) (scan : ScanResults) : List TakenNode :=
  mode.sources.flatMap fun source => RuleResult.taken source.2 (scan.toBuckets.get source.1)

/-- The nodes that a conversion has to take: violations, then passes or incomplete results. -/
def Conversion.nodes : Conversion → List TakenNode
  | ⟨_, none⟩ => []
  | ⟨.automated, some scan⟩ =>
    RuleResult.taken .fail scan.violations ++ RuleResult.taken .pass scan.passes
  | ⟨.needsReview, some scan⟩ =>
    RuleResult.taken .unknown scan.violations ++ RuleResult.taken .unknown scan.incomplete

/-- A result is what becomes of a node, but for its uid. -/
def UnifiedResult.MadeOf (rules : RuleRegistry) (taken : TakenNode) (result : UnifiedResult) :
    Prop :=
  result = .ofNode rules result.uid taken.1 taken.2.1 taken.2.2

namespace Converter

/-- Conversions one after the other, each with the converter that the one before has left. -/
def convertAll (converter : Converter) :
    List Conversion → List (List UnifiedResult) × Converter
  | [] => ([], converter)
  | conversion :: rest =>
    let (results, next) := converter.convert conversion.mode conversion.scan
    let (others, last) := next.convertAll rest
    (results :: others, last)

theorem drawn_emit (converter : Converter) (taken : TakenNode) :
    (converter.emit taken).2.drawn = converter.drawn + 1 := rfl

/-- Node after node is emitted, from one state of a converter to another. -/
inductive Emits : Converter → List TakenNode → List UnifiedResult → Converter → Prop where
  | done (converter : Converter) : Emits converter [] [] converter
  | step {converter last : Converter} {taken : TakenNode} {nodes : List TakenNode}
    {results : List UnifiedResult} (rest : Emits (converter.emit taken).2 nodes results last) :
    Emits converter (taken :: nodes) ((converter.emit taken).1 :: results) last

/-! ## Conversions emit -/

theorem nodesOf_eq (mode : ConversionMode) (scan : ScanResults) :
    mode.nodesOf scan = Conversion.nodes ⟨mode, some scan⟩ := by
  cases mode <;> simp [ConversionMode.nodesOf, ConversionMode.sources, Conversion.nodes,
    Buckets.get]

/-- The loops over the rules of a bucket are one loop over its nodes. -/
theorem pushRules_eq (status : ResultStatus) (rules : List RuleResult)
    (made : List UnifiedResult × Converter) :
    pushRules status rules made = (RuleResult.taken status rules).foldl pushNode made := by
  rw [pushRules, RuleResult.taken, List.foldl_flatMap]
  simp only [List.foldl_map]

/-- And so are the loops over the buckets of a conversion. -/
theorem convert_eq (converter : Converter) (mode : ConversionMode) (scan : ScanResults) :
    converter.convert mode (some scan) = (mode.nodesOf scan).foldl pushNode ([], converter) := by
  rw [convert, ConversionMode.nodesOf, List.foldl_flatMap]
  simp only [pushRules_eq]

/-- The loop emits node after node, behind what has been made before. -/
theorem foldl_pushNode (nodes : List TakenNode) (made : List UnifiedResult)
    (converter : Converter) :
    ∃ results last, nodes.foldl pushNode (made, converter) = (made ++ results, last) ∧
      Emits converter nodes results last := by
  induction nodes generalizing made converter with
  | nil => exact ⟨[], converter, by simp, .done converter⟩
  | cons taken nodes ih =>
    obtain ⟨results, last, hfold, hemits⟩ :=
      ih (made ++ [(converter.emit taken).1]) (converter.emit taken).2
    refine ⟨(converter.emit taken).1 :: results, last, ?_, .step hemits⟩
    rw [List.foldl_cons, pushNode, hfold, List.append_assoc, List.singleton_append]

theorem convert_emits (converter : Converter) (conversion : Conversion) :
    Emits converter conversion.nodes
      (converter.convert conversion.mode conversion.scan).1
      (converter.convert conversion.mode conversion.scan).2 := by
  obtain ⟨mode, scan⟩ := conversion
  cases scan with
  | none => exact .done converter
  | some scan =>
    obtain ⟨results, last, hfold, hemits⟩ := foldl_pushNode (mode.nodesOf scan) [] converter
    rw [convert_eq, hfold, ← nodesOf_eq]
    exact hemits

namespace Emits

variable {converter middle last : Converter} {nodes more : List TakenNode}
  {results others : List UnifiedResult}

theorem append (h : Emits converter nodes results middle) (h' : Emits middle more others last) :
    Emits converter (nodes ++ more) (results ++ others) last := by
  induction h with
  | done converter => exact h'
  | step _ ih => exact .step (ih h')

theorem drawn (h : Emits converter nodes results last) :
    last.drawn = converter.drawn + results.length := by
  induction h with
  | done converter => rfl
  | step _ ih =>
    rw [ih, List.length_cons, drawn_emit]
    omega

theorem map_uid (h : Emits converter nodes results last) :
    results.map (·.uid)
      = (List.range' converter.drawn results.length).map converter.uids := by
  induction h with
  | done converter => rfl
  | step _ ih =>
    rw [List.map_cons, ih, List.length_cons, List.range'_succ, List.map_cons]
    rfl

theorem made (h : Emits converter nodes results last) :
    List.Forall₂ (UnifiedResult.MadeOf converter.rules) nodes results := by
  induction h with
  | done converter => exact .nil
  | step _ ih => exact .cons rfl ih

theorem rules_eq (h : Emits converter nodes results last) : last.rules = converter.rules := by
  induction h with
  | done converter => rfl
  | step _ ih => exact ih

/-- All results at once, each with the uid of its place. -/
theorem results_eq (h : Emits converter nodes results last) :
    results = (nodes.zipIdx converter.drawn).map fun taken =>
      .ofNode converter.rules (converter.uids taken.2) taken.1.1 taken.1.2.1 taken.1.2.2 := by
  induction h with
  | done converter => rfl
  | step _ ih =>
    rw [ih, List.zipIdx_cons, List.map_cons]
    rfl

end Emits

theorem results_eq (converter : Converter) (mode : ConversionMode) (scan : ScanResults) :
    converter.results mode scan
      = ((mode.nodesOf scan).zipIdx converter.drawn).map fun taken =>
          .ofNode converter.rules (converter.uids taken.2) taken.1.1 taken.1.2.1 taken.1.2.2 := by
  rw [nodesOf_eq]
  exact (converter.convert_emits ⟨mode, some scan⟩).results_eq

/-! ## A row of conversions -/

theorem rules_convert (converter : Converter) (conversion : Conversion) :
    (converter.convert conversion.mode conversion.scan).2.rules = converter.rules :=
  (converter.convert_emits conversion).rules_eq

theorem convertAll_emits (converter : Converter) (conversions : List Conversion) :
    Emits converter (conversions.flatMap Conversion.nodes)
      (converter.convertAll conversions).1.flatten (converter.convertAll conversions).2 := by
  induction conversions generalizing converter with
  | nil => exact .done converter
  | cons conversion rest ih => exact (converter.convert_emits conversion).append (ih _)

theorem convertAll_made (converter : Converter) (conversions : List Conversion) :
    List.Forall₂ (fun conversion results =>
        List.Forall₂ (UnifiedResult.MadeOf converter.rules) conversion.nodes results)
      conversions (converter.convertAll conversions).1 := by
  induction conversions generalizing converter with
  | nil => exact .nil
  | cons conversion rest ih =>
    have hrest := ih (converter.convert conversion.mode conversion.scan).2
    rw [rules_convert] at hrest
    exact .cons (converter.convert_emits conversion).made hrest

/-- Over any row of conversions a converter draws one uid for each result that it emits, and no
other: the results carry the uids of the supply in order. Each conversion emits one result for each
node that it has to take, in their order. So a supply that does not repeat itself never gives the
same uid to two results. -/
theorem uids_of_conversions (rules : RuleRegistry) (uids : UidSupply)
    (hdistinct : Function.Injective uids) (conversions : List Conversion) :
    let fresh : Converter := { rules, uids }
    let emitted := (fresh.convertAll conversions).1.flatten
    let last := (fresh.convertAll conversions).2
    Emits fresh (conversions.flatMap Conversion.nodes) emitted last ∧
      last.drawn = emitted.length ∧
      (∀ k result, emitted[k]? = some result → result.uid = uids k) ∧
      List.Forall₂ (fun conversion results =>
          List.Forall₂ (UnifiedResult.MadeOf rules) conversion.nodes results)
        conversions (fresh.convertAll conversions).1 ∧
      (emitted.map (·.uid)).Nodup := by
  intro fresh emitted last
  have hemits : Emits fresh (conversions.flatMap Conversion.nodes) emitted last :=
    convertAll_emits fresh conversions
  have huids : emitted.map (·.uid) = (List.range emitted.length).map uids := by
    rw [hemits.map_uid, List.range_eq_range']
  refine ⟨hemits, ?_, fun k result hk => ?_, convertAll_made fresh conversions, ?_⟩
  · rw [hemits.drawn]
    exact Nat.zero_add _
  · have hlt : k < emitted.length := (List.getElem?_eq_some_iff.mp hk).1
    have hget := congrArg (·[k]?) huids
    simp only [List.getElem?_map, hk, List.getElem?_range hlt, Option.map_some] at hget
    exact Option.some.inj hget
  · rw [huids]
    exact List.nodup_range.map hdistinct

/-- A page with two failures and a pass is converted, then nothing, then the page again. -/
theorem uids_of_two_scans :
    let uids : UidSupply := fun n => String.ofList (List.replicate n 'i')
    let scan : ScanResults := {
      violations := [{ id := "alt", nodes := [{ target := ["img"] }, { target := ["area"] }] }]
      passes := [{ id := "title", nodes := [{ target := ["html"] }] }] }
    let conversions : List Conversion :=
      [⟨.automated, some scan⟩, ⟨.automated, none⟩, ⟨.needsReview, some scan⟩]
    let made := (Converter.convertAll { rules := .empty, uids } conversions).1
    Function.Injective uids ∧
      made.map (·.map (·.uid)) = [["", "i", "ii"], [], ["iii", "iiii"]] ∧
      (made.flatten.map (·.uid)).Nodup := by
  intro uids scan conversions made
  have hdistinct : Function.Injective uids := by
    intro m n h
    have hlength := congrArg List.length (String.ofList_inj.mp h)
    simpa using hlength
  obtain ⟨-, -, -, -, hnodup⟩ := uids_of_conversions .empty uids hdistinct conversions
  exact ⟨hdistinct, by decide +kernel, hnodup⟩

end Converter
end AccessReport
