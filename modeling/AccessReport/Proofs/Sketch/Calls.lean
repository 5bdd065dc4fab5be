import AccessReport.Proofs.Sketch.Nodes
/-!
# Sketches call by call

The calls that make a sketch are taken one after the other, and what they are about is only known
from the calls before. `Calls.notes` sorts them out: the steps of a node are what was called between
its start and its end, and so on for a rule. What the notes say is then made as a sketch is that is
at hand as lists of steps, so that what is known of nodes, rules and scans holds of calls as well.

Results:
* `answers_rule`, `answers_scan`: steps make what they describe unless something is wrong with them.
* `draft_note`: a call does to a draft what noting it does to the notes.
* `run_eq`: calls make what their notes make.
* `calls_recorded`: calls fail for data without a check, a fourth check in one group or a fifth
  node, and record what they describe otherwise.
-/
namespace AccessReport.Sketch

/-! ## Rules -/

namespace RuleStep

def node? : RuleStep → Option (List String × List NodeStep)
  | .node target steps => some (target, steps)
  | _ => none

def description? : RuleStep → Option String
  | .description text => some text
  | _ => none

def help? : RuleStep → Option String
  | .help text => some text
  | _ => none

def helpUrl? : RuleStep → Option String
  | .helpUrl text => some text
  | _ => none

end RuleStep

/-- The rule that steps describe, its nodes in the order of the steps. -/
def ruleOf (id : String) (steps : List RuleStep) : RuleResult where
  id := id
  description := (last RuleStep.description? steps).getD s!"Engine description of {id}"
  help := (last RuleStep.help? steps).getD s!"Engine help for {id}"
  helpUrl := (last RuleStep.helpUrl? steps).getD s!"https://engine.test/rules/{id}"
  nodes := (steps.filterMap RuleStep.node?).map fun node => nodeOf node.1 node.2

/-- What is wrong with the steps of a rule: a fifth node, or something with one of the nodes. -/
inductive RuleBreaks (steps : List RuleStep) : Fault → Prop where
  | fifthNode (h : 5 ≤ (steps.filterMap RuleStep.node?).length) : RuleBreaks steps .tooManyNodes
  | node {target : List String} {inner : List NodeStep} {fault : Fault}
    (hmem : .node target inner ∈ steps) (h : NodeBreaks inner fault) : RuleBreaks steps fault

/-- What is wrong after one more step was wrong before, or it is wrong with the node that the step
adds, or that node is one too many. -/
theorem ruleBreaks_concat_iff {steps : List RuleStep} {step : RuleStep} {fault : Fault} :
    RuleBreaks (steps ++ [step]) fault ↔ RuleBreaks steps fault ∨
      (∃ target inner, step = .node target inner ∧ NodeBreaks inner fault) ∨
      (fault = .tooManyNodes ∧ step.node? ≠ none ∧
        4 ≤ (steps.filterMap RuleStep.node?).length) := by
  constructor
  · intro h
    cases h with
    | fifthNode h =>
      rw [List.filterMap_append, List.length_append] at h
      cases hnode : step.node? with
      | none => exact .inl (.fifthNode (by simpa [hnode] using h))
      | some node =>
        simp [hnode] at h
        exact .inr (.inr ⟨rfl, by simp, by omega⟩)
    | node hmem h =>
      rcases List.mem_append.mp hmem with hmem | hmem
      · exact .inl (.node hmem h)
      · exact .inr (.inl ⟨_, _, (List.mem_singleton.mp hmem).symm, h⟩)
  · rintro (h | ⟨target, inner, rfl, h⟩ | ⟨rfl, hnode, h⟩)
    · cases h with
      | fifthNode h =>
        apply RuleBreaks.fifthNode
        rw [List.filterMap_append, List.length_append]
        omega
      | node hmem h => exact .node (List.mem_append_left _ hmem) h
    · exact .node (List.mem_append_right _ (List.mem_singleton.mpr rfl)) h
    · obtain ⟨node, hnode⟩ := Option.ne_none_iff_exists'.mp hnode
      apply RuleBreaks.fifthNode
      simp [hnode]
      omega

theorem answers_ruleStep (id : String) (steps : List RuleStep) (step : RuleStep)
    (hnone : ∀ fault, ¬RuleBreaks steps fault) :
    Answers (RuleBreaks (steps ++ [step])) (ruleOf id (steps ++ [step]))
      (ruleStep (ruleOf id steps) step) := by
  cases step with
  | node target inner =>
    simp only [ruleStep]
    have hnode := answers_node target inner
    cases hrun : node target inner with
    | error fault =>
      rw [hrun] at hnode
      exact ruleBreaks_concat_iff.mpr (.inr (.inl ⟨target, inner, rfl, hnode⟩))
    | ok value =>
      rw [hrun] at hnode
      obtain ⟨rfl, hsound⟩ := hnode
      rw [ok_bind]
      unfold addNode
      have hlength : (ruleOf id steps).nodes.length = (steps.filterMap RuleStep.node?).length :=
        List.length_map _
      by_cases hroom : (steps.filterMap RuleStep.node?).length < maxNodes
      · rw [hlength, if_pos hroom]
        refine ⟨?_, ?_⟩
        · simp [ruleOf, RuleStep.node?, RuleStep.description?, RuleStep.help?, RuleStep.helpUrl?]
        · intro fault h
          rcases ruleBreaks_concat_iff.mp h with h | ⟨_, _, heq, h⟩ | ⟨-, -, hfull⟩
          · exact hnone fault h
          · cases heq
            exact hsound fault h
          · unfold maxNodes at hroom
            omega
      · rw [hlength, if_neg hroom]
        unfold maxNodes at hroom
        exact ruleBreaks_concat_iff.mpr (.inr (.inr ⟨rfl, by simp [RuleStep.node?], by omega⟩))
  | _ =>
    refine ⟨?_, ?_⟩
    · simp [ruleOf, RuleStep.node?, RuleStep.description?, RuleStep.help?, RuleStep.helpUrl?]
    · intro fault h
      simpa [hnone, RuleStep.node?] using ruleBreaks_concat_iff.mp h

theorem answers_rule (id : String) (steps : List RuleStep) :
    Answers (RuleBreaks steps) (ruleOf id steps) (rule id steps) := by
  refine answers_foldlM (ruleOf id) ?_ ?_ (answers_ruleStep id) steps
  · intro fault h
    cases h with
    | fifthNode h => simp at h
    | node hmem _ => simp at hmem
  · exact fun steps step fault h => ruleBreaks_concat_iff.mpr (.inl h)

/-! ## Scans -/

namespace Step

/-- The rule that a step adds to a bucket. -/
def ruleIn? (bucket : Bucket) : Step → Option RuleResult
  | .rule other id steps => if other = bucket then some (ruleOf id steps) else none
  | _ => none

def timestamp? : Step → Option Timestamp
  | .timestamp value => some value
  | _ => none

def url? : Step → Option String
  | .url text => some text
  | _ => none

end Step

/-- The scan that steps describe, the rules of each bucket in the order of the steps. -/
def scanOf (steps : List Step) : EngineScan where
  passes := steps.filterMap (Step.ruleIn? .passes)
  violations := steps.filterMap (Step.ruleIn? .violations)
  incomplete := steps.filterMap (Step.ruleIn? .incomplete)
  inapplicable := steps.filterMap (Step.ruleIn? .inapplicable)
  timestamp := (last Step.timestamp? steps).getD (.text "")
  url := (last Step.url? steps).getD ""

/-- What is wrong with the steps of a scan is wrong with one of its rules. -/
inductive Breaks (steps : List Step) : Fault → Prop where
  | rule {bucket : Bucket} {id : String} {inner : List RuleStep} {fault : Fault}
    (hmem : .rule bucket id inner ∈ steps) (h : RuleBreaks inner fault) : Breaks steps fault

theorem breaks_concat_iff {steps : List Step} {next : Step} {fault : Fault} :
    Breaks (steps ++ [next]) fault ↔ Breaks steps fault ∨
      ∃ bucket id inner, next = .rule bucket id inner ∧ RuleBreaks inner fault := by
  constructor
  · intro ⟨hmem, h⟩
    rcases List.mem_append.mp hmem with hmem | hmem
    · exact .inl (.rule hmem h)
    · exact .inr ⟨_, _, _, (List.mem_singleton.mp hmem).symm, h⟩
  · rintro (⟨hmem, h⟩ | ⟨bucket, id, inner, rfl, h⟩)
    · exact .rule (List.mem_append_left _ hmem) h
    · exact .rule (List.mem_append_right _ (List.mem_singleton.mpr rfl)) h

theorem answers_scanStep (steps : List Step) (next : Step) (hnone : ∀ fault, ¬Breaks steps fault) :
    Answers (Breaks (steps ++ [next])) (scanOf (steps ++ [next])) (step (scanOf steps) next) := by
  cases next with
  | rule bucket id inner =>
    simp only [step]
    have hrule := answers_rule id inner
    cases hrun : rule id inner with
    | error fault =>
      rw [hrun] at hrule
      exact breaks_concat_iff.mpr (.inr ⟨bucket, id, inner, rfl, hrule⟩)
    | ok value =>
      rw [hrun] at hrule
      obtain ⟨rfl, hsound⟩ := hrule
      refine ⟨?_, ?_⟩
      · cases bucket <;> simp [scanOf, Buckets.push, Buckets.map, Step.ruleIn?, Step.timestamp?,
          Step.url?]
      · intro fault h
        rcases breaks_concat_iff.mp h with h | ⟨_, _, _, heq, h⟩
        · exact hnone fault h
        · cases heq
          exact hsound fault h
  | _ =>
    refine ⟨?_, ?_⟩
    · simp [scanOf, Step.ruleIn?, Step.timestamp?, Step.url?]
    · intro fault h
      simpa [hnone] using breaks_concat_iff.mp h

theorem answers_scan (steps : List Step) : Answers (Breaks steps) (scanOf steps) (scan steps) := by
  refine answers_foldlM scanOf ?_ ?_ answers_scanStep steps
  · intro fault ⟨hmem, _⟩
    simp at hmem
  · exact fun steps next fault h => breaks_concat_iff.mpr (.inl h)

/-! ## Calls -/

/-- What was called for a rule that is not done, and what was done before it. -/
structure RuleNotes where
  before : List Step
  bucket : Bucket
  id : String
  steps : List RuleStep

/-- What was called until a stage: the steps that are done, and those of what is not. -/
def Stage.Notes : Stage → Type
  | scan => List Step
  | rule => RuleNotes
  | node => RuleNotes × List String × List NodeStep

/-- A call is noted where it belongs. A node becomes a step of its rule when it is done, and a rule
a step of the scan. -/
def Call.note {earlier later : Stage} : Call earlier later → earlier.Notes → later.Notes
  | .scanStep step, (steps : List Step) => steps ++ [step]
  | .startRule bucket id, steps => { before := steps, bucket, id, steps := [] }
  | .ruleStep step, notes => { notes with steps := notes.steps ++ [step] }
  | .startNode target, notes => (notes, target, [])
  | .nodeStep step, (notes, target, steps) => (notes, target, steps ++ [step])
  | .nodeDone, (notes, target, steps) => { notes with steps := notes.steps ++ [.node target steps] }
  | .ruleDone, notes => notes.before ++ [.rule notes.bucket notes.id notes.steps]

def Calls.notes {stage : Stage} : Calls stage → stage.Notes
  | .new => ([] : List Step)
  | .call calls last => last.note calls.notes

def RuleNotes.draft (notes : RuleNotes) : Except Fault OpenRule := do
  let scan ← Sketch.scan notes.before
  pure { scan, bucket := notes.bucket, rule := ← Sketch.rule notes.id notes.steps }

/-- What the noted steps make. -/
def Stage.draft : (stage : Stage) → stage.Notes → Except Fault stage.Draft
  | .scan, steps => Sketch.scan steps
  | .rule, notes => notes.draft
  | .node, (notes, target, steps) => do
    let draft ← notes.draft
    pure (draft, ← steps.foldlM OpenNode.step (.ofTarget target))

theorem scan_concat (steps : List Step) (next : Step) :
    Sketch.scan (steps ++ [next]) = Sketch.scan steps >>= fun scan => step scan next := by
  simp [Sketch.scan]

theorem rule_concat (id : String) (steps : List RuleStep) (next : RuleStep) :
    rule id (steps ++ [next]) = rule id steps >>= fun rule => ruleStep rule next := by
  simp [rule]

theorem openNode_concat (start : OpenNode) (steps : List NodeStep) (next : NodeStep) :
    (steps ++ [next]).foldlM OpenNode.step start
      = steps.foldlM OpenNode.step start >>= fun node => node.step next := by
  simp

/-- One call does to what the notes make what noting it does to the notes. -/
theorem draft_note {earlier later : Stage} (call : Call earlier later) (notes : earlier.Notes) :
    later.draft (call.note notes) = earlier.draft notes >>= call.run := by
  cases call with
  | scanStep step => exact scan_concat notes step
  | startRule bucket id =>
    show RuleNotes.draft ⟨notes, bucket, id, []⟩ = Sketch.scan notes >>= _
    unfold RuleNotes.draft
    cases Sketch.scan notes <;> rfl
  | ruleStep step =>
    show RuleNotes.draft { notes with steps := notes.steps ++ [step] } = notes.draft >>= _
    unfold RuleNotes.draft
    rw [rule_concat]
    cases Sketch.scan notes.before with
    | error fault => rfl
    | ok scan => cases Sketch.rule notes.id notes.steps <;> rfl
  | startNode target =>
    show (do let draft ← notes.draft; pure (draft, ← [].foldlM _ _)) = notes.draft >>= _
    cases notes.draft <;> rfl
  | nodeStep step =>
    obtain ⟨notes, target, steps⟩ := notes
    show (do let draft ← notes.draft; pure (draft, ← (steps ++ [step]).foldlM _ _))
      = (do let draft ← notes.draft; pure (draft, ← steps.foldlM _ _)) >>= _
    rw [openNode_concat]
    cases notes.draft with
    | error fault => rfl
    | ok draft => cases steps.foldlM OpenNode.step (.ofTarget target) <;> rfl
  | nodeDone =>
    obtain ⟨notes, target, steps⟩ := notes
    show RuleNotes.draft { notes with steps := notes.steps ++ [.node target steps] }
      = (do let draft ← notes.draft; pure (draft, ← steps.foldlM _ _)) >>= _
    unfold RuleNotes.draft
    rw [rule_concat]
    cases Sketch.scan notes.before with
    | error fault => rfl
    | ok scan =>
      cases Sketch.rule notes.id notes.steps with
      | error fault => rfl
      | ok rule =>
        simp only [ok_bind, ruleStep, node]
        cases steps.foldlM OpenNode.step (.ofTarget target) <;> rfl
  | ruleDone =>
    show Sketch.scan (notes.before ++ [.rule notes.bucket notes.id notes.steps]) = notes.draft >>= _
    unfold RuleNotes.draft
    rw [scan_concat]
    cases Sketch.scan notes.before with
    | error fault => rfl
    | ok scan =>
      simp only [ok_bind, step]
      cases Sketch.rule notes.id notes.steps <;> rfl

theorem run_eq {stage : Stage} (calls : Calls stage) : calls.run = stage.draft calls.notes := by
  induction calls with
  | new => rfl
  | call calls last ih => rw [Calls.run, Calls.notes, draft_note, ih]

/-! ## What is recorded -/

/-- What is wrong with what was noted until a stage. -/
def Stage.Breaks : (stage : Stage) → stage.Notes → Fault → Prop
  | .scan, steps, fault => Sketch.Breaks steps fault
  | .rule, notes, fault => Sketch.Breaks notes.before fault ∨ RuleBreaks notes.steps fault
  | .node, (notes, _, steps), fault =>
    (Sketch.Breaks notes.before fault ∨ RuleBreaks notes.steps fault) ∨ NodeBreaks steps fault

def RuleNotes.recorded (notes : RuleNotes) : OpenRule where
  scan := scanOf notes.before
  bucket := notes.bucket
  rule := ruleOf notes.id notes.steps

/-- What the notes describe: a scan, beside the rule and the node that are not done. -/
def Stage.recorded : (stage : Stage) → stage.Notes → stage.Draft
  | .scan, steps => scanOf steps
  | .rule, notes => notes.recorded
  | .node, (notes, target, steps) => (notes.recorded, openNodeOf target steps)

theorem answers_rule_draft (notes : RuleNotes) :
    Answers (Stage.rule.Breaks notes) notes.recorded notes.draft :=
  (answers_scan notes.before).both (answers_rule notes.id notes.steps)
    fun scan rule => OpenRule.mk scan notes.bucket rule

theorem answers_draft (stage : Stage) (notes : stage.Notes) :
    Answers (stage.Breaks notes) (stage.recorded notes) (stage.draft notes) := by
  cases stage with
  | scan => exact answers_scan notes
  | rule => exact answers_rule_draft notes
  | node =>
    obtain ⟨notes, target, steps⟩ := notes
    exact (answers_rule_draft notes).both (answers_openNode target steps) Prod.mk

/-- **Recording.** Calls fail if and only if a node was given data before its first check or a
fourth check in one group, or a rule was given a fifth node, and then for one of these reasons.
Calls with which nothing is wrong leave what they describe: the rules of each bucket in the order in
which they were done, the nodes of each rule likewise, and in each group of a node its checks in the
order of the calls, each with the data that was given last behind it and before the next check of
the node, however the groups take turns. -/
theorem calls_recorded {stage : Stage} (calls : Calls stage) :
    ((∃ fault, calls.run = .error fault) ↔ ∃ fault, stage.Breaks calls.notes fault) ∧
      (∀ fault, calls.run = .error fault → stage.Breaks calls.notes fault) ∧
      ((∀ fault, ¬stage.Breaks calls.notes fault) →
        calls.run = .ok (stage.recorded calls.notes)) := by
  have hanswers := answers_draft stage calls.notes
  rw [← run_eq] at hanswers
  refine ⟨hanswers.fails_iff, ?_, ?_⟩
  · intro fault hrun
    rw [hrun] at hanswers
    exact hanswers
  · intro hnone
    cases hrun : calls.run with
    | error fault => exact absurd (hanswers.fails_iff.mp ⟨fault, hrun⟩) (by simpa using hnone)
    | ok draft => rw [hanswers.eq_of_ok hrun]

/-- Calls for a rule whose first node has checks of two groups in turn. -/
def interleaved : Calls .scan :=
  Calls.new
  |>.call (.startRule .violations "label")
  |>.call (.startNode ["input"])
  |>.call (.nodeStep (.check .any "explicit-label" "none" false))
  |>.call (.nodeStep (.check .all "hidden-label" "shown" true))
  |>.call (.nodeStep (.data (.string "all")))
  |>.call (.nodeStep (.check .any "title" "none" false))
  |>.call (.nodeStep (.data (.string "lost")))
  |>.call (.nodeStep (.data (.string "any")))
  |>.call .nodeDone
  |>.call (.startNode ["select"])
  |>.call .nodeDone
  |>.call .ruleDone

/-- A node that is given data before it has a check. -/
def hasty : Calls .node :=
  Calls.new
  |>.call (.startRule .violations "label")
  |>.call (.startNode ["input"])
  |>.call (.nodeStep (.data .null))

theorem calls_recorded_interleaved :
    (∀ fault, ¬Stage.scan.Breaks interleaved.notes fault) ∧
      interleaved.run = .ok (scanOf interleaved.notes) ∧
      (scanOf interleaved.notes).violations.map (·.nodes.map fun node =>
          (node.anyChecks.map (·.data), node.allChecks.map (·.data)))
        = [[([.null, .string "any"], [.string "all"]), ([], [])]] ∧
      ∃ fault, hasty.run = .error fault := by
  have hok : ∃ scan, interleaved.run = .ok scan := ⟨_, rfl⟩
  have hnone (fault : Fault) : ¬Stage.scan.Breaks interleaved.notes fault := by
    intro h
    obtain ⟨other, herror⟩ := (calls_recorded interleaved).1.mpr ⟨fault, h⟩
    obtain ⟨scan, hok⟩ := hok
    simp [hok] at herror
  have hfirst : NodeBreaks ([] ++ [.data .null]) .dataWithoutCheck := .dataFirst rfl (by simp)
  refine ⟨hnone, (calls_recorded interleaved).2.2 hnone, rfl, ?_⟩
  exact (calls_recorded hasty).1.mpr ⟨.dataWithoutCheck, .inr hfirst⟩

end AccessReport.Sketch
