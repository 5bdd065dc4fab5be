import AccessReport.Proofs.Outcomes
import AccessReport.Sketch.Calls
import Mathlib.Data.List.Induction
import Mathlib.Data.List.TakeWhile
/-!
# Sketched nodes

The steps of a node are taken one by one, and each changes a draft that knows the node so far and
the group that the last check went to. This module says what comes of them in terms of the steps
alone: which are the checks of each group, with which data, and when there is no node.

Data is the delicate part. It goes to the last check of the group that the last check went to, by
way of the draft. Seen from a check it is what was given last behind it and before the next check,
whatever group that one is in.

Results:
* `answers_foldlM`: a loop that answers for one more item answers for all.
* `checksOf_concat`: what one more step does to the checks of a group.
* `nodeBreaks_concat_iff`: what one more step can break.
* `answers_step`: a step answers for the steps so far and itself.
* `answers_node`: there is a node unless data comes before the first check or a group gets a fourth
  check, and it is the node that the steps describe.
-/
namespace AccessReport.Sketch

/-! ## Outcomes as announced -/

/-- An outcome is what was to be made, where nothing is broken, or a fault that is there. -/
def Answers {ε α : Type} (broken : ε → Prop) (made : α) : Except ε α → Prop
  | .ok value => value = made ∧ ∀ fault, ¬broken fault
  | .error fault => broken fault

section
variable {ε α β γ : Type} {broken : ε → Prop} {made : α} {outcome : Except ε α}

theorem Answers.fails_iff (h : Answers broken made outcome) :
    (∃ fault, outcome = .error fault) ↔ ∃ fault, broken fault := by
  cases outcome with
  | ok value => simp [h.2]
  | error fault => simpa using ⟨fault, h⟩

theorem Answers.eq_of_ok (h : Answers broken made outcome) {value : α} (hok : outcome = .ok value) :
    value = made := by
  subst hok
  exact h.1

theorem Answers.map (h : Answers broken made outcome) (change : α → β) :
    Answers broken (change made) (outcome.map change) := by
  cases outcome with
  | ok value => exact ⟨congrArg change h.1, h.2⟩
  | error fault => exact h

theorem Answers.both {broken' : ε → Prop} {made' : β} {outcome' : Except ε β}
    (h : Answers broken made outcome) (h' : Answers broken' made' outcome') (join : α → β → γ) :
    Answers (fun fault => broken fault ∨ broken' fault) (join made made')
      (do pure (join (← outcome) (← outcome'))) := by
  cases outcome with
  | error fault => exact .inl h
  | ok value =>
    obtain ⟨rfl, hnone⟩ := h
    rw [ok_bind]
    cases outcome' with
    | error fault => exact .inr h'
    | ok value' =>
      obtain ⟨rfl, hnone'⟩ := h'
      exact ⟨rfl, fun fault => not_or.mpr ⟨hnone fault, hnone' fault⟩⟩

/-- A loop answers for all its items if each step does for one more, faults being there for good. -/
theorem answers_foldlM {step : β → α → Except ε β} {broken : List α → ε → Prop}
    (made : List α → β) (hnil : ∀ fault, ¬broken [] fault)
    (hkeep : ∀ items item fault, broken items fault → broken (items ++ [item]) fault)
    (hstep : ∀ items item, (∀ fault, ¬broken items fault) →
      Answers (broken (items ++ [item])) (made (items ++ [item])) (step (made items) item))
    (items : List α) : Answers (broken items) (made items) (items.foldlM step (made [])) := by
  induction items using List.reverseRecOn with
  | nil => exact ⟨rfl, hnil⟩
  | append_singleton items item ih =>
    rw [List.foldlM_append]
    cases hrun : items.foldlM step (made []) with
    | error fault =>
      rw [hrun] at ih
      exact hkeep items item fault ih
    | ok value =>
      rw [hrun] at ih
      obtain ⟨rfl, hnone⟩ := ih
      rw [ok_bind]
      simpa using hstep items item hnone

end

/-! ## What steps say -/

/-- What was said last, if anything was. -/
def last {α β : Type} (said : α → Option β) (steps : List α) : Option β :=
  (steps.filterMap said).getLast?

@[simp] theorem last_nil {α β : Type} (said : α → Option β) : last said [] = none := rfl

@[simp] theorem last_concat {α β : Type} (said : α → Option β) (steps : List α) (step : α) :
    last said (steps ++ [step]) = (said step).or (last said steps) := by
  cases h : said step <;> simp [last, h]

theorem last_cons {α β : Type} (said : α → Option β) (step : α) (steps : List α) :
    last said (step :: steps) = (last said steps).or (said step) := by
  unfold last
  cases h : said step with
  | none => simp [h]
  | some value => simp [h, List.getLast?_cons]

theorem last_eq_none_iff {α β : Type} {said : α → Option β} {steps : List α} :
    last said steps = none ↔ ∀ step ∈ steps, said step = none := by
  simp [last]

theorem exists_of_last {α β : Type} {said : α → Option β} {steps : List α} {value : β}
    (h : last said steps = some value) : ∃ step ∈ steps, said step = some value :=
  List.mem_filterMap.mp (List.mem_of_getLast? h)

namespace NodeStep

/-- The group of the check that a step adds. -/
def group? : NodeStep → Option CheckGroup
  | .check group _ _ _ => some group
  | _ => none

def data? : NodeStep → Option Json
  | .data value => some value
  | _ => none

def html? : NodeStep → Option String
  | .html text => some text
  | _ => none

def snippet? : NodeStep → Option String
  | .snippet text => some text
  | _ => none

def failureSummary? : NodeStep → Option String
  | .failureSummary text => some text
  | _ => none

end NodeStep

/-- The data of a check, by the steps behind it: what was given last before the next check. -/
def dataBehind (steps : List NodeStep) : Json :=
  (last NodeStep.data? (steps.takeWhile (·.group?.isNone))).getD .null

/-- The checks of a group in the order of the steps, each with its data. -/
def checksOf (group : CheckGroup) : List NodeStep → List Check
  | [] => []
  | .check other id message result :: rest =>
    if other = group then { id, message, data := dataBehind rest, result } :: checksOf group rest
    else checksOf group rest
  | _ :: rest => checksOf group rest

/-- The node that steps describe. -/
def nodeOf (target : List String) (steps : List NodeStep) : Node where
  target := target
  html := (last NodeStep.html? steps).getD ("<" ++ target.getLastD "div" ++ ">")
  snippet := last NodeStep.snippet? steps
  failureSummary := last NodeStep.failureSummary? steps
  anyChecks := checksOf .any steps
  allChecks := checksOf .all steps
  noneChecks := checksOf .none steps

/-- What is wrong with the steps of a node: data before the first check, or a fourth check in one
group. -/
inductive NodeBreaks (steps : List NodeStep) : Fault → Prop where
  | dataFirst {before after : List NodeStep} {value : Json}
    (heq : steps = before ++ .data value :: after) (hnone : ∀ step ∈ before, step.group? = none) :
    NodeBreaks steps .dataWithoutCheck
  | fourthCheck {group : CheckGroup} (h : 4 ≤ steps.countP (·.group? = some group)) :
    NodeBreaks steps .tooManyChecks

/-! ## One more step -/

theorem length_checksOf (group : CheckGroup) (steps : List NodeStep) :
    (checksOf group steps).length = steps.countP (·.group? = some group) := by
  induction steps with
  | nil => rfl
  | cons step steps ih =>
    cases step with
    | check other id message result =>
      by_cases hgroup : other = group <;> simp [checksOf, NodeStep.group?, ih, hgroup]
    | _ => simp [checksOf, NodeStep.group?, ih]

/-- The group that the last check went to has a check. -/
theorem checksOf_ne_nil {group : CheckGroup} {steps : List NodeStep}
    (h : last NodeStep.group? steps = some group) : checksOf group steps ≠ [] := by
  obtain ⟨step, hstep, hgroup⟩ := exists_of_last h
  apply List.ne_nil_of_length_pos
  rw [length_checksOf, List.countP_pos_iff]
  exact ⟨step, hstep, by simpa using hgroup⟩

/-- The steps before the first check, when there is one more step. -/
theorem takeWhile_concat (steps : List NodeStep) (step : NodeStep) :
    (steps ++ [step]).takeWhile (·.group?.isNone)
      = if last NodeStep.group? steps = none ∧ step.group? = none then steps ++ [step]
        else steps.takeWhile (·.group?.isNone) := by
  induction steps with
  | nil => cases h : step.group? <;> simp [h]
  | cons first steps ih =>
    rw [List.cons_append, List.takeWhile_cons, List.takeWhile_cons, ih, last_cons]
    cases h : first.group? with
    | none => by_cases hall : last NodeStep.group? steps = none ∧ step.group? = none <;> simp [hall]
    | some group => simp

theorem dataBehind_concat {steps : List NodeStep} {step : NodeStep} (h : step.data? = none) :
    dataBehind (steps ++ [step]) = dataBehind steps := by
  unfold dataBehind
  rw [takeWhile_concat]
  split
  · rename_i hnone
    have hall : steps.takeWhile (·.group?.isNone) = steps := by
      rw [List.takeWhile_eq_self_iff]
      simpa using last_eq_none_iff.mp hnone.1
    rw [last_concat, h, hall, Option.none_or]
  · rfl

theorem dataBehind_concat_data (steps : List NodeStep) (value : Json) :
    dataBehind (steps ++ [.data value])
      = if last NodeStep.group? steps = none then value else dataBehind steps := by
  unfold dataBehind
  rw [takeWhile_concat]
  by_cases h : last NodeStep.group? steps = none <;> simp [h, NodeStep.group?, NodeStep.data?]

theorem attach_cons {data : Json} {check : Check} {checks : List Check} (h : checks ≠ []) :
    OpenNode.attach data (check :: checks) = check :: OpenNode.attach data checks := by
  cases checks with
  | nil => exact absurd rfl h
  | cons next checks => rfl

/-- A step that is not data adds its own check, if it is one, and changes none. -/
theorem checksOf_concat_append {step : NodeStep} (h : step.data? = none) (group : CheckGroup)
    (steps : List NodeStep) :
    checksOf group (steps ++ [step]) = checksOf group steps ++ checksOf group [step] := by
  induction steps with
  | nil => simp [checksOf]
  | cons first steps ih =>
    cases first with
    | check other id message result =>
      by_cases hgroup : other = group <;> simp [checksOf, dataBehind_concat h, ih, hgroup]
    | _ => simp [checksOf, ih]

/-- Data goes to the last check of the group that the last check went to. -/
theorem checksOf_concat_data (value : Json) (group : CheckGroup) (steps : List NodeStep) :
    checksOf group (steps ++ [.data value])
      = if last NodeStep.group? steps = some group then OpenNode.attach value (checksOf group steps)
        else checksOf group steps := by
  induction steps with
  | nil => simp [checksOf]
  | cons first steps ih =>
    cases first with
    | check other id message result =>
      rw [List.cons_append, checksOf, checksOf, ih, dataBehind_concat_data, last_cons]
      cases hlast : last NodeStep.group? steps with
      | none =>
        -- the first check is the only one
        have hrest : checksOf group steps = [] := by
          rw [← List.length_eq_zero_iff, length_checksOf, List.countP_eq_zero]
          intro step hstep
          simp [last_eq_none_iff.mp hlast step hstep]
        by_cases hgroup : other = group <;>
          simp [hgroup, hrest, NodeStep.group?, OpenNode.attach]
      | some latest =>
        by_cases hlatest : latest = group
        · have hne := checksOf_ne_nil (hlatest ▸ hlast)
          by_cases hgroup : other = group <;> simp [hgroup, hlatest, attach_cons hne]
        · simp [hlatest]
    | _ => simpa [checksOf, last_cons, NodeStep.group?] using ih

/-- What one more step does to the checks of a group. -/
theorem checksOf_concat (group : CheckGroup) (steps : List NodeStep) (step : NodeStep) :
    checksOf group (steps ++ [step]) = match step with
      | .check other id message result =>
        if other = group then checksOf group steps ++ [{ id, message, result }]
        else checksOf group steps
      | .data value =>
        if last NodeStep.group? steps = some group then OpenNode.attach value (checksOf group steps)
        else checksOf group steps
      | _ => checksOf group steps := by
  cases step with
  | check other id message result =>
    rw [checksOf_concat_append rfl]
    by_cases hgroup : other = group <;> simp [checksOf, dataBehind, hgroup]
  | data value => exact checksOf_concat_data value group steps
  | _ =>
    rw [checksOf_concat_append rfl]
    simp [checksOf]

/-! ## Whole nodes -/

theorem group_nodeOf (target : List String) (steps : List NodeStep) (group : CheckGroup) :
    (nodeOf target steps).group group = checksOf group steps := by
  cases group <;> rfl

/-- What is wrong after one more step was wrong before, or the step is data without a check or a
check too many. -/
theorem nodeBreaks_concat_iff {steps : List NodeStep} {step : NodeStep} {fault : Fault} :
    NodeBreaks (steps ++ [step]) fault ↔ NodeBreaks steps fault ∨
      (fault = .dataWithoutCheck ∧ step.data? ≠ none ∧ last NodeStep.group? steps = none) ∨
      (fault = .tooManyChecks ∧
        ∃ group, step.group? = some group ∧ 3 ≤ (checksOf group steps).length) := by
  constructor
  · intro h
    cases h with
    | @dataFirst before after value heq hnone =>
      rcases List.eq_nil_or_concat after with rfl | ⟨after, last, rfl⟩
      · obtain ⟨rfl, hstep⟩ := List.append_inj' heq rfl
        obtain rfl := List.singleton_inj.mp hstep
        exact .inr (.inl ⟨rfl, by simp [NodeStep.data?], last_eq_none_iff.mpr hnone⟩)
      · have heq' : steps ++ [step] = (before ++ .data value :: after) ++ [last] := by
          simpa using heq
        obtain ⟨rfl, -⟩ := List.append_inj' heq' rfl
        exact .inl (.dataFirst rfl hnone)
    | @fourthCheck group h =>
      rw [List.countP_append] at h
      by_cases hgroup : step.group? = some group
      · refine .inr (.inr ⟨rfl, group, hgroup, ?_⟩)
        rw [length_checksOf]
        simp [hgroup] at h
        omega
      · exact .inl (.fourthCheck (by simpa [hgroup] using h))
  · rintro (h | ⟨rfl, hdata, hnone⟩ | ⟨rfl, group, hgroup, h⟩)
    · cases h with
      | @dataFirst before after value heq hnone =>
        have heq' : steps ++ [step] = before ++ .data value :: (after ++ [step]) := by simp [heq]
        exact .dataFirst heq' hnone
      | fourthCheck h => exact .fourthCheck (h.trans (List.sublist_append_left _ _).countP_le)
    · cases step with
      | data value => exact .dataFirst rfl (last_eq_none_iff.mp hnone)
      | _ => exact absurd rfl hdata
    · rw [length_checksOf] at h
      have hfull : 4 ≤ (steps ++ [step]).countP (·.group? = some group) := by
        simp [List.countP_append, hgroup]
        omega
      exact .fourthCheck hfull

/-- The node in the making after some steps. -/
def openNodeOf (target : List String) (steps : List NodeStep) : OpenNode where
  node := nodeOf target steps
  latest := last NodeStep.group? steps

theorem openNodeOf_concat_check (target : List String) (steps : List NodeStep) (group : CheckGroup)
    (id message : String) (result : Bool) :
    openNodeOf target (steps ++ [.check group id message result])
      = { node := (nodeOf target steps).modifyGroup group (· ++ [{ id, message, result }])
          latest := some group } := by
  cases group <;> simp [openNodeOf, nodeOf, checksOf_concat, Node.modifyGroup,
    NodeStep.group?, NodeStep.html?, NodeStep.snippet?, NodeStep.failureSummary?]

theorem openNodeOf_concat_data (target : List String) {steps : List NodeStep} {group : CheckGroup}
    (value : Json) (h : last NodeStep.group? steps = some group) :
    openNodeOf target (steps ++ [.data value])
      = { node := (nodeOf target steps).modifyGroup group (OpenNode.attach value)
          latest := some group } := by
  cases group <;> simp [openNodeOf, nodeOf, checksOf_concat, Node.modifyGroup, h,
    NodeStep.group?, NodeStep.html?, NodeStep.snippet?, NodeStep.failureSummary?]

/-- Where nothing is wrong yet, a step makes the node that the steps with it describe, or is the one
that breaks something. -/
theorem answers_step (target : List String) (steps : List NodeStep) (step : NodeStep)
    (hnone : ∀ fault, ¬NodeBreaks steps fault) :
    Answers (NodeBreaks (steps ++ [step])) (openNodeOf target (steps ++ [step]))
      ((openNodeOf target steps).step step) := by
  cases step with
  | check group id message result =>
    show Answers _ _ ((openNodeOf target steps).addCheck group { id, message, result })
    have hgroup : (openNodeOf target steps).node.group group = checksOf group steps :=
      group_nodeOf target steps group
    unfold OpenNode.addCheck
    by_cases hroom : (checksOf group steps).length < maxChecks
    · rw [hgroup, if_pos hroom]
      refine ⟨(openNodeOf_concat_check target steps group id message result).symm, ?_⟩
      intro fault h
      rcases nodeBreaks_concat_iff.mp h with h | ⟨-, hdata, -⟩ | ⟨-, other, hother, hfull⟩
      · exact hnone fault h
      · exact hdata rfl
      · obtain rfl : group = other := Option.some_inj.mp hother
        unfold maxChecks at hroom
        omega
    · rw [hgroup, if_neg hroom]
      unfold maxChecks at hroom
      exact nodeBreaks_concat_iff.mpr (.inr (.inr ⟨rfl, group, rfl, by omega⟩))
  | data value =>
    have hlatest : (openNodeOf target steps).latest = last NodeStep.group? steps := rfl
    unfold OpenNode.step
    cases hlast : last NodeStep.group? steps with
    | none =>
      rw [hlatest, hlast]
      exact nodeBreaks_concat_iff.mpr (.inr (.inl ⟨rfl, by simp [NodeStep.data?], hlast⟩))
    | some group =>
      rw [openNodeOf_concat_data target value hlast, hlatest, hlast]
      refine ⟨by simp [openNodeOf, hlast], ?_⟩
      intro fault h
      rcases nodeBreaks_concat_iff.mp h with h | ⟨-, -, hempty⟩ | ⟨-, other, hother, -⟩
      · exact hnone fault h
      · simp [hlast] at hempty
      · simp [NodeStep.group?] at hother
  | _ =>
    refine ⟨?_, ?_⟩
    · simp [openNodeOf, nodeOf, checksOf_concat, NodeStep.group?, NodeStep.html?,
        NodeStep.snippet?, NodeStep.failureSummary?]
    · intro fault h
      simpa [hnone, NodeStep.data?, NodeStep.group?] using nodeBreaks_concat_iff.mp h

theorem answers_openNode (target : List String) (steps : List NodeStep) :
    Answers (NodeBreaks steps) (openNodeOf target steps)
      (steps.foldlM OpenNode.step (.ofTarget target)) := by
  refine answers_foldlM (openNodeOf target) ?_ ?_ (answers_step target) steps
  · intro fault h
    cases h with
    | dataFirst heq _ => simp at heq
    | fourthCheck h => simp at h
  · exact fun steps step fault h => nodeBreaks_concat_iff.mpr (.inl h)

theorem answers_node (target : List String) (steps : List NodeStep) :
    Answers (NodeBreaks steps) (nodeOf target steps) (node target steps) :=
  (answers_openNode target steps).map (·.node)

end AccessReport.Sketch
