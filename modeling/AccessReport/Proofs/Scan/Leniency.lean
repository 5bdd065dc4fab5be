import AccessReport.Proofs.Json.Data
import AccessReport.Proofs.Json.Recast
import AccessReport.Proofs.Json.RoundTrip
import AccessReport.Report
/-!
# Lenient scans

Engines differ in what they put into a scan, and so do the versions of one engine. The forms here
say for every record of a scan what its fields are called, which of them have a default, and which
hold further records. However a scan is recast within that, it is read as the same scan and reported
on in the same words. What is read of it is not made to fit either: the data of every check, which
may have any form, is kept as the text gives it.

* `GuidanceTag.form`, `GuidanceLink.form`, `Check.form`, `Node.form`, `RuleResult.form`,
  `EngineScan.form`: the forms of the records.
* `EngineScan.keeps`: a scan is read the same from all its forms.
* `EngineScan.forall₂_checks`: the checks of a scan and the documents they are read from.
* `Report.run_recast`: the report on a scan in another form.
-/
namespace AccessReport

open Document Json

/-! ## Forms -/

namespace FieldForm

/-- A text that is empty by default. -/
def text (name : String) : FieldForm := { name, absent? := some (.string "") }

/-- A list of records that is empty by default. -/
def records (name : String) (form : RecordForm) : FieldForm where
  name
  absent? := some (.array [])
  inner := Itemwise (Recast form)

/-- A list of records that may be left out. -/
def optionalRecords (name : String) (form : RecordForm) : FieldForm where
  name
  absent? := some .null
  inner := Itemwise (Recast form)

/-- A part that may be null. -/
def optional (name : String) : FieldForm := { name, absent? := some .null }

end FieldForm

def GuidanceTag.form : RecordForm where
  fields := [{ name := "id" }, { name := "displayText" }]
  distinct := by decide

def GuidanceLink.form : RecordForm where
  fields := [{ name := "text" }, { name := "href" }, .optionalRecords "tags" GuidanceTag.form]
  distinct := by decide

/-- The data of a check is null by default and has no other form. -/
def Check.form : RecordForm where
  fields := [{ name := "id" }, .text "message", .optional "data",
    { name := "result", absent? := some (.bool false) }]
  distinct := by decide

def Node.form : RecordForm where
  fields := [{ name := "target", absent? := some (.array []) }, .text "html", .optional "snippet",
    .optional "failureSummary", .records "any" Check.form, .records "all" Check.form,
    .records "none" Check.form]
  distinct := by decide

def RuleResult.form : RecordForm where
  fields := [{ name := "id" }, .text "description", .text "help", .text "helpUrl",
    .records "nodes" Node.form, .optionalRecords "guidanceLinks" GuidanceLink.form]
  distinct := by decide

def EngineScan.form : RecordForm where
  fields := [.records "passes" RuleResult.form, .records "violations" RuleResult.form,
    .records "incomplete" RuleResult.form, .records "inapplicable" RuleResult.form,
    .text "timestamp", .text "url"]
  distinct := by decide

/-! ## Fields in another form -/

namespace FieldForm.Follows

variable {α : Type} {read? : Document → Option α} {name : String} {form : RecordForm}
  {fields others : Fields}

theorem text (h : (FieldForm.text name).Follows (fields.get? name) (others.get? name)) :
    Kept (fields.defaulted name text? "") (others.defaulted name text? "") :=
  h.defaulted .eq rfl rfl

theorem optional (h : (FieldForm.optional name).Follows (fields.get? name) (others.get? name)) :
    Kept (fields.optional name read?) (others.optional name read?) :=
  h.defaulted .eq rfl rfl

theorem records (h : (FieldForm.records name form).Follows (fields.get? name) (others.get? name))
    (hk : Keeps read? (Recast form)) :
    Kept (fields.defaulted name (list? read?) []) (others.defaulted name (list? read?) []) :=
  h.defaulted hk.list? rfl rfl

theorem optionalRecords
    (h : (FieldForm.optionalRecords name form).Follows (fields.get? name) (others.get? name))
    (hk : Keeps read? (Recast form)) :
    Kept (fields.optional name (list? read?)) (others.optional name (list? read?)) :=
  h.defaulted hk.option?_list? rfl rfl

end FieldForm.Follows

/-! ## Records in another form

Each reader asks for its fields one after the other, so that it is enough that each of them is
kept. -/

theorem GuidanceTag.keeps : Keeps ofDocument? (Recast form) := by
  refine Keeps.recast fun fields others follows => ?_
  simp only [RecordForm.Follows, form, List.forall_mem_cons] at follows
  obtain ⟨hid, htext, -⟩ := follows
  exact (hid.required .eq rfl).bind fun _ => (htext.required .eq rfl).bind fun _ => .refl _

theorem GuidanceLink.keeps : Keeps ofDocument? (Recast form) := by
  refine Keeps.recast fun fields others follows => ?_
  simp only [RecordForm.Follows, form, List.forall_mem_cons] at follows
  obtain ⟨htext, href, htags, -⟩ := follows
  exact (htext.required .eq rfl).bind fun _ => (href.required .eq rfl).bind fun _ =>
    (htags.optionalRecords GuidanceTag.keeps).bind fun _ => .refl _

theorem Check.keeps : Keeps ofDocument? (Recast form) := by
  refine Keeps.recast fun fields others follows => ?_
  simp only [RecordForm.Follows, form, List.forall_mem_cons] at follows
  obtain ⟨hid, hmessage, hdata, hresult, -⟩ := follows
  exact (hid.required .eq rfl).bind fun _ => hmessage.text.bind fun _ =>
    (hdata.defaulted .eq rfl (by rfl)).bind fun _ =>
    (hresult.defaulted .eq rfl (by rfl)).bind fun _ => .refl _

theorem Node.keeps : Keeps ofDocument? (Recast form) := by
  refine Keeps.recast fun fields others follows => ?_
  simp only [RecordForm.Follows, form, List.forall_mem_cons] at follows
  obtain ⟨htarget, hhtml, hsnippet, hsummary, hany, hall, hnone, -⟩ := follows
  exact (htarget.defaulted .eq rfl (by rfl)).bind fun _ => hhtml.text.bind fun _ =>
    hsnippet.optional.bind fun _ => hsummary.optional.bind fun _ =>
    (hany.records Check.keeps).bind fun _ => (hall.records Check.keeps).bind fun _ =>
    (hnone.records Check.keeps).bind fun _ => .refl _

theorem RuleResult.keeps : Keeps ofDocument? (Recast form) := by
  refine Keeps.recast fun fields others follows => ?_
  simp only [RecordForm.Follows, form, List.forall_mem_cons] at follows
  obtain ⟨hid, hdescription, hhelp, hhelpUrl, hnodes, hlinks, -⟩ := follows
  exact (hid.required .eq rfl).bind fun _ => hdescription.text.bind fun _ =>
    hhelp.text.bind fun _ => hhelpUrl.text.bind fun _ =>
    (hnodes.records Node.keeps).bind fun _ =>
    (hlinks.optionalRecords GuidanceLink.keeps).bind fun _ => .refl _

/-- A scan is read the same from all its forms. -/
theorem EngineScan.keeps : Keeps ofDocument? (Recast form) := by
  refine Keeps.recast fun fields others follows => ?_
  simp only [RecordForm.Follows, form, List.forall_mem_cons] at follows
  obtain ⟨hpasses, hviolations, hincomplete, hinapplicable, htime, hurl, -⟩ := follows
  exact (hpasses.records RuleResult.keeps).bind fun _ =>
    (hviolations.records RuleResult.keeps).bind fun _ =>
    (hincomplete.records RuleResult.keeps).bind fun _ =>
    (hinapplicable.records RuleResult.keeps).bind fun _ =>
    (htime.defaulted .eq rfl (by rfl)).bind fun _ => hurl.text.bind fun _ => .refl _

/-! ## The checks of a scan and their documents -/

def RuleResult.checks (rule : RuleResult) : List Check := rule.nodes.flatMap Node.checks

def Buckets.checks (buckets : Buckets) : List Check := buckets.walk.flatMap RuleResult.checks

namespace Document

/-- What a document says of a field of a record, if it says anything. -/
def part? (form : RecordForm) (name : String) (document : Document) : Option Document :=
  (document.record? form.names).bind (·.get? name)

/-- The items of a list that a document gives under a name. -/
def itemsUnder (form : RecordForm) (name : String) (document : Document) : List Document :=
  match document.part? form name with
  | some (.array items) => items
  | _ => []

theorem forall₂_of_mapM {α : Type} {item? : Document → Option α} {items : List Document}
    {values : List α} (h : items.mapM item? = some values) :
    List.Forall₂ (fun item value => item? item = some value) items values := by
  induction items generalizing values with
  | nil =>
    cases h
    exact .nil
  | cons item items ih =>
    rw [List.mapM_cons] at h
    obtain ⟨value, hv, h⟩ := Option.bind_eq_some_iff.mp h
    obtain ⟨rest, hr, h⟩ := Option.bind_eq_some_iff.mp h
    cases h
    exact .cons hv (ih hr)

/-- A list that was read holds what each of its documents gives. -/
theorem forall₂_itemsUnder {α : Type} {item? : Document → Option α} {form : RecordForm}
    {name : String} {document : Document} {fields : Fields} {values : List α}
    (hf : document.record? form.names = some fields)
    (h : fields.defaulted name (list? item?) [] = some values) :
    List.Forall₂ (fun item value => item? item = some value) (document.itemsUnder form name)
      values := by
  rw [itemsUnder, part?, hf, Option.bind_some]
  rw [Fields.defaulted] at h
  cases hc : fields.get? name with
  | none =>
    rw [hc] at h
    cases h
    exact .nil
  | some content =>
    rw [hc] at h
    cases content with
    | array items => exact forall₂_of_mapM h
    | _ => cases h

end Document

/-- The data of a check says what its document gives as data; without any it is null. -/
def Check.HasData (document : Document) (check : Check) : Prop :=
  Says ((document.part? form "data").getD .null) check.data

/-- The documents of the checks of a node, group by group. -/
def Node.checkDocuments (document : Document) : List Document :=
  document.itemsUnder form "any" ++ document.itemsUnder form "all"
    ++ document.itemsUnder form "none"

def RuleResult.checkDocuments (document : Document) : List Document :=
  (document.itemsUnder form "nodes").flatMap Node.checkDocuments

def EngineScan.checkDocuments (document : Document) : List Document :=
  Bucket.all.flatMap fun bucket =>
    (document.itemsUnder form bucket.name).flatMap RuleResult.checkDocuments

theorem Check.hasData {document : Document} {check : Check}
    (h : ofDocument? document = some check) : check.HasData document := by
  simp only [ofDocument?, bind, Option.bind_eq_some_iff] at h
  obtain ⟨fields, hf, id, -, message, -, data, hdata, result, -, ⟨⟩⟩ := h
  have hfields : document.record? form.names = some fields := hf
  rw [HasData, part?, hfields, Option.bind_some]
  rw [Fields.defaulted] at hdata
  cases hc : fields.get? "data" with
  | none =>
    rw [hc] at hdata
    cases hdata
    exact .null
  | some content =>
    rw [hc] at hdata
    exact says_of_value? hdata

theorem Node.forall₂_checks {document : Document} {node : Node}
    (h : ofDocument? document = some node) :
    List.Forall₂ Check.HasData (checkDocuments document) node.checks := by
  simp only [ofDocument?, bind, Option.bind_eq_some_iff] at h
  obtain ⟨fields, hf, target, -, html, -, snippet, -, summary, -, anyChecks, hany, allChecks, hall,
    noneChecks, hnone, ⟨⟩⟩ := h
  have hfields : document.record? form.names = some fields := hf
  have hgroups := List.rel_append
    (List.rel_append (forall₂_itemsUnder hfields hany) (forall₂_itemsUnder hfields hall))
    (forall₂_itemsUnder hfields hnone)
  exact hgroups.imp fun _ _ => Check.hasData

theorem RuleResult.forall₂_checks {document : Document} {rule : RuleResult}
    (h : ofDocument? document = some rule) :
    List.Forall₂ Check.HasData (checkDocuments document) rule.checks := by
  simp only [ofDocument?, bind, Option.bind_eq_some_iff] at h
  obtain ⟨fields, hf, id, -, description, -, help, -, helpUrl, -, nodes, hnodes, links, -, ⟨⟩⟩ := h
  have hfields : document.record? form.names = some fields := hf
  exact List.rel_flatMap (forall₂_itemsUnder hfields hnodes) fun _ _ => Node.forall₂_checks

namespace EngineScan

variable {document : Document} {scan : EngineScan}

theorem forall₂_bucket (h : ofDocument? document = some scan) (bucket : Bucket) :
    List.Forall₂ (fun item rule => RuleResult.ofDocument? item = some rule)
      (document.itemsUnder form bucket.name) (scan.get bucket) := by
  simp only [ofDocument?, bind, Option.bind_eq_some_iff] at h
  obtain ⟨fields, hf, passes, hpasses, violations, hviolations, incomplete, hincomplete,
    inapplicable, hinapplicable, timestamp, -, url, -, ⟨⟩⟩ := h
  have hfields : document.record? form.names = some fields := hf
  cases bucket with
  | passes => exact forall₂_itemsUnder hfields hpasses
  | violations => exact forall₂_itemsUnder hfields hviolations
  | incomplete => exact forall₂_itemsUnder hfields hincomplete
  | inapplicable => exact forall₂_itemsUnder hfields hinapplicable

/-- The checks of a scan, in order, have the data that their documents give. -/
theorem forall₂_checks (h : ofDocument? document = some scan) :
    List.Forall₂ Check.HasData (checkDocuments document) scan.checks := by
  have hbuckets : List.Forall₂ Eq Bucket.all Bucket.all := List.forall₂_refl _
  rw [Buckets.checks, Buckets.walk, List.flatMap_assoc]
  refine List.rel_flatMap hbuckets ?_
  rintro bucket _ rfl
  exact List.rel_flatMap (forall₂_bucket h bucket) fun _ _ => RuleResult.forall₂_checks

end EngineScan

/-! ## Reports -/

/-- **Lenient scans.** A scan that a text gives in another form, with members in another order, with
unknown ones or without defaults, is read as the same scan. Every report on it is the same, and with
a configuration that compiles there is one. The data of each check is kept as it was given. -/
theorem Report.run_recast {text other : String} {document recast : Document} {scan : EngineScan}
    (ht : Json.read? text = some document) (ho : Json.read? other = some recast)
    (h : Recast EngineScan.form document recast) (hs : EngineScan.ofText? text = some scan) :
    EngineScan.ofText? other = some scan ∧
      (∀ plan config uids, run plan config other uids = run plan config text uids) ∧
      (∀ plan config uids registries, Registries.compile config = .ok registries →
        (run plan config other uids).outcome = .ok (ofScan plan registries uids scan)) ∧
      List.Forall₂ Check.HasData (EngineScan.checkDocuments document) scan.checks := by
  have hscan : EngineScan.ofDocument? document = some scan := by
    rw [EngineScan.ofText?, ht] at hs
    exact hs
  have hother : EngineScan.ofText? other = some scan := by
    rw [EngineScan.ofText?, ho]
    exact EngineScan.keeps h scan hscan
  refine ⟨hother, ?_, ?_, EngineScan.forall₂_checks hscan⟩
  · intro plan config uids
    rw [run, run, engineScan, engineScan, hs, hother]
  · intro plan config uids registries hc
    exact (run_outcome ..).mpr ⟨scan, registries, hother, hc, rfl⟩

/-- A scan with one check, which has data. -/
def plainScan : Json :=
  .object [("passes", .array [
    .object [("help", .string ""), ("nodes", .array [
      .object [("any", .array [
        .object [("id", .string "c"), ("data", .object [("b", .bool true), ("a", .null)])]])]]),
      ("id", .string "r")]]), ("url", .string "u")]

/-- The scan without the empty help, with members in another order and with a node that has an
id. -/
def oddScan : Json :=
  .object [("url", .string "u"), ("passes", .array [
    .object [("nodes", .array [
      .object [("id", .null), ("any", .array [
        .object [("data", .object [("b", .bool true), ("a", .null)]), ("id", .string "c")]])]]),
      ("id", .string "r")]])]

/-- Built from the check outwards. -/
theorem recast_plainScan : Recast EngineScan.form (ofJson plainScan) (ofJson oddScan) := by
  have hany : FieldForm.records "any" Check.form ∈ Node.form.fields := by simp [Node.form]
  have hnodes : FieldForm.records "nodes" Node.form ∈ RuleResult.form.fields := by
    simp [RuleResult.form]
  have hhelp : FieldForm.text "help" ∈ RuleResult.form.fields := by simp [RuleResult.form]
  have hpasses : FieldForm.records "passes" RuleResult.form ∈ EngineScan.form.fields := by
    simp [EngineScan.form]
  have hcheck : ∀ data, Recast Check.form (.object [("id", .string "c"), ("data", data)])
      (.object [("data", data), ("id", .string "c")]) := fun _ =>
    .single (.reordered (.swap ..))
  have hnode : ∀ check other, Recast Check.form check other → Recast Node.form
      (.object [("any", .array [check])]) (.object [("id", .null), ("any", .array [other])]) :=
    fun _ _ h => .head (.within hany (.items (.cons h .nil)) [])
      (.single (.extended (by decide) .null _))
  have hrule : ∀ node other, Recast Node.form node other → Recast RuleResult.form
      (.object [("help", .string ""), ("nodes", .array [node]), ("id", .string "r")])
      (.object [("nodes", .array [other]), ("id", .string "r")]) :=
    fun _ _ h => .head (.shortened hhelp rfl _)
      (.single (.within hnodes (.items (.cons h .nil)) _))
  exact .head (.within hpasses (.items (.cons (hrule _ _ (hnode _ _ (hcheck _))) .nil)) _)
    (.single (.reordered (.swap ..)))

theorem exact_scans : Exact 9 plainScan ∧ Exact 9 oddScan := by
  simp [plainScan, oddScan, Exact.array_iff, Exact.object_iff, Exact.string, Exact.null, Exact.bool]

theorem Report.run_recast_odd :
    ∃ scan, EngineScan.ofText? plainScan.compact = some scan ∧
      EngineScan.ofText? oddScan.compact = some scan ∧
      List.Forall₂ Check.HasData (EngineScan.checkDocuments (ofJson plainScan)) scan.checks := by
  have hplain := read?_compact (exact_scans.1.mono (by decide))
  have hodd := read?_compact (exact_scans.2.mono (by decide))
  have hsome : (EngineScan.ofDocument? (ofJson plainScan)).isSome = true := by decide +kernel
  obtain ⟨scan, hs⟩ := Option.isSome_iff_exists.mp hsome
  have hscan : EngineScan.ofText? plainScan.compact = some scan := by
    rw [EngineScan.ofText?, hplain]
    exact hs
  obtain ⟨hother, -, -, hchecks⟩ := run_recast hplain hodd recast_plainScan hscan
  exact ⟨scan, hscan, hother, hchecks⟩

end AccessReport
