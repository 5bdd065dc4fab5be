import AccessReport.Proofs.Command.Validation
/-!
# What commands make of a scan

Three commands make something of a scan alone: the decorated results, their export, and the cards.
The first one does by itself what the other two leave to a report, and in another order: it
compiles its configuration before it reads its input, while a report is made of the input first.
So they may fail with different errors. But they go well in the same case and show the same scan.

* `Report.inStages_eq`: no stage of a report is left without what it needs.
* `ScanProduct.run_ok_iff`: when a product is made, and which one.
* `CommandLine.products_agree`: the commands beside each other.
-/
namespace AccessReport

variable {around : Surroundings}

/-! ## Stages of a report -/

/-- Why a report that is made stage by stage comes to nothing. -/
inductive StageError where
  | report (cause : ReportError)
  | undecorated
  | unviewable
deriving DecidableEq, Repr

namespace StageError

/-- The result of a stage that has one only if its inputs are there. -/
def require {α : Type} (missing : StageError) : Option α → Except StageError α
  | some value => .ok value
  | none => .error missing

end StageError

/-- The decorated results, once there is an engine result. -/
def Registries.decorate? (registries : Registries) (title : String) (engine : Option EngineScan) :
    Option ScanResults :=
  engine.map (registries.decorate title)

namespace Report

theorem engineScan_ok_iff {text : String} {engine : EngineScan} :
    engineScan text = .ok engine ↔ EngineScan.ofText? text = some engine := by
  rw [engineScan]
  cases EngineScan.ofText? text <;> simp

/-- A report from stages each of which is asked whether it has a result. -/
def inStages (plan : ReportPlan) (config : Config) (text : String) (uids : UidSupply) :
    Except StageError Report := do
  let engine ← (engineScan text).mapError .report
  let registries ← (registries config).mapError .report
  let scan ← StageError.undecorated.require (registries.decorate? plan.title (some engine))
  let rules := UnifiedRule.ofScan? (some scan)
  let (results, _) :=
    Converter.convert { rules := registries.rules, uids } plan.mode (some scan)
  let cards ← StageError.unviewable.require
    (CardsView.view? (some rules) (some results) (some (plan.selection.getD {})))
  pure {
    scanResults := scan
    unified := .ofScan scan rules results
    cards
    counts := .ofView cards }

/-- Once the engine result is read and the configuration compiled, every stage has a result: a
report fails with nothing else. -/
theorem inStages_eq (plan : ReportPlan) (config : Config) (text : String) (uids : UidSupply) :
    inStages plan config text uids = (run plan config text uids).outcome.mapError .report := by
  simp only [inStages, run, Traced.outcome_bind, Traced.outcome_ofExcept]
  cases engineScan text with
  | error cause => rfl
  | ok engine =>
    cases registries config with
    | error cause => rfl
    | ok registries => rfl

end Report

/-! ## What is read -/

/-- A configuration with its registries, and an engine result with its text. -/
structure ScanInputs where
  config : Config
  registries : Registries
  text : String
  engine : EngineScan

/-- What a command finds that makes something of the scan at a path. -/
structure ScanInputs.In (around : Surroundings) (source : ConfigSource) (path : String)
    (inputs : ScanInputs) : Prop where
  loads : (source.load.run around).outcome = .ok inputs.config
  compiles : Registries.compile inputs.config = .ok inputs.registries
  reads : ((Command.input path).run around).outcome = .ok inputs.text
  parses : EngineScan.ofText? inputs.text = some inputs.engine

namespace ScanInputs

variable {source : ConfigSource} {path : String}

/-- The configuration and the input come apart: neither has to do with the other. -/
theorem exists_in_iff :
    (∃ inputs : ScanInputs, inputs.In around source path) ↔
      source.Usable around ∧ Command.ReadsScan around path := by
  constructor
  · rintro ⟨inputs, h⟩
    exact ⟨⟨inputs.config, inputs.registries, h.loads, h.compiles⟩,
      inputs.text, inputs.engine, h.reads, h.parses⟩
  · rintro ⟨⟨config, registries, hload, hc⟩, text, engine, htext, hengine⟩
    exact ⟨⟨config, registries, text, engine⟩, hload, hc, htext, hengine⟩

/-- What a report on the inputs is asked for. -/
def plan (inputs : ScanInputs) (title : Option String) (needsReview : Bool) : ReportPlan where
  title := inputs.config.titleFor title
  mode := inputs.config.modeFor needsReview

def report (inputs : ScanInputs) (title : Option String) (needsReview : Bool) (uids : UidSupply) :
    Report :=
  .ofScan (inputs.plan title needsReview) inputs.registries uids inputs.engine

end ScanInputs

namespace Command

variable {source : ConfigSource} {options : ScanOptions} {uids : UidSupply}

theorem decorated_ok_iff {output : Output} :
    ((decorated source options).run around).outcome = .ok output ↔
      ∃ inputs : ScanInputs, inputs.In around source options.input ∧
        output = .ofJson options.out (inputs.registries.decorate
          (inputs.config.titleFor options.title) inputs.engine).toJson := by
  simp only [decorated, config, registries, Report.registries, Inquiry.run_bind,
    Traced.outcome_bind, Inquiry.outcome_mapError, Inquiry.run_ofExcept, Traced.outcome_ofExcept,
    Inquiry.outcome_tellAll, Inquiry.run_tell, Traced.outcome_tell, Inquiry.run_pure,
    Traced.outcome_pure, ok_bind, bind_eq_ok, mapError_eq_ok, Report.engineScan_ok_iff]
  constructor
  · rintro ⟨config, hload, registries, hc, text, htext, engine, hengine, h⟩
    cases h
    exact ⟨⟨config, registries, text, engine⟩, ⟨hload, hc, htext, hengine⟩, rfl⟩
  · rintro ⟨inputs, h, rfl⟩
    exact ⟨_, h.loads, _, h.compiles, _, h.reads, _, h.parses, rfl⟩

/-- Here the configuration is compiled after the input was read. -/
theorem report_selected_ok_iff {needsReview : Bool} {selected : Option String} {made : Report} :
    ((report source options needsReview selected uids).run around).outcome = .ok made ↔
      ∃ (inputs : ScanInputs) (held : Option Selection), inputs.In around source options.input ∧
        ((selectionIn selected).run around).outcome = .ok held ∧
        made = .ofScan { inputs.plan options.title needsReview with selection := held }
          inputs.registries uids inputs.engine := by
  simp only [outcome_report, config, Inquiry.outcome_mapError, Traced.outcome_mapError,
    bind_eq_ok, mapError_eq_ok, Report.run_outcome]
  constructor
  · rintro ⟨config, hload, held, hheld, text, htext, engine, registries, hengine, hc, rfl⟩
    exact ⟨⟨config, registries, text, engine⟩, held, ⟨hload, hc, htext, hengine⟩, hheld, rfl⟩
  · rintro ⟨inputs, held, h, hheld, rfl⟩
    exact ⟨_, h.loads, _, hheld, _, h.reads, _, _, h.parses, h.compiles, rfl⟩

theorem report_ok_iff {needsReview : Bool} {made : Report} :
    ((report source options needsReview none uids).run around).outcome = .ok made ↔
      ∃ inputs : ScanInputs, inputs.In around source options.input ∧
        made = inputs.report options.title needsReview uids := by
  rw [report_selected_ok_iff]
  constructor
  · rintro ⟨inputs, _, h, hnone, rfl⟩
    cases hnone
    exact ⟨inputs, h, rfl⟩
  · rintro ⟨inputs, h, rfl⟩
    exact ⟨inputs, none, h, rfl, rfl⟩

theorem outcome_ending {α γ : Type} {first : Inquiry CommandError α} {ending : α → γ}
    {result : γ} :
    ((first >>= fun value => pure (ending value)).run around).outcome = .ok result ↔
      ∃ value, (first.run around).outcome = .ok value ∧ result = ending value := by
  rw [Inquiry.run_bind, Traced.outcome_bind, bind_eq_ok]
  refine exists_congr fun value => and_congr_right fun _ => ?_
  rw [Inquiry.run_pure, Traced.outcome_pure, Except.ok.injEq, eq_comm]

/-- What is put out at the end is made of the same inputs. -/
theorem ending_ok_iff {α : Type} {first : Inquiry CommandError α} {made : ScanInputs → α}
    (hfirst : ∀ value, (first.run around).outcome = .ok value ↔
      ∃ inputs : ScanInputs, inputs.In around source options.input ∧ value = made inputs)
    (ending : α → Output) {result : Nat × Output} :
    ((first >>= fun value => pure (0, ending value)).run around).outcome = .ok result ↔
      ∃ inputs : ScanInputs, inputs.In around source options.input ∧
        result = (0, ending (made inputs)) := by
  rw [outcome_ending]
  constructor
  · rintro ⟨value, hvalue, rfl⟩
    obtain ⟨inputs, hin, rfl⟩ := (hfirst value).mp hvalue
    exact ⟨inputs, hin, rfl⟩
  · rintro ⟨inputs, hin, rfl⟩
    exact ⟨made inputs, (hfirst _).mpr ⟨inputs, hin, rfl⟩, rfl⟩

end Command

/-! ## Products -/

/-- What is made of a scan alone. -/
inductive ScanProduct where
  | decorated
  | unified (needsReview : Bool)
  | cards (needsReview : Bool)
deriving DecidableEq, Repr

namespace ScanProduct

/-- The command that makes it. -/
def command (options : ScanOptions) : ScanProduct → Command
  | decorated => .decorate options
  | unified needsReview => .unify options needsReview
  | cards needsReview => .cards options needsReview none

/-- What is made of what was read. -/
def json (inputs : ScanInputs) (title : Option String) (uids : UidSupply) : ScanProduct → Json
  | decorated => (inputs.registries.decorate (inputs.config.titleFor title) inputs.engine).toJson
  | unified needsReview => (inputs.report title needsReview uids).unified.toJson
  | cards needsReview => (inputs.report title needsReview uids).cards.toJson

/-- A product is made if and only if all there is to read can be read, whichever product it is. -/
theorem run_ok_iff (product : ScanProduct) {source : ConfigSource} {options : ScanOptions}
    {uids : UidSupply} {result : Nat × Output} :
    (((product.command options).run source uids).run around).outcome = .ok result ↔
      ∃ inputs : ScanInputs, inputs.In around source options.input ∧
        result = (0, .ofJson options.out (product.json inputs options.title uids)) := by
  cases product with
  | decorated =>
    exact Command.ending_ok_iff (fun _ => Command.decorated_ok_iff) id
  | unified needsReview =>
    exact Command.ending_ok_iff (fun _ => Command.report_ok_iff)
      fun report => .ofJson options.out report.unified.toJson
  | cards needsReview =>
    exact Command.ending_ok_iff (fun _ => Command.report_ok_iff)
      fun report => .ofJson options.out report.cards.toJson

end ScanProduct

namespace CommandLine

variable {line : CommandLine} {uids : UidSupply} {options : ScanOptions}

/-- The command line goes well and puts out a value as JSON. -/
def Prints (line : CommandLine) (around : Surroundings) (uids : UidSupply) (json : Json) : Prop :=
  ((line.run uids).run around).outcome = .ok (0, .print (json.pretty ++ "\n"))

theorem exitCode_eq_zero_iff :
    line.exitCode around uids = 0 ↔ ∃ output, ((line.run uids).run around).outcome = .ok (0, output)
    := by
  rw [exitCode]
  cases ((line.run uids).run around).outcome with
  | error cause => simp
  | ok result =>
    obtain ⟨code, output⟩ := result
    simp

/-- A product can be made if and only if there is something to make it of. -/
theorem exitCode_product_eq_zero_iff (product : ScanProduct) :
    (line.doing (product.command options)).exitCode around uids = 0 ↔
      line.source.Usable around ∧ Command.ReadsScan around options.input := by
  rw [exitCode_eq_zero_iff, ← ScanInputs.exists_in_iff]
  simp only [outcome_doing, product.run_ok_iff]
  constructor
  · rintro ⟨output, inputs, h, -⟩
    exact ⟨inputs, h⟩
  · rintro ⟨inputs, h⟩
    exact ⟨_, inputs, h, rfl⟩

theorem prints_product (product : ScanProduct) {input : String} {title : Option String}
    {inputs : ScanInputs} (h : inputs.In around line.source input) :
    (line.doing (product.command { input, title })).Prints around uids
      (product.json inputs title uids) := by
  rw [Prints, outcome_doing]
  exact product.run_ok_iff.mpr ⟨inputs, h, rfl⟩

/-- In a file tree a product is printed as it was made, and no file is written for it. -/
theorem ofLine_product (product : ScanProduct) {input : String} {title : Option String}
    (tree : FileTree) (environment : List (String × String)) (stdin : String) :
    let line := line.doing (product.command { input, title })
    let completion := Completion.ofLine line tree environment stdin uids
    completion.exitCode = line.exitCode (.ofTree tree environment stdin) uids ∧
      (∀ json, line.Prints (.ofTree tree environment stdin) uids json →
        completion.stdout = json.pretty ++ "\n") ∧
      completion.tree = tree := by
  intro line completion
  simp only [completion, Completion.ofLine, exitCode, Prints]
  cases hrun : ((line.run uids).run (.ofTree tree environment stdin)).outcome with
  | error cause =>
    refine ⟨rfl, fun json hprints => ?_, rfl⟩
    cases hprints
  | ok result =>
    obtain ⟨inputs, -, rfl⟩ := product.run_ok_iff.mp ((outcome_doing ..).symm.trans hrun)
    refine ⟨rfl, fun json hprints => ?_, rfl⟩
    simp only [Output.ofJson, Except.ok.injEq, Prod.mk.injEq, true_and, Output.print.injEq]
      at hprints
    exact hprints

end CommandLine

/-- **Products.** The commands that decorate a scan, export it and show its cards without a
selection go well in the same case: the configuration can be loaded and compiled, and the input is
an engine result. The decorated results that are printed are then those of the report of which the
other two print their part, in either mode. A report fails only at its inputs, never at a later
stage. -/
theorem CommandLine.products_agree (around : Surroundings) (line : CommandLine) (input : String)
    (title : Option String) :
    let doing (product : ScanProduct) := line.doing (product.command { input, title })
    (∀ product uids, (doing product).exitCode around uids = 0 ↔
        line.source.Usable around ∧ Command.ReadsScan around input) ∧
      (line.source.Usable around → Command.ReadsScan around input →
        ∃ config text, (line.source.load.run around).outcome = .ok config ∧
          ((Command.input input).run around).outcome = .ok text ∧
          ∀ needsReview uids, ∃ report,
            (Report.run
                { title := config.titleFor title, mode := config.modeFor needsReview }
                config text uids).outcome = .ok report ∧
              (∀ supply, (doing .decorated).Prints around supply report.scanResults.toJson) ∧
              (doing (.unified needsReview)).Prints around uids report.unified.toJson ∧
              (doing (.cards needsReview)).Prints around uids report.cards.toJson) ∧
      (∀ plan config text uids, Report.inStages plan config text uids
        = (Report.run plan config text uids).outcome.mapError .report) ∧
      ∀ tree environment stdin, around = .ofTree tree environment stdin → ∀ product uids,
        let completion := Completion.ofLine (doing product) tree environment stdin uids
        completion.exitCode = (doing product).exitCode around uids ∧
          (∀ json, (doing product).Prints around uids json →
            completion.stdout = json.pretty ++ "\n") ∧
          completion.tree = tree := by
  intro doing
  refine ⟨?_, ?_, ?_, ?_⟩
  · intro product uids
    exact exitCode_product_eq_zero_iff product
  · intro husable hreads
    obtain ⟨inputs, h⟩ := ScanInputs.exists_in_iff.mpr ⟨husable, hreads⟩
    refine ⟨inputs.config, inputs.text, h.loads, h.reads, fun needsReview uids =>
      ⟨inputs.report title needsReview uids, ?_, ?_, ?_, ?_⟩⟩
    · exact (Report.run_outcome ..).mpr
        ⟨inputs.engine, inputs.registries, h.parses, h.compiles, rfl⟩
    · intro supply
      exact prints_product .decorated h
    · exact prints_product (.unified needsReview) h
    · exact prints_product (.cards needsReview) h
  · exact Report.inStages_eq
  · rintro tree environment stdin rfl product uids
    exact ofLine_product product tree environment stdin

/-- A tree with a configuration that names a title, and with a scan. -/
def scannedTree : FileTree := .ofFiles ["home"] [
  ("a11ylens.toml", "[defaults]\ntitle = \"Checkout\"\n[[rule]]\nid = \"alt\""),
  ("scan.json", "\x7b\"violations\":[\x7b\"id\":\"alt\",\"nodes\":["
    ++ "\x7b\"target\":[\"a\"],\"any\":[\x7b\"id\":\"has-alt\"\x7d]\x7d]\x7d]\x7d")]

theorem CommandLine.products_agree_scanned :
    let line : CommandLine := { source := { noDefaults := true }, command := .rules .toml }
    let around := Surroundings.ofTree scannedTree [] ""
    let completed (product : ScanProduct) := Completion.ofLine
      (line.doing (product.command { input := "scan.json" })) scannedTree [] "" (Uid.supply 0 0)
    line.source.Usable around ∧ Command.ReadsScan around "scan.json" ∧
      (completed .decorated).exitCode = 0 ∧
      ∃ report : Report, report.scanResults.targetPageTitle = "Checkout" ∧
        (completed .decorated).stdout = report.scanResults.toJson.pretty ++ "\n" ∧
        (completed (.unified true)).stdout = report.unified.toJson.pretty ++ "\n" ∧
        (completed (.cards true)).stdout = report.cards.toJson.pretty ++ "\n" := by
  intro line around completed
  have hconfig : ((line.source.load.run around).outcome.toOption.bind fun config =>
      (Registries.compile config).toOption.map fun _ => config.titleFor none)
        = some "Checkout" := by
    decide +kernel
  have hinput : ((((Command.input "scan.json").run around).outcome.toOption.bind
      EngineScan.ofText?).map fun engine => engine.toBuckets.violations.length) = some 1 := by
    decide +kernel
  obtain ⟨config, hload, hcompile⟩ := Option.bind_eq_some_iff.mp hconfig
  obtain ⟨registries, hcompile, htitle⟩ := Option.map_eq_some_iff.mp hcompile
  obtain ⟨engine, hengine, -⟩ := Option.map_eq_some_iff.mp hinput
  obtain ⟨text, htext, hengine⟩ := Option.bind_eq_some_iff.mp hengine
  have husable : line.source.Usable around :=
    ⟨config, registries, toOption_eq_some.mp hload, toOption_eq_some.mp hcompile⟩
  have hreads : Command.ReadsScan around "scan.json" :=
    ⟨text, engine, toOption_eq_some.mp htext, hengine⟩
  obtain ⟨hexit, hmade, -, htree⟩ := products_agree around line "scan.json" none
  obtain ⟨same, _, hsame, -, hreports⟩ := hmade husable hreads
  obtain ⟨report, hrun, hdecorated, hunified, hcards⟩ := hreports true (Uid.supply 0 0)
  have hcompletes := htree scannedTree [] "" rfl
  refine ⟨husable, hreads, ?_, report, ?_, ?_, ?_, ?_⟩
  · exact (hcompletes .decorated _).1.trans ((hexit .decorated _).mpr ⟨husable, hreads⟩)
  · cases hsame.symm.trans (toOption_eq_some.mp hload)
    obtain ⟨_, _, -, -, rfl⟩ := (Report.run_outcome ..).mp hrun
    exact htitle
  · exact (hcompletes .decorated _).2.1 _ (hdecorated _)
  · exact (hcompletes (.unified true) _).2.1 _ hunified
  · exact (hcompletes (.cards true) _).2.1 _ hcards

end AccessReport
