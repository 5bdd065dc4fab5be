import AccessReport.Config.Draft
import AccessReport.Proofs.Config.RoundTrip
/-!
# Written drafts

The text of a draft is a configuration, and it says what the draft says: `Draft.toConfig` takes
every part over as it is, only that control characters other than ends of lines and tabs are left
out of the texts. No text can end its quotes, since each quote and each backslash in it is
escaped; so no text can open a table or set a key.

* `sets_textLine`, `sets_flagLine`, `sets_textsLine`: one line sets one key.
* `builds`: the lines build the tables of the rules, links and checks where they belong.
* `toToml_means_toConfig`: the text is read as the configuration that the draft stands for.
-/
namespace AccessReport

open Document Json Fields Toml

/-! ## What a draft stands for -/

namespace Draft

/-- The control characters that have a short escape are kept, the others are not. -/
def keeps (c : Char) : Bool :=
  c == '\n' || c == '\r' || c == '\t'
    || !(c.toNat < 0x20 || (0x7F ≤ c.toNat && c.toNat < 0xA0))

/-- A text without the control characters that are left out. -/
def cleaned (text : String) : String := String.ofList (text.toList.filter keeps)

end Draft

open Draft (cleaned)

def DraftLink.toConfig (link : DraftLink) : LinkConfig where
  id := cleaned link.id
  text := cleaned link.text
  href := cleaned link.href

def DraftCheck.toConfig (check : DraftCheck) : CheckConfig where
  id := cleaned check.id
  passMessage := check.passMessage.map cleaned
  failMessage := check.failMessage.map cleaned

def DraftRule.toConfig (rule : DraftRule) : RuleConfig where
  id := cleaned rule.id
  help := rule.help.map cleaned
  decorator := rule.decorator.map fun number =>
    if number % 2 = 0 then .linkSummary else .imageSummary
  howToCheck := rule.howToCheck
  bestPractice := rule.bestPractice
  guidance := rule.guidance.map cleaned
  checks := rule.checks.map DraftCheck.toConfig

def Draft.toConfig (draft : Draft) : Config where
  defaults := { title := draft.title.map cleaned }
  links := draft.links.map DraftLink.toConfig
  rules := draft.rules.map DraftRule.toConfig
  suppression := { messages := draft.suppressed.map cleaned }

namespace Draft

/-! ## Texts -/

theorem isPlain_of_not_isControl {c : Char} (h : isControl c = false) : isPlain c = true := by
  rw [isControl, Bool.or_eq_false_iff, Bool.and_eq_false_iff, decide_eq_false_iff_not,
    decide_eq_false_iff_not, decide_eq_false_iff_not] at h
  rw [isPlain, Bool.or_eq_true, Bool.and_eq_true, decide_eq_true_iff, bne_iff_ne]
  omega

/-- A character is read if it is kept; otherwise nothing stands for it. -/
theorem basicString?_escaped (c : Char) (more : List Char) :
    basicString? (escaped c ++ more)
      = if keeps c then withChar c (basicString? more) else basicString? more := by
  unfold escaped
  split
  · exact (basicString?_shortEscape rfl more).trans (if_pos (by decide)).symm
  · exact (basicString?_shortEscape rfl more).trans (if_pos (by decide)).symm
  · exact (basicString?_shortEscape rfl more).trans (if_pos (by decide)).symm
  · exact (basicString?_shortEscape rfl more).trans (if_pos (by decide)).symm
  · exact (basicString?_shortEscape rfl more).trans (if_pos (by decide)).symm
  · rename_i hquote hslash hnewline hreturn htab
    have hkeeps : keeps c = !isControl c := by
      rw [keeps, beq_false_of_ne hnewline, beq_false_of_ne hreturn, beq_false_of_ne htab]
      rfl
    cases hcontrol : isControl c with
    | true =>
      rw [hkeeps, hcontrol]
      rfl
    | false =>
      rw [hkeeps, hcontrol]
      exact basicString?_plain (isPlain_of_not_isControl hcontrol) hquote hslash more

theorem head_escaped (c : Char) : (escaped c).head? ≠ some '"' := by
  unfold escaped
  split
  · decide
  · decide
  · decide
  · decide
  · decide
  · rename_i hquote _ _ _ _
    split
    · simp
    · simpa using hquote

theorem value?_quoted (levels : Nat) (text : String) {rest : List Char}
    (hrest : rest.head? ≠ some '"') :
    value? levels ((quoted text).toList ++ rest) = some (.string (cleaned text), rest) := by
  have hbody := head?_flatMap_ne head_escaped text.toList
  have hread : string? ('"' :: text.toList.flatMap escaped ++ '"' :: rest)
      = some (text.toList.filter keeps, rest) := by
    rw [string?_quoted hbody hrest]
    exact basicString?_flatMap basicString?_escaped text.toList rest
  have htext : (quoted text).toList ++ rest
      = '"' :: (text.toList.flatMap escaped ++ '"' :: rest) := by
    simp [quoted]
  rw [htext, value?_quote (.inl rfl)]
  rw [List.cons_append] at hread
  rw [hread]
  rfl

theorem head_intercalate (text : String) (texts : List String) :
    ∃ tail, (", ".intercalate ((text :: texts).map quoted)).toList = '"' :: tail := by
  cases texts with
  | nil => exact ⟨_, by rw [List.map_singleton, String.intercalate_singleton, quoted,
      String.toList_ofList, List.cons_append]⟩
  | cons next texts => exact ⟨_, by simp [quoted, List.intercalate]; rfl⟩

/-- Several texts, with commas between them. -/
theorem arrayItems?_quoted (levels : Nat) {texts : List String} (hne : texts ≠ [])
    (rest : List Char) {cs : List Char}
    (hcs : skipTrivia cs = (", ".intercalate (texts.map quoted)).toList ++ ']' :: rest) :
    arrayItems? (value? levels) cs = some (texts.map fun text => .string (cleaned text), rest) := by
  induction texts generalizing cs with
  | nil => exact absurd rfl hne
  | cons text texts ih =>
    -- behind the last text the list ends, behind any other there is a comma and a blank
    cases texts with
    | nil =>
      have hread := value?_quoted levels text (by simp : (']' :: rest).head? ≠ some '"')
      have hstart : skipTrivia cs = (quoted text).toList ++ ']' :: rest := by
        simpa using hcs
      exact arrayItems?_last hstart (by simp [quoted]) hread
    | cons next texts =>
      obtain ⟨more, hmore⟩ : ∃ more,
          more = (", ".intercalate ((next :: texts).map quoted)).toList ++ ']' :: rest := ⟨_, rfl⟩
      have hread := value?_quoted levels text (by simp : (',' :: ' ' :: more).head? ≠ some '"')
      have hstart : skipTrivia cs = (quoted text).toList ++ ',' :: ' ' :: more := by
        rw [hcs, hmore]
        simp [List.intercalate]
      have hskip : skipTrivia (' ' :: more) = more := by
        obtain ⟨tail, htail⟩ := head_intercalate next texts
        rw [skipTrivia_space, hmore, htail]
        exact skipTrivia_cons (by decide) _
      have hlt : (' ' :: more).length < ((quoted text).toList ++ ',' :: ' ' :: more).length := by
        simp only [List.length_append, List.length_cons]
        omega
      rw [arrayItems?_item hstart (by simp [quoted]) hread hlt, ih (by simp) (hskip.trans hmore)]
      rfl

/-! ## Lines -/

/-- The characters of lines. -/
def charsOf (lines : List String) : List Char := lines.flatMap fun line => line.toList ++ ['\n']

/-- The lines set the keys. -/
def Sets (lines : List String) (keys : List (String × Plain)) : Prop :=
  Spells (charsOf lines) (assignments keys)

theorem Sets.append {lines more : List String} {keys others : List (String × Plain)}
    (h : Sets lines keys) (h' : Sets more others) : Sets (lines ++ more) (keys ++ others) := by
  have hspells := Spells.append h h'
  rw [assignments, assignments, ← List.map_append] at hspells
  rw [Sets, charsOf, List.flatMap_append]
  exact hspells

/-- A line that sets a key. -/
theorem sets_line {key value : String} {keys : List (String × Plain)}
    (h : Spells (key.toList ++ " = ".toList ++ value.toList ++ ['\n']) (assignments keys)) :
    Sets [key ++ " = " ++ value] keys := by
  have htext : charsOf [key ++ " = " ++ value]
      = key.toList ++ " = ".toList ++ value.toList ++ ['\n'] := by simp [charsOf]
  rw [Sets, htext]
  exact h

theorem skipSpace_quoted (text : String) (rest : List Char) :
    skipSpace ((quoted text).toList ++ rest) = (quoted text).toList ++ rest := by
  rw [quoted, String.toList_ofList]
  exact skipSpace_cons (by decide) _

theorem sets_textLine {key : String} (h : BareKey key) (text : String) :
    Sets [textLine key text] [(key, .text (cleaned text))] := by
  have hread : ∀ rest, value? Toml.deepest ((quoted text).toList ++ '\n' :: rest)
      = some (.string (cleaned text), '\n' :: rest) :=
    fun rest => value?_quoted Toml.deepest text (by simp)
  exact sets_line (.assignment h (skipSpace_quoted text) hread)

theorem sets_flagLine {key : String} (h : BareKey key) (flag : Bool) :
    Sets [flagLine key flag] [(key, .flag flag)] :=
  sets_line (.assignment h (skipSpace_write (.flag flag)) (value?_flag Toml.deepest flag))

theorem sets_textsLine {key : String} (h : BareKey key) {texts : List String} (hne : texts ≠ []) :
    Sets [textsLine key texts] [(key, .texts (texts.map cleaned))] := by
  let value := "[" ++ ", ".intercalate (texts.map quoted) ++ "]"
  have hvalue : ∀ rest, value.toList ++ rest
      = '[' :: ((", ".intercalate (texts.map quoted)).toList ++ ']' :: rest) := by
    intro rest
    simp [value]
  have hstart : ∀ rest, skipSpace (value.toList ++ rest) = value.toList ++ rest := by
    intro rest
    rw [hvalue]
    exact skipSpace_cons (by decide) _
  have hread : ∀ rest, value? Toml.deepest (value.toList ++ '\n' :: rest)
      = some (ofJson (Plain.texts (texts.map cleaned)).value, '\n' :: rest) := by
    intro rest
    obtain ⟨text, more, rfl⟩ := List.exists_cons_of_ne_nil hne
    have hskip : skipTrivia
          ((", ".intercalate ((text :: more).map quoted)).toList ++ ']' :: '\n' :: rest)
        = (", ".intercalate ((text :: more).map quoted)).toList ++ ']' :: '\n' :: rest := by
      obtain ⟨tail, htail⟩ := head_intercalate text more
      rw [htail]
      exact skipTrivia_cons (by decide) _
    have hitems := arrayItems?_quoted (Toml.deepest - 1) hne ('\n' :: rest) hskip
    rw [hvalue, Plain.value, Json.strings, ofJson_array, List.map_map, List.map_map]
    exact value?_array (Toml.deepest - 1) hitems
  have hline : textsLine key texts = key ++ " = " ++ value :=
    String.toList_inj.mp (by simp [textsLine, value])
  rw [hline]
  exact sets_line (.assignment h hstart hread)

theorem sets_textLineIfSome {key : String} (h : BareKey key) (text : Option String) :
    Sets (text.map (textLine key)).toList (keyIfSome key (text.map cleaned)) := by
  cases text with
  | none => exact Spells.nil
  | some text => exact sets_textLine h text

theorem sets_textsLineIfAny {key : String} (h : BareKey key) (texts : List String) :
    Sets (textsLineIfAny key texts) (keyIfAny key (texts.map cleaned)) := by
  cases texts with
  | nil => exact Spells.nil
  | cons text texts => exact sets_textsLine h (List.cons_ne_nil text texts)

/-- A header and the keys behind it. -/
theorem spells_section {header : Header} (h : BarePath header.path) {line : String}
    (hline : header.write = line) {lines : List String} {keys : List (String × Plain)}
    (hkeys : Sets lines keys) :
    Spells (charsOf (line :: lines)) (header.statement :: assignments keys) := by
  rw [← hline]
  exact (Spells.header h).append hkeys

theorem spells_emptyLine {lines : List String} {statements : List Statement}
    (h : Spells (charsOf lines) statements) : Spells (charsOf ("" :: lines)) statements :=
  Spells.emptyLine.append h

/-! ## Parts of a draft -/

theorem spells_flatMap {α : Type} {items : List α} {lines : α → List String}
    {statements : α → List Statement}
    (h : ∀ item, Spells (charsOf (lines item)) (statements item)) :
    Spells (charsOf (items.flatMap lines)) (items.flatMap statements) := by
  rw [charsOf, List.flatMap_assoc]
  exact Spells.flatMap fun item _ => h item

theorem spells_append {lines more : List String} {statements others : List Statement}
    (h : Spells (charsOf lines) statements) (h' : Spells (charsOf more) others) :
    Spells (charsOf (lines ++ more)) (statements ++ others) := by
  rw [charsOf, List.flatMap_append]
  exact h.append h'

theorem spells_linkLines (link : DraftLink) :
    Spells (charsOf (linkLines link)) (link.toConfig.toSections.flatMap Section.statements) := by
  have hkeys := ((sets_textLine (by decide : BareKey "id") link.id).append
    (sets_textLine (by decide : BareKey "text") link.text)).append
    (sets_textLine (by decide : BareKey "href") link.href)
  have hspells : Spells (charsOf (linkLines link)) link.toConfig.toSection.statements :=
    spells_emptyLine
      (spells_section (by decide : BarePath (Header.element ["link"]).path) rfl hkeys)
  have hsections : link.toConfig.toSections = [link.toConfig.toSection] := rfl
  rwa [hsections, List.flatMap_singleton]

theorem spells_checkLines (check : DraftCheck) :
    Spells (charsOf (checkLines check)) check.toConfig.toSection.statements := by
  have hkeys := ((sets_textLine (by decide : BareKey "id") check.id).append
    (sets_textLineIfSome (by decide : BareKey "pass_message") check.passMessage)).append
    (sets_textLineIfSome (by decide : BareKey "fail_message") check.failMessage)
  exact spells_emptyLine
    (spells_section (by decide : BarePath (Header.element ["rule", "check"]).path) rfl hkeys)

/-- The names of decorators have nothing to leave out. -/
theorem cleaned_name (decorator : NodeDecorator) : cleaned decorator.name = decorator.name := by
  cases decorator <;> decide

/-- The keys of a rule in the order in which a draft writes them. -/
def ruleKeys (rule : RuleConfig) : List (String × Plain) :=
  [("id", .text rule.id)] ++ keyIfSome "help" rule.help
    ++ keyIfSome "decorate_node" (rule.decorator.map (·.name))
    ++ [("how_to_check", .flag rule.howToCheck), ("best_practice", .flag rule.bestPractice)]
    ++ keyIfAny "guidance" rule.guidance

theorem spells_ruleLines (rule : DraftRule) :
    Spells (charsOf (ruleLines rule))
      (.element ["rule"] :: assignments (ruleKeys rule.toConfig)
        ++ rule.toConfig.checks.flatMap fun check => check.toSection.statements) := by
  have hdecorator : Sets
      (rule.decorator.map fun number => textLine "decorate_node" (decoratorOf number).name).toList
      (keyIfSome "decorate_node" ((rule.decorator.map decoratorOf).map (·.name))) := by
    cases rule.decorator with
    | none => exact Spells.nil
    | some number =>
      have hline := sets_textLine (by decide : BareKey "decorate_node") (decoratorOf number).name
      rwa [cleaned_name] at hline
  have hkeys := ((((sets_textLine (by decide : BareKey "id") rule.id).append
    (sets_textLineIfSome (by decide : BareKey "help") rule.help)).append hdecorator).append
    ((sets_flagLine (by decide : BareKey "how_to_check") rule.howToCheck).append
      (sets_flagLine (by decide : BareKey "best_practice") rule.bestPractice))).append
    (sets_textsLineIfAny (by decide : BareKey "guidance") rule.guidance)
  have hrule := spells_emptyLine
    (spells_section (by decide : BarePath (Header.element ["rule"]).path) rfl hkeys)
  have hchecks : Spells (charsOf (rule.checks.flatMap checkLines))
      (rule.toConfig.checks.flatMap fun check => check.toSection.statements) := by
    rw [DraftRule.toConfig, List.flatMap_map]
    exact spells_flatMap spells_checkLines
  exact spells_append hrule hchecks

/-! ## Whole drafts -/

/-- A part of a draft that is only there if it has something to say. -/
def ifPresent {α : Type} (present : Bool) (items : List α) : List α := if present then items else []

def statements (draft : Draft) : List Statement :=
  ifPresent draft.title.isSome draft.toConfig.defaults.toSection.statements
    ++ draft.toConfig.links.flatMap (fun link => link.toSections.flatMap Section.statements)
    ++ draft.toConfig.rules.flatMap (fun rule =>
      .element ["rule"] :: assignments (ruleKeys rule)
        ++ rule.checks.flatMap fun check => check.toSection.statements)
    ++ ifPresent (!draft.suppressed.isEmpty) draft.toConfig.suppression.toSection.statements

theorem spells_toToml (draft : Draft) : Spells draft.toToml.toList draft.statements := by
  have hdefaults : Spells (charsOf (titleLines draft.title))
      (ifPresent draft.title.isSome draft.toConfig.defaults.toSection.statements) := by
    rw [toConfig]
    cases draft.title with
    | none => exact Spells.nil
    | some title =>
      exact spells_section (by decide : BarePath (Header.table ["defaults"]).path) rfl
        (sets_textLine (by decide : BareKey "title") title)
  have hlinks : Spells (charsOf (draft.links.flatMap linkLines))
      (draft.toConfig.links.flatMap fun link => link.toSections.flatMap Section.statements) := by
    rw [toConfig, List.flatMap_map]
    exact spells_flatMap spells_linkLines
  have hrules : Spells (charsOf (draft.rules.flatMap ruleLines))
      (draft.toConfig.rules.flatMap fun rule => .element ["rule"] :: assignments (ruleKeys rule)
        ++ rule.checks.flatMap fun check => check.toSection.statements) := by
    rw [toConfig, List.flatMap_map]
    exact spells_flatMap spells_ruleLines
  have hsuppression : Spells (charsOf (suppressionLines draft.suppressed))
      (ifPresent (!draft.suppressed.isEmpty) draft.toConfig.suppression.toSection.statements) := by
    rw [toConfig]
    cases draft.suppressed with
    | nil => exact Spells.nil
    | cons message messages =>
      exact spells_emptyLine
        (spells_section (by decide : BarePath (Header.table ["suppression"]).path) rfl
          (sets_textsLine (by decide : BareKey "messages") (List.cons_ne_nil message messages)))
  have hall := spells_append (spells_append (spells_append hdefaults hlinks) hrules) hsuppression
  have htext : draft.toToml.toList = charsOf draft.lines := by
    simp [toToml, charsOf, List.flatMap_map]
  rw [htext]
  exact hall

/-! ### Tables -/

theorem listed_ruleKeys (rule : RuleConfig) :
    Listed ["id", "help", "decorate_node", "how_to_check", "best_practice", "guidance"]
      (ruleKeys rule) :=
  ((((listed_key "id" _).append (listed_keyIfSome "help" _)).append
    (listed_keyIfSome "decorate_node" _)).append
    ((listed_key "how_to_check" _).append (listed_key "best_practice" _))).append
    (listed_keyIfAny "guidance" _)

theorem proper_ruleKeys (rule : RuleConfig) : Proper (ruleKeys rule) :=
  .of_listed (listed_ruleKeys rule) (by decide) (by decide)

/-- The table of a rule with the tables of its checks. -/
def ruleEntries (rule : RuleConfig) : Entries :=
  withTables "check" (valuesOf (ruleKeys rule))
    (rule.checks.map fun check => valuesOf check.toSection.keys)

def ruleMembers (rule : RuleConfig) : List (String × Json) :=
  jsonOf (ruleKeys rule) ++ memberIfAny "check" CheckConfig.toJson rule.checks

theorem object_ruleEntries (rule : RuleConfig) :
    Document.object (membersOf (ruleEntries rule)) = ofJson (.object (ruleMembers rule)) :=
  object_withTables (fun check _ => check.object_entries) "check" (ruleKeys rule)

/-- A rule is read in whatever order its keys stand; a draft sets neither a description nor an
address. -/
theorem ofDocument?_ruleMembers (empty : Payload) {rule : RuleConfig}
    (hdescription : rule.description = none) (hurl : rule.helpUrl = none) :
    RuleConfig.ofDocument? empty (ofJson (.object (ruleMembers rule))) = some rule := by
  have hmembers : ruleMembers rule
      = member "id" (.string rule.id) ++ memberIfSome "help" .string rule.help
        ++ memberIfSome "decorate_node" (fun decorator => .string decorator.name) rule.decorator
        ++ (member "how_to_check" (.bool rule.howToCheck)
          ++ member "best_practice" (.bool rule.bestPractice))
        ++ memberIfAny "guidance" .string rule.guidance
        ++ memberIfAny "check" CheckConfig.toJson rule.checks := by
    simp only [ruleMembers, ruleKeys, jsonOf_append, jsonOf_keyIfSome, jsonOf_keyIfAny,
      memberIfSome_map]
    rfl
  have hlisted : Listed ["id", "help", "decorate_node", "how_to_check", "best_practice",
      "guidance", "check"] (ruleMembers rule) :=
    ((listed_ruleKeys rule).map Plain.value).append (.ifAny "check" CheckConfig.toJson rule.checks)
  have hdecorator : readOr none (option? (NodeDecorator.ofDocument? empty))
      (rule.decorator.map fun decorator => .string decorator.name) = some rule.decorator :=
    readOr_map (by simp [ofJson]) fun decorator _ => decorator.ofDocument?_name empty
  have hchecks := readOr_any fun check (_ : check ∈ rule.checks) => check.ofDocument?_toJson
  rw [RuleConfig.ofDocument?, record?_written hlisted (by decide) (by decide), hmembers]
  obtain ⟨id, description, help, helpUrl, decorator, howToCheck, guidance, bestPractice, checks⟩ :=
    rule
  cases hdescription
  cases hurl
  simp [List.lookup_append, hdecorator, hchecks]

def headEntries (draft : Draft) : Entries :=
  ifPresent draft.title.isSome
    [("defaults", .table .header (valuesOf draft.toConfig.defaults.toSection.keys))]

def listEntries (draft : Draft) : Entries :=
  withTables "rule"
    (withTables "link" draft.headEntries (draft.toConfig.links.map LinkConfig.entries))
    (draft.toConfig.rules.map ruleEntries)

/-- All that the text of a draft builds. -/
def entries (draft : Draft) : Entries :=
  draft.listEntries
    ++ ifPresent (!draft.suppressed.isEmpty)
      [("suppression", .table .header (valuesOf draft.toConfig.suppression.toSection.keys))]

theorem builds_ifPresent (present : Bool) {statements : List Statement} {before more : Entries}
    (h : Builds statements before (before ++ more)) :
    Builds (ifPresent present statements) before (before ++ ifPresent present more) := by
  cases present with
  | false =>
    rw [ifPresent, ifPresent, if_neg (by simp), if_neg (by simp), List.append_nil]
    exact .nil before
  | true => exact h

theorem builds (draft : Draft) : Builds draft.statements [] draft.entries := by
  have hhead : Listed ["defaults"] draft.headEntries := by
    rw [headEntries, ifPresent]
    split
    · exact .refl _
    · exact List.nil_sublist _
  have hwithLinks := listed_withTables hhead "link" (draft.toConfig.links.map LinkConfig.entries)
  have hwithRules := listed_withTables hwithLinks "rule" (draft.toConfig.rules.map ruleEntries)
  have hdefaults : Builds
      (ifPresent draft.title.isSome draft.toConfig.defaults.toSection.statements) []
      draft.headEntries :=
    builds_ifPresent _ (Builds.table fresh_root (by simp) draft.toConfig.defaults.proper_keys)
  have hlinks : Builds
      (draft.toConfig.links.flatMap fun link => link.toSections.flatMap Section.statements)
      draft.headEntries
      (withTables "link" draft.headEntries (draft.toConfig.links.map LinkConfig.entries)) :=
    Builds.elements [] fun link _ elements => link.builds (hhead.notMem (by decide)) elements
  have hrules : Builds
      (draft.toConfig.rules.flatMap fun rule => .element ["rule"] :: assignments (ruleKeys rule)
        ++ rule.checks.flatMap fun check => check.toSection.statements)
      (withTables "link" draft.headEntries (draft.toConfig.links.map LinkConfig.entries))
      draft.listEntries :=
    Builds.elements [] fun rule _ elements =>
      Builds.nested (hwithLinks.notMem (by decide)) (proper_ruleKeys rule)
        ((listed_ruleKeys rule).notMem (by decide)) (fun check _ => check.proper_keys) elements
  have hsuppression : Builds
      (ifPresent (!draft.suppressed.isEmpty) draft.toConfig.suppression.toSection.statements)
      draft.listEntries draft.entries :=
    builds_ifPresent _ (Builds.table fresh_root (hwithRules.notMem (by decide))
      draft.toConfig.suppression.proper_keys)
  exact ((hdefaults.append hlinks).append hrules).append hsuppression

/-! ### Reading -/

/-- The members of the document that the text of a draft spells. -/
def members (draft : Draft) : List (String × Json) :=
  ifPresent draft.title.isSome (member "defaults" draft.toConfig.defaults.toJson)
    ++ memberIfAny "link" LinkConfig.toJson draft.toConfig.links
    ++ memberIfAny "rule" (fun rule => .object (ruleMembers rule)) draft.toConfig.rules
    ++ ifPresent (!draft.suppressed.isEmpty)
      (member "suppression" draft.toConfig.suppression.toJson)

theorem listed_ifPresent {α : Type} (present : Bool) {names : List String}
    {items : List (String × α)} (h : Listed names items) :
    Listed names (ifPresent present items) := by
  cases present with
  | false => exact List.nil_sublist _
  | true => exact h

theorem lookup_ifPresent (present : Bool) (key : String) (value : Json) (name : String) :
    (ifPresent present (member key value)).lookup name
      = if name = key then (if present then some value else none) else none := by
  cases present with
  | false => simp [ifPresent]
  | true => exact lookup_member key value name

theorem membersOf_ifPresent (present : Bool) (key : String) {keys : List (String × Plain)}
    {value : Json} (h : Document.object (membersOf (valuesOf keys)) = ofJson value) :
    membersOf (ifPresent present [(key, .table .header (valuesOf keys))])
      = (ifPresent present (member key value)).map fun member => (member.1, ofJson member.2) := by
  cases present with
  | false => rfl
  | true => simp [ifPresent, membersOf, Item.toDocument, h, member]

theorem listed_members (draft : Draft) :
    Listed ["defaults", "link", "rule", "suppression"] draft.members :=
  (((listed_ifPresent _ (.member "defaults" _)).append (.ifAny "link" _ _)).append
    (.ifAny "rule" _ _)).append (listed_ifPresent _ (.member "suppression" _))

theorem read?_toToml (draft : Draft) :
    Toml.read? draft.toToml = some (ofJson (.object draft.members)) := by
  have hmembers : membersOf draft.entries
      = draft.members.map fun member => (member.1, ofJson member.2) := by
    rw [entries, membersOf_append, listEntries,
      membersOf_withTables (fun rule (_ : rule ∈ draft.toConfig.rules) => object_ruleEntries rule),
      membersOf_withTables (fun link (_ : link ∈ draft.toConfig.links) => link.object_entries),
      headEntries, membersOf_ifPresent _ _ draft.toConfig.defaults.object_entries,
      membersOf_ifPresent _ _ draft.toConfig.suppression.object_entries, members, List.map_append,
      List.map_append, List.map_append]
  have hbuilds : Builds draft.statements (valuesOf []) draft.entries := draft.builds
  have hdocument := documentOf?_of_builds ⟨by simp, by simp⟩ hbuilds
  rw [read?_of_spells draft.spells_toToml, ofJson_object, ← hmembers]
  exact hdocument

/-- **Drafts.** The text of a draft says what the draft stands for, and nothing else. -/
theorem toToml_means_toConfig (draft : Draft) :
    Config.ofToml? draft.toToml = some draft.toConfig := by
  have hdefaults : readOr {} (Defaults.ofDocument? emptyPayload)
      (if draft.title.isSome then some draft.toConfig.defaults.toJson else none)
        = some draft.toConfig.defaults := by
    have hread := draft.toConfig.defaults.ofDocument?_toJson emptyPayload
    revert hread
    rw [toConfig]
    cases draft.title with
    | none => exact fun _ => rfl
    | some title => exact id
  have hrule : ∀ rule ∈ draft.toConfig.rules,
      RuleConfig.ofDocument? emptyPayload (ofJson (.object (ruleMembers rule))) = some rule := by
    intro rule hm
    obtain ⟨written, -, rfl⟩ := List.mem_map.mp hm
    exact ofDocument?_ruleMembers emptyPayload rfl rfl
  have hrules := readOr_any hrule
  have hlinks := readOr_any fun link (_ : link ∈ draft.toConfig.links) => link.ofDocument?_toJson
  have hsuppression : readOr {} SuppressionConfig.ofDocument?
      (if draft.suppressed = [] then none else some draft.toConfig.suppression.toJson)
        = some draft.toConfig.suppression := by
    have hread := draft.toConfig.suppression.ofDocument?_toJson
    revert hread
    rw [toConfig]
    cases draft.suppressed with
    | nil => exact fun _ => rfl
    | cons message messages => exact id
  rw [Config.ofToml?_eq, read?_toToml, Option.bind_some, Config.ofDocument?,
    record?_written draft.listed_members (by decide) (by decide)]
  simp [members, List.lookup_append, lookup_ifPresent, hdefaults, hrules, hlinks, hsuppression]
  rfl

end Draft
end AccessReport
