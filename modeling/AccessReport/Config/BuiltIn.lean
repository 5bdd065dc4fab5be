import AccessReport.Config.Basic
/-!
# The built-in configuration

The rules and the catalog of links that the program knows without any configuration file.
-/
namespace AccessReport.BuiltIn

/-- Where the understanding documents of the guidelines are found. -/
def understanding : String := "https://www.w3.org/WAI/WCAG21/Understanding"

/-- The catalog entry of a success criterion. -/
def criterion (id number page : String) : LinkConfig where
  id := id
  text := "WCAG " ++ number
  href := understanding ++ "/" ++ page

/-- The catalog entry of a success criterion that is new in version 2.1 of the guidelines. -/
def newCriterion (id number page : String) : LinkConfig :=
  { criterion id number page with
    tags := [{ id := "WCAG_2_1", displayText := "WCAG 2.1" }] }

def links : List LinkConfig := [
  criterion "WCAG_1_1_1" "1.1.1" "non-text-content",
  criterion "WCAG_1_3_1" "1.3.1" "info-and-relationships",
  newCriterion "WCAG_1_3_5" "1.3.5" "identify-input-purpose",
  criterion "WCAG_1_4_1" "1.4.1" "use-of-color",
  criterion "WCAG_1_4_3" "1.4.3" "contrast-minimum",
  criterion "WCAG_2_1_1" "2.1.1" "keyboard",
  criterion "WCAG_2_4_1" "2.4.1" "bypass-blocks",
  criterion "WCAG_2_4_2" "2.4.2" "page-titled",
  criterion "WCAG_2_4_4" "2.4.4" "link-purpose-in-context",
  newCriterion "WCAG_2_5_3" "2.5.3" "label-in-name",
  criterion "WCAG_3_1_1" "3.1.1" "language-of-page",
  criterion "WCAG_3_3_2" "3.3.2" "labels-or-instructions",
  criterion "WCAG_4_1_2" "4.1.2" "name-role-value"]

/-! ## Rules -/

/-- Rules about images. -/
def imageRules : List RuleConfig := [
  { id := "image-alt"
    help := some "Images must have alternate text"
    guidance := ["WCAG_1_1_1"]
    checks := [
      { id := "has-alt"
        passMessage := some "Element has an alt attribute"
        failMessage := some "Add an alt attribute that describes the image's purpose" },
      { id := "aria-label"
        passMessage := some "aria-label attribute exists and is not empty"
        failMessage := some "Add a non-empty aria-label attribute" },
      { id := "aria-labelledby"
        passMessage := some "aria-labelledby attribute references elements with text"
        failMessage := some "Add an aria-labelledby attribute that references visible text" },
      { id := "role-presentation"
        passMessage := some ("Element's default semantics were overridden with "
          ++ "role=\"presentation\"")
        failMessage := some "Mark decorative images with role=\"presentation\" or alt=\"\"" }] },
  { id := "image-function"
    description := some "Identify each image's function and mark decorative images"
    help := some "Image function must be conveyed to assistive technology"
    helpUrl := some "https://www.w3.org/WAI/tutorials/images/decision-tree/"
    decorator := some .imageSummary
    howToCheck := true
    guidance := ["WCAG_1_1_1"]
    checks := [
      { id := "image-function-collected"
        passMessage := some "Image type: \x7bdata.imageType\x7d" }] }]

/-- Rules about links and buttons. -/
def linkRules : List RuleConfig := [
  { id := "link-name"
    help := some "Links must have discernible text"
    guidance := ["WCAG_2_4_4", "WCAG_4_1_2"]
    checks := [
      { id := "has-visible-text"
        passMessage := some "Element has text that is visible to screen readers"
        failMessage := some "Add text inside the link that screen readers can read" },
      { id := "focusable-no-name"
        passMessage := some "Element is not in tab order or has accessible text"
        failMessage := some "Remove the link from the tab order or give it accessible text" }] },
  { id := "link-purpose"
    description := some "Verify that each link's purpose is clear from its name and context"
    help := some "Link purpose must be identifiable"
    helpUrl := some (understanding ++ "/link-purpose-in-context")
    decorator := some .linkSummary
    howToCheck := true
    guidance := ["WCAG_2_4_4"]
    checks := [
      { id := "link-purpose-collected"
        passMessage := some "Link name: \x7bdata.accessibleName\x7d" }] },
  { id := "link-in-text-block"
    help := some "Links must be distinguishable without relying on color"
    howToCheck := true
    guidance := ["WCAG_1_4_1"]
    checks := [
      { id := "link-in-text-block"
        passMessage := some ("Links can be distinguished from surrounding text in some way "
          ++ "other than by color")
        failMessage := some ("Links must be distinguished from surrounding text in a way that "
          ++ "does not rely on color") }] },
  { id := "button-name"
    help := some "Buttons must have discernible text"
    guidance := ["WCAG_4_1_2"]
    checks := [
      { id := "button-has-visible-text"
        passMessage := some "Element has inner text that is visible to screen readers"
        failMessage := some "Add inner text that is visible to screen readers" }] }]

/-- Rules about color. -/
def colorRules : List RuleConfig := [
  { id := "color-contrast"
    help := some "Elements must have sufficient color contrast"
    howToCheck := true
    guidance := ["WCAG_1_4_3"]
    checks := [
      { id := "color-contrast"
        passMessage := some "Element has sufficient color contrast of \x7bdata.contrastRatio\x7d"
        failMessage := some ("Element has insufficient color contrast of "
          ++ "\x7bdata.contrastRatio\x7d (foreground color: \x7bdata.fgColor\x7d, background "
          ++ "color: \x7bdata.bgColor\x7d)") }] }]

/-- Rules about the document as a whole. -/
def documentRules : List RuleConfig := [
  { id := "document-title"
    help := some "Documents must have <title> element to aid in navigation"
    guidance := ["WCAG_2_4_2"]
    checks := [
      { id := "doc-has-title"
        passMessage := some "Document has a non-empty <title> element"
        failMessage := some "Add a non-empty <title> element to the document" }] },
  { id := "html-has-lang"
    help := some "<html> element must have a lang attribute"
    guidance := ["WCAG_3_1_1"]
    checks := [
      { id := "has-lang"
        passMessage := some "The <html> element has a lang attribute"
        failMessage := some "Add a lang attribute to the <html> element" }] },
  { id := "bypass"
    help := some "Page must have means to bypass repeated blocks"
    guidance := ["WCAG_2_4_1"] }]

/-- Rules about landmarks, headings, lists and tables. -/
def structureRules : List RuleConfig := [
  { id := "region"
    help := some "All page content should be contained by landmarks"
    bestPractice := true
    checks := [
      { id := "region"
        passMessage := some "All page content is contained by landmarks"
        failMessage := some "Move content that is not inside a landmark into one" }] },
  { id := "heading-order"
    help := some "Heading levels should only increase by one"
    bestPractice := true
    checks := [
      { id := "heading-order"
        passMessage := some "Heading order valid"
        failMessage := some "Heading order invalid" }] },
  { id := "landmark-one-main"
    help := some "Document should have one main landmark"
    bestPractice := true },
  { id := "list"
    help := some "<ul> and <ol> must only directly contain <li>, <script> or <template> elements"
    guidance := ["WCAG_1_3_1"] },
  { id := "p-as-heading"
    help := some "Styled <p> elements must not be used as headings"
    howToCheck := true
    guidance := ["WCAG_1_3_1"] },
  { id := "th-has-data-cells"
    help := some "Table headers in a data table must refer to data cells"
    howToCheck := true
    guidance := ["WCAG_1_3_1"] }]

/-- Rules about forms, frames and scrollable regions. -/
def formRules : List RuleConfig := [
  { id := "label"
    help := some "Form elements must have labels"
    guidance := ["WCAG_3_3_2", "WCAG_4_1_2"]
    checks := [
      { id := "implicit-label"
        passMessage := some "Form element has an implicit (wrapped) <label>"
        failMessage := some "Wrap the form element in a <label>" },
      { id := "explicit-label"
        passMessage := some "Form element has an explicit <label>"
        failMessage := some "Add a <label> whose for attribute matches the element's id" },
      { id := "non-empty-title"
        passMessage := some "Element has a title attribute"
        failMessage := some "Add a non-empty title attribute" }] },
  { id := "label-content-name-mismatch"
    help := some ("Interactive elements labelled through their content must have their visible "
      ++ "label as part of their accessible name")
    howToCheck := true
    guidance := ["WCAG_2_5_3"] },
  { id := "autocomplete-valid"
    help := some "autocomplete attribute must be used correctly"
    guidance := ["WCAG_1_3_5"] },
  { id := "frame-title"
    help := some "Frames must have an accessible name"
    guidance := ["WCAG_4_1_2"]
    checks := [
      { id := "non-empty-title"
        passMessage := some "Element has a title attribute"
        failMessage := some "Add a non-empty title attribute to the frame" }] },
  { id := "scrollable-region-focusable"
    help := some "Scrollable region must have keyboard access"
    howToCheck := true
    guidance := ["WCAG_2_1_1"] }]

def rules : List RuleConfig :=
  imageRules ++ linkRules ++ colorRules ++ documentRules
    ++ structureRules ++ formRules

/-- The built-in configuration as a whole. -/
def config : Config where
  rules := rules
  links := links

end AccessReport.BuiltIn
