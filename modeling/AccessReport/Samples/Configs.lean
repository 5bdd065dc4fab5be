import AccessReport.Config.BuiltIn
/-!
# Sample configurations

Configurations for trying things out.
-/
namespace AccessReport.Samples

/-- One rule with a message and one link (`minimal`). -/
def minimal : Config where
  rules := [{
    id := "image-alt"
    help := "Images need text alternatives"
    guidance := ["WCAG_1_1_1"]
    checks := [{
      id := "has-alt"
      passMessage := "Image has alt text"
      failMessage := "Configured: give the image alt text" }] }]
  links := [{
    id := "WCAG_1_1_1"
    text := "WCAG 1.1.1"
    href := "https://www.w3.org/WAI/WCAG21/Understanding/non-text-content" }]

/-- The built-in configuration with suppressed messages (`with_suppression`). -/
def withSuppression (messages : List String) : Config :=
  { BuiltIn.config with suppression := { messages } }

/-- A configuration file as a user would write it (`user_toml`). -/
def userText : String := "\n".intercalate [
  "",
  "[defaults]",
  "title = \"Checkout page\"",
  "mode = \"needs_review\"",
  "",
  "[[link]]",
  "id = \"INTERNAL_A11Y\"",
  "text = \"Internal accessibility handbook\"",
  "href = \"https://handbook.example/a11y\"",
  "",
  "[[rule]]",
  "id = \"image-alt\"",
  "help = \"Every product image needs alt text\"",
  "guidance = [\"INTERNAL_A11Y\"]",
  "",
  "[[rule.check]]",
  "id = \"has-alt\"",
  "fail_message = \"Describe the product shown in \x7bdata.productName\x7d\"",
  "",
  "[suppression]",
  "messages = [\"Element is hidden\"]",
  ""]

end AccessReport.Samples
