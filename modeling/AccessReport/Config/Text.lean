import AccessReport.Config.Format
import AccessReport.Toml.Reader
/-!
# Configuration texts

Results:
* `ofToml?_eq`: a configuration text is TOML that has the form of a configuration.
-/
namespace AccessReport.Config

/-- The configuration that a TOML text holds. -/
def ofToml? (text : String) : Option Config := do
  ofDocument? Toml.emptyPayload (← Toml.read? text)

/-- The configuration that a JSON document holds. -/
def ofJsonDocument? (document : Document) : Option Config :=
  ofDocument? Document.nullPayload document

theorem ofToml?_eq (text : String) :
    ofToml? text = (Toml.read? text).bind (ofDocument? Toml.emptyPayload) := rfl

end AccessReport.Config
