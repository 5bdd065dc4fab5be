import AccessReport.Template
/-!
# What can be wrong with a configuration

The errors that stop a configuration from being compiled.
-/
namespace AccessReport

inductive RegistryError where
  | duplicateRule (ruleId : String)
  | duplicateCheck (ruleId checkId : String)
  | duplicateLink (linkId : String)
  | unknownLink (ruleId linkId : String)
  | invalidTemplate (ruleId checkId template : String) (cause : TemplateError)
deriving DecidableEq, Repr

namespace RegistryError

def message : RegistryError → String
  | duplicateRule ruleId => s!"rule '{ruleId}' is defined more than once"
  | duplicateCheck ruleId checkId =>
    s!"rule '{ruleId}' defines check '{checkId}' more than once"
  | duplicateLink linkId => s!"link '{linkId}' is defined more than once"
  | unknownLink ruleId linkId =>
    s!"rule '{ruleId}' references unknown guidance link '{linkId}'"
  | invalidTemplate ruleId checkId template cause =>
    s!"rule '{ruleId}' check '{checkId}' has invalid message template '{template}': "
      ++ cause.message

/-- The messages of the error and of what caused it, outermost first. -/
def chain (error : RegistryError) : List String :=
  error.message :: match error with
    | invalidTemplate _ _ _ cause => [cause.message]
    | _ => []

end RegistryError
end AccessReport
