import ClientModel.Ids

/-! Reports on single declarations, which are collected while the rest of a package is derived. -/

namespace ClientModel

/-- How grave a report is. -/
inductive Severity where
  | error
  | warning
  | info
  | hint
  deriving DecidableEq

/-- The word for a severity. -/
def Severity.label : Severity → String
  | error => "error"
  | warning => "warning"
  | info => "info"
  | hint => "hint"

/-- The severity of a word. -/
def Severity.ofLabel? (label : String) : Option Severity :=
  [error, warning, info, hint].find? fun severity => severity.label == label

/-- A remark on another declaration that a report refers to. -/
structure RelatedRemark where
  target : Declaration
  message : String
  deriving DecidableEq

/-- A report on a declaration, or on none in particular. -/
structure Diagnostic where
  target : Option Declaration
  severity : Severity
  code : Option String
  message : String
  related : List RelatedRemark := []
  deriving DecidableEq

namespace Diagnostic

/-- The report is an error. -/
def isError (diagnostic : Diagnostic) : Bool :=
  diagnostic.severity == .error

/-- The report carries the given code. -/
def hasCode (diagnostic : Diagnostic) (code : String) : Bool :=
  diagnostic.code == some code

/-- A report on one line: severity, code in brackets, message, declaration in parentheses. -/
def label (diagnostic : Diagnostic) : String :=
  let code := (diagnostic.code.map fun code => "[" ++ code ++ "]").getD ""
  let target := (diagnostic.target.map fun target => " (" ++ target.label ++ ")").getD ""
  diagnostic.severity.label ++ code ++ ": " ++ diagnostic.message ++ target

end Diagnostic

/-! Codes by which callers tell reports apart. -/

namespace Code

def unexpectedParameterKind : String := "unexpected-http-param-type"
def noCorrespondingParameter : String := "no-corresponding-method-param"
def spreadNotResolved : String := "spread-not-resolved"
def multipleBodyTypes : String := "multiple-body-types"
def multipleResponseTypes : String := "multiple-response-types"
def brokenInvariant : String := "projection-invariant"
def invalidInitialization : String := "invalid-initialized-by"
def serverArgumentNotPath : String := "server-param-not-path"
def invalidLinkTarget : String := "operation-link-parameter-invalid-target"
def invalidRequestParameter : String := "request-parameter-invalid"
def invalidResponseProperty : String := "response-property-invalid"
def conflictingParameterMapping : String := "conflicting-parameter-mapping"
def pollingStatusMissing : String := "lro-status-missing"
def invalidPollingLink : String := "lro-invalid-link"
def conflictingMultipartUsage : String := "conflicting-multipart-usage"
def discriminatorNotConstant : String := "discriminator-not-constant"

end Code

/-- Reports in the order in which they came. -/
structure Diagnostics where
  reports : List Diagnostic := []
  deriving DecidableEq

namespace Diagnostics

/-- The reports with one more at the end. -/
def add (diagnostics : Diagnostics) (report : Diagnostic) : Diagnostics :=
  ⟨diagnostics.reports ++ [report]⟩

/-- The reports with one more error. -/
def error (diagnostics : Diagnostics) (target : Option Declaration) (code message : String) :
    Diagnostics :=
  diagnostics.add { target, severity := .error, code := some code, message }

/-- The reports with one more warning. -/
def warning (diagnostics : Diagnostics) (target : Option Declaration) (code message : String) :
    Diagnostics :=
  diagnostics.add { target, severity := .warning, code := some code, message }

/-- The reports on one declaration. -/
def on (diagnostics : Diagnostics) (target : Declaration) : List Diagnostic :=
  diagnostics.reports.filter fun report => report.target == some target

/-- How many reports have the given severity. -/
def count (diagnostics : Diagnostics) (severity : Severity) : Nat :=
  diagnostics.reports.countP fun report => report.severity == severity

/-- Some report is an error. -/
def hasErrors (diagnostics : Diagnostics) : Bool :=
  diagnostics.reports.any Diagnostic.isError

/-- Reports without those that repeat an earlier one exactly. -/
def distinct (reports : List Diagnostic) : List Diagnostic :=
  reports.foldl (fun kept report => if kept.contains report then kept else kept ++ [report]) []

/-- The reports to hand out: in order, each one once. -/
def finish (diagnostics : Diagnostics) : List Diagnostic :=
  distinct diagnostics.reports

end Diagnostics

end ClientModel
