import ParamQuery.Issue
import ParamQuery.Text.Quoted

/-!
# Faults, and the reports that go out

A `Fault` is the reason why a field is not registered or a request has no statement.  A `Report` is what a
caller gets to see of it: a message fit for users, the detail for the log, and what else belongs to the class of
the report.
-/

namespace ParamQuery

inductive ReportClass where
  | general
  | configuration
  | invalidDataType
  | unsupportedInput
  | queryValidation
  deriving DecidableEq, Repr

namespace ReportClass

def name : ReportClass → String
  | general => "TranslationError"
  | configuration => "ConfigurationError"
  | invalidDataType => "InvalidDataTypeError"
  | unsupportedInput => "UnsupportedInputTypeError"
  | queryValidation => "QueryValidationError"

def all : List ReportClass :=
  [general, configuration, invalidDataType, unsupportedInput, queryValidation]

def ofName? (s : String) : Option ReportClass :=
  all.find? (·.name = s)

/-- Whether the fault lies with the program that makes the request, not with its user. -/
def isConfiguration : ReportClass → Bool
  | configuration | invalidDataType | unsupportedInput => true
  | general | queryValidation => false

end ReportClass

structure Report where
  category : ReportClass
  userMessage : String
  internal : String
  /-- The class of the error behind this one. -/
  wrapped : Option String
  /-- The issues of a validation report. -/
  issues : Option (List Issue)
  deriving Repr

namespace Report

/-- A report without issues; the user message stands in for a missing detail. -/
def plain (category : ReportClass) (userMessage detail : String) (wrapped : Option String) : Report :=
  ⟨category, userMessage, if detail = "" then userMessage else detail, wrapped, none⟩

/-- A validation report, whose detail is the messages of all issues. -/
def validation (userMessage : String) (issues : List Issue) : Report :=
  let detail := "; ".intercalate (issues.map (·.message))
  ⟨.queryValidation, userMessage, userMessage ++ ": " ++ detail, none, some issues⟩

/-- The report of the issues collected so far, if there are any. -/
def ofIssues? (issues : List Issue) : Option Report :=
  if issues.isEmpty then none else some (validation "Query Validation Error" issues)

end Report

inductive Fault where
  /-- No data type has this name. -/
  | unknownDataType (label : String)
  /-- A parameter is neither a text nor a sequence of texts. -/
  | unsupportedInput (kind : Kind)
  /-- What is wrong with the request, in order. -/
  | invalidQuery (problems : List Problem)
  /-- An integer has too many digits to be written. -/
  | numeralTooLong
  deriving DecidableEq, Repr

namespace Fault

def numeralTooLongMessage : String :=
  "Exceeds the limit (4300 digits) for integer string conversion; " ++
    "use sys.set_int_max_str_digits() to increase the limit"

/-- The report of a fault; none for a number that cannot be written, which is told by its bare message. -/
def report? : Fault → Option Report
  | unknownDataType label => some <| .plain .invalidDataType "invalid field data type"
      ("invalid field data type: " ++ Text.quoted label ++ ". Available: " ++
        ", ".intercalate (DataType.all.map DataType.name)) (some "ValueError")
  | unsupportedInput kind => some <| .plain .unsupportedInput "unsupported query parameter type"
      ("unexpected query parameter type: " ++ kind.name) none
  | invalidQuery problems => Report.ofIssues? (problems.map Problem.issue)
  | numeralTooLong => none

end Fault

end ParamQuery
