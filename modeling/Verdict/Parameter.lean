import Verdict.Table
import Verdict.Value

/-!
# Message parameters

A failure carries named values that its message may show. The names below are those that the
built-in checks use; a template may ask for any name, and a name without a value shows nothing.
-/

namespace Verdict

/-- The named values of a failure. -/
abbrev Parameters := Table Value

namespace Parameter

/-- The validated element. Every failure carries this parameter. -/
def field : String := "field"

/-- The value compared with. -/
def value : String := "value"

/-- The least length. -/
def minLength : String := "minLength"

/-- The greatest length. -/
def maxLength : String := "maxLength"

/-- The only length. -/
def exactLength : String := "exactLength"

/-- The pattern to match. -/
def pattern : String := "pattern"

/-- The text to start with. -/
def prefixText : String := "prefix"

/-- The text to end with. -/
def suffixText : String := "suffix"

/-- The text to contain. -/
def substring : String := "substring"

/-- The values to choose from. -/
def allowedValues : String := "allowedValues"

/-- The least number. -/
def min : String := "min"

/-- The greatest number. -/
def max : String := "max"

/-- The earliest date. -/
def minDate : String := "minDate"

/-- The latest date. -/
def maxDate : String := "maxDate"

/-- The date compared with. -/
def referenceDate : String := "referenceDate"

/-- The days of the working week. -/
def weekdays : String := "weekdays"

/-- The days of the weekend. -/
def weekendDays : String := "weekendDays"

/-- The month asked for. -/
def month : String := "month"

/-- The year asked for. -/
def year : String := "year"

/-- The least size. -/
def minSize : String := "minSize"

/-- The greatest size. -/
def maxSize : String := "maxSize"

/-- The only size. -/
def exactSize : String := "exactSize"

/-- The size found. -/
def actualSize : String := "actualSize"

/-- The element asked for. -/
def element : String := "element"

/-- The elements asked for. -/
def elements : String := "elements"

/-- The condition in words. -/
def condition : String := "condition"

/-- The name of the kind asked for. -/
def className : String := "className"

/-- The thing compared with. -/
def reference : String := "reference"

/-- The severity, repeated from the failure. -/
def severity : String := "severity"

/-- The category, repeated from the failure. -/
def category : String := "category"

/-- The names with their constants, in order. -/
def vocabulary : List (String × String) := [
  ("FIELD", field),
  ("VALUE", value),
  ("MIN_LENGTH", minLength),
  ("MAX_LENGTH", maxLength),
  ("EXACT_LENGTH", exactLength),
  ("PATTERN", pattern),
  ("PREFIX", prefixText),
  ("SUFFIX", suffixText),
  ("SUBSTRING", substring),
  ("ALLOWED_VALUES", allowedValues),
  ("MIN", min),
  ("MAX", max),
  ("MIN_DATE", minDate),
  ("MAX_DATE", maxDate),
  ("REFERENCE_DATE", referenceDate),
  ("WEEKDAYS", weekdays),
  ("WEEKEND_DAYS", weekendDays),
  ("MONTH", month),
  ("YEAR", year),
  ("MIN_SIZE", minSize),
  ("MAX_SIZE", maxSize),
  ("EXACT_SIZE", exactSize),
  ("ACTUAL_SIZE", actualSize),
  ("ELEMENT", element),
  ("ELEMENTS", elements),
  ("CONDITION", condition),
  ("CLASS_NAME", className),
  ("REFERENCE", reference),
  ("SEVERITY", severity),
  ("CATEGORY", category)]

end Parameter

end Verdict
