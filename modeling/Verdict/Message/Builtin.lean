import Verdict.Code
import Verdict.Message.Template

/-!
# The built-in templates

Every code of the catalog has a template in English. A template that the caller sets for a code
takes the place of the built-in one; a code without any template is shown by `fallbackTemplate`.
-/

namespace Verdict

/-- The template for codes that have none of their own. -/
def fallbackTemplate : String := "Validation failed for field '{field}'"

/-- The built-in template of a code. -/
def Code.template : Code → String
  | .notNull => "Field '{field}' must not be null"
  | .mustBeNull => "Field '{field}' must be null"
  | .isEqual => "Field '{field}' must be equal to '{value}'"
  | .isNotEqual => "Field '{field}' must not be equal to '{value}'"
  | .satisfies => "Field '{field}' must satisfy the condition: {condition}"
  | .isInstanceOf => "Field '{field}' must be an instance of {className}"
  | .isNotInstanceOf => "Field '{field}' must not be an instance of {className}"
  | .isSameAs => "Field '{field}' must be the same object as {reference}"
  | .isNotSameAs => "Field '{field}' must not be the same object as {reference}"
  | .notBlank => "Field '{field}' must not be blank"
  | .maxLength => "Field '{field}' must not exceed {max} characters"
  | .minLength => "Field '{field}' must be at least {min} characters long"
  | .exactLength => "Field '{field}' must be exactly {exactLength} characters long"
  | .matchesPattern => "Field '{field}' must match the pattern: {pattern}"
  | .oneOf => "Field '{field}' must be one of: {allowedValues}"
  | .oneOfIgnoreCase => "Field '{field}' must be one of (case insensitive): {allowedValues}"
  | .startsWith => "Field '{field}' must start with '\x7bprefix\x7d'"
  | .endsWith => "Field '{field}' must end with '{suffix}'"
  | .contains => "Field '{field}' must contain '{substring}'"
  | .numeric => "Field '{field}' must contain only numeric characters"
  | .alphanumeric => "Field '{field}' must contain only alphanumeric characters"
  | .uppercase => "Field '{field}' must be in uppercase"
  | .lowercase => "Field '{field}' must be in lowercase"
  | .noWhitespace => "Field '{field}' must not contain whitespace"
  | .noLeadingWhitespace => "Field '{field}' must not start with whitespace"
  | .noTrailingWhitespace => "Field '{field}' must not end with whitespace"
  | .noConsecutiveWhitespace => "Field '{field}' must not contain consecutive whitespace"
  | .trimmed => "Field '{field}' must be trimmed"
  | .properSpacing => "Field '{field}' must have proper spacing"
  | .min => "Field '{field}' must be at least {min}"
  | .max => "Field '{field}' must not exceed {max}"
  | .range => "Field '{field}' must be between {min} and {max}"
  | .positive => "Field '{field}' must be positive"
  | .negative => "Field '{field}' must be negative"
  | .notZero => "Field '{field}' must not be zero"
  | .dateTimeInRange => "Field '{field}' must be between {minDate} and {maxDate}"
  | .before => "Field '{field}' must be before {referenceDate}"
  | .after => "Field '{field}' must be after {referenceDate}"
  | .beforeOrEquals => "Field '{field}' must be before or equal to {referenceDate}"
  | .afterOrEquals => "Field '{field}' must be after or equal to {referenceDate}"
  | .future => "Field '{field}' must be in the future"
  | .past => "Field '{field}' must be in the past"
  | .presentOrFuture => "Field '{field}' must be in the present or future"
  | .presentOrPast => "Field '{field}' must be in the present or past"
  | .equalsDate => "Field '{field}' must be equal to {referenceDate}"
  | .isWeekday => "Field '{field}' must be a weekday (Monday-Friday)"
  | .isWeekend => "Field '{field}' must be a weekend day (Saturday-Sunday)"
  | .inMonth => "Field '{field}' must be in month {month}"
  | .inYear => "Field '{field}' must be in year {year}"
  | .timeInRange => "Field '{field}' must be between {minTime} and {maxTime}"
  | .timeBefore => "Field '{field}' must be before {referenceTime}"
  | .timeAfter => "Field '{field}' must be after {referenceTime}"
  | .timeBeforeOrEquals => "Field '{field}' must be before or equal to {referenceTime}"
  | .timeAfterOrEquals => "Field '{field}' must be after or equal to {referenceTime}"
  | .timeEquals => "Field '{field}' must be equal to {referenceTime}"
  | .isMorning => "Field '{field}' must be in the morning ({timeRange})"
  | .isAfternoon => "Field '{field}' must be in the afternoon ({timeRange})"
  | .isEvening => "Field '{field}' must be in the evening ({timeRange})"
  | .isBusinessHours => "Field '{field}' must be during business hours ({timeRange})"
  | .isLunchHour => "Field '{field}' must be during lunch hour ({timeRange})"
  | .hoursBetween => "Field '{field}' hours must be between {minHour} and {maxHour}"
  | .minutesBetween => "Field '{field}' minutes must be between {minMinute} and {maxMinute}"
  | .secondsBetween => "Field '{field}' seconds must be between {minSecond} and {maxSecond}"
  | .inTimeZone => "Field '{field}' must be in time zone {timeZone}"
  | .notEmpty => "Field '{field}' must not be empty"
  | .isEmpty => "Field '{field}' must be empty"
  | .minSize => "Field '{field}' must contain at least {minSize} elements"
  | .maxSize => "Field '{field}' must not contain more than {maxSize} elements"
  | .exactSize => "Field '{field}' must contain exactly {exactSize} elements"
  | .sizeRange => "Field '{field}' must contain between {minSize} and {maxSize} elements"
  | .allMatch => "All elements in '{field}' must satisfy: {condition}"
  | .anyMatch => "At least one element in '{field}' must satisfy: {condition}"
  | .noneMatch => "No elements in '{field}' may satisfy: {condition}"
  | .noDuplicates => "Field '{field}' must not contain duplicate elements"
  | .collectionContains => "Field '{field}' must contain element: {element}"
  | .doesNotContain => "Field '{field}' must not contain element: {element}"
  | .containsAll => "Field '{field}' must contain all elements: {elements}"
  | .containsNone => "Field '{field}' must not contain any of: {elements}"
  | .allowedValuesContains => "Field '{field}' must be contained in: {allowedValues}"
  | .allowedValuesOneOf => "Field '{field}' must be one of: {allowedValues}"
  | .notContains => "Field '{field}' must not be contained in: {allowedValues}"
  | .noneOf => "Field '{field}' must not be one of: {allowedValues}"
  | .isInEnum => "Field '{field}' must be a valid {className} value: {allowedValues}"
  | .inRange => "Field '{field}' must be within the allowed range"

/-- The codes in the order of the built-in templates. -/
def templateOrder : List Code := [
  .notNull, .mustBeNull, .isEqual, .isNotEqual, .satisfies, .isInstanceOf, .isNotInstanceOf,
  .isSameAs, .isNotSameAs, .notBlank, .maxLength, .minLength, .exactLength, .matchesPattern,
  .oneOf, .oneOfIgnoreCase, .startsWith, .endsWith, .contains, .numeric, .alphanumeric, .uppercase,
  .lowercase, .noWhitespace, .noLeadingWhitespace, .noTrailingWhitespace, .noConsecutiveWhitespace,
  .trimmed, .properSpacing, .min, .max, .range, .positive, .negative, .notZero, .dateTimeInRange,
  .before, .after, .beforeOrEquals, .afterOrEquals, .future, .past, .presentOrFuture,
  .presentOrPast, .equalsDate, .isWeekday, .isWeekend, .inMonth, .inYear, .timeInRange,
  .timeBefore, .timeAfter, .timeBeforeOrEquals, .timeAfterOrEquals, .timeEquals, .isMorning,
  .isAfternoon, .isEvening, .isBusinessHours, .isLunchHour, .hoursBetween, .minutesBetween,
  .secondsBetween, .inTimeZone, .notEmpty, .isEmpty, .minSize, .maxSize, .exactSize, .sizeRange,
  .allMatch, .anyMatch, .noneMatch, .noDuplicates, .collectionContains, .doesNotContain,
  .containsAll, .containsNone, .allowedValuesContains, .allowedValuesOneOf, .notContains, .noneOf,
  .isInEnum, .inRange]

/-- The built-in templates. -/
def builtinTemplates : Table String := templateOrder.map fun c => (c.text, c.template)

end Verdict
