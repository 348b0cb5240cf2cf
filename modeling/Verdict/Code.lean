/-!
# The catalog of codes

A code says which check failed. The catalog is closed: it is what the authors of checks and of
templates agree on. `Code.text` is the dotted text of a code, a domain and a name, and
`Code.isKnown` tells the texts of the catalog from those that callers make up.
-/

namespace Verdict

/-- The codes of the catalog. -/
inductive Code where
  | notNull
  | mustBeNull
  | isEqual
  | isNotEqual
  | satisfies
  | isInstanceOf
  | isNotInstanceOf
  | isSameAs
  | isNotSameAs
  | notBlank
  | maxLength
  | minLength
  | exactLength
  | matchesPattern
  | oneOf
  | oneOfIgnoreCase
  | startsWith
  | endsWith
  | contains
  | numeric
  | alphanumeric
  | uppercase
  | lowercase
  | noWhitespace
  | noLeadingWhitespace
  | noTrailingWhitespace
  | noConsecutiveWhitespace
  | trimmed
  | properSpacing
  | min
  | max
  | range
  | positive
  | negative
  | notZero
  | notEmpty
  | isEmpty
  | minSize
  | maxSize
  | exactSize
  | sizeRange
  | allMatch
  | anyMatch
  | noneMatch
  | noDuplicates
  | collectionContains
  | doesNotContain
  | containsAll
  | containsNone
  | allowedValuesContains
  | allowedValuesOneOf
  | notContains
  | noneOf
  | isInEnum
  | inRange
  | dateTimeInRange
  | before
  | after
  | beforeOrEquals
  | afterOrEquals
  | future
  | past
  | presentOrFuture
  | presentOrPast
  | equalsDate
  | isWeekday
  | isWeekend
  | inMonth
  | inYear
  | timeInRange
  | timeBefore
  | timeAfter
  | timeBeforeOrEquals
  | timeAfterOrEquals
  | timeEquals
  | isMorning
  | isAfternoon
  | isEvening
  | isBusinessHours
  | isLunchHour
  | hoursBetween
  | minutesBetween
  | secondsBetween
  | inTimeZone
deriving DecidableEq, Repr, Inhabited

namespace Code

/-- The dotted text of a code. -/
def text : Code → String
  | .notNull => "common.not_null"
  | .mustBeNull => "common.must_be_null"
  | .isEqual => "common.is_equal"
  | .isNotEqual => "common.is_not_equal"
  | .satisfies => "common.satisfies"
  | .isInstanceOf => "common.is_instance_of"
  | .isNotInstanceOf => "common.is_not_instance_of"
  | .isSameAs => "common.is_same_as"
  | .isNotSameAs => "common.is_not_same_as"
  | .notBlank => "string.not_blank"
  | .maxLength => "string.max_length"
  | .minLength => "string.min_length"
  | .exactLength => "string.exact_length"
  | .matchesPattern => "string.matches"
  | .oneOf => "string.one_of"
  | .oneOfIgnoreCase => "string.one_of_ignore_case"
  | .startsWith => "string.starts_with"
  | .endsWith => "string.ends_with"
  | .contains => "string.contains"
  | .numeric => "string.numeric"
  | .alphanumeric => "string.alphanumeric"
  | .uppercase => "string.uppercase"
  | .lowercase => "string.lowercase"
  | .noWhitespace => "string.no_whitespace"
  | .noLeadingWhitespace => "string.no_leading_whitespace"
  | .noTrailingWhitespace => "string.no_trailing_whitespace"
  | .noConsecutiveWhitespace => "string.no_consecutive_whitespace"
  | .trimmed => "string.trimmed"
  | .properSpacing => "string.proper_spacing"
  | .min => "number.min"
  | .max => "number.max"
  | .range => "number.range"
  | .positive => "number.positive"
  | .negative => "number.negative"
  | .notZero => "number.not_zero"
  | .notEmpty => "collection.not_empty"
  | .isEmpty => "collection.is_empty"
  | .minSize => "collection.min_size"
  | .maxSize => "collection.max_size"
  | .exactSize => "collection.exact_size"
  | .sizeRange => "collection.size_range"
  | .allMatch => "collection.all_match"
  | .anyMatch => "collection.any_match"
  | .noneMatch => "collection.none_match"
  | .noDuplicates => "collection.no_duplicates"
  | .collectionContains => "collection.contains"
  | .doesNotContain => "collection.does_not_contain"
  | .containsAll => "collection.contains_all"
  | .containsNone => "collection.contains_none"
  | .allowedValuesContains => "allowed.contains"
  | .allowedValuesOneOf => "allowed.one_of"
  | .notContains => "allowed.not_contains"
  | .noneOf => "allowed.none_of"
  | .isInEnum => "allowed.is_in_enum"
  | .inRange => "allowed.in_range"
  | .dateTimeInRange => "datetime.in_range"
  | .before => "datetime.before"
  | .after => "datetime.after"
  | .beforeOrEquals => "datetime.before_or_equals"
  | .afterOrEquals => "datetime.after_or_equals"
  | .future => "datetime.future"
  | .past => "datetime.past"
  | .presentOrFuture => "datetime.present_or_future"
  | .presentOrPast => "datetime.present_or_past"
  | .equalsDate => "datetime.equals"
  | .isWeekday => "datetime.is_weekday"
  | .isWeekend => "datetime.is_weekend"
  | .inMonth => "datetime.in_month"
  | .inYear => "datetime.in_year"
  | .timeInRange => "time.in_range"
  | .timeBefore => "time.before"
  | .timeAfter => "time.after"
  | .timeBeforeOrEquals => "time.before_or_equals"
  | .timeAfterOrEquals => "time.after_or_equals"
  | .timeEquals => "time.equals"
  | .isMorning => "time.is_morning"
  | .isAfternoon => "time.is_afternoon"
  | .isEvening => "time.is_evening"
  | .isBusinessHours => "time.is_business_hours"
  | .isLunchHour => "time.is_lunch_hour"
  | .hoursBetween => "time.hours_between"
  | .minutesBetween => "time.minutes_between"
  | .secondsBetween => "time.seconds_between"
  | .inTimeZone => "time.in_time_zone"

/-- The constant name of a code. -/
def name : Code → String
  | .notNull => "NOT_NULL"
  | .mustBeNull => "MUST_BE_NULL"
  | .isEqual => "IS_EQUAL"
  | .isNotEqual => "IS_NOT_EQUAL"
  | .satisfies => "SATISFIES"
  | .isInstanceOf => "IS_INSTANCE_OF"
  | .isNotInstanceOf => "IS_NOT_INSTANCE_OF"
  | .isSameAs => "IS_SAME_AS"
  | .isNotSameAs => "IS_NOT_SAME_AS"
  | .notBlank => "NOT_BLANK"
  | .maxLength => "MAX_LENGTH"
  | .minLength => "MIN_LENGTH"
  | .exactLength => "EXACT_LENGTH"
  | .matchesPattern => "MATCHES"
  | .oneOf => "ONE_OF"
  | .oneOfIgnoreCase => "ONE_OF_IGNORE_CASE"
  | .startsWith => "STARTS_WITH"
  | .endsWith => "ENDS_WITH"
  | .contains => "CONTAINS"
  | .numeric => "NUMERIC"
  | .alphanumeric => "ALPHANUMERIC"
  | .uppercase => "UPPERCASE"
  | .lowercase => "LOWERCASE"
  | .noWhitespace => "NO_WHITESPACE"
  | .noLeadingWhitespace => "NO_LEADING_WHITESPACE"
  | .noTrailingWhitespace => "NO_TRAILING_WHITESPACE"
  | .noConsecutiveWhitespace => "NO_CONSECUTIVE_WHITESPACE"
  | .trimmed => "TRIMMED"
  | .properSpacing => "PROPER_SPACING"
  | .min => "MIN"
  | .max => "MAX"
  | .range => "RANGE"
  | .positive => "POSITIVE"
  | .negative => "NEGATIVE"
  | .notZero => "NOT_ZERO"
  | .notEmpty => "NOT_EMPTY"
  | .isEmpty => "IS_EMPTY"
  | .minSize => "MIN_SIZE"
  | .maxSize => "MAX_SIZE"
  | .exactSize => "EXACT_SIZE"
  | .sizeRange => "SIZE_RANGE"
  | .allMatch => "ALL_MATCH"
  | .anyMatch => "ANY_MATCH"
  | .noneMatch => "NONE_MATCH"
  | .noDuplicates => "NO_DUPLICATES"
  | .collectionContains => "COLLECTION_CONTAINS"
  | .doesNotContain => "DOES_NOT_CONTAIN"
  | .containsAll => "CONTAINS_ALL"
  | .containsNone => "CONTAINS_NONE"
  | .allowedValuesContains => "ALLOWED_VALUES_CONTAINS"
  | .allowedValuesOneOf => "ALLOWED_VALUES_ONE_OF"
  | .notContains => "NOT_CONTAINS"
  | .noneOf => "NONE_OF"
  | .isInEnum => "IS_IN_ENUM"
  | .inRange => "IN_RANGE"
  | .dateTimeInRange => "DATE_TIME_IN_RANGE"
  | .before => "BEFORE"
  | .after => "AFTER"
  | .beforeOrEquals => "BEFORE_OR_EQUALS"
  | .afterOrEquals => "AFTER_OR_EQUALS"
  | .future => "FUTURE"
  | .past => "PAST"
  | .presentOrFuture => "PRESENT_OR_FUTURE"
  | .presentOrPast => "PRESENT_OR_PAST"
  | .equalsDate => "EQUALS_DATE"
  | .isWeekday => "IS_WEEKDAY"
  | .isWeekend => "IS_WEEKEND"
  | .inMonth => "IN_MONTH"
  | .inYear => "IN_YEAR"
  | .timeInRange => "TIME_IN_RANGE"
  | .timeBefore => "TIME_BEFORE"
  | .timeAfter => "TIME_AFTER"
  | .timeBeforeOrEquals => "TIME_BEFORE_OR_EQUALS"
  | .timeAfterOrEquals => "TIME_AFTER_OR_EQUALS"
  | .timeEquals => "TIME_EQUALS"
  | .isMorning => "IS_MORNING"
  | .isAfternoon => "IS_AFTERNOON"
  | .isEvening => "IS_EVENING"
  | .isBusinessHours => "IS_BUSINESS_HOURS"
  | .isLunchHour => "IS_LUNCH_HOUR"
  | .hoursBetween => "HOURS_BETWEEN"
  | .minutesBetween => "MINUTES_BETWEEN"
  | .secondsBetween => "SECONDS_BETWEEN"
  | .inTimeZone => "IN_TIME_ZONE"

/-- The codes in catalog order. -/
def all : List Code := [
  .notNull, .mustBeNull, .isEqual, .isNotEqual, .satisfies, .isInstanceOf, .isNotInstanceOf,
  .isSameAs, .isNotSameAs, .notBlank, .maxLength, .minLength, .exactLength, .matchesPattern,
  .oneOf, .oneOfIgnoreCase, .startsWith, .endsWith, .contains, .numeric, .alphanumeric, .uppercase,
  .lowercase, .noWhitespace, .noLeadingWhitespace, .noTrailingWhitespace, .noConsecutiveWhitespace,
  .trimmed, .properSpacing, .min, .max, .range, .positive, .negative, .notZero, .notEmpty,
  .isEmpty, .minSize, .maxSize, .exactSize, .sizeRange, .allMatch, .anyMatch, .noneMatch,
  .noDuplicates, .collectionContains, .doesNotContain, .containsAll, .containsNone,
  .allowedValuesContains, .allowedValuesOneOf, .notContains, .noneOf, .isInEnum, .inRange,
  .dateTimeInRange, .before, .after, .beforeOrEquals, .afterOrEquals, .future, .past,
  .presentOrFuture, .presentOrPast, .equalsDate, .isWeekday, .isWeekend, .inMonth, .inYear,
  .timeInRange, .timeBefore, .timeAfter, .timeBeforeOrEquals, .timeAfterOrEquals, .timeEquals,
  .isMorning, .isAfternoon, .isEvening, .isBusinessHours, .isLunchHour, .hoursBetween,
  .minutesBetween, .secondsBetween, .inTimeZone]

/-- The domain of a code: its text before the first dot. -/
def domain (c : Code) : String := String.ofList (c.text.toList.takeWhile (· ≠ '.'))

/-- Whether the text is that of a code of the catalog. -/
def isKnown (text : String) : Bool := all.any fun c => c.text == text

/-- The code with the given constant name. -/
def ofName? (name : String) : Option Code := all.find? fun c => c.name == name

/-- The catalog lists every code. -/
theorem mem_all (c : Code) : c ∈ all := by cases c <;> decide

end Code

end Verdict
