import Verdict.Text.Digits
import Verdict.Text.Quoted

/-!
# Log records

What the library tells a log about its work. A record is the event it stands for; its channel, its
level and its wording are functions of the event.
-/

namespace Verdict

open Text

/-- The parts of the library that keep a log. -/
inductive LogChannel where
  | provider
  | registry
  | catalog
  | validator
deriving DecidableEq, Repr, Inhabited

/-- How urgent a record is. -/
inductive LogLevel where
  | debug
  | warning
deriving DecidableEq, Repr, Inhabited

/-- The name of a level. -/
def LogLevel.name : LogLevel → String
  | debug => "DEBUG"
  | warning => "WARNING"

/-- An event worth a record. -/
inductive LogEvent where
  | compiled (template : String) (segments : Nat)
  | templateMissing (code : String)
  | registered (kind : String) (claimed total : Nat)
  | routeMissing (code : String)
  | shortCircuited (reason : String) (failures : Nat)
  | catalogRefused (file : String) (issues : Nat) (first : String)
  | catalogUnreadable (file : String) (first : String)
  | customCode (file code : String)
  | catalogApplied (count : Nat) (file : String)
deriving DecidableEq, Repr, Inhabited

namespace LogEvent

/-- The part of the library that the event belongs to. -/
def channel : LogEvent → LogChannel
  | compiled .. | templateMissing .. => .provider
  | registered .. | routeMissing .. => .registry
  | shortCircuited .. => .validator
  | catalogRefused .. | catalogUnreadable .. | customCode .. | catalogApplied .. => .catalog

/-- How urgent the event is. -/
def level : LogEvent → LogLevel
  | catalogRefused .. | catalogUnreadable .. => .warning
  | _ => .debug

/-- The wording of the event. -/
def text : LogEvent → String
  | compiled template segments =>
    "Compiled message template " ++ quoted template ++ " into " ++ decimal segments ++ " segments"
  | templateMissing code => "No template for code '" ++ code ++ "', using fallback"
  | registered kind claimed total =>
    "Registered " ++ kind ++ " for " ++ decimal claimed ++ " of " ++ decimal total ++
      " catalog codes"
  | routeMissing code => "No provider routed for code '" ++ code ++ "', using default"
  | shortCircuited reason failures =>
    "Validation short-circuited (" ++ reason ++ ") with " ++ decimal failures ++ " failure(s)"
  | catalogRefused file issues first =>
    "Template catalog " ++ file ++ " has " ++ decimal issues ++ " issue(s); first: " ++ first
  | catalogUnreadable file first => "Cannot load template catalog " ++ file ++ ": " ++ first
  | customCode file code =>
    "Template catalog " ++ file ++ " defines custom code '" ++ code ++ "'"
  | catalogApplied count file => "Applied " ++ decimal count ++ " template(s) from " ++ file

end LogEvent

end Verdict
