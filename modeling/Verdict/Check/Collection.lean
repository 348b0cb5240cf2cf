import Verdict.Check

/-!
# Checks for collections

Sizes, duplicates, and what a collection holds. A text counts as the collection of its characters
and a mapping as that of its keys, except that a text holds texts of any length.
-/

namespace Verdict

/-- The checks for collections, with the arguments that they are asked for. -/
inductive CollectionCheck where
  | notEmpty
  | minSize (size : Value)
  | maxSize (size : Value)
  | sizeRange (minimum maximum : Value)
  | allMatch (condition : Option Predicate) (description : Option String)
  | noDuplicates
  | containsElement (element : Value)
  | containsAll (elements : Value)
  | containsNone (elements : Value)
deriving Inhabited

/-- The size of a collection as a value. -/
def Value.sizeValue? (v : Value) : Except Fault Value := v.size?.map fun n => .int n

/-- Whether all values pass; the first that does not ends the search. -/
def allPass (condition : Predicate) : List Value → Except Fault Bool
  | [] => .ok true
  | v :: rest => do if ← condition v then allPass condition rest else return false

/-- Whether some value passes; the first that does ends the search. -/
def somePass (condition : Predicate) : List Value → Except Fault Bool
  | [] => .ok false
  | v :: rest => do if ← condition v then return true else somePass condition rest

/-- Whether one of the values means the same as an earlier one or one of those seen. -/
def repeatsAny (seen : List Value) : List Value → Bool
  | [] => false
  | v :: rest => v.among seen || repeatsAny (seen ++ [v]) rest

/-- The size of a refused value, for the failure that reports it. -/
def actualSize (v : Value) : Parameters :=
  match v.size? with
  | .ok n => [(Parameter.actualSize, .int n)]
  | .error _ => []

namespace CollectionCheck

/-- A check of the size against a limit. -/
def sizeCheck (code : Code) (key : String) (size : Value) (r : Relation) : Except Fault Check :=
  Check.accept ⟨code, .bound key size true [], true,
    fun v => do (← v.sizeValue?).related r size, fun _ => []⟩

/-- The check, if its arguments are acceptable. -/
def build : CollectionCheck → Except Fault Check
  | notEmpty =>
    .ok ⟨.notEmpty, .flag, false,
      fun v => if v.isNull then .ok false else v.size?.map fun n => decide (0 < n), fun _ => []⟩
  | minSize size => sizeCheck .minSize Parameter.minSize size .atLeast
  | maxSize size => sizeCheck .maxSize Parameter.maxSize size .atMost
  | sizeRange minimum maximum =>
    Check.accept ⟨.sizeRange, .bounds Parameter.minSize minimum Parameter.maxSize maximum true,
      true, fun v => do Value.within minimum maximum (← v.sizeValue?), actualSize⟩
  | allMatch none _ => .error .conditionMissing
  | allMatch (some condition) description =>
    Check.accept ⟨.allMatch, .predicate description, true,
      fun v => do allPass condition (← v.parts?), fun _ => []⟩
  | noDuplicates =>
    .ok (Check.flag .noDuplicates fun v => v.parts?.map fun items => !repeatsAny [] items)
  | containsElement element =>
    .ok ⟨.collectionContains, .reference Parameter.element element true, true,
      fun v => v.holds? element, fun _ => []⟩
  | containsAll elements => do
    let items ← requireValues elements
    return ⟨.containsAll, .membership (.list items) Parameter.elements, true,
      fun v => allPass v.holds? items, fun _ => []⟩
  | containsNone elements => do
    let items ← requireValues elements
    return ⟨.containsNone, .membership (.list items) Parameter.elements, true,
      fun v => (somePass v.holds? items).map (!·), fun _ => []⟩

end CollectionCheck

end Verdict
