import Sift.SortOrder

/-!
Filtering and then sorting, and the explanation of what a registry's criteria come to. Both compile
the filter first, and the order only if there is anything to sort by.
-/

namespace Sift

variable {ε : Type}

namespace Registry

/-- The entities that the filter keeps, in the order of the registry or else of the source. -/
def query (r : Registry ε) (source : List ε) : Journaled (Except Error (List ε)) := do
  match ← r.compileFilter with
  | .error e => return .error e
  | .ok f =>
    if r.sorts.isEmpty then return .ok (f.apply source)
    else return (← r.compileOrder).map fun o => o.sort (f.apply source)

end Registry

structure Explanation where
  accepted : Bool
  predicate : Option String
  fragments : Nat
  skipped : List String
  sort : List String
  reason : Option String
  code : Option String
  deriving DecidableEq

namespace Explanation

def ofCompiled (f : Filter ε) (o : Option (SortOrder ε)) : Explanation :=
  ⟨true, some f.predicate.written, f.fragments, f.skipped.map (·.written),
   (o.map (·.describe)).getD [], none, none⟩

def ofError (e : Error) : Explanation := ⟨false, none, 0, [], [], some e.message, some e.code⟩

def acceptedLines (x : Explanation) : List String :=
  ["Status: ACCEPTED"] ++ x.predicate.toList.map ("Predicate: " ++ ·)
    ++ [s!"Fragments: {x.fragments}"]
    ++ (if x.skipped.isEmpty then [] else "Skipped:" :: x.skipped.map ("  - " ++ ·))
    ++ (if x.sort.isEmpty then [] else ["Sort: " ++ ", ".intercalate x.sort])

def rejectedLines (x : Explanation) : List String :=
  ["Status: REJECTED"] ++ x.code.toList.map ("Error Code: " ++ ·)
    ++ x.reason.toList.map ("Reason: " ++ ·)

/-- The explanation as lines, each with a line end. -/
def written (x : Explanation) : String :=
  let lines := if x.accepted then x.acceptedLines else x.rejectedLines
  .join (("=== EXPLAIN ===" :: lines).map (· ++ "\n"))

end Explanation

def Registry.explain (r : Registry ε) : Journaled Explanation := do
  match ← r.compileFilter with
  | .error e => return .ofError e
  | .ok f =>
    if r.sorts.isEmpty then return .ofCompiled f none
    else match ← r.compileOrder with
      | .ok o => return .ofCompiled f (some o)
      | .error e => return .ofError e

end Sift
