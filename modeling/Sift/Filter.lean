import Sift.Fragment
import Sift.Journal
import Sift.Predicate.Written
import Sift.Registry

/-!
The filter of a registry: the conjunction of the predicates of its criteria. Any error refuses the
whole filter; a criterion that is skipped is listed. A required field needs a criterion that is not
skipped for an empty value.
-/

namespace Sift

variable {ε : Type}

structure Filter (ε : Type) where
  predicate : Predicate ε
  fragments : Nat
  skipped : List FilterCriterion

namespace Filter

def identity : Filter ε := ⟨.always, 0, []⟩

def isIdentity (f : Filter ε) : Bool := f.predicate.isAlways

def holds (f : Filter ε) (e : ε) : Bool := f.predicate.holds e

def apply (f : Filter ε) (source : List ε) : List ε := source.filter f.holds

/-- With one more condition. -/
def addFragment (f : Filter ε) (p : Predicate ε) : Filter ε :=
  { f with predicate := f.predicate.and p, fragments := f.fragments + 1 }

def addSkipped (f : Filter ε) (c : FilterCriterion) : Filter ε :=
  { f with skipped := f.skipped ++ [c] }

end Filter

namespace Registry

/-- The first required field that no criterion asks about. -/
def missingField? (r : Registry ε) : Option (Mapping ε) :=
  r.mappings.find? fun m =>
    m.required && !r.filters.any fun c => c.targets m.key && !r.switchesOff c

/-- Adds criteria to a filter, in order, up to the first that is refused. -/
def compileCriteria (r : Registry ε) (f : Filter ε) :
    List FilterCriterion → Journaled (Except Error (Filter ε))
  | [] => do
    .record (.filterCompiled f.fragments f.skipped.length f.predicate.written)
    return .ok f
  | c :: cs => match r.lookup c.field with
    | none => match r.config.unknownField with
      | .ignore => do
        .record (.unknownFieldIgnored c.field)
        r.compileCriteria (f.addSkipped c) cs
      | .refuse => return .error (.unknownField c.field)
    | some m =>
      if r.switchesOff c then do
        .record (.criterionSkipped c.field c.operator)
        r.compileCriteria (f.addSkipped c) cs
      else match m.fragment r.config c.operator c.value with
        | .ok p => r.compileCriteria (f.addFragment p) cs
        | .error e => return .error (.inCriterion m.key c.operator e)

def compileFilter (r : Registry ε) : Journaled (Except Error (Filter ε)) :=
  .reported "filter" <|
    if !r.isInitialized then return .error .notInitialized
    else match r.missingField? with
      | some m => return .error (.requiredFilterMissing m.key)
      | none =>
        if r.filters.isEmpty then return .ok .identity else r.compileCriteria .identity r.filters

end Registry

/-- A source that is filtered one entity at a time. -/
structure Filtered (ε : Type) where
  filter : Filter ε
  rest : List ε

namespace Filtered

/-- The next entity that the filter keeps, and the source behind it. -/
def next? (s : Filtered ε) : Option ε × Filtered ε :=
  match s.rest.dropWhile (!s.filter.holds ·) with
  | [] => (none, { s with rest := [] })
  | e :: es => (some e, { s with rest := es })

/-- How many entities are left at least and at most. -/
def sizeBounds (s : Filtered ε) : Nat × Nat := (0, s.rest.length)

end Filtered

end Sift
