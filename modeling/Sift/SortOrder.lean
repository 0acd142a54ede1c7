import Sift.Filter

/-!
The order in which a registry sorts: its sort criteria as keys, of which a later one only breaks
ties. Sorting is stable, and reads every key of an entity once.
-/

namespace Sift

variable {ε : Type}

structure SortKey (ε : Type) where
  field : FieldRef ε
  direction : SortDirection
  matching : TextMatching

namespace SortKey

/-- The value that is compared. -/
def extract (k : SortKey ε) (e : ε) : Scalar :=
  match k.field.read e with
  | .string s => .string (k.matching.fold s)
  | v => v

def compareValues (k : SortKey ε) (a b : Scalar) : Ordering :=
  match k.direction with
  | .ascending => a.totalCompare b
  | .descending => (a.totalCompare b).swap

def written (k : SortKey ε) : String := s!"{k.field.key} {k.direction.name}"

end SortKey

structure SortOrder (ε : Type) where
  keys : List (SortKey ε)

/-- Compares two rows of values, one for each key; the first difference decides. -/
def compareRows : List (SortKey ε) → List Scalar → List Scalar → Ordering
  | k :: ks, a :: as, b :: bs => (k.compareValues a b).then (compareRows ks as bs)
  | _, _, _ => .eq

/-- Compares two entities key by key; the first difference decides. -/
def compareEntities (a b : ε) : List (SortKey ε) → Ordering
  | [] => .eq
  | k :: ks => match k.compareValues (k.extract a) (k.extract b) with
    | .eq => compareEntities a b ks
    | o => o

namespace SortOrder

def compare (o : SortOrder ε) (a b : ε) : Ordering := compareEntities a b o.keys

/-- The entity beside the values of its keys. -/
def decorate (o : SortOrder ε) (e : ε) : List Scalar × ε := (o.keys.map (·.extract e), e)

def sort (o : SortOrder ε) (source : List ε) : List ε :=
  ((source.map o.decorate).mergeSort fun a b => (compareRows o.keys a.1 b.1).isLE).map (·.2)

/-- The keys with their directions. -/
def describe (o : SortOrder ε) : List String := o.keys.map (·.written)

def written (o : SortOrder ε) : String := ", ".intercalate o.describe

end SortOrder

namespace Registry

/-- The keys of sort criteria, in order, up to the first that is refused. -/
def compileSorts (r : Registry ε) (keys : List (SortKey ε)) :
    List SortCriterion → Journaled (Except Error (SortOrder ε))
  | [] => do
    .record (.sortCompiled keys.length (SortOrder.mk keys).written)
    return .ok ⟨keys⟩
  | c :: cs => match r.lookup c.field with
    | none => match r.config.unknownField with
      | .ignore => do
        .record (.sortFieldIgnored c.field)
        r.compileSorts keys cs
      | .refuse => return .error (.unknownField c.field)
    | some m => r.compileSorts (keys ++ [⟨m.ref, c.direction, r.config.textMatching⟩]) cs

def compileOrder (r : Registry ε) : Journaled (Except Error (SortOrder ε)) :=
  .reported "sort" <|
    if r.sorts.isEmpty then return .error .noSorts else r.compileSorts [] r.sorts

/-- The entities in the order of the registry. -/
def sort (r : Registry ε) (source : List ε) : Journaled (Except Error (List ε)) := do
  return (← r.compileOrder).map (·.sort source)

end Registry

end Sift
