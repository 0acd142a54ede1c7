import Sift.Error

/-!
The records that building and compiling leave behind. A record names its event, so that a journal
can be searched without reading messages; details of single criteria are for debugging, refusals
are warnings.
-/

namespace Sift

inductive Event
  | registryBuilt
  | configLoaded
  | filterCompiled
  | criterionSkipped
  | unknownFieldIgnored
  | sortCompiled
  | sortFieldIgnored
  | compileRejected
  deriving DecidableEq

namespace Event

def all : List Event :=
  [registryBuilt, configLoaded, filterCompiled, criterionSkipped, unknownFieldIgnored,
   sortCompiled, sortFieldIgnored, compileRejected]

def name : Event → String
  | registryBuilt => "REGISTRY_BUILT"
  | configLoaded => "CONFIG_LOADED"
  | filterCompiled => "FILTER_COMPILED"
  | criterionSkipped => "CRITERION_SKIPPED"
  | unknownFieldIgnored => "UNKNOWN_FIELD_IGNORED"
  | sortCompiled => "SORT_COMPILED"
  | sortFieldIgnored => "SORT_FIELD_IGNORED"
  | compileRejected => "COMPILE_REJECTED"

end Event

inductive Level
  | debug
  | warn
  deriving DecidableEq

inductive Detail
  | text (s : String)
  | count (n : Nat)
  deriving DecidableEq

structure Record where
  level : Level
  event : Event
  message : String
  details : List (String × Detail)
  deriving DecidableEq

abbrev Journal := List Record

namespace Record

def registryBuilt (mappings filters sorts : Nat) : Record :=
  ⟨.debug, .registryBuilt, "registry built",
   [("mappings", .count mappings), ("filters", .count filters), ("sorts", .count sorts)]⟩

def configLoaded : Record := ⟨.debug, .configLoaded, "engine configuration loaded", []⟩

def unknownFieldIgnored (field : String) : Record :=
  ⟨.debug, .unknownFieldIgnored, "filter on unregistered field ignored", [("field", .text field)]⟩

def criterionSkipped (field : String) (operator : Operator) : Record :=
  ⟨.debug, .criterionSkipped, "filter with empty value skipped",
   [("field", .text field), ("operator", .text operator.name)]⟩

def filterCompiled (fragments skipped : Nat) (predicate : String) : Record :=
  ⟨.debug, .filterCompiled, "filter compiled",
   [("fragments", .count fragments), ("skipped", .count skipped), ("predicate", .text predicate)]⟩

def sortFieldIgnored (field : String) : Record :=
  ⟨.debug, .sortFieldIgnored, "sort on unregistered field ignored", [("field", .text field)]⟩

def sortCompiled (keys : Nat) (ordering : String) : Record :=
  ⟨.debug, .sortCompiled, "ordering compiled",
   [("keys", .count keys), ("ordering", .text ordering)]⟩

/-- A refusal, at the stage that refused. -/
def rejected (stage : String) (e : Error) : Record :=
  ⟨.warn, .compileRejected, e.message, [("stage", .text stage), ("code", .text e.code)]⟩

end Record

/-- A value and the records left behind on the way to it. -/
structure Journaled (α : Type) where
  value : α
  journal : Journal

namespace Journaled

variable {α β : Type}

instance : Monad Journaled where
  pure a := ⟨a, []⟩
  bind x f := ⟨(f x.value).value, x.journal ++ (f x.value).journal⟩

def record (r : Record) : Journaled Unit := ⟨(), [r]⟩

/-- A refusal is recorded once, after all that led to it. -/
def reported (stage : String) (x : Journaled (Except Error α)) : Journaled (Except Error α) := do
  match ← x with
  | .ok a => return .ok a
  | .error e =>
    record (.rejected stage e)
    return .error e

@[simp] theorem value_pure (a : α) : (pure a : Journaled α).value = a := rfl

@[simp] theorem journal_pure (a : α) : (pure a : Journaled α).journal = [] := rfl

@[simp] theorem value_bind (x : Journaled α) (f : α → Journaled β) :
    (x >>= f).value = (f x.value).value := rfl

@[simp] theorem journal_bind (x : Journaled α) (f : α → Journaled β) :
    (x >>= f).journal = x.journal ++ (f x.value).journal := rfl

end Journaled

end Sift
