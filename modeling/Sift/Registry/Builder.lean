import Sift.Journal
import Sift.Path.Node
import Sift.Registry

/-!
Building a registry. A builder collects fields, criteria and the configuration, and builds once:
after the first attempt, successful or not, it refuses to build again. A path that cannot be
resolved is reported by the build. What an attempt has used is no longer in the builder.
-/

namespace Sift

variable {τ ν ε α : Type} [Navigable ν]

structure Builder (ε : Type) where
  mappings : List (Mapping ε) := []
  deferred : List Error := []
  filters : List FilterCriterion := []
  sorts : List SortCriterion := []
  config : Config := {}
  isInitialized : Bool := false

namespace Builder

def registerMapping (b : Builder ε) (m : Mapping ε) : Builder ε :=
  { b with mappings := b.mappings ++ [m] }

def register [ScalarType α] (b : Builder ε) (key : String) (read : ε → α) : Builder ε :=
  b.registerMapping (.ofFunction key read false)

def registerRequired [ScalarType α] (b : Builder ε) (key : String) (read : ε → α) : Builder ε :=
  b.registerMapping (.ofFunction key read true)

def registerResolved (b : Builder ε) (l : Layout τ ε ν) (key path : String) (required : Bool) :
    Builder ε :=
  match l.resolve path with
  | .ok r => b.registerMapping (l.mapping key r required)
  | .error e => { b with deferred := b.deferred ++ [e] }

def registerPath (b : Builder ε) (l : Layout τ ε ν) (key path : String) : Builder ε :=
  b.registerResolved l key path false

def registerRequiredPath (b : Builder ε) (l : Layout τ ε ν) (key path : String) : Builder ε :=
  b.registerResolved l key path true

def setFilters (b : Builder ε) (cs : List FilterCriterion) : Builder ε := { b with filters := cs }

def addFilter (b : Builder ε) (c : FilterCriterion) : Builder ε :=
  { b with filters := b.filters ++ [c] }

def setSorts (b : Builder ε) (cs : List SortCriterion) : Builder ε := { b with sorts := cs }

def addSort (b : Builder ε) (c : SortCriterion) : Builder ε := { b with sorts := b.sorts ++ [c] }

def withRequest (b : Builder ε) (r : Request) : Builder ε :=
  { b with filters := r.filters, sorts := r.sorts }

def withConfig (b : Builder ε) (c : Config) : Builder ε := { b with config := c }

/-- The registry of what was collected. The first path that did not resolve is reported before any
key that was registered twice. -/
def registry (b : Builder ε) : Except Error (Registry ε) :=
  if b.isInitialized then .error .alreadyInitialized
  else match b.deferred with
    | e :: _ => .error e
    | [] => (KeyIndex.enter [] 0 b.mappings).map fun index =>
        ⟨b.mappings, index, b.filters, b.sorts, b.config⟩

/-- What an attempt to build leaves of the builder. The fields are taken if all paths were resolved,
and the criteria if there is a registry. -/
def spent (b : Builder ε) : Builder ε :=
  if b.isInitialized then b
  else match b.deferred, b.registry with
    | _ :: _, _ => { b with deferred := [], isInitialized := true }
    | [], .error _ => { b with mappings := [], isInitialized := true }
    | [], .ok _ => { b with mappings := [], filters := [], sorts := [], isInitialized := true }

/-- The outcome of building, and the builder after it. -/
def build (b : Builder ε) : Journaled (Except Error (Registry ε)) × Builder ε :=
  let journal : Journal := match b.registry with
    | .ok r => [.registryBuilt r.mappings.length r.filters.length r.sorts.length]
    | .error _ => []
  (⟨b.registry, journal⟩, b.spent)

end Builder

end Sift
