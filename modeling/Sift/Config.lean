import Sift.Operator

/-!
Policies for criteria that are no errors in themselves, and how text is compared.
-/

namespace Sift

/-- What to do with a criterion whose field is not registered. -/
inductive UnknownFieldPolicy
  | ignore
  | refuse
  deriving DecidableEq

/-- Whether the case of letters counts. -/
inductive TextMatching
  | ordinal
  | ignoreCase
  deriving DecidableEq

/-- Which criteria an empty value switches off. -/
inductive EmptyValuePolicy
  | skip
  | skipUnlessStructural
  deriving DecidableEq

def TextMatching.fold : TextMatching → String → String
  | ordinal, s => s
  | ignoreCase, s => Text.lower s

/-- An empty value switches the operator off. -/
def EmptyValuePolicy.skips : EmptyValuePolicy → Operator → Bool
  | skip, _ => true
  | skipUnlessStructural, op => !op.isStructural

structure Config where
  unknownField : UnknownFieldPolicy := .ignore
  textMatching : TextMatching := .ordinal
  listSeparator : Char := ','
  emptyValue : EmptyValuePolicy := .skip
  deriving DecidableEq

end Sift
