import Sift.Predicate
import Sift.Scalar.Written

/-!
How predicates are written in explanations. An empty conjunction is a pair of brackets; an empty
disjunction, which never holds, says so.
-/

namespace Sift.Predicate

variable {ε : Type}

def bracketed (word : String) (parts : List String) : String :=
  "(" ++ s!" {word} ".intercalate parts ++ ")"

mutual

def written : Predicate ε → String
  | always => "TRUE"
  | never => "FALSE"
  | all ps => bracketed "AND" (writtenParts ps)
  | any [] => "FALSE"
  | any (p :: ps) => bracketed "OR" (p.written :: writtenParts ps)
  | not p => "NOT " ++ p.written
  | isNull f => f.key ++ " IS NULL"
  | isNotNull f => f.key ++ " IS NOT NULL"
  | compare f op v => s!"{f.key} {op.symbol} {v.written}"
  | text f op s matching =>
    s!"{f.key} {op.name} {Text.quoted s}" ++
      (if matching = .ignoreCase then " (ignore case)" else "")
  | within f low high => s!"{f.key} BETWEEN {low.written} AND {high.written}"
  | datePart f g v => s!"{f.key} {g.name} = {v.written}"

def writtenParts : List (Predicate ε) → List String
  | [] => []
  | p :: ps => p.written :: writtenParts ps

end

end Sift.Predicate
