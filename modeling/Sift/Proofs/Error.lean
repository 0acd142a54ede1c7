import Sift.Error

/-!
# Errors inside criteria

Every error is a root with criteria around it, none or many. The criteria change neither its code
nor its blame. The sources lead from the outermost criterion to the root, one at a time, and the
message of each criterion stands before that of the error inside.
-/

namespace Sift.Error

/-- The criteria around the root, the outermost first. -/
def contexts : Error → List (String × Operator)
  | inCriterion field op source => (field, op) :: source.contexts
  | _ => []

/-- An error with criteria around it, the outermost first. -/
def wrapped (contexts : List (String × Operator)) (cause : Error) : Error :=
  contexts.foldr (fun c source => inCriterion c.1 c.2 source) cause

/-- No criterion stands around the error. -/
def IsRoot (e : Error) : Prop := ∀ field op source, e ≠ inCriterion field op source

/-- What a criterion puts before the message of the error inside. -/
def contextText (c : String × Operator) : String :=
  s!"Filter on '{c.1}' with {c.2.name} rejected: "

/-- Each error of the list is the source of the one before it, and the last has no source. -/
inductive FollowsSources : Error → List Error → Prop
  | nil {e : Error} (h : e.source? = none) : FollowsSources e []
  | cons {e s : Error} {chain : List Error} (h : e.source? = some s)
      (hs : FollowsSources s chain) : FollowsSources e (s :: chain)

variable {e : Error} {chain : List Error}

/-! The root -/

theorem isRoot_rootCause (e : Error) : e.rootCause.IsRoot := by
  induction e with
  | inCriterion field op source ih => exact ih
  | _ => exact nofun

theorem IsRoot.rootCause_eq (h : e.IsRoot) : e.rootCause = e := by
  cases e with
  | inCriterion field op source => exact absurd rfl (h field op source)
  | _ => rfl

theorem wrapped_contexts (e : Error) : wrapped e.contexts e.rootCause = e := by
  induction e with
  | inCriterion field op source ih => exact congrArg (inCriterion field op) ih
  | _ => rfl

theorem code_eq (e : Error) : e.code = e.rootCause.code := by
  induction e with
  | inCriterion field op source ih => exact ih
  | _ => rfl

theorem isClientError_eq (e : Error) : e.isClientError = e.rootCause.isClientError := by
  induction e with
  | inCriterion field op source ih => exact ih
  | _ => rfl

/-! The sources -/

theorem followsSources_sourceChain (e : Error) : e.FollowsSources e.sourceChain := by
  induction e with
  | inCriterion field op source ih => exact .cons rfl ih
  | _ => exact .nil rfl

theorem FollowsSources.eq_sourceChain (h : e.FollowsSources chain) : chain = e.sourceChain := by
  induction h with
  | @nil e h =>
    cases e with
    | inCriterion field op source => cases h
    | _ => rfl
  | @cons e s chain h _ ih =>
    cases e with
    | inCriterion field op source =>
      cases h
      exact congrArg (s :: ·) ih
    | _ => cases h

theorem length_sourceChain (e : Error) : e.sourceChain.length = e.contexts.length := by
  induction e with
  | inCriterion field op source ih => exact congrArg (· + 1) ih
  | _ => rfl

theorem getLast?_sourceChain (e : Error) : (e :: e.sourceChain).getLast? = some e.rootCause := by
  induction e with
  | inCriterion field op source ih =>
    rw [sourceChain, List.getLast?_cons_cons]
    exact ih
  | _ => rfl

/-! The message -/

theorem message_inCriterion (field : String) (op : Operator) (source : Error) :
    (inCriterion field op source).message = contextText (field, op) ++ source.message := by
  rfl

theorem message_eq (e : Error) :
    e.message = String.join (e.contexts.map contextText) ++ e.rootCause.message := by
  induction e with
  | inCriterion field op source ih =>
    rw [message_inCriterion, ih, contexts, List.map_cons, String.join_cons, String.append_assoc]
    rfl
  | _ => exact String.empty_append.symm

/-! Any number of criteria -/

variable (e) in
/-- What an error shares with its root, and how the root is found. -/
structure WrapsTransparently : Prop where
  root_isRoot : e.rootCause.IsRoot
  root_root : e.rootCause.rootCause = e.rootCause
  code_root : e.code = e.rootCause.code
  isClientError_root : e.isClientError = e.rootCause.isClientError
  nested : e = wrapped e.contexts e.rootCause
  chain_iff : ∀ chain, e.FollowsSources chain ↔ chain = e.sourceChain
  chain_length : e.sourceChain.length = e.contexts.length
  chain_ends : (e :: e.sourceChain).getLast? = some e.rootCause
  message_ends : e.rootCause.message.toList <:+ e.message.toList

/-- However many criteria stand around an error, it is told and blamed like its root. -/
theorem wrapping_is_transparent (e : Error) : e.WrapsTransparently where
  root_isRoot := isRoot_rootCause e
  root_root := (isRoot_rootCause e).rootCause_eq
  code_root := code_eq e
  isClientError_root := isClientError_eq e
  nested := (wrapped_contexts e).symm
  chain_iff := by
    intro chain
    constructor
    · intro h
      exact h.eq_sourceChain
    · rintro rfl
      exact followsSources_sourceChain e
  chain_length := length_sourceChain e
  chain_ends := getLast?_sourceChain e
  message_ends := by
    rw [message_eq e, String.toList_append]
    exact List.suffix_append _ _

end Sift.Error
