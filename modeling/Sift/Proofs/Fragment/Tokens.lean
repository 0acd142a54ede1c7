import Sift.Proofs.Fragment.Refusal
import Sift.Proofs.Text.Split

/-!
# The tokens of operands

The tokens of an operand follow from its separators: a text has one more of them than separators,
each is trimmed and holds no separator, and a list made of such tokens gives them back. A range
needs two tokens, so a field refuses it for their count unless the separator occurs once.
-/

namespace Sift

/-! Ranges that are refused for their count -/

namespace Mapping

variable {ε : Type} {m : Mapping ε} {c : Config} {raw : String} {op : Operator}

variable (m c raw) in
/-- What the field says to a range whose text does not hold the separator exactly once. -/
def miscount : Error :=
  .argument m.key (rangeReason c.listSeparator (raw.toList.count c.listSeparator + 1))

theorem operandFault?_eq_miscount_iff (hc : op.toClass = .range) :
    m.operandFault? c raw op = some (m.miscount c raw) ↔
      raw.toList.count c.listSeparator ≠ 1 := by
  have hlen := Text.length_splitRange c.listSeparator raw
  constructor
  · intro h hcount
    rw [operandFault?_of_range hc (by omega)] at h
    obtain ⟨t, he⟩ := eq_unreadable_of_tokenFault h
    cases he
  · intro hcount
    rw [operandFault?_of_count hc (by omega), hlen]
    rfl

end Mapping

variable (ε : Type) (sep : Char) in
/-- How the tokens of an operand follow from its separators. -/
structure SplittingLaws : Prop where
  range_append : ∀ a b, Text.splitRange sep (a ++ String.singleton sep ++ b) =
    Text.splitRange sep a ++ Text.splitRange sep b
  list_append : ∀ a b, Text.splitList sep (a ++ String.singleton sep ++ b) =
    Text.splitList sep a ++ Text.splitList sep b
  range_length : ∀ s, (Text.splitRange sep s).length = s.toList.count sep + 1
  list_eq : ∀ s, Text.splitList sep s = (Text.splitRange sep s).filter (· ≠ "")
  range_token : ∀ s, ∀ t ∈ Text.splitRange sep s, Text.IsToken sep t
  list_token : ∀ s, ∀ t ∈ Text.splitList sep s, t ≠ "" ∧ Text.IsToken sep t
  list_intercalate : ∀ tokens : List String, (∀ t ∈ tokens, t ≠ "" ∧ Text.IsToken sep t) →
    Text.splitList sep ((String.singleton sep).intercalate tokens) = tokens
  readRange_iff : ∀ (m : Mapping ε) (c : Config) raw, c.listSeparator = sep →
    (m.readRange c raw = .error (m.miscount c raw) ↔ raw.toList.count sep ≠ 1)
  fragment_iff : ∀ (m : Mapping ε) (c : Config) op raw, c.listSeparator = sep →
    m.kind.allows op = true → op.toClass = .range →
      (m.fragment c op raw = .error (m.miscount c raw) ↔ raw.toList.count sep ≠ 1)

/-- The laws hold at every separator, even at a blank that trimming takes away. -/
theorem splittingLaws (ε : Type) (sep : Char) : SplittingLaws ε sep where
  range_append := Text.splitRange_append sep
  list_append := Text.splitList_append sep
  range_length := Text.length_splitRange sep
  list_eq := fun _ => rfl
  range_token := fun _ _ ht => Text.isToken_of_mem_splitRange ht
  list_token := by
    intro s t ht
    obtain ⟨hr, hne⟩ := Text.mem_splitList_iff.mp ht
    exact ⟨hne, Text.isToken_of_mem_splitRange hr⟩
  list_intercalate := fun _ h => Text.splitList_intercalate h
  readRange_iff := by
    intro m c raw hsep
    subst hsep
    have hc : Operator.between.toClass = .range := rfl
    rw [Mapping.readRange_eq_error_iff hc, Mapping.operandFault?_eq_miscount_iff hc]
  fragment_iff := by
    intro m c op raw hsep hop hc
    subst hsep
    rw [Mapping.fragment_eq_error_iff_of_allows hop, Mapping.operandFault?_eq_miscount_iff hc]

/-- At a blank every stretch of blanks holds empty tokens, which only a range keeps. -/
example : Text.splitRange ' ' "1  5" = ["1", "", "5"] ∧ Text.splitList ' ' "1  5" = ["1", "5"] := by
  decide

end Sift
