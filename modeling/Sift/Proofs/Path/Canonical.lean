import Sift.Proofs.Path.Resolution
import Sift.Proofs.Text.Trim

/-!
# Canonical paths

A name that a part of a path can find holds no dot, is not blank and has no blanks around it, since
the part has none and differs from the name in the case of its letters at most. The declared names
of a resolved path, joined by dots, are therefore cut into the same names again, and each of them
finds the member that the part found: the canonical form of a path is a path of its own, and the
canonical form of itself.
-/

namespace Sift

namespace Text

variable {s t : String}

theorem toLower_eq_dot_iff (c : Char) : c.toLower = '.' ↔ c = '.' :=
  decide_eq_decide.mp (apply_toLower (f := fun c => decide (c = '.')) (by decide) c)

theorem sameAscii_empty_iff (h : sameAscii s t = true) : s = "" ↔ t = "" := by
  have hl := congrArg List.length (sameAscii_iff.mp h)
  rw [List.length_map, List.length_map] at hl
  rw [← String.toList_eq_nil_iff, ← String.toList_eq_nil_iff, ← List.length_eq_zero_iff, hl,
    List.length_eq_zero_iff]

theorem dot_not_mem_of_sameAscii (h : sameAscii s t = true) (ht : '.' ∉ t.toList) :
    '.' ∉ s.toList := by
  intro hs
  have hm : '.' ∈ t.toList.map Char.toLower := by
    rw [← sameAscii_iff.mp h]
    exact List.mem_map.mpr ⟨'.', hs, rfl⟩
  obtain ⟨c, hc, hl⟩ := List.mem_map.mp hm
  rw [(toLower_eq_dot_iff c).mp hl] at hc
  exact ht hc

theorem isTrimmed_of_sameAscii (h : sameAscii s t = true) (ht : IsTrimmed t.toList) :
    IsTrimmed s.toList := by
  have hl := sameAscii_iff.mp h
  have hmap : (trimmed s.toList).map Char.toLower = s.toList.map Char.toLower := by
    rw [← trimmed_map_toLower, hl, trimmed_map_toLower, ht.trimmed_eq]
  have hlen : (trimmed s.toList).length = s.toList.length := by
    simpa using congrArg List.length hmap
  rw [← (trimmed_sublist s.toList).eq_of_length hlen]
  exact isTrimmed_trimmed s.toList

end Text

/-- A name that stands between the dots of a canonical path as it is. -/
structure IsPathPart (name : String) : Prop extends Text.IsToken '.' name where
  ne_empty : name ≠ ""

theorem pathParts_intercalate {names : List String} (hne : names ≠ [])
    (h : ∀ name ∈ names, IsPathPart name) : pathParts (".".intercalate names) = names :=
  Text.splitRange_intercalate hne fun name hn => (h name hn).toIsToken

theorem isPathPart_of_mem_pathParts {path part : String} (h : part ∈ pathParts path)
    (hp : part ≠ "") : IsPathPart part :=
  ⟨Text.isToken_of_mem_splitRange h, hp⟩

theorem IsPathPart.of_sameAscii {name part : String} (hp : IsPathPart part)
    (h : Text.sameAscii name part = true) : IsPathPart name where
  free := Text.dot_not_mem_of_sameAscii h hp.free
  isTrimmed := Text.isTrimmed_of_sameAscii h hp.isTrimmed
  ne_empty := by
    rw [ne_eq, Text.sameAscii_empty_iff h]
    exact hp.ne_empty

namespace Schema

variable {τ : Type} {s : Schema τ} {t root : τ} {path : String} {parts : List String}
  {ds : List (MemberDescription τ)} {kind : Kind}

theorem Follows.members_ne_nil (h : s.Follows t parts ds kind) : ds ≠ [] := by
  cases h <;> exact List.cons_ne_nil _ _

theorem Follows.exists_part (h : s.Follows t parts ds kind) :
    ∀ d ∈ ds, ∃ part ∈ parts, part ≠ "" ∧ Text.sameAscii d.name part = true := by
  induction h with
  | @scalar t part d kind nullable hp hd hs =>
    intro d' hd'
    rw [List.mem_singleton.mp hd']
    obtain ⟨_, _, _, hname, _⟩ := hd
    exact ⟨part, List.mem_cons_self, hp, hname⟩
  | @object t u part parts d ds kind absent hp hd hs _ ih =>
    intro d' hd'
    rcases List.mem_cons.mp hd' with rfl | hd'
    · obtain ⟨_, _, _, hname, _⟩ := hd
      exact ⟨part, List.mem_cons_self, hp, hname⟩
    · obtain ⟨part', hm, hpart⟩ := ih d' hd'
      exact ⟨part', List.mem_cons_of_mem part hm, hpart⟩

/-- A member is found again by the name that it was declared under. -/
theorem firstNamed_name {part : String} {d : MemberDescription τ}
    (h : (s t).FirstNamed part d) : (s t).FirstNamed d.name d :=
  TypeDescription.find?_eq_some_iff.mp
    (TypeDescription.find?_name (TypeDescription.find?_eq_some_iff.mpr h))

theorem Follows.declared (h : s.Follows t parts ds kind) (hne : ∀ d ∈ ds, d.name ≠ "") :
    s.Follows t (ds.map (·.name)) ds kind := by
  induction h with
  | scalar hp hd hs => exact .scalar (hne _ List.mem_cons_self) (firstNamed_name hd) hs
  | object hp hd hs _ ih =>
    have hrest := ih fun d hm => hne d (List.mem_cons_of_mem _ hm)
    exact .object (hne _ List.mem_cons_self) (firstNamed_name hd) hs hrest

theorem Follows.isPathPart_name (h : s.Follows root (pathParts path) ds kind) :
    ∀ d ∈ ds, IsPathPart d.name := by
  intro d hd
  obtain ⟨part, hm, hp, hname⟩ := h.exists_part d hd
  exact (isPathPart_of_mem_pathParts hm hp).of_sameAscii hname

/-- The canonical form of a path that resolves is resolved in the same way, as its own canonical
form. -/
theorem canonical_resolves_to_itself {r : ResolvedPath} (h : s.resolve root path = .ok r) :
    ∃ r', s.resolve root r.canonical = .ok r' ∧ r'.segments = r.segments ∧ r'.kind = r.kind ∧
      r'.nullable = r.nullable ∧ r'.canonical = r.canonical ∧ r'.path = r'.canonical := by
  obtain ⟨ds, kind, hf, rfl⟩ := resolve_eq_ok_iff.mp h
  have hpart := hf.isPathPart_name
  have hne : ds.map (·.name) ≠ [] := by simpa using hf.members_ne_nil
  have hagain : pathParts (".".intercalate (ds.map (·.name))) = ds.map (·.name) := by
    apply pathParts_intercalate hne
    intro name hn
    obtain ⟨d, hd, rfl⟩ := List.mem_map.mp hn
    exact hpart d hd
  have hf' : s.Follows root (pathParts (".".intercalate (ds.map (·.name)))) ds kind := by
    rw [hagain]
    exact hf.declared fun d hd => (hpart d hd).ne_empty
  exact ⟨_, hf'.resolve_eq, rfl, rfl, rfl, rfl, rfl⟩

/-- A type that contains itself, with a name that another shadows, one that holds a dot and one of
two words. -/
def cabinet : TypeDescription Unit :=
  ⟨"Cabinet", [⟨"Drawer", .object () true⟩, ⟨"DRAWER", .scalar .integer false⟩,
    ⟨"drawer.label", .scalar .string false⟩, ⟨"two Words", .scalar .boolean false⟩]⟩

def innerWords : ResolvedPath :=
  ⟨" drawer.DRAWER . TWO words ", ["Drawer", "Drawer", "two Words"], .boolean, true⟩

theorem innerWords_resolves_to_itself :
    resolve (fun _ => cabinet) () " drawer.DRAWER . TWO words " = .ok innerWords ∧
      innerWords.canonical = "Drawer.Drawer.two Words" ∧
      ∃ r', resolve (fun _ => cabinet) () innerWords.canonical = .ok r' ∧
        r'.segments = innerWords.segments ∧ r'.kind = innerWords.kind ∧
          r'.nullable = innerWords.nullable ∧ r'.canonical = innerWords.canonical ∧
            r'.path = r'.canonical := by
  have hr : resolve (fun _ => cabinet) () " drawer.DRAWER . TWO words " = .ok innerWords := rfl
  exact ⟨hr, by decide, canonical_resolves_to_itself hr⟩

end Schema

end Sift
