import Sift.Proofs.Path
import Sift.Proofs.Text.Split

/-!
# Which paths resolve

A path is followed part by part. It resolves exactly if every part names an object in the type that
was reached, and the last part a scalar; otherwise it is refused at the first part that does not,
with the type in which that part was looked up. One of the two always happens.
-/

namespace Sift

variable {τ : Type}

namespace TypeDescription

variable (t : TypeDescription τ)

/-- The first member that has the name, whatever the case of its ASCII letters. -/
def FirstNamed (name : String) (d : MemberDescription τ) : Prop :=
  ∃ before after, t.members = before ++ d :: after ∧ Text.sameAscii d.name name = true ∧
    ∀ m ∈ before, Text.sameAscii m.name name = false

def NoneNamed (name : String) : Prop := ∀ m ∈ t.members, Text.sameAscii m.name name = false

variable {t} {name : String} {d : MemberDescription τ}

theorem find?_eq_some_iff : t.find? name = some d ↔ t.FirstNamed name d := by
  unfold find? FirstNamed
  rw [List.find?_eq_some_iff_append]
  constructor
  · rintro ⟨hd, before, after, hs, hb⟩
    exact ⟨before, after, hs, hd, by simpa using hb⟩
  · rintro ⟨before, after, hs, hd, hb⟩
    exact ⟨hd, before, after, hs, by simpa using hb⟩

theorem find?_eq_none_iff : t.find? name = none ↔ t.NoneNamed name := by
  simp [find?, NoneNamed]

end TypeDescription

/-- The scalar may be null, or the object absent. -/
def MemberShape.isOptional : MemberShape τ → Bool
  | scalar _ nullable => nullable
  | object _ nullable => nullable

namespace Schema

variable (s : Schema τ)

/-- Each part but the last names an object in the type reached so far, and the last a scalar of the
kind. The members are those that were named. -/
inductive Follows : τ → List String → List (MemberDescription τ) → Kind → Prop
  | scalar {t : τ} {part : String} {d : MemberDescription τ} {kind : Kind} {nullable : Bool}
    (hp : part ≠ "") (hd : (s t).FirstNamed part d) (hs : d.shape = .scalar kind nullable) :
    Follows t [part] [d] kind
  | object {t u : τ} {part : String} {parts : List String} {d : MemberDescription τ}
    {ds : List (MemberDescription τ)} {kind : Kind} {absent : Bool}
    (hp : part ≠ "") (hd : (s t).FirstNamed part d) (hs : d.shape = .object u absent)
    (rest : Follows u parts ds kind) : Follows t (part :: parts) (d :: ds) kind

/-- The first part that cannot be followed is looked up in the type `u`. The parts are numbered from
the position on. -/
inductive StopsAt : τ → Nat → List String → (u : τ) → (reason : String) → Prop
  | empty {t : τ} {position : Nat} {rest : List String} :
    StopsAt t position ("" :: rest) t s!"segment {position} is empty"
  | unknown {t : τ} {position : Nat} {part : String} {rest : List String} (hp : part ≠ "")
    (hd : (s t).NoneNamed part) :
    StopsAt t position (part :: rest) t s!"no member named '{part}'"
  | scalar {t : τ} {position : Nat} {part : String} {rest : List String}
    {d : MemberDescription τ} {kind : Kind} {nullable : Bool} (hp : part ≠ "")
    (hd : (s t).FirstNamed part d) (hs : d.shape = .scalar kind nullable) (hr : rest ≠ []) :
    StopsAt t position (part :: rest) t s!"'{d.name}' is a scalar and has no members"
  | object {t u : τ} {position : Nat} {part : String} {d : MemberDescription τ} {absent : Bool}
    (hp : part ≠ "") (hd : (s t).FirstNamed part d) (hs : d.shape = .object u absent) :
    StopsAt t position [part] t s!"'{d.name}' is an object, not a scalar"
  | later {t u v : τ} {position : Nat} {part : String} {parts : List String}
    {d : MemberDescription τ} {absent : Bool} {reason : String} (hp : part ≠ "")
    (hd : (s t).FirstNamed part d) (hs : d.shape = .object u absent)
    (rest : StopsAt u (position + 1) parts v reason) :
    StopsAt t position (part :: parts) v reason

variable {s} {t u : τ} {parts : List String} {ds : List (MemberDescription τ)} {kind : Kind}
  {position : Nat} {reason : String}

theorem Follows.ne_nil (h : s.Follows t parts ds kind) : parts ≠ [] := by
  cases h <;> exact List.cons_ne_nil _ _

theorem StopsAt.ne_nil (h : s.StopsAt t position parts u reason) : parts ≠ [] := by
  cases h <;> exact List.cons_ne_nil _ _

/-- Parts can be followed to the end or stop at one of them. -/
theorem follows_or_stopsAt (s : Schema τ) (t : τ) (position : Nat) (hne : parts ≠ []) :
    (∃ ds kind, s.Follows t parts ds kind) ∨ ∃ u reason, s.StopsAt t position parts u reason := by
  induction parts generalizing t position with
  | nil => exact absurd rfl hne
  | cons part rest ih =>
    by_cases hp : part = ""
    · subst hp
      exact .inr ⟨_, _, .empty⟩
    cases hf : (s t).find? part with
    | none => exact .inr ⟨_, _, .unknown hp (TypeDescription.find?_eq_none_iff.mp hf)⟩
    | some d =>
      have hd := TypeDescription.find?_eq_some_iff.mp hf
      by_cases hr : rest = []
      · subst hr
        cases hs : d.shape with
        | scalar kind nullable => exact .inl ⟨_, _, .scalar hp hd hs⟩
        | object u absent => exact .inr ⟨_, _, .object hp hd hs⟩
      · cases hs : d.shape with
        | scalar kind nullable => exact .inr ⟨_, _, .scalar hp hd hs hr⟩
        | object u absent =>
          rcases ih u (position + 1) hr with ⟨ds, kind, h⟩ | ⟨v, reason, h⟩
          · exact .inl ⟨_, _, .object hp hd hs h⟩
          · exact .inr ⟨_, _, .later hp hd hs h⟩

/-- The members that the parts name lead on by the names that they are declared under. -/
theorem Follows.leads (h : s.Follows t parts ds kind) :
    s.Leads t (ds.map (·.name)) kind (ds.any (·.shape.isOptional)) := by
  induction h with
  | @scalar t part d kind nullable _ hd hs =>
    obtain ⟨name, shape⟩ := d
    cases hs
    have hdecl := declares_of_find? (TypeDescription.find?_eq_some_iff.mpr hd)
    simpa [MemberShape.isOptional] using Leads.leaf hdecl
  | @object t u part parts d ds kind absent _ hd hs _ ih =>
    obtain ⟨name, shape⟩ := d
    cases hs
    have hdecl := declares_of_find? (TypeDescription.find?_eq_some_iff.mpr hd)
    exact .through hdecl ih

/-! What resolving does there -/

variable (path : String) (nullable : Bool)

theorem resolveParts_cons_of_object {part : String} {rest : List String} {d : MemberDescription τ}
    {absent : Bool} (hp : part ≠ "") (hd : (s t).FirstNamed part d)
    (hs : d.shape = .object u absent) (hr : rest ≠ []) :
    s.resolveParts path t position nullable (part :: rest) =
      (s.resolveParts path u (position + 1) (nullable || absent) rest).map fun r =>
        { r with segments := d.name :: r.segments } := by
  obtain ⟨name, shape⟩ := d
  cases hs
  simp [resolveParts, hp, TypeDescription.find?_eq_some_iff.mpr hd, hr]

theorem Follows.resolveParts_eq (h : s.Follows t parts ds kind) :
    s.resolveParts path t position nullable parts =
      .ok ⟨path, ds.map (·.name), kind, nullable || ds.any (·.shape.isOptional)⟩ := by
  induction h generalizing position nullable with
  | @scalar t part d kind leafNullable hp hd hs =>
    obtain ⟨name, shape⟩ := d
    cases hs
    simp [resolveParts, hp, TypeDescription.find?_eq_some_iff.mpr hd, MemberShape.isOptional]
  | object hp hd hs rest ih =>
    rw [resolveParts_cons_of_object path nullable hp hd hs rest.ne_nil, ih]
    simp [Except.map, hs, MemberShape.isOptional, Bool.or_assoc]

theorem StopsAt.resolveParts_eq (h : s.StopsAt t position parts u reason) :
    s.resolveParts path t position nullable parts =
      .error (.unresolvedPath path (s u).name reason) := by
  induction h generalizing nullable with
  | empty => simp [resolveParts]
  | unknown hp hd => simp [resolveParts, hp, TypeDescription.find?_eq_none_iff.mpr hd]
  | @scalar t position part rest d kind leafNullable hp hd hs hr =>
    obtain ⟨name, shape⟩ := d
    cases hs
    simp [resolveParts, hp, TypeDescription.find?_eq_some_iff.mpr hd, hr]
  | @object t u position part d absent hp hd hs =>
    obtain ⟨name, shape⟩ := d
    cases hs
    simp [resolveParts, hp, TypeDescription.find?_eq_some_iff.mpr hd]
  | later hp hd hs rest ih =>
    rw [resolveParts_cons_of_object path nullable hp hd hs rest.ne_nil, ih]
    rfl

/-! Whole paths -/

variable {path} {root : τ}

theorem pathParts_ne_nil (path : String) : pathParts path ≠ [] := by
  simp [pathParts, Text.splitRange]

theorem pathParts_of_blank (hb : Text.trim path = "") : pathParts path = [""] :=
  Text.splitRange_of_blank (by decide) hb

theorem resolve_of_blank (s : Schema τ) (root : τ) (hb : Text.trim path = "") :
    s.resolve root path = .error (.unresolvedPath path (s root).name "path is empty") := by
  rw [resolve, if_pos hb]

theorem resolve_of_not_blank (s : Schema τ) (root : τ) (hb : Text.trim path ≠ "") :
    s.resolve root path = s.resolveParts path root 1 false (pathParts path) := by
  rw [resolve, if_neg hb]

theorem Follows.not_blank (h : s.Follows root (pathParts path) ds kind) : Text.trim path ≠ "" := by
  intro hb
  rw [pathParts_of_blank hb] at h
  cases h with
  | scalar hp _ _ => exact hp rfl
  | object hp _ _ _ => exact hp rfl

theorem Follows.resolve_eq (h : s.Follows root (pathParts path) ds kind) :
    s.resolve root path = .ok ⟨path, ds.map (·.name), kind, ds.any (·.shape.isOptional)⟩ := by
  rw [resolve_of_not_blank s root h.not_blank, h.resolveParts_eq, Bool.false_or]

theorem StopsAt.resolve_eq (hb : Text.trim path ≠ "")
    (h : s.StopsAt root 1 (pathParts path) u reason) :
    s.resolve root path = .error (.unresolvedPath path (s u).name reason) := by
  rw [resolve_of_not_blank s root hb, h.resolveParts_eq]

/-- No part is refused for want of a part. -/
theorem StopsAt.reason_ne (h : s.StopsAt t position parts u reason) :
    reason ≠ "path does not end at a scalar" := by
  induction h with
  | later _ _ _ _ ih => exact ih
  | _ =>
    intro he
    have hhead := congrArg (fun r => r.toList.head?) he
    simp [toString] at hhead

variable (s root path) in
/-- Parts are the stretches between dots, trimmed. What resolves are the members that they name. A
path that does not resolve is blank or stops at a part, and the type in which that part was looked
up is told; none is refused for having come to its end. -/
structure ResolvesExactly : Prop where
  parts_iff : ∀ parts, pathParts path = parts ↔
    ∃ pieces, Text.IsCut '.' path pieces ∧ pieces.map Text.trim = parts
  ok_iff : ∀ r, s.resolve root path = .ok r ↔ ∃ ds kind,
    s.Follows root (pathParts path) ds kind ∧
      r = ⟨path, ds.map (·.name), kind, ds.any (·.shape.isOptional)⟩
  error_iff : ∀ e, s.resolve root path = .error e ↔
    (∀ c ∈ path.toList, Text.isBlank c = true) ∧
        e = .unresolvedPath path (s root).name "path is empty" ∨
      (∃ c ∈ path.toList, Text.isBlank c = false) ∧
        ∃ u reason, s.StopsAt root 1 (pathParts path) u reason ∧
          e = .unresolvedPath path (s u).name reason
  refused_of_not_follows : (¬ ∃ ds kind, s.Follows root (pathParts path) ds kind) →
    ∃ u reason, s.resolve root path = .error (.unresolvedPath path (s u).name reason)
  never_short : ∀ entity, s.resolve root path ≠
    .error (.unresolvedPath path entity "path does not end at a scalar")

theorem resolve_eq_ok_iff {r : ResolvedPath} : s.resolve root path = .ok r ↔
    ∃ ds kind, s.Follows root (pathParts path) ds kind ∧
      r = ⟨path, ds.map (·.name), kind, ds.any (·.shape.isOptional)⟩ := by
  constructor
  · intro hr
    have hb : Text.trim path ≠ "" := by
      intro hb
      rw [resolve_of_blank s root hb] at hr
      cases hr
    rcases follows_or_stopsAt s root 1 (pathParts_ne_nil path) with ⟨ds, kind, h⟩ | ⟨u, _, h⟩
    · rw [h.resolve_eq] at hr
      exact ⟨ds, kind, h, (Except.ok.inj hr).symm⟩
    · rw [h.resolve_eq hb] at hr
      cases hr
  · rintro ⟨ds, kind, h, rfl⟩
    exact h.resolve_eq

/-- What resolves leads by declared names to where it was resolved. -/
theorem leads_of_resolve {r : ResolvedPath} (h : s.resolve root path = .ok r) :
    s.Leads root r.segments r.kind r.nullable := by
  obtain ⟨ds, kind, hf, rfl⟩ := resolve_eq_ok_iff.mp h
  exact hf.leads

theorem resolve_eq_error_iff {e : Error} : s.resolve root path = .error e ↔
    Text.trim path = "" ∧ e = .unresolvedPath path (s root).name "path is empty" ∨
      Text.trim path ≠ "" ∧ ∃ u reason, s.StopsAt root 1 (pathParts path) u reason ∧
        e = .unresolvedPath path (s u).name reason := by
  constructor
  · intro he
    by_cases hb : Text.trim path = ""
    · rw [resolve_of_blank s root hb] at he
      exact .inl ⟨hb, (Except.error.inj he).symm⟩
    rcases follows_or_stopsAt s root 1 (pathParts_ne_nil path) with ⟨ds, kind, h⟩ | ⟨u, reason, h⟩
    · rw [h.resolve_eq] at he
      cases he
    · rw [h.resolve_eq hb] at he
      exact .inr ⟨hb, u, reason, h, (Except.error.inj he).symm⟩
  · rintro (⟨hb, rfl⟩ | ⟨hb, u, reason, h, rfl⟩)
    · exact resolve_of_blank s root hb
    · exact h.resolve_eq hb

theorem resolve_resolvesExactly (s : Schema τ) (root : τ) (path : String) :
    s.ResolvesExactly path root where
  parts_iff := fun _ => Text.splitRange_eq_iff
  ok_iff := fun _ => resolve_eq_ok_iff
  error_iff := by
    intro e
    have hblank : Text.trim path = "" ↔ ∀ c ∈ path.toList, Text.isBlank c = true :=
      Text.trim_eq_empty_iff
    have hnot : Text.trim path ≠ "" ↔ ∃ c ∈ path.toList, Text.isBlank c = false := by
      simp [ne_eq, hblank]
    rw [resolve_eq_error_iff, hnot, hblank]
  refused_of_not_follows := by
    intro hno
    cases hr : s.resolve root path with
    | ok r =>
      obtain ⟨ds, kind, h, -⟩ := resolve_eq_ok_iff.mp hr
      exact absurd ⟨ds, kind, h⟩ hno
    | error e =>
      rcases resolve_eq_error_iff.mp hr with ⟨-, rfl⟩ | ⟨-, u, reason, -, rfl⟩
      · exact ⟨root, _, rfl⟩
      · exact ⟨u, reason, rfl⟩
  never_short := by
    intro entity he
    rcases resolve_eq_error_iff.mp he with ⟨-, he⟩ | ⟨-, u, reason, h, he⟩
    · simp at he
    · injection he with _ _ hreason
      exact h.reason_ne hreason.symm

end Schema

end Sift
