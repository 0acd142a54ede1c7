import Sift.Path
import Sift.Proofs.Text.Key

/-!
# Where declared names lead

Declared names lead from a type through objects to a scalar. A name is found again as it was
declared, whatever its case was when it was looked up, and what it was declared as is unique.
-/

namespace Sift

variable {τ : Type}

theorem TypeDescription.find?_congr {t : TypeDescription τ} {a b : String}
    (h : Text.sameAscii a b = true) : t.find? a = t.find? b := by
  unfold find? Text.sameAscii
  rw [Text.sameAscii_iff.mp h]

theorem TypeDescription.find?_name {t : TypeDescription τ} {part : String}
    {d : MemberDescription τ} (h : t.find? part = some d) : t.find? d.name = some d := by
  have hd : Text.sameAscii d.name part = true := by
    unfold find? at h
    simpa using List.find?_some h
  rw [find?_congr hd, h]

namespace Schema

variable (s : Schema τ)

/-- The type declares a member under the name, of this shape, and no other comes before it. -/
def Declares (t : τ) (name : String) (shape : MemberShape τ) : Prop :=
  (s t).find? name = some ⟨name, shape⟩

/-- The names lead from a type through objects to a scalar of the kind, and it is `nullable` if the
scalar may be null or an object on the way be absent. -/
inductive Leads : τ → List String → Kind → Bool → Prop
  | leaf {t : τ} {name : String} {kind : Kind} {nullable : Bool}
    (h : s.Declares t name (.scalar kind nullable)) : Leads t [name] kind nullable
  | through {t u : τ} {name : String} {names : List String} {kind : Kind} {absent nullable : Bool}
    (h : s.Declares t name (.object u absent)) (rest : Leads u names kind nullable) :
    Leads t (name :: names) kind (absent || nullable)

variable {s}

theorem declares_of_find? {t : τ} {part name : String} {shape : MemberShape τ}
    (h : (s t).find? part = some ⟨name, shape⟩) : s.Declares t name shape :=
  TypeDescription.find?_name h

theorem Declares.unique {t : τ} {name : String} {shape shape' : MemberShape τ}
    (h : s.Declares t name shape) (h' : s.Declares t name shape') : shape = shape' := by
  unfold Declares at h h'
  rw [h] at h'
  cases h'
  rfl

end Schema

end Sift
