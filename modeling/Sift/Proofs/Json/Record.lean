import Mathlib.Data.List.Induction
import Sift.Json.Decode
import Sift.Proofs.Except

/-!
# What a record decoder takes in

A tree presents a record as an object, in any order and beside unknown names with whole values, or
as an array of its first fields. Either way its fields are taken in one after the other. What has
been taken in is told by a relation between fields and drafts, if one more field changes both alike.
-/

namespace Sift.Json

variable {α σ : Type}

/-- The members of known names. All names are texts, and all other members are whole. -/
inductive Known (names : List String) : List (Option String × Doc) → List (String × Doc) → Prop
  | nil : Known names [] []
  | known {name : String} {d : Doc} {ms : List (Option String × Doc)}
    {fields : List (String × Doc)} (hn : name ∈ names) (h : Known names ms fields) :
    Known names ((some name, d) :: ms) ((name, d) :: fields)
  | unknown {name : String} {d : Doc} {ms : List (Option String × Doc)}
    {fields : List (String × Doc)} (hn : name ∉ names) (hd : d.isWhole = true)
    (h : Known names ms fields) : Known names ((some name, d) :: ms) fields

/-- The fields that a tree presents as a record with these names. -/
inductive Presents (names : List String) : Doc → List (String × Doc) → Prop
  | object {ms : List (Option String × Doc)} {fields : List (String × Doc)}
    (h : Known names ms fields) : Presents names (.object ms true) fields
  | array {items : List Doc} (h : items.length ≤ names.length) :
    Presents names (.array items true) (names.zip items)

/-- The values given under a name. -/
def valuesOf (name : String) (fields : List (String × Doc)) : List Doc :=
  (fields.filter (·.1 = name)).map (·.2)

/-- Of the values given under a name: there is none, or a single one that means something. -/
inductive Gives (P : Doc → α → Prop) : List Doc → Option α → Prop
  | absent : Gives P [] none
  | given {d : Doc} {a : α} (h : P d a) : Gives P [d] (some a)

theorem Known.mem {names : List String} {ms : List (Option String × Doc)}
    {fields : List (String × Doc)} (h : Known names ms fields) : ∀ f ∈ fields, f.1 ∈ names := by
  induction h with
  | nil => simp
  | known hn _ ih => exact List.forall_mem_cons.mpr ⟨hn, ih⟩
  | unknown _ _ _ ih => exact ih

theorem Presents.mem {names : List String} {d : Doc} {fields : List (String × Doc)}
    (h : Presents names d fields) : ∀ f ∈ fields, f.1 ∈ names := by
  cases h with
  | object h => exact h.mem
  | array _ => exact fun f hf => (List.of_mem_zip hf).1

/-! Places of a draft -/

theorem valuesOf_snoc_self (name : String) (fields : List (String × Doc)) (d : Doc) :
    valuesOf name (fields ++ [(name, d)]) = valuesOf name fields ++ [d] := by
  simp [valuesOf]

theorem valuesOf_snoc_of_ne {name other : String} (h : other ≠ name)
    (fields : List (String × Doc)) (d : Doc) :
    valuesOf name (fields ++ [(other, d)]) = valuesOf name fields := by
  simp [valuesOf, h]

section
variable {P : Doc → α → Prop}

theorem gives_nil_iff {place : Option α} : Gives P [] place ↔ place = none := by
  constructor
  · intro h
    cases h
    rfl
  · rintro rfl
    exact .absent

theorem gives_singleton_iff {d : Doc} {place : Option α} :
    Gives P [d] place ↔ ∃ a, P d a ∧ place = some a := by
  constructor
  · intro h
    cases h with
    | given h => exact ⟨_, h, rfl⟩
  · rintro ⟨a, h, rfl⟩
    exact .given h

theorem Gives.eq_none_iff {ds : List Doc} {place : Option α} (h : Gives P ds place) :
    place = none ↔ ds = [] := by
  cases h <;> simp

theorem fill_eq_ok_iff {place filled : Option α} {name : String} {value : Except Fault α} :
    fill place name value = .ok filled ↔ place = none ∧ ∃ a, value = .ok a ∧ filled = some a := by
  cases place with
  | some a => simp [fill]
  | none =>
    change value.map some = .ok filled ↔ _
    rw [map_eq_ok_iff]
    simp only [true_and, eq_comm]

/-- One more value of a name fills an empty place and no other. -/
theorem gives_snoc_iff {decoder : Decoder α} (hP : ∀ d a, decoder d = .ok a ↔ P d a)
    {ds : List Doc} {d : Doc} {name : String} {filled : Option α} :
    Gives P (ds ++ [d]) filled ↔
      ∃ place, Gives P ds place ∧ fill place name (decoder d) = .ok filled := by
  simp only [fill_eq_ok_iff, hP]
  constructor
  · intro h
    cases ds with
    | nil =>
      obtain ⟨a, ha, rfl⟩ := gives_singleton_iff.mp h
      exact ⟨none, .absent, rfl, a, ha, rfl⟩
    | cons d' ds => cases ds <;> cases h
  · rintro ⟨place, h, hn, a, ha, rfl⟩
    obtain rfl := h.eq_none_iff.mp hn
    exact .given ha

/-- A place of a draft, to look at and to fill. -/
structure Place (σ α : Type) where
  get : σ → Option α
  put : σ → Option α → σ
  get_put : ∀ s x, get (put s x) = x
  put_get : ∀ s, put s (get s) = s
  put_put : ∀ s x y, put (put s x) y = put s y

/-- Filling a place is having one more value for it. `R` tells what the other places hold. -/
theorem Place.filled_iff (p : Place σ α) {decoder : Decoder α}
    (hP : ∀ d a, decoder d = .ok a ↔ P d a) {ds : List Doc} {d : Doc} {name : String}
    {D E R : σ → Prop} (hD : ∀ s, D s ↔ Gives P ds (p.get s) ∧ R s)
    (hE : ∀ s, E s ↔ Gives P (ds ++ [d]) (p.get s) ∧ R s) (hR : ∀ s x, R (p.put s x) ↔ R s) :
    ∀ t, E t ↔ ∃ s, D s ∧ (fill (p.get s) name (decoder d)).map (p.put s) = .ok t := by
  intro t
  rw [hE, gives_snoc_iff hP]
  constructor
  · rintro ⟨⟨place, hg, hf⟩, hr⟩
    have hd : D (p.put t place) := (hD _).mpr ⟨by rwa [p.get_put], (hR t place).mpr hr⟩
    refine ⟨p.put t place, hd, map_eq_ok_iff.mpr ⟨p.get t, ?_, ?_⟩⟩
    · rwa [p.get_put]
    · rw [p.put_put, p.put_get]
  · rintro ⟨s, hd, h⟩
    obtain ⟨hg, hr⟩ := (hD s).mp hd
    obtain ⟨x, hx, rfl⟩ := map_eq_ok_iff.mp h
    rw [p.get_put, hR]
    exact ⟨⟨p.get s, hg, hx⟩, hr⟩

end

/-! Lists -/

/-- The tree is that of a list, each item of which means something. -/
def Lists (P : Doc → α → Prop) (d : Doc) (as : List α) : Prop :=
  ∃ items, d = .array items true ∧ List.Forall₂ P items as

theorem decodeList_eq_ok_iff {P : Doc → α → Prop} {decoder : Decoder α}
    (hP : ∀ d a, decoder d = .ok a ↔ P d a) (d : Doc) (as : List α) :
    decodeList decoder d = .ok as ↔ Lists P d as := by
  unfold decodeList Lists
  split
  · rename_i items closed
    rw [bind_eq_ok_iff]
    cases closed <;> simp [mapM_eq_ok_iff_forall₂ hP]
  · rename_i hne
    constructor
    · intro h
      cases h
    · rintro ⟨items, rfl, -⟩
      exact absurd rfl (hne items true)

namespace RecordDecoder

/-- Takes in fields, one after the other. -/
def takeAll (r : RecordDecoder σ α) (s : σ) : List (String × Doc) → Except Fault σ
  | [] => .ok s
  | (name, d) :: fields => r.take s name d >>= fun s => r.takeAll s fields

variable {r : RecordDecoder σ α} {s t : σ} {a : α} {d : Doc}

theorem takeAll_snoc {fields : List (String × Doc)} {name : String} :
    r.takeAll s (fields ++ [(name, d)]) = .ok t ↔
      ∃ u, r.takeAll s fields = .ok u ∧ r.take u name d = .ok t := by
  induction fields generalizing s with
  | nil => simp [takeAll, bind_eq_ok_iff]
  | cons f fields ih =>
    obtain ⟨other, d'⟩ := f
    simp only [List.cons_append, takeAll, bind_eq_ok_iff, ih]
    constructor
    · rintro ⟨s', hs, u, hu, ht⟩
      exact ⟨u, ⟨s', hs, hu⟩, ht⟩
    · rintro ⟨u, ⟨s', hs, hu⟩, ht⟩
      exact ⟨s', hs, u, hu, ht⟩

theorem takeMembers_eq_ok_iff {ms : List (Option String × Doc)} :
    r.takeMembers s ms = .ok t ↔
      ∃ fields, Known r.names ms fields ∧ r.takeAll s fields = .ok t := by
  induction ms generalizing s with
  | nil =>
    constructor
    · exact fun h => ⟨[], .nil, h⟩
    · rintro ⟨fields, ⟨⟩, h⟩
      exact h
  | cons m ms ih =>
    obtain ⟨name, d⟩ := m
    cases name with
    | none =>
      constructor
      · intro h
        cases h
      · rintro ⟨fields, ⟨⟩, -⟩
    | some name =>
      rw [takeMembers]
      by_cases hn : name ∈ r.names
      · rw [if_pos hn]
        constructor
        · intro h
          obtain ⟨u, hu, ht⟩ := bind_eq_ok_iff.mp h
          obtain ⟨fields, hk, hf⟩ := ih.mp ht
          exact ⟨(name, d) :: fields, .known hn hk, bind_eq_ok_iff.mpr ⟨u, hu, hf⟩⟩
        · rintro ⟨fields, hk, hf⟩
          cases hk with
          | known _ hk =>
            obtain ⟨u, hu, ht⟩ := bind_eq_ok_iff.mp hf
            exact bind_eq_ok_iff.mpr ⟨u, hu, ih.mpr ⟨_, hk, ht⟩⟩
          | unknown hn' => exact absurd hn hn'
      · rw [if_neg hn]
        split
        · rename_i hd
          rw [ih]
          constructor
          · rintro ⟨fields, hk, hf⟩
            exact ⟨fields, .unknown hn hd hk, hf⟩
          · rintro ⟨fields, hk, hf⟩
            cases hk with
            | known hn' => exact absurd hn' hn
            | unknown _ _ hk => exact ⟨fields, hk, hf⟩
        · rename_i hd
          constructor
          · intro h
            cases h
          · rintro ⟨fields, hk, -⟩
            cases hk with
            | known hn' => exact absurd hn' hn
            | unknown _ hd' => exact absurd hd' hd

theorem takeItems_eq_ok_iff {names : List String} {items : List Doc} :
    r.takeItems s names items = .ok t ↔
      items.length ≤ names.length ∧ r.takeAll s (names.zip items) = .ok t := by
  induction items generalizing s names with
  | nil => simp [takeItems, takeAll]
  | cons d items ih =>
    cases names with
    | nil => simp [takeItems]
    | cons name names =>
      change r.take s name d >>= (fun s => r.takeItems s names items) = .ok t ↔ _
      simp only [bind_eq_ok_iff, ih, List.length_cons, Nat.add_le_add_iff_right,
        List.zip_cons_cons, takeAll]
      constructor
      · rintro ⟨u, hu, hl, ht⟩
        exact ⟨hl, u, hu, ht⟩
      · rintro ⟨hl, u, hu, ht⟩
        exact ⟨u, hu, hl, ht⟩

/-- A record is decoded from the fields that its tree presents. -/
theorem decode_eq_ok_iff : r.decode d = .ok a ↔
    ∃ fields t, Presents r.names d fields ∧ r.takeAll r.start fields = .ok t ∧
      r.finish t = .ok a := by
  cases d with
  | object ms closed =>
    simp only [decode, bind_eq_ok_iff, takeMembers_eq_ok_iff]
    cases closed with
    | false =>
      constructor
      · rintro ⟨t, -, h⟩
        cases h
      · rintro ⟨fields, t, ⟨⟩, -⟩
    | true =>
      constructor
      · rintro ⟨t, ⟨fields, hk, hf⟩, h⟩
        exact ⟨fields, t, .object hk, hf, h⟩
      · rintro ⟨fields, t, hp, hf, h⟩
        cases hp with
        | object hk => exact ⟨t, ⟨fields, hk, hf⟩, h⟩
  | array items closed =>
    simp only [decode, bind_eq_ok_iff, takeItems_eq_ok_iff]
    cases closed with
    | false =>
      constructor
      · rintro ⟨t, -, h⟩
        cases h
      · rintro ⟨fields, t, ⟨⟩, -⟩
    | true =>
      constructor
      · rintro ⟨t, ⟨hl, hf⟩, h⟩
        refine ⟨_, t, .array hl, hf, ?_⟩
        cases ha : r.finish t with
        | error e => simp [ha] at h
        | ok a' => simpa [ha] using h
      · rintro ⟨fields, t, hp, hf, h⟩
        cases hp with
        | array hl => exact ⟨t, ⟨hl, hf⟩, by rw [h]⟩
  | _ =>
    constructor
    · intro h
      cases h
    · rintro ⟨fields, t, ⟨⟩, -⟩

/-- A relation that holds at the start, and that one more field carries from draft to draft, tells
what taking in fields comes to. -/
theorem takeAll_eq_ok_iff {D : List (String × Doc) → σ → Prop} (hstart : ∀ t, D [] t ↔ t = r.start)
    (hstep : ∀ fields name d t, name ∈ r.names →
      (D (fields ++ [(name, d)]) t ↔ ∃ s, D fields s ∧ r.take s name d = .ok t))
    {fields : List (String × Doc)} (hf : ∀ f ∈ fields, f.1 ∈ r.names) :
    r.takeAll r.start fields = .ok t ↔ D fields t := by
  -- a draft is changed by the last field, so the fields are taken away from the end
  induction fields using List.reverseRecOn generalizing t with
  | nil =>
    rw [hstart, takeAll, Except.ok.injEq]
    exact eq_comm
  | append_singleton fields f ih =>
    obtain ⟨name, d⟩ := f
    have hn : name ∈ r.names := hf (name, d) (by simp)
    have ih (s : σ) : r.takeAll r.start fields = .ok s ↔ D fields s :=
      ih fun f hm => hf f (List.mem_append_left _ hm)
    simp only [takeAll_snoc, hstep fields name d t hn, ih]

theorem decode_eq_ok_iff_drafted {D : List (String × Doc) → σ → Prop}
    (hstart : ∀ t, D [] t ↔ t = r.start)
    (hstep : ∀ fields name d t, name ∈ r.names →
      (D (fields ++ [(name, d)]) t ↔ ∃ s, D fields s ∧ r.take s name d = .ok t)) :
    r.decode d = .ok a ↔
      ∃ fields t, Presents r.names d fields ∧ D fields t ∧ r.finish t = .ok a := by
  rw [decode_eq_ok_iff]
  refine exists₂_congr fun fields t => and_congr_right fun hp => ?_
  rw [takeAll_eq_ok_iff hstart hstep hp.mem]

end RecordDecoder

end Sift.Json
