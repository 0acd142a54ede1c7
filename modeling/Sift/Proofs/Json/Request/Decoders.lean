import Sift.Proofs.Json.Request

/-!
# The two decoders of requests

Reading operators in place is reading them as plain strings and looking them up afterwards. So both
decoders accept the same texts as the same requests. They differ in what they report: the one that
looks operators up afterwards finds an unknown operator only in a text that is a request otherwise,
and names the first one.
-/

namespace Sift

open Sift.Json

/-- The criterion is the one that was read, with the operator that has the name. -/
def FilterCriterion.Resolves (f : ReadFilter String) (c : FilterCriterion) : Prop :=
  c.field = f.field ∧ c.operator.IsNamed f.operator ∧ c.value = f.value

/-- The criterion that was read with its operator in place. -/
def FilterCriterion.ofPlaced (f : ReadFilter Operator) : FilterCriterion :=
  ⟨f.field, f.operator, f.value⟩

namespace Json

section
variable {α β : Type} {P : Doc → α → Prop} {Q : Doc → β → Prop} {R : α → β → Prop}
  (h : ∀ d b, Q d b ↔ ∃ a, P d a ∧ R a b)
include h

theorem forall₂_comp {ds : List Doc} {bs : List β} :
    List.Forall₂ Q ds bs ↔ ∃ as, List.Forall₂ P ds as ∧ List.Forall₂ R as bs := by
  constructor
  · intro hq
    induction hq with
    | nil => exact ⟨[], .nil, .nil⟩
    | cons hb _ ih =>
      obtain ⟨a, hp, hr⟩ := (h _ _).mp hb
      obtain ⟨as, hps, hrs⟩ := ih
      exact ⟨a :: as, .cons hp hps, .cons hr hrs⟩
  · rintro ⟨as, hps, hrs⟩
    induction hps generalizing bs with
    | nil =>
      cases hrs
      exact .nil
    | cons hp _ ih =>
      cases hrs with
      | cons hr hrs => exact .cons ((h _ _).mpr ⟨_, hp, hr⟩) (ih hrs)

theorem lists_comp (d : Doc) (bs : List β) :
    Lists Q d bs ↔ ∃ as, Lists P d as ∧ List.Forall₂ R as bs := by
  unfold Lists
  constructor
  · rintro ⟨items, rfl, hq⟩
    obtain ⟨as, hp, hr⟩ := (forall₂_comp h).mp hq
    exact ⟨as, ⟨items, rfl, hp⟩, hr⟩
  · rintro ⟨as, ⟨items, rfl, hp⟩, hr⟩
    exact ⟨items, rfl, (forall₂_comp h).mpr ⟨as, hp, hr⟩⟩

theorem gives_some_comp {ds : List Doc} {b : β} :
    Gives Q ds (some b) ↔ ∃ a, Gives P ds (some a) ∧ R a b := by
  constructor
  · intro hg
    cases hg with
    | given hb =>
      obtain ⟨a, hp, hr⟩ := (h _ _).mp hb
      exact ⟨a, .given hp, hr⟩
  · rintro ⟨a, hg, hr⟩
    cases hg with
    | given hp => exact .given ((h _ _).mpr ⟨a, hp, hr⟩)

end

theorem gives_none_iff {α β : Type} {P : Doc → α → Prop} {Q : Doc → β → Prop} {ds : List Doc} :
    Gives Q ds none ↔ Gives P ds none := by
  constructor <;>
  · intro h
    cases h
    exact .absent

theorem isFilter_operator_iff (d : Doc) (f : ReadFilter Operator) :
    IsFilter IsOperator d f ↔
      ∃ g, IsFilter IsText d g ∧ FilterCriterion.Resolves g (.ofPlaced f) := by
  have hcomp (d : Doc) (op : Operator) : IsOperator d op ↔ ∃ s, IsText d s ∧ op.IsNamed s := Iff.rfl
  constructor
  · rintro ⟨hd, hf, ho, hv⟩
    obtain ⟨s, hs, hn⟩ := (gives_some_comp hcomp).mp ho
    exact ⟨_, .intro hd hf hs hv, rfl, hn, rfl⟩
  · rintro ⟨g, ⟨hd, hf, hs, hv⟩, he, hn, hw⟩
    obtain ⟨field, operator, value⟩ := f
    obtain rfl : field = _ := he
    obtain rfl : value = _ := hw
    exact .intro hd hf ((gives_some_comp hcomp).mpr ⟨_, hs, hn⟩) hv

theorem isRequest_operator_iff (d : Doc) (filters : List (ReadFilter Operator))
    (sorts : List SortCriterion) : IsRequest IsOperator d filters sorts ↔
      ∃ read, IsRequest IsText d read sorts ∧
        List.Forall₂ FilterCriterion.Resolves read (filters.map .ofPlaced) := by
  have hcomp := lists_comp isFilter_operator_iff
  simp only [List.forall₂_map_right_iff]
  constructor
  · intro h
    cases h with
    | @intro _ filters _ hd hf hs =>
      cases filters with
      | none => exact ⟨[], .intro hd (gives_none_iff.mp hf) hs, .nil⟩
      | some filters =>
        obtain ⟨read, hr, hall⟩ := (gives_some_comp hcomp).mp hf
        exact ⟨read, .intro hd hr hs, hall⟩
  · rintro ⟨_, h, hall⟩
    cases h with
    | @intro _ read _ hd hf hs =>
      cases read with
      | none =>
        cases List.forall₂_nil_left_iff.mp hall
        exact .intro hd (gives_none_iff.mpr hf) hs
      | some read => exact .intro hd ((gives_some_comp hcomp).mpr ⟨read, hf, hall⟩) hs

/-- The text is that of a request, if its operators are read as plain strings. -/
def IsRequestText (s : String) (filters : List (ReadFilter String)) (sorts : List SortCriterion) :
    Prop :=
  ∃ d, Doc.ofString s = (d, true) ∧ IsRequest IsText d filters sorts

theorem decodeString_eq_ok_iff {α : Type} {decoder : Decoder α} {s : String} {a : α} :
    decodeString decoder s = .ok a ↔ ∃ d, Doc.ofString s = (d, true) ∧ decoder d = .ok a := by
  unfold decodeString
  obtain ⟨d, complete⟩ := Doc.ofString s
  simp only [bind_eq_ok_iff]
  cases complete <;> simp

theorem decodeString_text_eq_ok_iff {s : String} {filters : List (ReadFilter String)}
    {sorts : List SortCriterion} :
    decodeString (requestDecoder decodeText).decode s = .ok (filters, sorts) ↔
      IsRequestText s filters sorts := by
  simp only [decodeString_eq_ok_iff, decodeRequest_eq_ok_iff decodeText_eq_ok_iff, IsRequestText]

end Json

/-! Operators looked up afterwards -/

theorem FilterCriterion.ofRead_eq_ok_iff (f : ReadFilter String) (c : FilterCriterion) :
    FilterCriterion.ofRead f = .ok c ↔ FilterCriterion.Resolves f c := by
  simp only [ofRead, map_eq_ok_iff, Operator.ofName_eq_ok_iff]
  constructor
  · rintro ⟨op, hn, rfl⟩
    exact ⟨rfl, hn, rfl⟩
  · rintro ⟨hf, hn, hv⟩
    refine ⟨c.operator, hn, ?_⟩
    rw [← hf, ← hv]

theorem FilterCriterion.ofRead_eq_error_iff {f : ReadFilter String} {e : Error} :
    FilterCriterion.ofRead f = .error e ↔
      (∀ op : Operator, ¬ op.IsNamed f.operator) ∧
        e = .unknownOperator (Text.trim f.operator) := by
  rw [ofRead, map_eq_error_iff, Operator.ofName_eq_error_iff]

theorem FilterCriterion.exists_ofRead_eq_ok_iff {f : ReadFilter String} :
    (∃ c, FilterCriterion.ofRead f = .ok c) ↔ ∃ op : Operator, op.IsNamed f.operator := by
  simp only [ofRead_eq_ok_iff]
  constructor
  · rintro ⟨c, hc⟩
    exact ⟨c.operator, hc.2.1⟩
  · rintro ⟨op, hn⟩
    exact ⟨⟨f.field, op, f.value⟩, rfl, hn, rfl⟩

/-- No operator has the text as its name, and every filter before has one. -/
def FirstUnnamed (filters : List (ReadFilter String)) (text : String) : Prop :=
  ∃ before f after, filters = before ++ f :: after ∧
    (∀ g ∈ before, ∃ op : Operator, op.IsNamed g.operator) ∧
      (∀ op : Operator, ¬ op.IsNamed f.operator) ∧ text = f.operator

theorem mapM_ofRead_eq_error_iff {filters : List (ReadFilter String)} {e : Error} :
    filters.mapM FilterCriterion.ofRead = .error e ↔
      ∃ text, FirstUnnamed filters text ∧ e = .unknownOperator (Text.trim text) := by
  simp only [mapM_eq_error_iff, FilterCriterion.exists_ofRead_eq_ok_iff,
    FilterCriterion.ofRead_eq_error_iff]
  constructor
  · rintro ⟨before, f, after, hs, hb, hf, he⟩
    exact ⟨f.operator, ⟨before, f, after, hs, hb, hf, rfl⟩, he⟩
  · rintro ⟨_, ⟨before, f, after, hs, hb, hf, rfl⟩, he⟩
    exact ⟨before, f, after, hs, hb, hf, he⟩

namespace Request

variable {s : String} {r : Request}

theorem ofJson_eq_ok_iff : ofJson s = .ok r ↔
    ∃ filters, IsRequestText s filters r.sorts ∧
      List.Forall₂ FilterCriterion.Resolves filters r.filters := by
  unfold ofJson
  simp only [← decodeString_text_eq_ok_iff]
  cases decodeString (requestDecoder decodeText).decode s with
  | error f => simp
  | ok read =>
    obtain ⟨filters, sorts⟩ := read
    simp only [map_eq_ok_iff, mapM_eq_ok_iff_forall₂ FilterCriterion.ofRead_eq_ok_iff]
    constructor
    · rintro ⟨cs, hcs, rfl⟩
      exact ⟨filters, rfl, hcs⟩
    · rintro ⟨filters', he, hcs⟩
      cases he
      exact ⟨r.filters, hcs, rfl⟩

theorem decode_eq_ok_iff : decode s = .ok r ↔
    ∃ filters, IsRequestText s filters r.sorts ∧
      List.Forall₂ FilterCriterion.Resolves filters r.filters := by
  simp only [decode, map_eq_ok_iff, decodeString_eq_ok_iff, Prod.exists,
    decodeRequest_eq_ok_iff decodeOperator_eq_ok_iff, isRequest_operator_iff]
  constructor
  · rintro ⟨filters, sorts, ⟨d, hd, read, hr, hall⟩, rfl⟩
    exact ⟨read, ⟨d, hd, hr⟩, hall⟩
  · rintro ⟨read, ⟨d, hd, hr⟩, hall⟩
    obtain ⟨placed, hp⟩ : ∃ placed : List (ReadFilter Operator),
        placed.map FilterCriterion.ofPlaced = r.filters := by
      refine ⟨r.filters.map fun c => ⟨c.field, c.operator, c.value⟩, ?_⟩
      rw [List.map_map]
      exact List.map_id _
    rw [← hp] at hall
    refine ⟨placed, r.sorts, ⟨d, hd, read, hr, hall⟩, ?_⟩
    exact congrArg (Request.mk · r.sorts) hp

/-- A text that is no request is refused as a whole, whatever its operators are. -/
theorem ofJson_eq_error_iff {e : Error} : ofJson s = .error e ↔
    (∃ f, decodeString (requestDecoder decodeText).decode s = .error f ∧
      e = .argument "request" f.message) ∨
    ∃ filters sorts text, IsRequestText s filters sorts ∧ FirstUnnamed filters text ∧
      e = .unknownOperator (Text.trim text) := by
  unfold ofJson
  simp only [← decodeString_text_eq_ok_iff]
  cases decodeString (requestDecoder decodeText).decode s with
  | error f => simp [eq_comm]
  | ok read =>
    obtain ⟨filters, sorts⟩ := read
    simp only [map_eq_error_iff, mapM_ofRead_eq_error_iff]
    constructor
    · rintro ⟨text, ht, he⟩
      exact .inr ⟨filters, sorts, text, rfl, ht, he⟩
    · rintro (⟨f, hf, -⟩ | ⟨filters', sorts', text, hr, ht, he⟩)
      · cases hf
      · cases hr
        exact ⟨text, ht, he⟩

/-- What the two decoders make of a text. -/
structure SameLanguage (s : String) : Prop where
  agree : ∀ r, ofJson s = .ok r ↔ decode s = .ok r
  accepted : ∀ r, ofJson s = .ok r ↔ ∃ filters, IsRequestText s filters r.sorts ∧
    List.Forall₂ FilterCriterion.Resolves filters r.filters
  unknownOperator : ∀ n, ofJson s = .error (.unknownOperator n) ↔
    ∃ filters sorts text, IsRequestText s filters sorts ∧ FirstUnnamed filters text ∧
      n = Text.trim text
  malformed : (∃ reason, ofJson s = .error (.argument "request" reason)) ↔
    ∀ filters sorts, ¬ IsRequestText s filters sorts
  refused : ∀ e, ofJson s = .error e →
    (∃ reason, e = .argument "request" reason) ∨ ∃ n, e = .unknownOperator n

theorem ofJson_unknownOperator_iff {n : String} : ofJson s = .error (.unknownOperator n) ↔
    ∃ filters sorts text, IsRequestText s filters sorts ∧ FirstUnnamed filters text ∧
      n = Text.trim text := by
  rw [ofJson_eq_error_iff]
  constructor
  · rintro (⟨f, -, he⟩ | ⟨filters, sorts, text, hr, ht, he⟩)
    · cases he
    · exact ⟨filters, sorts, text, hr, ht, Error.unknownOperator.inj he⟩
  · rintro ⟨filters, sorts, text, hr, ht, rfl⟩
    exact .inr ⟨filters, sorts, text, hr, ht, rfl⟩

theorem ofJson_argument_iff : (∃ reason, ofJson s = .error (.argument "request" reason)) ↔
    ∀ filters sorts, ¬ IsRequestText s filters sorts := by
  simp only [ofJson_eq_error_iff]
  constructor
  · rintro ⟨reason, ⟨f, hf, -⟩ | ⟨_, _, _, _, _, he⟩⟩ filters sorts hr
    · rw [← decodeString_text_eq_ok_iff, hf] at hr
      cases hr
    · cases he
  · intro hr
    cases h : decodeString (requestDecoder decodeText).decode s with
    | error f => exact ⟨f.message, .inl ⟨f, rfl, rfl⟩⟩
    | ok read => exact absurd (decodeString_text_eq_ok_iff.mp h) (hr read.1 read.2)

theorem decoders_sameLanguage (s : String) : SameLanguage s where
  agree r := ofJson_eq_ok_iff.trans decode_eq_ok_iff.symm
  accepted r := ofJson_eq_ok_iff
  unknownOperator n := ofJson_unknownOperator_iff
  malformed := ofJson_argument_iff
  refused e he := by
    rcases ofJson_eq_error_iff.mp he with ⟨f, -, rfl⟩ | ⟨_, _, text, -, -, rfl⟩
    · exact .inl ⟨f.message, rfl⟩
    · exact .inr ⟨Text.trim text, rfl⟩

end Request

end Sift
