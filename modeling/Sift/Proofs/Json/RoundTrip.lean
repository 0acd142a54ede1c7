import Sift.Json.Config
import Sift.Proofs.Json.Request.Decoders
import Sift.Proofs.Json.Written

/-!
# Requests and configurations survive being written

Their trees are plain, so that reading gives them back, and each decoder accepts them as what they
were made from. The names that are written are among those that are read.
-/

namespace Sift

open Sift.Json

namespace Json

/-- A record of known names presents its own fields. -/
theorem Presents.record {names : List String} {fields : List (String × Doc)}
    (h : ∀ f ∈ fields, f.1 ∈ names) : Presents names (.record fields) fields := by
  apply Presents.object
  induction fields with
  | nil => exact .nil
  | cons f fields ih =>
    obtain ⟨name, d⟩ := f
    obtain ⟨hn, hf⟩ := List.forall_mem_cons.mp h
    exact .known hn (ih hf)

theorem lists_map {α β : Type} {P : Doc → β → Prop} {f : α → Doc} {g : α → β}
    (h : ∀ a, P (f a) (g a)) (as : List α) : Lists P (.list (as.map f)) (as.map g) := by
  refine ⟨as.map f, rfl, ?_⟩
  rw [List.forall₂_map_left_iff, List.forall₂_map_right_iff, List.forall₂_same]
  exact fun a _ => h a

theorem plain_list_map {α : Type} {f : α → Doc} (h : ∀ a, (f a).Plain) (as : List α) :
    (Doc.list (as.map f)).Plain := by
  apply Doc.Plain.list
  rw [List.forall_mem_map]
  exact fun a _ => h a

theorem decodeString_written {α : Type} {decoder : Decoder α} {d : Doc} (hd : d.Plain) {a : α}
    (ha : decoder d = .ok a) : decodeString decoder d.written = .ok a :=
  decodeString_eq_ok_iff.mpr ⟨d, hd.ofString_written, ha⟩

end Json

/-! Requests -/

/-- A criterion as it is read, before its operator is looked up. -/
def FilterCriterion.toRead (c : FilterCriterion) : ReadFilter String :=
  ⟨c.field, c.operator.name, c.value⟩

theorem FilterCriterion.isFilter_toDoc (c : FilterCriterion) :
    IsFilter IsText c.toDoc c.toRead := by
  have hd : Presents ["field", "operator", "value"] c.toDoc
      [("field", .text c.field), ("operator", .text c.operator.name), ("value", .text c.value)] :=
    .record (by simp)
  have hf : Gives IsText [.text c.field] (some c.field) := .given rfl
  have ho : Gives IsText [.text c.operator.name] (some c.operator.name) := .given rfl
  have hv : Gives IsText [.text c.value] (some c.value) := .given rfl
  exact .intro hd hf ho hv

theorem FilterCriterion.resolves_toRead (c : FilterCriterion) : Resolves c.toRead c :=
  ⟨rfl, Operator.ofName?_eq_some_iff.mp c.operator.ofName?_name, rfl⟩

theorem SortCriterion.isSort_toDoc (c : SortCriterion) : IsSort c.toDoc c := by
  have hd : Presents ["field", "direction"] c.toDoc
      [("field", .text c.field), ("direction", .text c.direction.name)] := .record (by simp)
  have hf : Gives IsText [.text c.field] (some c.field) := .given rfl
  have hn : normalKey c.direction.name ∈ c.direction.names :=
    SortDirection.ofName_eq_ok_iff.mp c.direction.ofName_name
  have hs : Gives IsDirection [.text c.direction.name] (some c.direction) := .given ⟨_, rfl, hn⟩
  exact .intro hd hf hs

theorem Request.isRequest_toDoc (r : Request) :
    IsRequest IsText r.toDoc (r.filters.map (·.toRead)) r.sorts := by
  have hd : Presents ["filters", "sorts"] r.toDoc
      [("filters", .list (r.filters.map (·.toDoc))), ("sorts", .list (r.sorts.map (·.toDoc)))] :=
    .record (by simp)
  have hf := lists_map FilterCriterion.isFilter_toDoc r.filters
  have hs := lists_map SortCriterion.isSort_toDoc r.sorts
  rw [List.map_id'] at hs
  exact .intro hd (.given hf) (.given hs)

theorem Request.plain_toDoc (r : Request) : r.toDoc.Plain := by
  have hf (c : FilterCriterion) : c.toDoc.Plain := .record (by simp [Doc.Plain.text])
  have hs (c : SortCriterion) : c.toDoc.Plain := .record (by simp [Doc.Plain.text])
  apply Doc.Plain.record
  simp [plain_list_map hf, plain_list_map hs]

/-- A written request is the text of that request. -/
theorem Request.isRequestText_toJson (r : Request) :
    IsRequestText r.toJson (r.filters.map (·.toRead)) r.sorts ∧
      List.Forall₂ FilterCriterion.Resolves (r.filters.map (·.toRead)) r.filters := by
  refine ⟨⟨r.toDoc, r.plain_toDoc.ofString_written, r.isRequest_toDoc⟩, ?_⟩
  rw [List.forall₂_map_left_iff, List.forall₂_same]
  exact fun c _ => c.resolves_toRead

theorem Request.ofJson_toJson (r : Request) : Request.ofJson r.toJson = .ok r :=
  Request.ofJson_eq_ok_iff.mpr ⟨_, r.isRequestText_toJson⟩

theorem Request.decode_toJson (r : Request) : Request.decode r.toJson = .ok r :=
  Request.decode_eq_ok_iff.mpr ⟨_, r.isRequestText_toJson⟩

/-! Configurations -/

theorem UnknownFieldPolicy.lookup_name (p : UnknownFieldPolicy) :
    UnknownFieldPolicy.names.lookup p.name = some p := by
  cases p <;> rfl

theorem TextMatching.lookup_name (m : TextMatching) :
    TextMatching.names.lookup m.name = some m := by
  cases m <;> rfl

theorem EmptyValuePolicy.lookup_name (p : EmptyValuePolicy) :
    EmptyValuePolicy.names.lookup p.name = some p := by
  cases p <;> rfl

theorem Json.decodeVariant_text {α : Type} {variants : List (String × α)} {name : String} {a : α}
    (h : variants.lookup name = some a) : decodeVariant variants (.text name) = .ok a := by
  simp only [decodeVariant, decodeVariant.find, h]

theorem Json.decodeChar_singleton (c : Char) : decodeChar (.text (.singleton c)) = .ok c := by
  simp only [decodeChar, String.toList_singleton]

theorem Config.plain_toDoc (c : Config) : c.toDoc.Plain := by
  apply Doc.Plain.record
  simp [Doc.Plain.text]

theorem Config.decode_toDoc (c : Config) : configDecoder.decode c.toDoc = .ok c := by
  have hu := decodeVariant_text c.unknownField.lookup_name
  have ht := decodeVariant_text c.textMatching.lookup_name
  have hl := decodeChar_singleton c.listSeparator
  have he := decodeVariant_text c.emptyValue.lookup_name
  refine RecordDecoder.decode_eq_ok_iff.mpr
    ⟨_, ⟨some _, some _, some _, some _⟩, .record ?_, ?_, rfl⟩
  · simp [configDecoder]
  · simp [RecordDecoder.takeAll, configDecoder, fill, hu, ht, hl, he, bind, Except.bind, Except.map]

theorem Config.ofJson_toJson (c : Config) : Config.ofJson c.toJson = .ok c := by
  rw [Config.ofJson, Config.toJson, decodeString_written c.plain_toDoc c.decode_toDoc]

/-- Whatever is written is read back: requests by both decoders, and configurations. -/
theorem read_toJson :
    (∀ r : Request, Request.ofJson r.toJson = .ok r ∧ Request.decode r.toJson = .ok r) ∧
      ∀ c : Config, Config.ofJson c.toJson = .ok c :=
  ⟨fun r => ⟨r.ofJson_toJson, r.decode_toJson⟩, Config.ofJson_toJson⟩

end Sift
