import Sift.Json.Request
import Sift.Proofs.Json.Record
import Sift.Proofs.Text.Key

/-!
# Which texts are requests

The trees of requests are described without a decoder: records of lists of records, whose names and
values are texts, whose directions have names, and whose operators are read in one way or another.
Both decoders accept just these trees. The one that reads operators as plain strings looks them up
afterwards, so an unknown operator is reported only where nothing else is wrong.
-/

namespace Sift

open Sift.Json

variable {ω : Type}

/-! Names -/

/-- The text is the operator's name, in any case and with blanks around it. -/
def Operator.IsNamed (op : Operator) (s : String) : Prop :=
  Text.sameAscii op.name (Text.trim s) = true

theorem Operator.trim_name (op : Operator) : Text.trim op.name = op.name := by
  cases op <;> decide +kernel

theorem Operator.ofName?_eq_some_iff {s : String} {op : Operator} :
    Operator.ofName? s = some op ↔ op.IsNamed s := by
  constructor
  · intro h
    unfold Operator.ofName? at h
    have hp := List.find?_some h
    exact hp
  · intro h
    -- the search cannot tell the text from the name itself
    have hs : (fun o : Operator => Text.sameAscii o.name (Text.trim s)) =
        fun o : Operator => Text.sameAscii o.name (Text.trim op.name) := by
      funext o
      unfold Text.sameAscii
      rw [op.trim_name, Text.sameAscii_iff.mp h]
    have hn := Operator.ofName?_name op
    unfold Operator.ofName? at hn ⊢
    rwa [hs]

theorem Operator.ofName_eq_ok_iff {s : String} {op : Operator} :
    Operator.ofName s = .ok op ↔ op.IsNamed s := by
  rw [← Operator.ofName?_eq_some_iff, Operator.ofName]
  cases Operator.ofName? s <;> simp

theorem Operator.ofName_eq_error_iff {s : String} {e : Error} :
    Operator.ofName s = .error e ↔
      (∀ op : Operator, ¬ op.IsNamed s) ∧ e = .unknownOperator (Text.trim s) := by
  simp only [← Operator.ofName?_eq_some_iff, Operator.ofName]
  cases h : Operator.ofName? s <;> simp [eq_comm]

/-- The normal forms of the names of a direction. -/
def SortDirection.names : SortDirection → List String
  | ascending => ["asc", "ascending"]
  | descending => ["desc", "descending"]

theorem SortDirection.ofName_eq_ok_iff {s : String} {d : SortDirection} :
    SortDirection.ofName s = .ok d ↔ normalKey s ∈ d.names := by
  have hd : ∀ n ∈ ascending.names, n ∉ descending.names := by decide
  unfold ofName
  generalize normalKey s = n
  cases d with
  | ascending =>
    by_cases ha : n = "asc" ∨ n = "ascending"
    · simp [ha, names]
    · rw [if_neg ha]
      have hn : n ∉ ascending.names := by simpa [names] using ha
      split <;> simp [hn]
  | descending =>
    by_cases ha : n = "asc" ∨ n = "ascending"
    · have hn : n ∉ descending.names := hd n (by simpa [names] using ha)
      simp [ha, hn]
    · rw [if_neg ha]
      by_cases hb : n = "desc" ∨ n = "descending"
      · simp [hb, names]
      · have hn : n ∉ descending.names := by simpa [names] using hb
        simp [hb, hn]

namespace Json

/-! Trees of requests -/

def IsText (d : Doc) (s : String) : Prop := d = .text s

def IsDirection (d : Doc) (direction : SortDirection) : Prop :=
  ∃ s, d = .text s ∧ normalKey s ∈ direction.names

def IsOperator (d : Doc) (op : Operator) : Prop := ∃ s, d = .text s ∧ op.IsNamed s

/-- A filter criterion, whose operator is read by `O`. -/
inductive IsFilter (O : Doc → ω → Prop) (d : Doc) : ReadFilter ω → Prop
  | intro {fields : List (String × Doc)} {field : String} {operator : ω} {value : Option String}
    (hd : Presents ["field", "operator", "value"] d fields)
    (hf : Gives IsText (valuesOf "field" fields) (some field))
    (ho : Gives O (valuesOf "operator" fields) (some operator))
    (hv : Gives IsText (valuesOf "value" fields) value) :
    IsFilter O d ⟨field, operator, value.getD ""⟩

inductive IsSort (d : Doc) : SortCriterion → Prop
  | intro {fields : List (String × Doc)} {field : String} {direction : Option SortDirection}
    (hd : Presents ["field", "direction"] d fields)
    (hf : Gives IsText (valuesOf "field" fields) (some field))
    (hs : Gives IsDirection (valuesOf "direction" fields) direction) :
    IsSort d ⟨field, direction.getD .ascending⟩

/-- A request, whose operators are read by `O`. -/
inductive IsRequest (O : Doc → ω → Prop) (d : Doc) :
    List (ReadFilter ω) → List SortCriterion → Prop
  | intro {fields : List (String × Doc)} {filters : Option (List (ReadFilter ω))}
    {sorts : Option (List SortCriterion)} (hd : Presents ["filters", "sorts"] d fields)
    (hf : Gives (Lists (IsFilter O)) (valuesOf "filters" fields) filters)
    (hs : Gives (Lists IsSort) (valuesOf "sorts" fields) sorts) :
    IsRequest O d (filters.getD []) (sorts.getD [])

/-! What the decoders accept -/

theorem decodeText_eq_ok_iff (d : Doc) (s : String) : decodeText d = .ok s ↔ IsText d s := by
  cases d <;> simp [decodeText, IsText]

theorem ofOutcome_eq_ok_iff {α : Type} {x : Except Error α} {a : α} :
    ofOutcome x = .ok a ↔ x = .ok a := by
  cases x <;> simp [ofOutcome]

theorem decodeDirection_eq_ok_iff (d : Doc) (direction : SortDirection) :
    decodeDirection d = .ok direction ↔ IsDirection d direction := by
  simp only [decodeDirection, bind_eq_ok_iff, decodeText_eq_ok_iff, ofOutcome_eq_ok_iff,
    SortDirection.ofName_eq_ok_iff]
  rfl

theorem decodeOperator_eq_ok_iff (d : Doc) (op : Operator) :
    decodeOperator d = .ok op ↔ IsOperator d op := by
  simp only [decodeOperator, bind_eq_ok_iff, decodeText_eq_ok_iff, ofOutcome_eq_ok_iff,
    Operator.ofName_eq_ok_iff]
  rfl

theorem required_bind_eq_ok_iff {α β : Type} {place : Option α} {name : String}
    {f : α → Except Fault β} {b : β} :
    required place name >>= f = .ok b ↔ ∃ a, place = some a ∧ f a = .ok b := by
  cases place <;> simp [required, bind_eq_ok_iff]

section
variable {O : Doc → ω → Prop} {operator : Decoder ω} {d : Doc} {name : String}
  {fields : List (String × Doc)}

/-! Filter criteria -/

def FilterDraft.fieldPlace : Place (FilterDraft ω) String :=
  ⟨(·.field), fun s x => { s with field := x }, fun _ _ => rfl, fun _ => rfl, fun _ _ _ => rfl⟩

def FilterDraft.operatorPlace : Place (FilterDraft ω) ω :=
  ⟨(·.operator), fun s x => { s with operator := x }, fun _ _ => rfl, fun _ => rfl,
   fun _ _ _ => rfl⟩

def FilterDraft.valuePlace : Place (FilterDraft ω) String :=
  ⟨(·.value), fun s x => { s with value := x }, fun _ _ => rfl, fun _ => rfl, fun _ _ _ => rfl⟩

/-- What the draft of a filter criterion holds after some fields. -/
def FilterDrafted (O : Doc → ω → Prop) (fields : List (String × Doc)) (s : FilterDraft ω) : Prop :=
  Gives IsText (valuesOf "field" fields) s.field ∧
    Gives O (valuesOf "operator" fields) s.operator ∧
      Gives IsText (valuesOf "value" fields) s.value

theorem filterDrafted_snoc (hO : ∀ d o, operator d = .ok o ↔ O d o)
    (hn : name ∈ (filterDecoder operator).names) : ∀ t : FilterDraft ω,
    FilterDrafted O (fields ++ [(name, d)]) t ↔
      ∃ s, FilterDrafted O fields s ∧ (filterDecoder operator).take s name d = .ok t := by
  have hcases : name = "field" ∨ name = "operator" ∨ name = "value" := by
    simpa [filterDecoder] using hn
  unfold FilterDrafted
  rcases hcases with rfl | rfl | rfl
  · rw [valuesOf_snoc_self, valuesOf_snoc_of_ne (by decide), valuesOf_snoc_of_ne (by decide)]
    apply FilterDraft.fieldPlace.filled_iff decodeText_eq_ok_iff
    exacts [fun _ => Iff.rfl, fun _ => Iff.rfl, fun _ _ => Iff.rfl]
  · rw [valuesOf_snoc_self, valuesOf_snoc_of_ne (by decide), valuesOf_snoc_of_ne (by decide)]
    apply FilterDraft.operatorPlace.filled_iff hO
    exacts [fun _ => and_left_comm, fun _ => and_left_comm, fun _ _ => Iff.rfl]
  · rw [valuesOf_snoc_self, valuesOf_snoc_of_ne (by decide), valuesOf_snoc_of_ne (by decide)]
    apply FilterDraft.valuePlace.filled_iff decodeText_eq_ok_iff
    exacts [fun _ => and_rotate.symm, fun _ => and_rotate.symm, fun _ _ => Iff.rfl]

theorem filterDrafted_nil (t : FilterDraft ω) : FilterDrafted O [] t ↔ t = {} := by
  obtain ⟨field, operator, value⟩ := t
  simp [FilterDrafted, valuesOf, gives_nil_iff]

theorem decodeFilter_eq_ok_iff (hO : ∀ d o, operator d = .ok o ↔ O d o) (d : Doc)
    (f : ReadFilter ω) : (filterDecoder operator).decode d = .ok f ↔ IsFilter O d f := by
  rw [RecordDecoder.decode_eq_ok_iff_drafted filterDrafted_nil
    fun _ _ _ t hn => filterDrafted_snoc hO hn t]
  constructor
  · rintro ⟨fields, ⟨field, operator, value⟩, hd, ⟨hf, ho, hv⟩, h⟩
    obtain ⟨field, rfl, h⟩ := required_bind_eq_ok_iff.mp h
    obtain ⟨operator, rfl, h⟩ := required_bind_eq_ok_iff.mp h
    cases h
    exact .intro hd hf ho hv
  · rintro ⟨hd, hf, ho, hv⟩
    exact ⟨_, ⟨some _, some _, _⟩, hd, ⟨hf, ho, hv⟩, rfl⟩

/-! Sort criteria -/

def SortDraft.fieldPlace : Place SortDraft String :=
  ⟨(·.field), fun s x => { s with field := x }, fun _ _ => rfl, fun _ => rfl, fun _ _ _ => rfl⟩

def SortDraft.directionPlace : Place SortDraft SortDirection :=
  ⟨(·.direction), fun s x => { s with direction := x }, fun _ _ => rfl, fun _ => rfl,
   fun _ _ _ => rfl⟩

/-- What the draft of a sort criterion holds after some fields. -/
def SortDrafted (fields : List (String × Doc)) (s : SortDraft) : Prop :=
  Gives IsText (valuesOf "field" fields) s.field ∧
    Gives IsDirection (valuesOf "direction" fields) s.direction

theorem sortDrafted_nil (t : SortDraft) : SortDrafted [] t ↔ t = {} := by
  obtain ⟨field, direction⟩ := t
  simp [SortDrafted, valuesOf, gives_nil_iff]

theorem sortDrafted_snoc (hn : name ∈ sortDecoder.names) : ∀ t : SortDraft,
    SortDrafted (fields ++ [(name, d)]) t ↔
      ∃ s, SortDrafted fields s ∧ sortDecoder.take s name d = .ok t := by
  have hcases : name = "field" ∨ name = "direction" := by simpa [sortDecoder] using hn
  unfold SortDrafted
  rcases hcases with rfl | rfl
  · rw [valuesOf_snoc_self, valuesOf_snoc_of_ne (by decide)]
    apply SortDraft.fieldPlace.filled_iff decodeText_eq_ok_iff
    exacts [fun _ => Iff.rfl, fun _ => Iff.rfl, fun _ _ => Iff.rfl]
  · rw [valuesOf_snoc_self, valuesOf_snoc_of_ne (by decide)]
    apply SortDraft.directionPlace.filled_iff decodeDirection_eq_ok_iff
    exacts [fun _ => and_comm, fun _ => and_comm, fun _ _ => Iff.rfl]

theorem decodeSort_eq_ok_iff (d : Doc) (c : SortCriterion) :
    sortDecoder.decode d = .ok c ↔ IsSort d c := by
  rw [RecordDecoder.decode_eq_ok_iff_drafted sortDrafted_nil
    fun _ _ _ t hn => sortDrafted_snoc hn t]
  constructor
  · rintro ⟨fields, ⟨field, direction⟩, hd, ⟨hf, hs⟩, h⟩
    obtain ⟨field, rfl, h⟩ := required_bind_eq_ok_iff.mp h
    cases h
    exact .intro hd hf hs
  · rintro ⟨hd, hf, hs⟩
    exact ⟨_, ⟨some _, _⟩, hd, ⟨hf, hs⟩, rfl⟩

/-! Requests -/

def RequestDraft.filtersPlace : Place (RequestDraft ω) (List (ReadFilter ω)) :=
  ⟨(·.filters), fun s x => { s with filters := x }, fun _ _ => rfl, fun _ => rfl, fun _ _ _ => rfl⟩

def RequestDraft.sortsPlace : Place (RequestDraft ω) (List SortCriterion) :=
  ⟨(·.sorts), fun s x => { s with sorts := x }, fun _ _ => rfl, fun _ => rfl, fun _ _ _ => rfl⟩

/-- What the draft of a request holds after some fields. -/
def RequestDrafted (O : Doc → ω → Prop) (fields : List (String × Doc)) (s : RequestDraft ω) :
    Prop :=
  Gives (Lists (IsFilter O)) (valuesOf "filters" fields) s.filters ∧
    Gives (Lists IsSort) (valuesOf "sorts" fields) s.sorts

theorem requestDrafted_nil (t : RequestDraft ω) : RequestDrafted O [] t ↔ t = {} := by
  obtain ⟨filters, sorts⟩ := t
  simp [RequestDrafted, valuesOf, gives_nil_iff]

theorem requestDrafted_snoc (hO : ∀ d o, operator d = .ok o ↔ O d o)
    (hn : name ∈ (requestDecoder operator).names) : ∀ t : RequestDraft ω,
    RequestDrafted O (fields ++ [(name, d)]) t ↔
      ∃ s, RequestDrafted O fields s ∧ (requestDecoder operator).take s name d = .ok t := by
  have hcases : name = "filters" ∨ name = "sorts" := by simpa [requestDecoder] using hn
  unfold RequestDrafted
  rcases hcases with rfl | rfl
  · rw [valuesOf_snoc_self, valuesOf_snoc_of_ne (by decide)]
    apply RequestDraft.filtersPlace.filled_iff
      (decodeList_eq_ok_iff (decodeFilter_eq_ok_iff hO))
    exacts [fun _ => Iff.rfl, fun _ => Iff.rfl, fun _ _ => Iff.rfl]
  · rw [valuesOf_snoc_self, valuesOf_snoc_of_ne (by decide)]
    apply RequestDraft.sortsPlace.filled_iff (decodeList_eq_ok_iff decodeSort_eq_ok_iff)
    exacts [fun _ => and_comm, fun _ => and_comm, fun _ _ => Iff.rfl]

theorem decodeRequest_eq_ok_iff (hO : ∀ d o, operator d = .ok o ↔ O d o) (d : Doc)
    (filters : List (ReadFilter ω)) (sorts : List SortCriterion) :
    (requestDecoder operator).decode d = .ok (filters, sorts) ↔ IsRequest O d filters sorts := by
  rw [RecordDecoder.decode_eq_ok_iff_drafted requestDrafted_nil
    fun _ _ _ t hn => requestDrafted_snoc hO hn t]
  constructor
  · rintro ⟨fields, ⟨filters, sorts⟩, hd, ⟨hf, hs⟩, h⟩
    cases h
    exact .intro hd hf hs
  · rintro ⟨hd, hf, hs⟩
    exact ⟨_, ⟨_, _⟩, hd, ⟨hf, hs⟩, rfl⟩

end

end Json

end Sift
