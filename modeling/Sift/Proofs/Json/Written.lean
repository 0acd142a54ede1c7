import Mathlib.Data.List.Forall2
import Sift.Json.Reader
import Sift.Json.Written

/-!
# Reading undoes writing

The text of a tree is read back as that tree, whatever follows it. A string is read piece by piece:
each character is written as one piece, and no piece is a surrogate.
-/

namespace Sift.Json

/-! Strings -/

/-- The piece stands for the character, and not for half of it. -/
inductive Spells : Piece → Char → Prop
  | char (c : Char) : Spells (.char c) c
  | unit {c : Char} (h : c.toNat < 32) : Spells (.unit c.toNat) c

theorem readPieces_escape {e c : Char} (he : escape? e = some c) (r : List Char) :
    readPieces ('\\' :: e :: r) = (readPieces r).map fun (ps, r) => (.char c :: ps, r) := by
  have hu : e ≠ 'u' := by
    rintro rfl
    cases he
  rw [readPieces, he]
  · rfl
  · exact fun _ _ _ _ _ h => absurd h hu

theorem readPieces_unit {a b c d : Char} {n : Nat} (hn : unit? a b c d = some n) (r : List Char) :
    readPieces ('\\' :: 'u' :: a :: b :: c :: d :: r) =
      (readPieces r).map fun (ps, r) => (.unit n :: ps, r) := by
  rw [readPieces, hn]
  rfl

theorem readPieces_char {c : Char} (hq : c ≠ '"') (hb : c ≠ '\\') (hc : ¬ c.toNat < 32)
    (r : List Char) :
    readPieces (c :: r) = (readPieces r).map fun (ps, r) => (.char c :: ps, r) := by
  rw [readPieces, if_neg hc]
  · exact hq
  · exact fun _ _ _ _ _ h => absurd h hb
  · exact fun _ _ h => absurd h hb

/-- The three ways of writing a character. -/
theorem escapedChar_cases (c : Char) :
    (∃ e, escape? e = some c ∧ escapedChar c = ['\\', e]) ∨
    (c.toNat < 32 ∧ escapedChar c =
      ['\\', 'u', '0', '0', (c.toNat / 16).digitChar, (c.toNat % 16).digitChar]) ∨
    c ≠ '"' ∧ c ≠ '\\' ∧ ¬ c.toNat < 32 ∧ escapedChar c = [c] := by
  have hnat {n : Nat} (h : c.toNat = n) : c = Char.ofNat n := by rw [← h, Char.ofNat_toNat]
  by_cases hq : c = '"' ∨ c = '\\'
  · rcases hq with rfl | rfl
    · exact .inl ⟨'"', rfl, rfl⟩
    · exact .inl ⟨'\\', rfl, rfl⟩
  obtain ⟨hquote, hslash⟩ := not_or.mp hq
  by_cases hb : c.toNat = 8
  · obtain rfl := hnat hb
    exact .inl ⟨'b', rfl, rfl⟩
  by_cases ht : c = '\t'
  · subst ht
    exact .inl ⟨'t', rfl, rfl⟩
  by_cases hn : c = '\n'
  · subst hn
    exact .inl ⟨'n', rfl, rfl⟩
  by_cases hf : c.toNat = 12
  · obtain rfl := hnat hf
    exact .inl ⟨'f', rfl, rfl⟩
  by_cases hr : c = '\r'
  · subst hr
    exact .inl ⟨'r', rfl, rfl⟩
  by_cases hc : c.toNat < 32
  · exact .inr (.inl ⟨hc, by simp [escapedChar, hquote, hslash, hb, ht, hn, hf, hr, hc]⟩)
  · refine .inr (.inr ⟨hquote, hslash, hc, ?_⟩)
    simp [escapedChar, hquote, hslash, hb, ht, hn, hf, hr, hc]

theorem unit?_digitChar : ∀ n < 32,
    unit? '0' '0' (n / 16).digitChar (n % 16).digitChar = some n := by
  decide

/-- A character is read as one piece, whatever follows. -/
theorem exists_readPieces_escapedChar (c : Char) : ∃ p, Spells p c ∧
    ∀ r, readPieces (escapedChar c ++ r) = (readPieces r).map fun (ps, r) => (p :: ps, r) := by
  rcases escapedChar_cases c with ⟨e, he, hw⟩ | ⟨hc, hw⟩ | ⟨hq, hb, hc, hw⟩
  · rw [hw]
    exact ⟨.char c, .char c, readPieces_escape he⟩
  · rw [hw]
    exact ⟨.unit c.toNat, .unit hc, readPieces_unit (unit?_digitChar c.toNat hc)⟩
  · rw [hw]
    exact ⟨.char c, .char c, readPieces_char hq hb hc⟩

theorem exists_readPieces_flatMap (cs : List Char) : ∃ ps, List.Forall₂ Spells ps cs ∧
    ∀ r, readPieces (cs.flatMap escapedChar ++ '"' :: r) = some (ps, r) := by
  induction cs with
  | nil => exact ⟨[], .nil, fun r => rfl⟩
  | cons c cs ih =>
    obtain ⟨p, hp, hread⟩ := exists_readPieces_escapedChar c
    obtain ⟨ps, hps, hrest⟩ := ih
    refine ⟨p :: ps, .cons hp hps, fun r => ?_⟩
    rw [List.flatMap_cons, List.append_assoc, hread, hrest]
    rfl

/-- A unit below the surrogates is a character of its own. -/
theorem assemble_unit {n : Nat} (hn : n < 0xd800) (ps : List Piece) :
    assemble (.unit n :: ps) = (assemble ps).map (Char.ofNat n :: ·) := by
  have hh : isHighSurrogate n = false := by
    simp only [isHighSurrogate, Bool.and_eq_false_iff, decide_eq_false_iff_not]
    omega
  have hl : isLowSurrogate n = false := by
    simp only [isLowSurrogate, Bool.and_eq_false_iff, decide_eq_false_iff_not]
    omega
  -- the reader looks at the next piece for the other half of a pair
  cases ps with
  | nil => simp [assemble, hh, hl]
  | cons p ps => cases p <;> simp [assemble, hh, hl]

theorem assemble_of_spells {ps : List Piece} {cs : List Char} (h : List.Forall₂ Spells ps cs) :
    assemble ps = some cs := by
  induction h with
  | nil => rfl
  | cons hp _ ih =>
    cases hp with
    | char c => rw [assemble, ih, Option.map_some]
    | unit hc =>
      rw [assemble_unit (by omega), ih, Option.map_some, Char.ofNat_toNat]

theorem readText_flatMap (s : String) (r : List Char) :
    readText (s.toList.flatMap escapedChar ++ '"' :: r) = some (some s, r) := by
  obtain ⟨ps, hps, hread⟩ := exists_readPieces_flatMap s.toList
  simp only [readText, hread, Option.map_some, assemble_of_spells hps, String.ofList_toList]

/-! Trees -/

theorem skipSpace_cons {c : Char} (h : isSpace c = false) (cs : List Char) :
    skipSpace (c :: cs) = c :: cs := by
  simp [skipSpace, h]

namespace Doc

/-- The text of the tree is read back, whatever follows it. There are two steps for each
character: one that takes it, and one that goes down to it. -/
structure ReadsBack (d : Doc) : Prop where
  whole : d.isWhole = true
  opens : ∃ c cs, d.chars = c :: cs ∧ isSpace c = false ∧ c ≠ ']'
  step : ∀ fuel r, 2 * d.chars.length ≤ fuel + 1 → readValue (fuel + 1) (d.chars ++ r) = (d, r)

theorem ReadsBack.readValue {d : Doc} (hd : ReadsBack d) {fuel : Nat}
    (hf : 2 * d.chars.length ≤ fuel) (r : List Char) : readValue fuel (d.chars ++ r) = (d, r) := by
  obtain ⟨c, cs, hw, -⟩ := hd.opens
  cases fuel with
  | zero =>
    rw [hw, List.length_cons] at hf
    omega
  | succ fuel => exact hd.step fuel r hf

theorem readsBack_null : ReadsBack null where
  whole := rfl
  opens := ⟨'n', _, rfl, by decide, by decide⟩
  step fuel r _ := rfl

theorem readsBack_boolean (b : Bool) : ReadsBack (boolean b) where
  whole := rfl
  opens := by
    cases b
    · exact ⟨'f', _, rfl, by decide, by decide⟩
    · exact ⟨'t', _, rfl, by decide, by decide⟩
  step fuel r _ := by cases b <;> rfl

theorem readsBack_text (s : String) : ReadsBack (text s) where
  whole := rfl
  opens := ⟨'"', _, rfl, by decide, by decide⟩
  step fuel r _ := by
    have hw : (text s).chars ++ r = '"' :: (s.toList.flatMap escapedChar ++ '"' :: r) := by
      simp [chars, writtenText]
    rw [hw, Doc.readValue, skipSpace_cons (by decide)]
    simp only [readText_flatMap]

/-! Arrays -/

/-- An item is read, and then what stands behind it decides. -/
theorem ReadsBack.readItems_cons {d : Doc} (hd : ReadsBack d) {fuel : Nat}
    (hf : 2 * d.chars.length ≤ fuel) (r : List Char) :
    readItems (fuel + 1) (d.chars ++ r) = match skipSpace r with
      | ',' :: r => let (ds, closed, r) := readItems fuel r
        (d :: ds, closed, r)
      | ']' :: r => ([d], true, r)
      | r => ([d], false, r) := by
  rw [readItems, hd.readValue hf r]
  simp only [hd.whole]
  rfl

theorem readItems_written {ds : List Doc} (hds : ∀ d ∈ ds, ReadsBack d) (hne : ds ≠ [])
    {fuel : Nat} (hf : 2 * (withCommas (itemChars ds)).length < fuel) (r : List Char) :
    readItems fuel (withCommas (itemChars ds) ++ ']' :: r) = (ds, true, r) := by
  induction ds generalizing fuel with
  | nil => contradiction
  | cons d ds ih =>
    obtain ⟨fuel, rfl⟩ : ∃ n, fuel = n + 1 := Nat.exists_eq_add_one.mpr (by omega)
    obtain ⟨hd, hds⟩ := List.forall_mem_cons.mp hds
    -- there is no comma behind the last item
    cases ds with
    | nil =>
      have hw : withCommas (itemChars [d]) = d.chars := rfl
      rw [hw] at hf ⊢
      rw [hd.readItems_cons (by omega), skipSpace_cons (by decide)]
      rfl
    | cons e es =>
      have hw : withCommas (itemChars (d :: e :: es)) =
          d.chars ++ ',' :: withCommas (itemChars (e :: es)) := rfl
      rw [hw] at hf ⊢
      simp only [List.length_append, List.length_cons] at hf
      have hread := ih hds (by simp) (by omega : _ < fuel)
      rw [List.append_assoc, List.cons_append, hd.readItems_cons (by omega),
        skipSpace_cons (by decide)]
      simp only [hread]

/-- The first item does not look like the end of the array. -/
theorem ReadsBack.withCommas_opens {d : Doc} (hd : ReadsBack d) (ds : List Doc) :
    ∃ c cs, withCommas (itemChars (d :: ds)) = c :: cs ∧ isSpace c = false ∧ c ≠ ']' := by
  obtain ⟨c, cs, hw, hs, hc⟩ := hd.opens
  cases ds with
  | nil => exact ⟨c, cs, hw, hs, hc⟩
  | cons e es =>
    refine ⟨c, cs ++ ',' :: withCommas (itemChars (e :: es)), ?_, hs, hc⟩
    change d.chars ++ ',' :: withCommas (itemChars (e :: es)) = _
    rw [hw, List.cons_append]

theorem readsBack_list {ds : List Doc} (hds : ∀ d ∈ ds, ReadsBack d) : ReadsBack (list ds) where
  whole := rfl
  opens := ⟨'[', _, rfl, by decide, by decide⟩
  step fuel r hf := by
    have hw : (list ds).chars ++ r = '[' :: (withCommas (itemChars ds) ++ ']' :: r) := by
      simp [list, chars]
    have hl : (list ds).chars.length = (withCommas (itemChars ds)).length + 2 := by
      simp [list, chars]
    rw [hw, readValue, skipSpace_cons (by decide)]
    cases ds with
    | nil => rfl
    | cons d ds =>
      have hread := readItems_written hds (by simp) (by omega : _ < fuel) r
      obtain ⟨c, cs, he, hs, hc⟩ := (hds d (by simp)).withCommas_opens ds
      rw [he, List.cons_append] at hread ⊢
      simp only [skipSpace_cons hs]
      split
      · rename_i h
        exact absurd (List.cons.inj h).1 hc
      · rw [hread]
        rfl

/-! Objects -/

/-- Members as an object has them. -/
def named (ms : List (String × Doc)) : List (Option String × Doc) :=
  ms.map fun (name, d) => (some name, d)

/-- A member is read, and then what stands behind it decides. -/
theorem ReadsBack.readMembers_cons {d : Doc} (hd : ReadsBack d) (name : String) {fuel : Nat}
    (hf : 2 * d.chars.length ≤ fuel) (r : List Char) :
    readMembers (fuel + 1) (writtenText name ++ ':' :: d.chars ++ r) =
      match skipSpace r with
      | ',' :: r => let (ms, closed, r) := readMembers fuel r
        ((some name, d) :: ms, closed, r)
      | '\x7d' :: r => ([(some name, d)], true, r)
      | r => ([(some name, d)], false, r) := by
  have hw : writtenText name ++ ':' :: d.chars ++ r =
      '"' :: (name.toList.flatMap escapedChar ++ '"' :: ':' :: (d.chars ++ r)) := by
    simp [writtenText]
  have hcolon : skipSpace (':' :: (d.chars ++ r)) = ':' :: (d.chars ++ r) :=
    skipSpace_cons (by decide) _
  rw [hw, readMembers, skipSpace_cons (by decide)]
  simp only [readText_flatMap, hcolon, hd.readValue hf r, hd.whole]
  rfl

theorem readMembers_written {ms : List (String × Doc)} (hms : ∀ m ∈ ms, ReadsBack m.2)
    (hne : ms ≠ []) {fuel : Nat} (hf : 2 * (withCommas (memberChars (named ms))).length < fuel)
    (r : List Char) :
    readMembers fuel (withCommas (memberChars (named ms)) ++ '\x7d' :: r) =
      (named ms, true, r) := by
  induction ms generalizing fuel with
  | nil => contradiction
  | cons m ms ih =>
    obtain ⟨name, d⟩ := m
    obtain ⟨fuel, rfl⟩ : ∃ n, fuel = n + 1 := Nat.exists_eq_add_one.mpr (by omega)
    have hd : ReadsBack d := hms (name, d) List.mem_cons_self
    have hms : ∀ m ∈ ms, ReadsBack m.2 := fun m hm => hms m (List.mem_cons_of_mem _ hm)
    cases ms with
    | nil =>
      have hw : withCommas (memberChars (named [(name, d)])) = writtenText name ++ ':' :: d.chars :=
        rfl
      rw [hw] at hf ⊢
      simp only [List.length_cons, List.length_append] at hf
      rw [hd.readMembers_cons name (by omega), skipSpace_cons (by decide)]
      rfl
    | cons m' ms =>
      have hw : withCommas (memberChars (named ((name, d) :: m' :: ms))) =
          (writtenText name ++ ':' :: d.chars) ++
            ',' :: withCommas (memberChars (named (m' :: ms))) := rfl
      rw [hw] at hf ⊢
      simp only [List.length_cons, List.length_append] at hf
      have hread := ih hms (by simp) (by omega : _ < fuel)
      rw [List.append_assoc, List.cons_append, hd.readMembers_cons name (by omega),
        skipSpace_cons (by decide)]
      simp only [hread]
      rfl

theorem readsBack_record {ms : List (String × Doc)} (hms : ∀ m ∈ ms, ReadsBack m.2) :
    ReadsBack (record ms) where
  whole := rfl
  opens := ⟨'\x7b', _, rfl, by decide, by decide⟩
  step fuel r hf := by
    have hw : (record ms).chars ++ r =
        '\x7b' :: (withCommas (memberChars (named ms)) ++ '\x7d' :: r) := by
      simp [record, named, chars]
    have hl : (record ms).chars.length = (withCommas (memberChars (named ms))).length + 2 := by
      simp [record, named, chars]
    rw [hw, readValue, skipSpace_cons (by decide)]
    cases ms with
    | nil => rfl
    | cons m ms =>
      have hread := readMembers_written hms (by simp) (by omega : _ < fuel) r
      obtain ⟨cs, he⟩ : ∃ cs, withCommas (memberChars (named (m :: ms))) = '"' :: cs := by
        cases ms <;> exact ⟨_, rfl⟩
      rw [he, List.cons_append] at hread ⊢
      have hopen : skipSpace ('"' :: (cs ++ '\x7d' :: r)) = '"' :: (cs ++ '\x7d' :: r) :=
        skipSpace_cons (by decide) _
      simp only [hopen]
      split
      · rename_i h
        cases (List.cons.inj h).1
      · rw [hread]
        rfl

/-- A tree of texts, without numbers, in which everything is closed. -/
inductive Plain : Doc → Prop
  | null : Plain null
  | boolean (b : Bool) : Plain (boolean b)
  | text (s : String) : Plain (text s)
  | list {ds : List Doc} (h : ∀ d ∈ ds, Plain d) : Plain (list ds)
  | record {ms : List (String × Doc)} (h : ∀ m ∈ ms, Plain m.2) : Plain (record ms)

theorem Plain.readsBack {d : Doc} (h : Plain d) : ReadsBack d := by
  induction h with
  | null => exact readsBack_null
  | boolean b => exact readsBack_boolean b
  | text s => exact readsBack_text s
  | list _ ih => exact readsBack_list ih
  | record _ ih => exact readsBack_record ih

theorem Plain.ofString_written {d : Doc} (h : Plain d) : ofString d.written = (d, true) := by
  have hf : 2 * d.chars.length ≤ 2 * d.written.length + 2 := by
    rw [written, String.length_ofList]
    omega
  have hread := h.readsBack.readValue hf []
  rw [List.append_nil] at hread
  rw [ofString, written, String.toList_ofList]
  rw [written] at hread
  simp only [hread]
  rfl

end Doc

end Sift.Json
