import Mathlib
import FlowEngine.Proofs.Document.Delimited
import FlowEngine.Proofs.Number.Numeral

/-!
# Values read back

A reader answers canonical values only (`readEntryValue_canonical`), and a
canonical value is read back as it was written (`readEntryValue_write`), so the
two descriptions of the syntax of values agree.
-/

namespace FlowEngine.Document

open Text (Stops stops_nil stops_cons takeWhile_span dropWhile_span)
open Cursor

/-! ## Canonical values -/

namespace Value

mutual

/-- Numbers within their range, words that can stand bare, no key twice in a map. -/
def Canonical : Value → Prop
  | int i => isInt64 i = true
  | float x => x.isFinite = true
  | ident s => isBareIdent s = true
  | list vs => CanonicalItems vs
  | map es => (es.map (·.1)).Nodup ∧ CanonicalEntries es
  | null | bool _ | string _ => True

def CanonicalItems : List Value → Prop
  | [] => True
  | v :: vs => Canonical v ∧ CanonicalItems vs

def CanonicalEntries : List (String × Value) → Prop
  | [] => True
  | (_, v) :: es => Canonical v ∧ CanonicalEntries es

end

theorem canonicalItems_iff : ∀ {vs : List Value}, CanonicalItems vs ↔ ∀ v ∈ vs, v.Canonical
  | [] => by simp [CanonicalItems]
  | v :: vs => by simp [CanonicalItems, canonicalItems_iff]

theorem canonicalEntries_iff : ∀ {es : List (String × Value)}, CanonicalEntries es ↔ ∀ e ∈ es, e.2.Canonical
  | [] => by simp [CanonicalEntries]
  | (k, v) :: es => by simp [CanonicalEntries, canonicalEntries_iff]

end Value

/-! ## What a reader of values answers -/

theorem firstRepeated?_eq_none : ∀ {seen ks : List String},
    firstRepeated? seen ks = none ↔ ks.Nodup ∧ ∀ k ∈ ks, k ∉ seen
  | seen, [] => by simp [firstRepeated?]
  | seen, k :: ks => by
    rw [firstRepeated?]
    by_cases h : k ∈ seen
    · simp [h]
    · simp only [List.contains_eq_mem, h, decide_false, Bool.false_eq_true, if_false, firstRepeated?_eq_none,
        List.nodup_cons, List.mem_cons, not_or, forall_eq_or_imp, not_false_eq_true, true_and]
      constructor
      · rintro ⟨h1, h2⟩
        exact ⟨⟨fun hk => (h2 k hk).1 rfl, h1⟩, fun j hj => (h2 j hj).2⟩
      · rintro ⟨⟨h1, h2⟩, h3⟩
        exact ⟨h2, fun j hj => ⟨fun e => h1 (e ▸ hj), h3 j hj⟩⟩

theorem readInt64?_isInt64 {cs : List Char} {i : Int} (h : readInt64? cs = some i) : isInt64 i = true := by
  unfold readInt64? at h
  simp only [Option.bind_eq_some_iff, Option.ite_none_right_eq_some] at h
  obtain ⟨n, -, hi, he⟩ := h
  cases he
  exact hi

theorem numeralValue?_canonical {cs : List Char} {v : Value} (h : numeralValue? cs = some v) : v.Canonical := by
  unfold numeralValue? at h
  simp only at h
  split at h
  · rename_i hi
    cases h
    exact readInt64?_isInt64 hi
  · simp only [Option.map_eq_some_iff, Option.filter_eq_some_iff] at h
    obtain ⟨x, ⟨-, hx⟩, rfl⟩ := h
    exact hx

theorem wordValue_canonical {w : List Char} (hw : ∀ c ∈ w, isIdentChar c = true)
    (hs : ∃ c r, w = c :: r ∧ isWordStart c = true) : (wordValue (String.ofList w)).Canonical := by
  unfold wordValue
  split
  · trivial
  split
  · trivial
  split
  · trivial
  rename_i h1 h2 h3
  refine isBareIdent_iff.mpr ⟨by rwa [String.toList_ofList], ?_, by rwa [String.toList_ofList]⟩
  simp only [reservedWords, List.mem_cons, List.not_mem_nil, or_false, not_or]
  exact ⟨h1, h2, h3⟩

theorem readMapEntry_canonical {value : Read Value} (hv : ∀ c v c', value c = .ok (v, c') → v.Canonical)
    (c : Cursor) (e : String × Value) (c' : Cursor) (h : readMapEntry value c = .ok (e, c')) : e.2.Canonical := by
  obtain ⟨⟨k, c1⟩, -, h⟩ := bind_eq_ok.mp h
  simp only at h
  split at h
  · obtain ⟨⟨v, c2⟩, hv2, h⟩ := bind_eq_ok.mp h
    cases h
    exact hv _ _ _ hv2
  · cases h

theorem readValue_canonical : ∀ (fuel : Nat) (c : Cursor) (v : Value) (c' : Cursor),
    readValue fuel c = .ok (v, c') → v.Canonical
  | 0, _, _, _, h => by cases h
  | fuel + 1, c, v, c', h => by
    have ih := readValue_canonical fuel
    rw [readValue] at h
    split at h
    · cases h
    · obtain ⟨⟨s, c1⟩, -, he⟩ := map_eq_ok.mp h; cases he; trivial
    · obtain ⟨⟨s, c1⟩, -, he⟩ := map_eq_ok.mp h; cases he; trivial
    · obtain ⟨⟨s, c1⟩, -, he⟩ := map_eq_ok.mp h; cases he; trivial
    · obtain ⟨⟨vs, c1⟩, hvs, he⟩ := map_eq_ok.mp h
      cases he
      exact Value.canonicalItems_iff.mpr (readItems_all ih hvs)
    · obtain ⟨⟨es, c1⟩, hes, he⟩ := bind_eq_ok.mp h
      simp only at he
      split at he
      · cases he
      · rename_i hk
        cases he
        exact ⟨(firstRepeated?_eq_none.mp hk).1,
          Value.canonicalEntries_iff.mpr (readItems_all (readMapEntry_canonical ih) hes)⟩
    · rename_i ch r _ _ _ _ _ hr
      split at h
      · simp only [readNumber] at h
        split at h
        · rename_i hn
          cases h
          exact numeralValue?_canonical hn
        · cases h
      split at h
      · rename_i hw
        cases h
        refine wordValue_canonical (fun c hc => List.mem_takeWhile_imp hc) ⟨ch, r.takeWhile isIdentChar, ?_, hw⟩
        rw [hr, List.takeWhile_cons_of_pos (isIdentChar_of_isWordStart hw)]
      split at h
      · cases h
      · cases h

theorem readMoreValues_canonical : ∀ (fuel : Nat) (c : Cursor) (vs : List Value) (c' : Cursor),
    readMoreValues fuel c = .ok (vs, c') → ∀ v ∈ vs, v.Canonical
  | 0, _, _, _, h => by cases h; simp
  | fuel + 1, c, vs, c', h => by
    rw [readMoreValues] at h
    split at h
    · obtain ⟨⟨v, c1⟩, hv, h⟩ := bind_eq_ok.mp h
      obtain ⟨⟨ws, c2⟩, hws, h⟩ := bind_eq_ok.mp h
      cases h
      intro w hw
      rcases List.mem_cons.mp hw with rfl | hw
      · exact readValue_canonical _ _ _ _ hv
      · exact readMoreValues_canonical fuel _ _ _ hws w hw
    · cases h; simp

theorem readEntryValue_canonical {c c' : Cursor} {v : Value} (h : readEntryValue c = .ok (v, c')) :
    v.Canonical := by
  obtain ⟨⟨w, c1⟩, hw, h⟩ := bind_eq_ok.mp h
  obtain ⟨⟨ws, c2⟩, hws, h⟩ := bind_eq_ok.mp h
  cases h
  have hw := readValue_canonical _ _ _ _ hw
  split
  · exact hw
  · exact Value.canonicalItems_iff.mpr
      (List.forall_mem_cons.mpr ⟨hw, readMoreValues_canonical _ _ _ _ hws⟩)

/-! ## Words and numerals as they are written -/

theorem stops_isIdentChar {r : List Char} (h : Stops isInner r) : Stops isIdentChar r :=
  stops_mono (fun c hc => by simp [isInner, hc]) h

theorem readValue_bare (fuel : Nat) {c : Char} (hc : c ∉ ['"', '\'', '[', '{']) (r : List Char) (line : Nat) :
    readValue (fuel + 1) ⟨c :: r, line⟩
      = if startsNumeral c then readNumber ⟨c :: r, line⟩
        else if isWordStart c then
          .ok (wordValue (readWord ⟨c :: r, line⟩).1, (readWord ⟨c :: r, line⟩).2)
        else if c = '\n' then Cursor.fail ⟨c :: r, line⟩ .missingValue
        else Cursor.fail ⟨c :: r, line⟩ (.valueExpected c) := by
  simp only [List.mem_cons, List.not_mem_nil, or_false, not_or] at hc
  rw [readValue.eq_def]
  simp only
  split
  · rename_i he; cases he
  · rename_i he; exact absurd (List.cons.inj he).1 hc.1
  · rename_i he; exact absurd (List.cons.inj he).1 hc.1
  · rename_i he; exact absurd (List.cons.inj he).1 hc.2.1
  · rename_i he; exact absurd (List.cons.inj he).1 hc.2.2.1
  · rename_i he; exact absurd (List.cons.inj he).1 hc.2.2.2
  · rename_i he
    rw [(List.cons.inj he).1]

theorem not_startsNumeral_of_isWordStart {c : Char} (h : isWordStart c = true) : ¬startsNumeral c = true := by
  intro hn
  simp only [startsNumeral, isWordStart, Bool.or_eq_true, beq_iff_eq] at hn h
  rcases hn with (rfl | rfl) | hn
  · exact absurd h (by decide)
  · exact absurd h (by decide)
  rcases h with h | rfl
  · simp only [Char.isDigit, Char.isAlpha, Char.isUpper, Char.isLower, Bool.or_eq_true, Bool.and_eq_true,
      decide_eq_true_eq, UInt32.le_iff_toNat_le] at hn h
    have h1 : '9'.val.toNat = 57 := rfl
    have h2 : 'A'.val.toNat = 65 := rfl
    have h3 : 'a'.val.toNat = 97 := rfl
    omega
  · exact absurd hn (by decide)

theorem readValue_word {w : List Char} {v : Value} (hw : ∀ c ∈ w, isIdentChar c = true)
    (hs : ∃ c r, w = c :: r ∧ isWordStart c = true) (hv : wordValue (String.ofList w) = v) (fuel : Nat)
    {r : List Char} (hr : Stops isInner r) (line : Nat) :
    readValue (fuel + 1) ⟨w ++ r, line⟩ = .ok (v, ⟨r, line⟩) := by
  have ht := takeWhile_span hw (stops_isIdentChar hr)
  have hd := dropWhile_span hw (stops_isIdentChar hr)
  obtain ⟨c, w', rfl, hc⟩ := hs
  have hbare : c ∉ ['"', '\'', '[', '{'] := by
    intro hm
    fin_cases hm <;> exact absurd hc (by decide)
  rw [List.cons_append] at ht hd ⊢
  rw [readValue_bare fuel hbare, if_neg (not_startsNumeral_of_isWordStart hc), if_pos hc, readWord, ht, hd]
  simp only [hv, Cursor.moveTo]

theorem readValue_numeral {w : List Char} {v : Value} (hw : ∀ c ∈ w, isNumeralChar c = true)
    (hs : ∃ c r, w = c :: r ∧ startsNumeral c = true) (hv : numeralValue? w = some v) (fuel : Nat)
    {r : List Char} (hr : Stops isInner r) (line : Nat) :
    readValue (fuel + 1) ⟨w ++ r, line⟩ = .ok (v, ⟨r, line⟩) := by
  have hr' : Stops isNumeralChar r := stops_mono (fun c hc => by simp [isInner, hc]) hr
  have ht := takeWhile_span hw hr'
  have hd := dropWhile_span hw hr'
  obtain ⟨c, w', rfl, hc⟩ := hs
  have hbare : c ∉ ['"', '\'', '[', '{'] := by
    intro hm
    fin_cases hm <;> exact absurd hc (by decide)
  rw [List.cons_append] at ht hd ⊢
  simp only [readValue_bare fuel hbare, if_pos hc, readNumber, ht, hd, hv, Cursor.moveTo]

/-- A quoted string is read as one of a single line, since no quote comes after it. -/
theorem readValue_quote (s : String) (fuel : Nat) {r : List Char} (hr : Stops isInner r) (line : Nat) :
    readValue (fuel + 1) ⟨quote s ++ r, line⟩ = .ok (.string s, ⟨r, line⟩) := by
  rw [quote_append, readValue.eq_def]
  simp only
  split
  · rename_i he; cases he
  · rename_i r' he
    have he := (List.cons.inj he).2
    cases hs : s.toList with
    | nil =>
      rw [hs] at he
      cases r with
      | nil => cases he
      | cons c r =>
        cases he
        exact absurd (stops_cons.mp hr) (by decide)
    | cons c cs =>
      rw [hs, List.flatMap_cons, List.append_assoc] at he
      exact absurd (by rw [he]; rfl) (quoteChar_ne_quote c (cs.flatMap quoteChar ++ '"' :: r))
  · rename_i he
    cases he
    rw [readQuoted_quoted]
    rfl
  · rename_i he; cases he
  · rename_i he; cases he
  · rename_i he; cases he
  · rename_i h _ _ _ he
    cases he
    exact absurd rfl h

/-! ## Numerals -/

theorem isNumeralChar_of_mark {c : Char} (h : c.isDigit = true ∨ c = '.' ∨ c = 'e' ∨ c = '-' ∨ c = '+') :
    isNumeralChar c = true ∧ c ≠ '_' := by
  rcases h with h | rfl | rfl | rfl | rfl
  · refine ⟨by simp [isNumeralChar, Char.isAlphanum, h], ?_⟩
    rintro rfl
    exact absurd h (by decide)
  · decide
  · decide
  · decide
  · decide

theorem isOuter_of_startsNumeral {c : Char} (h : startsNumeral c = true) : isOuter c = false := by
  rw [isOuter, decide_eq_false_iff_not]
  intro hc
  fin_cases hc <;> exact absurd h (by decide)

/-- A numeral as it is written: its characters, its first one and its value. -/
structure IsNumeral (w : List Char) (v : Value) : Prop where
  chars : ∀ c ∈ w, isNumeralChar c = true
  head : ∃ c r, w = c :: r ∧ startsNumeral c = true
  value : numeralValue? w = some v

theorem filter_underscore {w : List Char} (h : ∀ c ∈ w, isNumeralChar c = true ∧ c ≠ '_') :
    w.filter (· != '_') = w :=
  List.filter_eq_self.mpr fun c hc => by simpa using (h c hc).2

theorem isNumeral_int {i : Int} (h : isInt64 i = true) : IsNumeral (toString i).toList (.int i) := by
  have hchars : ∀ c ∈ (toString i).toList, isNumeralChar c = true ∧ c ≠ '_' := by
    intro c hc
    rw [toList_toString_int] at hc
    split at hc
    · rcases List.mem_cons.mp hc with rfl | hc
      · exact isNumeralChar_of_mark (by simp)
      · exact isNumeralChar_of_mark (.inl (allDigits_toDigits _ c hc))
    · exact isNumeralChar_of_mark (.inl (allDigits_toDigits _ c hc))
  refine ⟨fun c hc => (hchars c hc).1, ?_, ?_⟩
  · rw [toList_toString_int]
    split
    · exact ⟨'-', _, rfl, by decide⟩
    · obtain ⟨c, r, hcr⟩ := List.exists_cons_of_ne_nil (Nat.toDigits_ne_nil (b := 10) (n := i.natAbs))
      refine ⟨c, r, hcr, ?_⟩
      have hd := allDigits_toDigits i.natAbs c (by rw [hcr]; simp)
      simp [startsNumeral, hd]
  · simp only [numeralValue?, filter_underscore hchars, readInt64?_toString h]

theorem isNumeral_float (l : NumberLayout) {x : Binary64} (h : x.isFinite = true) :
    IsNumeral (l.write x).toList (.float x) := by
  obtain ⟨sign, body, hw, hs, hf, hread⟩ := l.write_finite h
  have hchars : ∀ c ∈ sign ++ body, isNumeralChar c = true ∧ c ≠ '_' := by
    intro c hc
    rcases List.mem_append.mp hc with hc | hc
    · rcases hs with rfl | rfl
      · cases hc
      · rw [List.mem_singleton.mp hc]
        exact isNumeralChar_of_mark (by simp)
    · exact isNumeralChar_of_mark (hf.chars c hc)
  rw [hw]
  refine ⟨fun c hc => (hchars c hc).1, ?_, ?_⟩
  · rcases hs with rfl | rfl
    · obtain ⟨c, r, hcr, hd⟩ := hf.head
      exact ⟨c, r, hcr, by simp [startsNumeral, hd]⟩
    · exact ⟨'-', body, rfl, by decide⟩
  · simp only [numeralValue?, filter_underscore hchars, NumberLayout.readInt64?_fraction hs hf, hread,
      Option.filter_some, h, if_true, Option.map_some]

/-! ## Values as they are written -/

namespace Value

def writeEntry (e : String × Value) : List Char := writeKey e.1 ++ ' ' :: '=' :: ' ' :: e.2.write

theorem writeItems_eq : ∀ vs : List Value, writeItems vs = writeMore write [']'] vs
  | [] => rfl
  | v :: vs => by rw [writeItems, writeItems_eq vs]; rfl

theorem writeEntries_eq : ∀ es : List (String × Value), writeEntries es = writeMore writeEntry [' ', '}'] es
  | [] => rfl
  | (k, v) :: es => by
    rw [writeEntries, writeEntries_eq es]
    simp only [writeMore, writeEntry, List.append_assoc, List.cons_append]

theorem write_list (v : Value) (vs : List Value) :
    (list (v :: vs)).write = '[' :: (v.write ++ writeMore write [']'] vs) := by
  rw [write, writeItems_eq]

theorem write_map (e : String × Value) (es : List (String × Value)) :
    (map (e :: es)).write = '{' :: ' ' :: (writeEntry e ++ writeMore writeEntry [' ', '}'] es) := by
  obtain ⟨k, v⟩ := e
  rw [write, writeEntries_eq]
  simp only [writeEntry, List.append_assoc, List.cons_append]

theorem starts_write : ∀ {v : Value}, v.Canonical → Starts v.write
  | null, _ => .of_ident (by decide) _
  | bool true, _ => .of_ident (by decide) _
  | bool false, _ => .of_ident (by decide) _
  | int i, h => by
    obtain ⟨c, r, hw, hc⟩ := (isNumeral_int h).head
    exact ⟨c, r, hw, isOuter_of_startsNumeral hc⟩
  | float x, h => by
    obtain ⟨c, r, hw, hc⟩ := (isNumeral_float .document h).head
    exact ⟨c, r, hw, isOuter_of_startsNumeral hc⟩
  | string s, _ => starts_quote s
  | ident s, h => by
    obtain ⟨⟨c, r, hs, hc⟩, -, -⟩ := isBareIdent_iff.mp h
    exact ⟨c, r, hs, isOuter_false_of_isIdentChar (isIdentChar_of_isWordStart hc)⟩
  | list [], _ => ⟨'[', _, rfl, by decide⟩
  | list (_ :: _), _ => ⟨'[', _, rfl, by decide⟩
  | map [], _ => ⟨'{', _, rfl, by decide⟩
  | map ((_, _) :: _), _ => ⟨'{', _, rfl, by decide⟩

theorem starts_writeEntry (e : String × Value) : Starts (writeEntry e) := (starts_writeKey e.1).append _

end Value

theorem wordValue_ident {s : String} (h : s ∉ reservedWords) : wordValue s = .ident s := by
  simp only [reservedWords, List.mem_cons, List.not_mem_nil, or_false, not_or] at h
  rw [wordValue, if_neg h.1, if_neg h.2.1, if_neg h.2.2]

theorem reads_reserved {s : String} {v : Value} (hs : s ∈ reservedWords) (hv : wordValue s = v) (fuel : Nat)
    (r : List Char) (line : Nat) (hr : Stops isInner r) :
    readValue (fuel + 1) ⟨s.toList ++ r, line⟩ = .ok (v, ⟨r, line⟩) := by
  have hword : (∀ c ∈ s.toList, isIdentChar c = true) ∧ ∃ c w, s.toList = c :: w ∧ isWordStart c = true := by
    simp only [reservedWords, List.mem_cons, List.not_mem_nil, or_false] at hs
    rcases hs with rfl | rfl | rfl
    · exact ⟨by simp [isIdentChar], 't', _, by simp; rfl, by decide⟩
    · exact ⟨by simp [isIdentChar], 'f', _, by simp; rfl, by decide⟩
    · exact ⟨by simp [isIdentChar], 'n', _, by simp; rfl, by decide⟩
  exact readValue_word hword.1 hword.2 (by rwa [String.ofList_toList]) fuel hr line

theorem reads_entry {value : Read Value} {e : String × Value} (hs : Starts e.2.write)
    (h : Reads value Value.write e.2) : Reads (readMapEntry value) Value.writeEntry e := by
  intro r line hr
  obtain ⟨k, v⟩ := e
  have hkey : Stops isKeyChar (' ' :: '=' :: ' ' :: (v.write ++ r)) := stops_cons.mpr (by decide)
  have hv := h r line hr
  have hblank := skipInline_starts (hs.append r) line
  simp only at hv hblank
  rw [readMapEntry, Value.writeEntry, List.append_assoc]
  simp only [List.cons_append, readKey_writeKey k hkey line, ok_bind, skipInline_blank]
  rw [skipInline_of_stops (stops_cons.mpr (by decide))]
  simp only [Cursor.moveTo, skipInline_blank, hblank, hv, ok_bind]

mutual

theorem readValue_write : ∀ (v : Value), v.Canonical → ∀ (fuel : Nat), v.write.length ≤ fuel →
    Reads (readValue (fuel + 1)) Value.write v
  | .null, _, fuel, _ => reads_reserved (s := "null") (by simp [reservedWords]) rfl fuel
  | .bool true, _, fuel, _ => reads_reserved (s := "true") (by simp [reservedWords]) rfl fuel
  | .bool false, _, fuel, _ => reads_reserved (s := "false") (by simp [reservedWords]) rfl fuel
  | .int i, h, fuel, _ => fun r line hr =>
    have hn := isNumeral_int h
    readValue_numeral hn.chars hn.head hn.value fuel hr line
  | .float x, h, fuel, _ => fun r line hr =>
    have hn := isNumeral_float .document h
    readValue_numeral hn.chars hn.head hn.value fuel hr line
  | .string s, _, fuel, _ => fun r line hr => readValue_quote s fuel hr line
  | .ident s, h, fuel, _ => fun r line hr => by
    obtain ⟨hs, hres, hall⟩ := isBareIdent_iff.mp h
    exact readValue_word hall hs (by rw [String.ofList_toList, wordValue_ident hres]) fuel hr line
  | .list [], _, fuel, _ => fun r line _ => by
    rw [readValue.eq_def]
    rfl
  | .list (v :: vs), h, 0, hf => by rw [Value.write_list] at hf; cases hf
  | .list (v :: vs), h, fuel + 1, hf => fun r line _ => by
    have hall := Value.canonicalItems_iff.mp h
    rw [Value.write_list] at hf ⊢
    have hread := readItems_write (v :: vs) h fuel fun w hw => by
      simp only [List.length_cons, List.length_append] at hf
      rcases List.mem_cons.mp hw with rfl | hw
      · omega
      · have := length_item_le_writeMore Value.write [']'] hw
        omega
    have hrow := readDelimited_written .bracket '[' (.inl rfl) v vs
      (fun w hw => ⟨Value.starts_write (hall w hw), hread w hw⟩) r line
    rw [readValue.eq_def]
    simp only [List.cons_append, List.append_assoc, List.nil_append] at hrow ⊢
    rw [hrow]
    rfl
  | .map [], _, fuel, _ => fun r line _ => by
    rw [readValue.eq_def]
    rfl
  | .map (e :: es), h, 0, hf => by rw [Value.write_map] at hf; cases hf
  | .map (e :: es), h, fuel + 1, hf => fun r line _ => by
    have hall := Value.canonicalEntries_iff.mp h.2
    rw [Value.write_map] at hf ⊢
    have hread := readEntries_write (e :: es) h.2 fuel fun w hw => by
      simp only [List.length_cons, List.length_append] at hf
      have hlen : w.2.write.length ≤ (Value.writeEntry w).length := by
        simp only [Value.writeEntry, List.length_append, List.length_cons]
        omega
      rcases List.mem_cons.mp hw with rfl | hw
      · omega
      · have := length_item_le_writeMore Value.writeEntry [' ', '}'] hw
        omega
    have hrow := readDelimited_written .brace '{' (.inr rfl) e es
      (fun w hw => ⟨Value.starts_writeEntry w, reads_entry (Value.starts_write (hall w hw)) (hread w hw)⟩) r line
    have hdistinct : firstRepeated? [] ((e :: es).map (·.1)) = none :=
      firstRepeated?_eq_none.mpr ⟨h.1, by simp⟩
    rw [readValue.eq_def]
    simp only [List.cons_append, List.append_assoc, List.nil_append] at hrow ⊢
    simp only [hrow, ok_bind, hdistinct]

theorem readItems_write : ∀ (vs : List Value), Value.CanonicalItems vs → ∀ (fuel : Nat),
    (∀ v ∈ vs, v.write.length ≤ fuel) → ∀ v ∈ vs, Reads (readValue (fuel + 1)) Value.write v
  | [], _, _, _ => by simp
  | v :: vs, h, fuel, hf =>
    List.forall_mem_cons.mpr ⟨readValue_write v h.1 fuel (hf v (by simp)),
      readItems_write vs h.2 fuel fun w hw => hf w (List.mem_cons_of_mem _ hw)⟩

theorem readEntries_write : ∀ (es : List (String × Value)), Value.CanonicalEntries es → ∀ (fuel : Nat),
    (∀ e ∈ es, e.2.write.length ≤ fuel) → ∀ e ∈ es, Reads (readValue (fuel + 1)) Value.write e.2
  | [], _, _, _ => by simp
  | (k, v) :: es, h, fuel, hf =>
    List.forall_mem_cons.mpr ⟨readValue_write v h.1 fuel (hf (k, v) (by simp)),
      readEntries_write es h.2 fuel fun w hw => hf w (List.mem_cons_of_mem _ hw)⟩

end

theorem readEntryValue_write {v : Value} (h : v.Canonical) (r : List Char) (line : Nat) :
    readEntryValue ⟨v.write ++ '\n' :: r, line⟩ = .ok (v, ⟨'\n' :: r, line⟩) := by
  have hfuel : v.write.length ≤ (v.write ++ '\n' :: r).length := by
    rw [List.length_append]
    omega
  have hv := readValue_write v h _ hfuel ('\n' :: r) line (stops_cons.mpr (by decide))
  rw [readEntryValue]
  simp only [hv, ok_bind]
  rw [skipInline_of_stops (stops_cons.mpr (by decide)), List.length_cons, readMoreValues]
  rfl

end FlowEngine.Document
