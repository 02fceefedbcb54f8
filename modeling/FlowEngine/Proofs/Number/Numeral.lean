import Mathlib
import FlowEngine.Number.Layout
import FlowEngine.Proofs.Number.Rounding
import FlowEngine.Proofs.Text.Span

/-!
# Numbers read back from their text

Every layout writes a finite number as a numeral that reads back as the same
number (`write_finite`), and no such numeral is an integer. Integers of
64 bits read back as well (`readInt64?_toString`).
-/

namespace FlowEngine

open Text (Stops takeWhile_span dropWhile_span)

/-! ## Digits -/

theorem digitsValue_eq (ds : List Char) : digitsValue ds = Nat.ofDigitChars 10 ds 0 :=
  Nat.ofDigitChars_eq_foldl.symm

theorem digitsValue_toDigits (n : Nat) : digitsValue (Nat.toDigits 10 n) = n := by
  rw [digitsValue_eq, Nat.ofDigitChars_ten_toDigits]

theorem digitsValue_append_zeros (ds : List Char) (k : Nat) :
    digitsValue (ds ++ List.replicate k '0') = digitsValue ds * 10 ^ k := by
  rw [digitsValue_eq, digitsValue_eq, Nat.ofDigitChars_append, Nat.ofDigitChars_replicate_zero, Nat.mul_comm]

theorem digitsValue_zeros_append (ds : List Char) (k : Nat) :
    digitsValue (List.replicate k '0' ++ ds) = digitsValue ds := by
  rw [digitsValue_eq, digitsValue_eq, Nat.ofDigitChars_append, Nat.ofDigitChars_replicate_zero, Nat.mul_zero]

def AllDigits (ds : List Char) : Prop := ∀ c ∈ ds, c.isDigit = true

theorem allDigits_toDigits (n : Nat) : AllDigits (Nat.toDigits 10 n) := fun _ h =>
  Nat.isDigit_of_mem_toDigits (by decide) (by decide) h

theorem allDigits_zeros (k : Nat) : AllDigits (List.replicate k '0') := fun c h => by
  rw [List.eq_of_mem_replicate h]; rfl

theorem AllDigits.append {as bs : List Char} (ha : AllDigits as) (hb : AllDigits bs) : AllDigits (as ++ bs) :=
  fun c h => (List.mem_append.mp h).elim (ha c) (hb c)

theorem AllDigits.sublist {as bs : List Char} (hb : AllDigits bs) (h : as.Sublist bs) : AllDigits as :=
  fun c hc => hb c (h.subset hc)

theorem readDigits?_of_allDigits {ds : List Char} (hd : AllDigits ds) (hne : ds ≠ []) :
    readDigits? ds = some (digitsValue ds) := by
  unfold readDigits?
  rw [if_pos]
  simp [hne, List.all_eq_true.mpr hd]

theorem readDigits?_toDigits (n : Nat) : readDigits? (Nat.toDigits 10 n) = some n := by
  rw [readDigits?_of_allDigits (allDigits_toDigits n) Nat.toDigits_ne_nil, digitsValue_toDigits]

theorem splitSign_digits {ds : List Char} (hd : AllDigits ds) : splitSign ds = (false, ds) := by
  unfold splitSign
  split
  · exact absurd (hd '-' (by simp)) (by decide)
  · exact absurd (hd '+' (by simp)) (by decide)
  · rfl

/-! ## Integers -/

theorem toList_toString_int (i : Int) :
    (toString i).toList = if i < 0 then '-' :: Nat.toDigits 10 i.natAbs else Nat.toDigits 10 i.natAbs := by
  cases i with
  | ofNat n =>
    rw [if_neg (by simp)]
    exact Nat.toList_repr
  | negSucc n =>
    rw [if_pos (Int.negSucc_lt_zero n)]
    show ("-" ++ Nat.repr (n + 1)).toList = _
    rw [String.toList_append, Nat.toList_repr]
    rfl

theorem readInt64?_of_digits {cs ds : List Char} {b : Bool} {n : Nat} {i : Int} (hs : splitSign cs = (b, ds))
    (hn : readDigits? ds = some n) (hi : (if b then -(n : Int) else n) = i) (h : isInt64 i = true) :
    readInt64? cs = some i := by
  unfold readInt64?
  rw [hs]
  simp only [hn, Option.bind_some, hi, if_pos h]

theorem readInt64?_toString {i : Int} (h : isInt64 i = true) : readInt64? (toString i).toList = some i := by
  rw [toList_toString_int]
  split
  · exact readInt64?_of_digits (b := true) rfl (readDigits?_toDigits _) (by rw [if_pos rfl]; omega) h
  · have hb : ¬(false = true) := Bool.false_ne_true
    exact readInt64?_of_digits (splitSign_digits (allDigits_toDigits _)) (readDigits?_toDigits _)
      (by rw [if_neg hb]; omega) h

/-! ## Decimals -/

namespace NumberLayout

def exponentText (plusSign : Bool) (leading : Int) : List Char :=
  'e' :: ((if leading < 0 then ['-'] else if plusSign then ['+'] else []) ++ Nat.toDigits 10 leading.natAbs)

theorem readExponent?_of_digits {cs ds : List Char} {b : Bool} {n : Nat} {e : Int} (hs : splitSign cs = (b, ds))
    (hn : readDigits? ds = some n) (he : (if b then -(n : Int) else n) = e) :
    Decimal.readExponent? ('e' :: cs) = some e := by
  unfold Decimal.readExponent?
  simp only [true_or, if_true, hs, hn, ← he]
  rfl

theorem readExponent?_text (plusSign : Bool) (leading : Int) :
    Decimal.readExponent? (exponentText plusSign leading) = some leading := by
  have hd := readDigits?_toDigits leading.natAbs
  have hf : ¬(false = true) := Bool.false_ne_true
  unfold exponentText
  by_cases hl : leading < 0
  · rw [if_pos hl]
    exact readExponent?_of_digits (b := true) rfl hd (by rw [if_pos rfl]; omega)
  · rw [if_neg hl]
    cases plusSign with
    | true => exact readExponent?_of_digits (b := false) rfl hd (by rw [if_neg hf]; omega)
    | false =>
      exact readExponent?_of_digits (splitSign_digits (allDigits_toDigits _)) hd (by rw [if_neg hf]; omega)

theorem stops_exponentText (plusSign : Bool) (leading : Int) :
    Stops Char.isDigit (exponentText plusSign leading) := by simp [exponentText]

theorem readUnsigned?_point (b : Bool) {ws fs es : List Char} {e : Int} (hw : AllDigits ws) (hne : ws ≠ [])
    (hf : AllDigits fs) (hs : Stops Char.isDigit es) (he : Decimal.readExponent? es = some e) :
    Decimal.readUnsigned? b (ws ++ '.' :: (fs ++ es)) = some ⟨b, digitsValue (ws ++ fs), e - fs.length⟩ := by
  have hp : Stops Char.isDigit ('.' :: (fs ++ es)) := by simp
  have hn : ¬((ws.isEmpty && fs.isEmpty) = true) := by simp [hne]
  simp only [Decimal.readUnsigned?, takeWhile_span hw hp, dropWhile_span hw hp, takeWhile_span hf hs,
    dropWhile_span hf hs, if_neg hn, he, Option.map_some]

theorem readUnsigned?_whole (b : Bool) {ws es : List Char} {e : Int} (hw : AllDigits ws) (hne : ws ≠ [])
    (he : Decimal.readExponent? ('e' :: es) = some e) :
    Decimal.readUnsigned? b (ws ++ 'e' :: es) = some ⟨b, digitsValue ws, e⟩ := by
  have hs : Stops Char.isDigit ('e' :: es) := by simp
  simp [Decimal.readUnsigned?, takeWhile_span hw hs, dropWhile_span hw hs, hne, he]

/-- What the text of a positive decimal looks like: it starts with a digit, holds a
point or an exponent, and has nothing but digits besides. -/
structure IsFraction (cs : List Char) : Prop where
  head : ∃ c r, cs = c :: r ∧ c.isDigit = true
  chars : ∀ c ∈ cs, c.isDigit = true ∨ c = '.' ∨ c = 'e' ∨ c = '-' ∨ c = '+'
  mark : ∃ c ∈ cs, c.isDigit = false

theorem isFraction_point {ws fs es : List Char} (hw : AllDigits ws) (hne : ws ≠ []) (hf : AllDigits fs)
    (he : ∀ c ∈ es, c.isDigit = true ∨ c = 'e' ∨ c = '-' ∨ c = '+') :
    IsFraction (ws ++ '.' :: (fs ++ es)) where
  head := by
    obtain ⟨c, r, rfl⟩ := List.exists_cons_of_ne_nil hne
    exact ⟨c, _, rfl, hw c (by simp)⟩
  chars := fun c hc => by
    simp only [List.mem_append, List.mem_cons] at hc
    rcases hc with h | h | h | h
    · exact .inl (hw c h)
    · exact .inr (.inl h)
    · exact .inl (hf c h)
    · rcases he c h with h | h
      · exact .inl h
      · exact .inr (.inr h)
  mark := ⟨'.', by simp, by decide⟩

theorem mem_exponentText (plusSign : Bool) (leading : Int) {c : Char} (h : c ∈ exponentText plusSign leading) :
    c.isDigit = true ∨ c = 'e' ∨ c = '-' ∨ c = '+' := by
  simp only [exponentText, List.mem_cons, List.mem_append] at h
  rcases h with h | h | h
  · exact .inr (.inl h)
  · split at h
    · exact .inr (.inr (.inl (by simpa using h)))
    · split at h
      · exact .inr (.inr (.inr (by simpa using h)))
      · cases h
  · exact .inl (allDigits_toDigits _ c h)

/-- A text of the digits `ds` that reads back as a decimal of the same number. -/
structure Restores (b : Bool) (ds : List Char) (exponent : Int) (cs : List Char) : Prop where
  fraction : IsFraction cs
  value : ∃ j : Nat, Decimal.readUnsigned? b cs = some ⟨b, digitsValue ds * 10 ^ j, exponent - j⟩

section
variable {ds : List Char} (hds : AllDigits ds) (hne : ds ≠ [])
include hds hne

theorem restores_whole (b : Bool) (k : Nat) : Restores b ds k (ds ++ List.replicate k '0' ++ ['.', '0']) := by
  have h0 : AllDigits ['0'] := allDigits_zeros 1
  have hw : AllDigits (ds ++ List.replicate k '0') := hds.append (allDigits_zeros k)
  have hw0 : ds ++ List.replicate k '0' ≠ [] := by simp [hne]
  have hz : ['0'] = List.replicate 1 '0' := rfl
  refine ⟨isFraction_point hw hw0 h0 (by simp), k + 1, ?_⟩
  refine (readUnsigned?_point b hw hw0 h0 Text.stops_nil rfl).trans ?_
  rw [hz, digitsValue_append_zeros, digitsValue_append_zeros, Nat.mul_assoc, ← Nat.pow_add]
  simp only [List.length_replicate, Option.some.injEq, Decimal.mk.injEq, true_and]
  omega

omit hne in
theorem restores_among (b : Bool) {k : Nat} (h0 : 0 < k) (hk : k ≤ ds.length) :
    Restores b ds (k - ds.length) (ds.take k ++ '.' :: ds.drop k) := by
  have ht : AllDigits (ds.take k) := hds.sublist (List.take_sublist ..)
  have hr : AllDigits (ds.drop k) := hds.sublist (List.drop_sublist ..)
  have ht0 : ds.take k ≠ [] := by
    rw [← List.length_pos_iff, List.length_take]
    omega
  rw [← List.append_nil (ds.drop k)]
  refine ⟨isFraction_point ht ht0 hr (by simp), 0, ?_⟩
  rw [readUnsigned?_point b ht ht0 hr Text.stops_nil rfl, List.take_append_drop, List.length_drop]
  simp only [Option.some.injEq, Decimal.mk.injEq, true_and, Nat.pow_zero, Nat.mul_one]
  omega

omit hne in
theorem restores_behind (b : Bool) (k : Nat) :
    Restores b ds (-(k + ds.length : Nat)) ('0' :: '.' :: (List.replicate k '0' ++ ds)) := by
  have h0 : AllDigits ['0'] := allDigits_zeros 1
  have hf : AllDigits (List.replicate k '0' ++ ds) := (allDigits_zeros k).append hds
  have hz : ['0'] ++ (List.replicate k '0' ++ ds) = List.replicate (1 + k) '0' ++ ds := by
    rw [List.replicate_add]
    rfl
  rw [← List.append_nil (List.replicate k '0' ++ ds)]
  refine ⟨isFraction_point h0 (by simp) hf (by simp), 0, ?_⟩
  refine (readUnsigned?_point b h0 (by simp) hf Text.stops_nil rfl).trans ?_
  rw [hz, digitsValue_zeros_append, List.length_append, List.length_replicate]
  simp only [Option.some.injEq, Decimal.mk.injEq, true_and, Nat.pow_zero, Nat.mul_one]
  omega

theorem restores_positional (b : Bool) (exponent : Int) : Restores b ds exponent (positional ds exponent) := by
  unfold positional
  dsimp only
  split
  · rename_i hx
    have h := restores_whole hds hne b exponent.toNat
    rwa [Int.toNat_of_nonneg hx] at h
  split
  · rename_i hx hn
    have h := restores_among hds b (k := ((ds.length : Int) + exponent).toNat) (by omega) (by omega)
    have he : (((ds.length : Int) + exponent).toNat : Int) - ds.length = exponent := by omega
    rwa [he] at h
  · rename_i hx hn
    have h := restores_behind hds b (-((ds.length : Int) + exponent)).toNat
    have he : (-(((-((ds.length : Int) + exponent)).toNat + ds.length : Nat) : Int)) = exponent := by omega
    rwa [he] at h

theorem isFraction_whole (plusSign : Bool) (leading : Int) : IsFraction (ds ++ exponentText plusSign leading) where
  head := by
    obtain ⟨c, r, rfl⟩ := List.exists_cons_of_ne_nil hne
    exact ⟨c, _, rfl, hds c (by simp)⟩
  chars := by
    intro c hc
    rcases List.mem_append.mp hc with h | h
    · exact .inl (hds c h)
    · rcases mem_exponentText plusSign leading h with h | h
      · exact .inl h
      · exact .inr (.inr h)
  mark := ⟨'e', by simp [exponentText], by decide⟩

theorem restores_scientific (b plusSign : Bool) (exponent : Int) :
    Restores b ds exponent (scientific plusSign ds (exponent + ds.length - 1)) := by
  have he := readExponent?_text plusSign (exponent + ds.length - 1)
  have hs := stops_exponentText plusSign (exponent + ds.length - 1)
  unfold scientific
  dsimp only
  by_cases h1 : ds.length ≤ 1
  · rw [if_pos h1, List.append_nil, List.take_of_length_le h1]
    have hlen : 0 < ds.length := List.length_pos_iff.mpr hne
    refine ⟨isFraction_whole hds hne plusSign _, 0, ?_⟩
    refine (readUnsigned?_whole b hds hne he).trans ?_
    simp only [Option.some.injEq, Decimal.mk.injEq, true_and, Nat.pow_zero, Nat.mul_one]
    omega
  · have ht : AllDigits (ds.take 1) := hds.sublist (List.take_sublist ..)
    have ht0 : ds.take 1 ≠ [] := by simp [hne]
    have hr : AllDigits (ds.drop 1) := hds.sublist (List.drop_sublist ..)
    rw [if_neg h1, List.append_assoc, List.cons_append]
    refine ⟨isFraction_point ht ht0 hr fun c => mem_exponentText plusSign _, 0, ?_⟩
    refine (readUnsigned?_point b ht ht0 hr hs he).trans ?_
    rw [List.take_append_drop, List.length_drop]
    simp only [Option.some.injEq, Decimal.mk.injEq, true_and, Nat.pow_zero, Nat.mul_one]
    omega

end

theorem restores_decimal (l : NumberLayout) (b : Bool) (d : Decimal) :
    Restores b (Nat.toDigits 10 d.coefficient) d.exponent (l.decimal d) := by
  have hds := allDigits_toDigits d.coefficient
  have hlen := Nat.length_toDigits_pos (b := 10) (n := d.coefficient)
  have hne : Nat.toDigits 10 d.coefficient ≠ [] := List.ne_nil_of_length_pos hlen
  unfold decimal
  dsimp only
  split
  · exact restores_positional hds hne b d.exponent
  · exact restores_scientific hds hne b l.plusSign d.exponent

theorem readUnsigned?_decimal (l : NumberLayout) (b : Bool) (d : Decimal) :
    IsFraction (l.decimal d) ∧ ∃ j : Nat,
      Decimal.readUnsigned? b (l.decimal d) = some ⟨b, d.coefficient * 10 ^ j, d.exponent - j⟩ := by
  obtain ⟨hfraction, j, hj⟩ := restores_decimal l b d
  rw [digitsValue_toDigits] at hj
  exact ⟨hfraction, j, hj⟩

/-! ## Floating-point numbers -/

theorem toLower_of_isDigit {c : Char} (h : c.isDigit = true) : c.toLower = c := by
  unfold Char.toLower
  rw [dif_neg]
  simp only [Char.isDigit, Bool.and_eq_true, decide_eq_true_eq] at h
  rintro ⟨h1, _⟩
  exact absurd (UInt32.le_trans h1 h.2) (by decide)

theorem ofList_lower_ne {cs : List Char} {c : Char} {r : List Char} {s : String} (hc : cs = c :: r)
    (hd : c.isDigit = true) (hs : Stops Char.isDigit s.toList) :
    String.ofList (cs.map Char.toLower) ≠ s := by
  subst hc
  intro he
  have hl : s.toList = c :: r.map Char.toLower := by
    rw [← he, String.toList_ofList, List.map_cons, toLower_of_isDigit hd]
  have := hs c (by rw [hl]; rfl)
  rw [hd] at this
  cases this

theorem splitSign_fraction {body : List Char} (h : IsFraction body) : splitSign body = (false, body) := by
  obtain ⟨c, r, rfl, hc⟩ := h.head
  unfold splitSign
  split
  · rename_i he; cases he; exact absurd hc (by decide)
  · rename_i he; cases he; exact absurd hc (by decide)
  · rfl

theorem readBinary64?_fraction {cs body : List Char} {b : Bool} {d : Decimal} (hs : splitSign cs = (b, body))
    (hf : IsFraction body) (hd : Decimal.readUnsigned? b body = some d) : readBinary64? cs = some d.toBinary64 := by
  obtain ⟨c, r, hc, hdig⟩ := hf.head
  unfold readBinary64?
  rw [hs]
  have h1 := ofList_lower_ne hc hdig (s := "inf") (by simp)
  have h2 := ofList_lower_ne hc hdig (s := "infinity") (by simp)
  have h3 := ofList_lower_ne hc hdig (s := "nan") (by simp)
  simp only [h1, h2, h3, or_self, if_false, hd, Option.map_some]

theorem write_finite (l : NumberLayout) {x : Binary64} (h : x.isFinite = true) :
    ∃ sign body, (l.write x).toList = sign ++ body ∧ (sign = [] ∨ sign = ['-']) ∧ IsFraction body ∧
      readBinary64? (sign ++ body) = some x := by
  cases x with
  | nan => cases h
  | signed b r =>
    simp only [Binary64.isFinite, decide_eq_true_eq] at h
    have hne : r.val ≠ Binary64.infinityRank := Nat.ne_of_lt h
    have hbody : ∃ body d, (l.write (.signed b r)).toList = (if b then ['-'] else []) ++ body ∧ IsFraction body ∧
        Decimal.readUnsigned? b body = some d ∧ d.toBinary64 = .signed b r := by
      by_cases h0 : r.val = 0
      · refine ⟨"0.0".toList, ⟨b, 0, -1⟩, ?_, ?_, by rfl, ?_⟩
        · simp only [write, if_neg hne, if_pos h0, String.toList_ofList]
          cases b <;> rfl
        · exact ⟨⟨'0', _, rfl, rfl⟩, by simp, '.', by simp, rfl⟩
        · have hr : r = 0 := Fin.ext h0
          rw [hr]; rfl
      · have hpos := Nat.pos_of_ne_zero h0
        obtain ⟨hf, j, hj⟩ := readUnsigned?_decimal l b (Decimal.shortest l.tie r.val)
        refine ⟨_, _, ?_, hf, hj, ?_⟩
        · simp only [write, if_neg hne, if_neg h0, String.toList_ofList]
          cases b <;> rfl
        · rw [Decimal.toBinary64_shift]
          exact Decimal.shortest_toBinary64 l.tie hpos h b
    obtain ⟨body, d, hw, hf, hd, hv⟩ := hbody
    refine ⟨_, body, hw, by cases b <;> simp, hf, ?_⟩
    rw [← hv]
    cases b with
    | true => exact readBinary64?_fraction rfl hf hd
    | false => exact readBinary64?_fraction (splitSign_fraction hf) hf hd

theorem readInt64?_fraction {sign body : List Char} (hs : sign = [] ∨ sign = ['-']) (hf : IsFraction body) :
    readInt64? (sign ++ body) = none := by
  have hsplit : ∃ b, splitSign (sign ++ body) = (b, body) := by
    rcases hs with rfl | rfl
    · exact ⟨false, splitSign_fraction hf⟩
    · exact ⟨true, rfl⟩
  obtain ⟨b, hb⟩ := hsplit
  have hn : readDigits? body = none := by
    obtain ⟨c, hc, hd⟩ := hf.mark
    unfold readDigits?
    rw [if_neg]
    simp only [Bool.and_eq_true, List.all_eq_true, not_and]
    intro _ hall
    rw [hall c hc] at hd
    cases hd
  unfold readInt64?
  rw [hb]
  simp only [hn, Option.bind_none]

end NumberLayout

end FlowEngine
