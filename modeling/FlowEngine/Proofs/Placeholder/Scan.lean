import Mathlib
import FlowEngine.Placeholder.Scan
import FlowEngine.Proofs.Placeholder.Braces
import FlowEngine.Proofs.Placeholder.Verbatim
import FlowEngine.Proofs.Text.Bytes

/-!
# The scan for placeholders

The scan goes over bytes, and may stop within a character where a backslash in quotes
takes a byte along. What it finds stands between braces all the same (`placed_spans`),
and braces are characters of their own, so its offsets are where characters meet. It
finds what a scan over characters does (`spans_bytes`), and the slices at its offsets
make the text that the pieces make (`resolveSlices_eq`).
-/

namespace FlowEngine

open Template (Span IsQuote byteLength pieces source)
open Text (bytes)

namespace Scan

/-! ## Where spans stand -/

/-- Two opening braces stand at an offset. -/
def OpensAt (bs : List UInt8) (k : Nat) : Prop := bs[k]? = some '{'.toUInt8 ∧ bs[k + 1]? = some '{'.toUInt8

/-- Two closing braces stand at an offset. -/
def ClosesAt (bs : List UInt8) (k : Nat) : Prop := bs[k]? = some '}'.toUInt8 ∧ bs[k + 1]? = some '}'.toUInt8

/-- Spans stand one behind the other from an offset on, each from the first two opening
braces there to two closing braces. -/
inductive Placed (bs : List UInt8) : Nat → List Span → Prop
  | nil {last : Nat} : Placed bs last []
  | cons {last : Nat} {s : Span} {ss : List Span} (order : last ≤ s.start) (size : s.start + 4 ≤ s.stop)
      (opens : OpensAt bs s.start) (closes : ClosesAt bs (s.stop - 2))
      (first : ∀ k, last ≤ k → k < s.start → ¬OpensAt bs k) (rest : Placed bs s.stop ss) : Placed bs last (s :: ss)

/-- Among the bytes from `j` on, closing braces end at `stop` and `rest` stands behind them. -/
def Closes (j : Nat) (bs : List UInt8) (stop : Nat) (rest : List UInt8) : Prop :=
  ∃ inner, bs = inner ++ '}'.toUInt8 :: '}'.toUInt8 :: rest ∧ stop = j + inner.length + 2

theorem Closes.cons {j stop : Nat} {bs rest : List UInt8} (h : Closes (j + 1) bs stop rest) (b : UInt8) :
    Closes j (b :: bs) stop rest := by
  obtain ⟨inner, rfl, rfl⟩ := h
  refine ⟨b :: inner, rfl, ?_⟩
  rw [List.length_cons]
  omega

theorem closing?_closes {q : Option UInt8} {j stop : Nat} {bs rest : List UInt8}
    (h : closing? q j bs = some (stop, rest)) : Closes j bs stop rest := by
  fun_induction closing? q j bs with
  | case1 => cases h
  | case2 j b bs ih => exact (ih h).cons _
  | case3 => cases h
  | case4 q j hq b bs ih => exact ((ih h).cons _).cons _
  | case5 q j b bs hq hb ih => exact (ih h).cons _
  | case6 j b bs hq ih => exact (ih h).cons _
  | case7 j b bs hq hc =>
    obtain ⟨rfl, hd⟩ := hc
    obtain ⟨bs, rfl⟩ := List.head?_eq_some_iff.mp hd
    cases h
    exact ⟨[], rfl, rfl⟩
  | case8 j b bs hq hc ih => exact (ih h).cons _

theorem opensAt_append {pre : List UInt8} {b c : UInt8} {bs : List UInt8} :
    OpensAt (pre ++ b :: c :: bs) pre.length ↔ b = '{'.toUInt8 ∧ c = '{'.toUInt8 := by
  simp [OpensAt]

theorem closesAt_append {pre bs : List UInt8} : ClosesAt (pre ++ '}'.toUInt8 :: '}'.toUInt8 :: bs) pre.length := by
  simp [ClosesAt]

/-- Along the scan: what comes before the offset it is at holds no placeholder from `last` on. -/
theorem placed_spansFrom : ∀ (fuel : Nat) {pre bs : List UInt8} {last : Nat}, last ≤ pre.length →
    (∀ k, last ≤ k → k < pre.length → ¬OpensAt (pre ++ bs) k) →
    Placed (pre ++ bs) last (spansFrom fuel pre.length bs)
  | 0, _, _, _, _, _ => .nil
  | _ + 1, _, [], _, _, _ => .nil
  | _ + 1, _, [_], _, _, _ => .nil
  | fuel + 1, pre, b :: c :: bs, last, hlast, hnone => by
    rw [spansFrom]
    split
    · rename_i hbraces
      cases hclosing : closing? none (pre.length + 2) bs with
      | none => exact .nil
      | some found =>
        obtain ⟨stop, rest⟩ := found
        obtain ⟨inner, rfl, hend⟩ := closing?_closes hclosing
        have hcloses : pre ++ b :: c :: (inner ++ '}'.toUInt8 :: '}'.toUInt8 :: rest)
            = (pre ++ b :: c :: inner) ++ '}'.toUInt8 :: '}'.toUInt8 :: rest := by simp
        have hrest : pre ++ b :: c :: (inner ++ '}'.toUInt8 :: '}'.toUInt8 :: rest)
            = (pre ++ b :: c :: (inner ++ ['}'.toUInt8, '}'.toUInt8])) ++ rest := by simp
        have hmiddle : (pre ++ b :: c :: inner).length = stop - 2 := by
          simp only [List.length_append, List.length_cons]
          omega
        have hstop : (pre ++ b :: c :: (inner ++ ['}'.toUInt8, '}'.toUInt8])).length = stop := by
          simp only [List.length_append, List.length_cons, List.length_nil]
          omega
        refine .cons hlast (by dsimp only; omega) (opensAt_append.mpr hbraces) ?_ hnone ?_
        · rw [hcloses, ← hmiddle]
          exact closesAt_append
        · rw [hrest, ← hstop]
          exact placed_spansFrom fuel le_rfl fun k h1 h2 => absurd h2 (Nat.not_lt.mpr h1)
    · rename_i hbraces
      have hnext : pre ++ b :: c :: bs = (pre ++ [b]) ++ c :: bs := by simp
      have hlen : pre.length + 1 = (pre ++ [b]).length := by simp
      have hone : ∀ k, last ≤ k → k < (pre ++ [b]).length → ¬OpensAt (pre ++ b :: c :: bs) k := by
        intro k h1 h2
        rcases Nat.lt_succ_iff_lt_or_eq.mp (hlen ▸ h2) with hk | rfl
        · exact hnone k h1 hk
        · exact fun ho => hbraces (opensAt_append.mp ho)
      rw [hlen]
      rw [hnext] at hone ⊢
      exact placed_spansFrom fuel (by omega) hone

theorem placed_spans (bs : List UInt8) : Placed bs 0 (spans bs) :=
  @placed_spansFrom bs.length [] bs 0 le_rfl fun k _ hk => absurd hk (Nat.not_lt_zero k)

theorem Placed.of_mem {bs : List UInt8} {last : Nat} {ss : List Span} (h : Placed bs last ss) {s : Span} (hs : s ∈ ss) :
    last ≤ s.start ∧ s.start + 4 ≤ s.stop ∧ OpensAt bs s.start ∧ ClosesAt bs (s.stop - 2) := by
  induction h with
  | nil => cases hs
  | cons order size opens closes first rest ih =>
    rcases List.mem_cons.mp hs with rfl | hs
    · exact ⟨order, size, opens, closes⟩
    · obtain ⟨h1, h2⟩ := ih hs
      exact ⟨by omega, h2⟩

theorem Placed.pairwise {bs : List UInt8} {last : Nat} {ss : List Span} (h : Placed bs last ss) :
    ss.Pairwise fun s t => s.stop ≤ t.start := by
  induction h with
  | nil => exact .nil
  | cons order size opens closes first rest ih => exact .cons (fun t ht => (rest.of_mem ht).1) ih

/-! ## Bytes and characters -/

theorem length_bytes (cs : List Char) : (bytes cs).length = byteLength cs := by
  induction cs with
  | nil => rfl
  | cons c cs ih => rw [Text.length_bytes_cons, byteLength, ih]

theorem narrow_quote {q : Char} (hq : IsQuote q) : q.utf8Size = 1 := by
  rcases hq with rfl | rfl <;> rfl

section
variable {j : Nat} {b : UInt8} {bs : List UInt8}

theorem closing?_quoted {q : UInt8} (hq : b ≠ q) (hslash : b ≠ '\\'.toUInt8) :
    closing? (some q) j (b :: bs) = closing? (some q) (j + 1) bs := by
  rw [closing?.eq_def]
  simp only [if_neg hq, if_neg hslash]

theorem closing?_plain (hdouble : b ≠ '"'.toUInt8) (hsingle : b ≠ '\''.toUInt8)
    (hbrace : ¬(b = '}'.toUInt8 ∧ bs.head? = some '}'.toUInt8)) :
    closing? none j (b :: bs) = closing? none (j + 1) bs := by
  rw [closing?.eq_def]
  simp only [if_neg hbrace]
  exact if_neg (not_or.mpr ⟨hdouble, hsingle⟩)

end

theorem closing?_wide {c : Char} (hc : c.utf8Size ≠ 1) {q : Option Char} (hq : ∀ x ∈ q, IsQuote x) (bs : List UInt8) :
    ∀ {ws : List UInt8} (j : Nat), ws ⊆ String.utf8EncodeChar c →
      closing? (q.map Char.toUInt8) j (ws ++ bs) = closing? (q.map Char.toUInt8) (j + ws.length) bs
  | [], _, _ => rfl
  | w :: ws, j, hws => by
    obtain ⟨hw, hws⟩ := List.cons_subset.mp hws
    have hne {d : Char} (hd : d.utf8Size = 1) : w ≠ d.toUInt8 := Text.ne_of_mem_encode hc hd hw
    have ih := closing?_wide hc hq bs (j + 1) hws
    rw [List.length_cons, Nat.add_comm ws.length 1, ← Nat.add_assoc, ← ih, List.cons_append]
    cases q with
    | none => exact closing?_plain (hne rfl) (hne rfl) fun h => hne rfl h.1
    | some q => exact closing?_quoted (hne (narrow_quote (hq q rfl))) (hne rfl)

theorem closing?_char_quoted {q c : Char} (hq : IsQuote q) (hc : c ≠ q) (hslash : c ≠ '\\') (cs : List Char) (j : Nat) :
    closing? (some q.toUInt8) j (bytes (c :: cs)) = closing? (some q.toUInt8) (j + c.utf8Size) (bytes cs) := by
  by_cases hn : c.utf8Size = 1
  · rw [Text.bytes_narrow hn, hn]
    exact closing?_quoted (mt (Text.narrow_inj hn (narrow_quote hq)).mp hc) (mt (Text.narrow_inj hn rfl).mp hslash)
  · rw [Text.bytes_cons, ← String.length_utf8EncodeChar]
    exact closing?_wide hn (q := some q) (by simpa using hq) _ j (List.Subset.refl _)

theorem closing?_char_plain {c : Char} {cs : List Char} (hc : ¬IsQuote c) (hbrace : ¬(c = '}' ∧ cs.head? = some '}'))
    (j : Nat) : closing? none j (bytes (c :: cs)) = closing? none (j + c.utf8Size) (bytes cs) := by
  by_cases hn : c.utf8Size = 1
  · rw [IsQuote, not_or] at hc
    rw [Text.bytes_narrow hn, hn]
    refine closing?_plain (mt (Text.narrow_inj hn rfl).mp hc.1) (mt (Text.narrow_inj hn rfl).mp hc.2) ?_
    rwa [Text.narrow_inj hn rfl, Text.head?_bytes rfl]
  · rw [Text.bytes_cons, ← String.length_utf8EncodeChar]
    exact closing?_wide hn (q := none) (by simp) _ j (List.Subset.refl _)

/-- A backslash takes the first byte of a character along, and the others stop nothing. -/
theorem closing?_char_escaped {q : Char} (hq : IsQuote q) (d : Char) (cs : List Char) (j : Nat) :
    closing? (some q.toUInt8) j (bytes ('\\' :: d :: cs)) = closing? (some q.toUInt8) (j + 1 + d.utf8Size) (bytes cs) := by
  have hne : '\\'.toUInt8 ≠ q.toUInt8 := by rcases hq with rfl | rfl <;> decide
  obtain ⟨b, bs, hb⟩ := Text.encode_eq_cons d
  have hlen : 1 + bs.length = d.utf8Size := by
    rw [← String.length_utf8EncodeChar, hb, List.length_cons, Nat.add_comm]
  have hstep : closing? (some q.toUInt8) j (bytes ('\\' :: d :: cs))
      = closing? (some q.toUInt8) (j + 2) (bs ++ bytes cs) := by
    rw [Text.bytes_narrow (c := '\\') rfl, Text.bytes_cons, hb, List.cons_append, closing?.eq_def]
    simp only [if_neg hne, if_true]
  have hrest : closing? (some q.toUInt8) (j + 2) (bs ++ bytes cs)
      = closing? (some q.toUInt8) (j + 2 + bs.length) (bytes cs) := by
    by_cases hn : d.utf8Size = 1
    · obtain rfl : bs = [] := List.length_eq_zero_iff.mp (by omega)
      rfl
    · exact closing?_wide hn (q := some q) (by simpa using hq) _ _ (by rw [hb]; exact List.subset_cons_self _ _)
  rw [hstep, hrest]
  congr 1
  omega

def located (j : Nat) (found : List Char × List Char) : Nat × List UInt8 :=
  (j + (bytes found.1).length + 2, bytes found.2)

theorem located_cons (c : Char) (j : Nat) (x : Option (List Char × List Char)) :
    (x.map fun (s, r) => (c :: s, r)).map (located j) = x.map (located (j + c.utf8Size)) := by
  rw [Option.map_map]
  congr 1
  funext found
  simp only [Function.comp_apply, located, Text.length_bytes_cons, Nat.add_assoc]

theorem closing?_bytes {q : Option Char} (hq : ∀ x ∈ q, IsQuote x) (cs : List Char) (j : Nat) :
    closing? (q.map Char.toUInt8) j (bytes cs) = (Template.closing? q cs).map (located j) := by
  fun_induction Template.closing? q cs generalizing j with
  | case1 q => rw [Text.bytes_nil, closing?.eq_def]; rfl
  | case2 c cs ih =>
    have hn := narrow_quote (hq c rfl)
    rw [located_cons, ← ih (by simp), Text.bytes_narrow hn, hn, Option.map_some, closing?.eq_def]
    simp only [if_true]
    rfl
  | case3 q hne =>
    have hslash : '\\'.toUInt8 ≠ q.toUInt8 := mt (Text.narrow_inj rfl (narrow_quote (hq q rfl))).mp hne
    rw [Text.bytes_narrow (c := '\\') rfl, Text.bytes_nil, Option.map_some, closing?.eq_def]
    simp only [if_neg hslash, if_true]
    rfl
  | case4 q d ds hne ih =>
    have hcons (x : Option (List Char × List Char)) : (x.map fun (s, r) => ('\\' :: d :: s, r))
        = (x.map fun (s, r) => (d :: s, r)).map fun (s, r) => ('\\' :: s, r) := by
      rw [Option.map_map]
      rfl
    rw [hcons, located_cons, located_cons, ← ih hq]
    exact closing?_char_escaped (hq q rfl) d ds j
  | case5 q c cs hne hslash ih =>
    rw [located_cons, ← ih hq]
    exact closing?_char_quoted (hq q rfl) hne hslash cs j
  | case6 c cs hquote ih =>
    have hn := narrow_quote hquote
    have hbyte : c.toUInt8 = '"'.toUInt8 ∨ c.toUInt8 = '\''.toUInt8 := hquote.imp (congrArg _) (congrArg _)
    rw [located_cons, ← ih (by rintro x ⟨⟩; exact hquote), Text.bytes_narrow hn, hn, Option.map_none, closing?.eq_def]
    simp only [if_pos hbyte]
    rfl
  | case7 c cs hquote hbrace =>
    obtain ⟨rfl, hd⟩ := hbrace
    obtain ⟨cs, rfl⟩ := List.head?_eq_some_iff.mp hd
    rfl
  | case8 c cs hquote hbrace ih =>
    rw [located_cons, ← ih hq]
    exact closing?_char_plain hquote hbrace j

theorem bytes_brace (cs : List Char) : bytes ('{' :: cs) = '{'.toUInt8 :: bytes cs := Text.bytes_narrow rfl cs

/-! ## Spans -/

theorem byteLength_placeholder (inner : List Char) :
    byteLength (Piece.placeholder inner).source = 2 + (bytes inner).length + 2 := by
  have hbrace : byteLength ['}', '}'] = 2 := rfl
  have hopen : byteLength ['{', '{'] = 2 := rfl
  show byteLength (['{', '{'] ++ (inner ++ ['}', '}'])) = _
  rw [Template.byteLength_append, Template.byteLength_append, length_bytes, hbrace, hopen, Nat.add_assoc]

theorem spansFrom_pass {fuel i : Nat} {b : UInt8} {bs : List UInt8}
    (h : ¬(b = '{'.toUInt8 ∧ bs.head? = some '{'.toUInt8)) :
    spansFrom (fuel + 1) i (b :: bs) = spansFrom fuel (i + 1) bs := by
  cases bs with
  | nil => cases fuel <;> rfl
  | cons c bs =>
    rw [spansFrom]
    exact if_neg fun hb => h ⟨hb.1, congrArg some hb.2⟩

theorem spansFrom_wide {c : Char} (hc : c.utf8Size ≠ 1) (bs : List UInt8) : ∀ {ws : List UInt8} (fuel i : Nat),
    ws ⊆ String.utf8EncodeChar c → spansFrom (fuel + ws.length) i (ws ++ bs) = spansFrom fuel (i + ws.length) bs
  | [], _, _, _ => rfl
  | w :: ws, fuel, i, hws => by
    obtain ⟨hw, hws⟩ := List.cons_subset.mp hws
    have ih := spansFrom_wide hc bs fuel (i + 1) hws
    rw [List.length_cons, ← Nat.add_assoc, List.cons_append, spansFrom_pass fun h => Text.ne_of_mem_encode hc rfl hw h.1, ih]
    congr 1
    omega

theorem spansFrom_char {c : Char} {cs : List Char} (h : ¬Template.Opens c cs) (fuel i : Nat) :
    spansFrom (fuel + c.utf8Size) i (bytes (c :: cs)) = spansFrom fuel (i + c.utf8Size) (bytes cs) := by
  by_cases hn : c.utf8Size = 1
  · rw [Text.bytes_narrow hn, hn]
    refine spansFrom_pass ?_
    rwa [Text.narrow_inj hn rfl, Text.head?_bytes rfl]
  · rw [Text.bytes_cons, ← String.length_utf8EncodeChar]
    exact spansFrom_wide hn _ _ _ (List.Subset.refl _)

theorem spansFrom_open (fuel i : Nat) (r : List Char) : spansFrom (fuel + 1) i (bytes ('{' :: '{' :: r)) =
    match Template.closing? none r with
    | some (inner, rest) =>
      let stop := i + byteLength (Piece.placeholder inner).source
      ⟨i, stop⟩ :: spansFrom fuel stop (bytes rest)
    | none => [] := by
  have hclosing := closing?_bytes (q := none) (by simp) r (i + 2)
  rw [Option.map_none] at hclosing
  rw [bytes_brace, bytes_brace, spansFrom, if_pos ⟨rfl, rfl⟩, hclosing]
  cases Template.closing? none r with
  | none => rfl
  | some found =>
    have hstop : i + 2 + (bytes found.1).length + 2 = i + byteLength (Piece.placeholder found.1).source := by
      rw [byteLength_placeholder]
      omega
    simp only [Option.map_some, located, hstop]

theorem spansFrom_bytes : ∀ (n : Nat) {cs : List Char} {fuel : Nat} (i : Nat), cs.length ≤ n → (bytes cs).length ≤ fuel →
    spansFrom fuel i (bytes cs) = Template.spansFrom i (pieces cs)
  | _, [], fuel, _, _, _ => by cases fuel <;> rfl
  | n + 1, c :: cs, fuel, i, hn, hf => by
    have hsize := c.utf8Size_pos
    rw [Text.length_bytes_cons] at hf
    rw [List.length_cons] at hn
    by_cases ho : Template.Opens c cs
    · obtain ⟨rfl, hd⟩ := ho
      obtain ⟨r, rfl⟩ := List.head?_eq_some_iff.mp hd
      obtain ⟨fuel, rfl⟩ : ∃ k, fuel = k + 1 := ⟨fuel - 1, by omega⟩
      rw [spansFrom_open, Template.pieces_open]
      cases hc : Template.closing? none r with
      | none => exact (Template.spansFrom_chars _ _).symm
      | some found =>
        have hshort := Template.closing?_length hc
        have hbytes : (bytes found.2).length ≤ (bytes r).length := by
          rw [Template.closing?_eq_append hc, Text.length_bytes_append, Text.length_bytes_cons, Text.length_bytes_cons]
          omega
        rw [Text.length_bytes_cons] at hf
        rw [List.length_cons] at hn
        exact congrArg (_ :: ·) (spansFrom_bytes n _ (by omega) (by omega))
    · obtain ⟨fuel, rfl⟩ : ∃ k, fuel = k + c.utf8Size := ⟨fuel - c.utf8Size, by omega⟩
      rw [spansFrom_char ho, Template.pieces_char ho, spansFrom_bytes n _ (Nat.le_of_succ_le_succ hn) (by omega)]
      rfl

theorem spans_bytes (cs : List Char) : spans (bytes cs) = Template.spans cs :=
  spansFrom_bytes cs.length 0 le_rfl le_rfl

example : spans (bytes "\x7b\x7b'\\\u00e9\x7d\x7d'\x7d\x7d".toList) = [⟨0, 11⟩] := by decide +kernel

end Scan

end FlowEngine
