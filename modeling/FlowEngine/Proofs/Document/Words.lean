import Mathlib
import FlowEngine.Document.Printer
import FlowEngine.Document.Reader
import FlowEngine.Proofs.Except
import FlowEngine.Proofs.Text.Span

/-!
# Words read back

Quoted strings, keys and names are read back as they were written, whatever
follows them, as long as it cannot belong to the word. Nothing that is written
starts with a character that a reader skips.
-/

namespace FlowEngine.Document

open Text (Stops stops_nil stops_cons takeWhile_span dropWhile_span)

/-! ## Characters -/

def isInner (c : Char) : Bool := isIdentChar c || isNumeralChar c || c == '"'

/-- The characters that a reader of values skips, and those that end one. -/
def isOuter (c : Char) : Bool := c ∈ [' ', '\t', '\r', '\n', '#', ',', ']', '}']

theorem isIdentChar_of_isKeyChar {c : Char} (h : isKeyChar c = true) : isIdentChar c = true := by
  simp only [isKeyChar, isIdentChar, Bool.or_eq_true] at *
  tauto

theorem isIdentChar_of_isWordStart {c : Char} (h : isWordStart c = true) : isIdentChar c = true := by
  simp only [isWordStart, isIdentChar, Char.isAlphanum, Bool.or_eq_true] at *
  tauto

theorem stops_mono {p q : Char → Bool} {r : List Char} (hpq : ∀ c, p c = true → q c = true) (h : Stops q r) :
    Stops p r := by
  intro c hc
  have := h c hc
  cases hp : p c with
  | false => rfl
  | true => rw [hpq c hp] at this; cases this

theorem isOuter_false_of_isIdentChar {c : Char} (h : isIdentChar c = true) : isOuter c = false := by
  rw [isOuter, decide_eq_false_iff_not]
  intro hc
  fin_cases hc <;> exact absurd h (by decide)

/-- A text that starts with a character of its own, which no reader skips. -/
def Starts (w : List Char) : Prop := ∃ c r, w = c :: r ∧ isOuter c = false

theorem Starts.append {w : List Char} (h : Starts w) (r : List Char) : Starts (w ++ r) := by
  obtain ⟨c, w, rfl, hc⟩ := h
  exact ⟨c, w ++ r, rfl, hc⟩

theorem Starts.of_ident {c : Char} (h : isIdentChar c = true) (r : List Char) : Starts (c :: r) :=
  ⟨c, r, rfl, isOuter_false_of_isIdentChar h⟩

theorem starts_quote (s : String) : Starts (quote s) := ⟨'"', _, rfl, by decide⟩

theorem starts_writeKey (k : String) : Starts (writeKey k) := by
  unfold writeKey
  split
  · rename_i h
    simp only [isBareKey, Bool.and_eq_true, Bool.not_eq_true', List.all_eq_true] at h
    cases hk : k.toList with
    | nil => simp [hk] at h
    | cons c r => exact .of_ident (isIdentChar_of_isKeyChar (h.2 c (by simp [hk]))) r
  · exact starts_quote k

theorem writeKey_head (k : String) : ∃ c w, writeKey k = c :: w ∧ c ≠ '[' := by
  unfold writeKey
  split
  · rename_i h
    simp only [isBareKey, Bool.and_eq_true, Bool.not_eq_true', List.all_eq_true] at h
    cases hk : k.toList with
    | nil => simp [hk] at h
    | cons c r =>
      refine ⟨c, r, rfl, ?_⟩
      rintro rfl
      exact absurd (h.2 '[' (by simp [hk])) (by decide)
  · exact ⟨'"', _, rfl, by decide⟩

theorem isBareIdent_iff {s : String} :
    isBareIdent s = true ↔ (∃ c r, s.toList = c :: r ∧ isWordStart c = true) ∧ s ∉ reservedWords ∧
      ∀ c ∈ s.toList, isIdentChar c = true := by
  unfold isBareIdent
  cases hs : s.toList with
  | nil => simp
  | cons c r =>
    simp only [Bool.and_eq_true, Bool.not_eq_true', List.all_eq_true, List.contains_eq_mem, decide_eq_false_iff_not]
    constructor
    · rintro ⟨⟨h1, h2⟩, h3⟩
      refine ⟨⟨c, r, rfl, h1⟩, h2, ?_⟩
      intro d hd
      rcases List.mem_cons.mp hd with rfl | hd
      · exact isIdentChar_of_isWordStart h1
      · exact h3 d hd
    · rintro ⟨⟨c', r', he, h1⟩, h2, h3⟩
      cases he
      exact ⟨⟨h1, h2⟩, fun d hd => h3 d (List.mem_cons_of_mem _ hd)⟩

theorem starts_writeName (s : String) : Starts (writeName s) := by
  unfold writeName
  split
  · rename_i h
    obtain ⟨⟨c, r, hs, hc⟩, -, -⟩ := isBareIdent_iff.mp h
    rw [hs]
    exact .of_ident (isIdentChar_of_isWordStart hc) r
  · exact starts_quote s

/-! ## Skipping -/

namespace Cursor

theorem skipInline_of_stops {r : List Char} (h : Stops isInlineBlank r) (line : Nat) :
    skipInline ⟨r, line⟩ = ⟨r, line⟩ := by
  simp only [skipInline, moveTo, Text.dropWhile_of_stops h]

theorem skipInline_blank (r : List Char) (line : Nat) : skipInline ⟨' ' :: r, line⟩ = skipInline ⟨r, line⟩ := rfl

theorem isInlineBlank_of_not_isOuter {c : Char} (h : isOuter c = false) : isInlineBlank c = false := by
  rw [isOuter, decide_eq_false_iff_not] at h
  simp only [isInlineBlank, Bool.or_eq_false_iff, beq_eq_false_iff_ne]
  simp only [List.mem_cons, not_or] at h
  tauto

theorem skipInline_starts {w : List Char} (h : Starts w) (line : Nat) : skipInline ⟨w, line⟩ = ⟨w, line⟩ := by
  obtain ⟨c, r, rfl, hc⟩ := h
  exact skipInline_of_stops (by simpa using isInlineBlank_of_not_isOuter hc) line

theorem skipAll_of_visible {c : Char} (hc : c ∉ [' ', '\t', '\r', '\n', '#']) (r : List Char) (line : Nat) :
    skipAll ⟨c :: r, line⟩ = ⟨c :: r, line⟩ := by
  simp only [List.mem_cons, List.not_mem_nil, or_false, not_or] at hc
  have hb : isInlineBlank c = false := by
    simp only [isInlineBlank, Bool.or_eq_false_iff, beq_eq_false_iff_ne]
    tauto
  have hn : ¬((false || isInlineBlank c) = true) := by simp [hb]
  rw [skipAll, skipFrom, if_neg hc.2.2.2.1, if_neg hn, if_neg hc.2.2.2.2]

theorem skipAll_starts {w : List Char} (h : Starts w) (line : Nat) : skipAll ⟨w, line⟩ = ⟨w, line⟩ := by
  obtain ⟨c, r, rfl, hc⟩ := h
  rw [isOuter, decide_eq_false_iff_not] at hc
  refine skipAll_of_visible (fun hm => hc ?_) r line
  simp only [List.mem_cons, List.not_mem_nil, or_false] at hm ⊢
  tauto

theorem skipAll_newline (r : List Char) (line : Nat) : skipAll ⟨'\n' :: r, line⟩ = skipAll ⟨r, line + 1⟩ := rfl

end Cursor

open Cursor

theorem endLine_newline (r : List Char) (line : Nat) : endLine ⟨'\n' :: r, line⟩ = .ok ⟨r, line + 1⟩ := rfl

/-! ## Quoted strings -/

theorem readQuotedFrom_quoteChar (line : Nat) (c : Char) (r : List Char) :
    readQuotedFrom '"' line (quoteChar c ++ r)
      = (readQuotedFrom '"' line r).map fun (s, r) => (c :: s, r) := by
  unfold quoteChar
  split
  · subst_vars; rfl
  split
  · subst_vars; rfl
  split
  · subst_vars; rfl
  split
  · subst_vars; rfl
  split
  · subst_vars; rfl
  · rename_i h1 h2 h3 h4 h5
    rw [List.singleton_append, readQuotedFrom.eq_def]
    split
    · rename_i he; cases he
    · rename_i he; cases he; exact absurd rfl h2
    · rename_i he
      cases he
      rw [if_neg h3, if_neg h1]

theorem readQuotedFrom_quoted (line : Nat) (r : List Char) : ∀ s : List Char,
    readQuotedFrom '"' line (s.flatMap quoteChar ++ '"' :: r) = .ok (s, r)
  | [] => rfl
  | c :: s => by
    rw [List.flatMap_cons, List.append_assoc, readQuotedFrom_quoteChar, readQuotedFrom_quoted line r s]
    rfl

theorem readQuoted_quoted (s : String) (r : List Char) (c : Cursor) :
    readQuoted '"' c (s.toList.flatMap quoteChar ++ '"' :: r) = .ok (s, c.moveTo r) := by
  rw [readQuoted, readQuotedFrom_quoted, ok_map]
  simp only [String.ofList_toList]

theorem quote_append (s : String) (r : List Char) :
    quote s ++ r = '"' :: (s.toList.flatMap quoteChar ++ '"' :: r) := by
  simp [quote]

/-- A quoted string never opens with three quotes, unless a quote follows the empty one. -/
theorem quoteChar_ne_quote (c : Char) (r : List Char) : (quoteChar c ++ r).head? ≠ some '"' := by
  unfold quoteChar
  split
  · simp
  split
  · simp
  split
  · simp
  split
  · simp
  split
  · simp
  · simpa

/-! ## Keys and names -/

theorem readKey_writeKey (k : String) {r : List Char} (hr : Stops isKeyChar r) (line : Nat) :
    readKey ⟨writeKey k ++ r, line⟩ = .ok (k, ⟨r, line⟩) := by
  unfold writeKey
  split
  · rename_i h
    simp only [isBareKey, Bool.and_eq_true, Bool.not_eq_true', List.all_eq_true] at h
    cases hk : k.toList with
    | nil => simp [hk] at h
    | cons c w =>
      have hc : isKeyChar c = true := h.2 c (by simp [hk])
      rw [hk] at h
      have ht := takeWhile_span h.2 hr
      have hd := dropWhile_span h.2 hr
      rw [List.cons_append] at ht hd ⊢
      rw [readKey.eq_def]
      split
      · rename_i he; cases he
      · rename_i he; cases he; exact absurd hc (by decide)
      · rename_i he; cases he; exact absurd hc (by decide)
      · rename_i he
        cases he
        rw [if_pos hc, ht, hd, ← hk, String.ofList_toList]
        rfl
  · rw [quote_append]
    exact readQuoted_quoted k r _

theorem readTarget_writeName (t : String) {r : List Char} (hr : Stops isIdentChar r) (line : Nat) :
    readTarget ⟨writeName t ++ r, line⟩ = .ok (t, ⟨r, line⟩) := by
  unfold writeName
  split
  · rename_i h
    obtain ⟨⟨c, w, hs, hc⟩, -, hall⟩ := isBareIdent_iff.mp h
    have ht := takeWhile_span hall hr
    have hd := dropWhile_span hall hr
    rw [hs, List.cons_append] at ht hd ⊢
    have hword : (c.isAlphanum || c == '_') = true := by
      simp only [isWordStart, Char.isAlphanum, Bool.or_eq_true] at *
      tauto
    rw [readTarget.eq_def]
    split
    · rename_i he; cases he
    · rename_i he; cases he; exact absurd hc (by decide)
    · rename_i he; cases he; exact absurd hc (by decide)
    · rename_i he
      cases he
      rw [if_pos hword, readWord, ht, hd, ← hs, String.ofList_toList]
      rfl
  · rw [quote_append]
    exact readQuoted_quoted t r _

end FlowEngine.Document
