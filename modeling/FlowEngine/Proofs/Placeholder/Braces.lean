import Mathlib
import FlowEngine.Placeholder.Parser
import FlowEngine.Proofs.Except
import FlowEngine.Proofs.Placeholder.Template
import FlowEngine.Proofs.Text.Span

/-!
# Expressions in braces

The scan for closing braces knows quotes and braces only, while an expression is made
of tokens. `next_lexeme` says what each token looks like as text: of all of them only
texts hold quotes, which the scan reads as the tokens do (`closing?_readText`), and
only texts and storage keys hold braces. So by recursion over the tokens an expression
whose keys hold no quote is one placeholder exactly when no key holds two closing
braces together and none ends the expression with one (`Expr.spans_iff`).
-/

namespace FlowEngine

/-! ## What the scan goes past -/

namespace Template

/-- The scan puts a text in front of what it finds behind it. -/
def Passes (w x : List Char) : Prop := closing? none (w ++ x) = (closing? none x).map fun (s, r) => (w ++ s, r)

def IsQuote (c : Char) : Prop := c = '"' ∨ c = '\''

instance (c : Char) : Decidable (IsQuote c) := inferInstanceAs (Decidable (_ ∨ _))

def IsPlain (c : Char) : Prop := ¬IsQuote c ∧ c ≠ '}'

instance (c : Char) : Decidable (IsPlain c) := inferInstanceAs (Decidable (_ ∧ _))

def Unbroken (w : List Char) : Prop := ¬ ['}', '}'] <:+: w

instance (w : List Char) : Decidable (Unbroken w) := inferInstanceAs (Decidable (¬_))

theorem map_prepend {w v : List Char} (x : Option (List Char × List Char)) :
    ((x.map fun (s, r) => (v ++ s, r)).map fun (s, r) => (w ++ s, r)) = x.map fun (s, r) => (w ++ v ++ s, r) := by
  simp [Option.map_map, Function.comp_def]

theorem Passes.nil (x : List Char) : Passes [] x := by
  rw [Passes, List.nil_append]
  exact Option.map_id'.symm

theorem Passes.append {w v x : List Char} (hw : Passes w (v ++ x)) (hv : Passes v x) : Passes (w ++ v) x := by
  rw [Passes, List.append_assoc, hw, hv, map_prepend]

theorem closing?_outside {c : Char} {cs : List Char} (hq : ¬IsQuote c) (hb : ¬(c = '}' ∧ cs.head? = some '}')) :
    closing? none (c :: cs) = (closing? none cs).map fun (s, r) => (c :: s, r) := by
  rw [closing?.eq_def]
  simp only [if_neg hb]
  exact if_neg hq

theorem closing?_open {q : Char} (hq : IsQuote q) (cs : List Char) :
    closing? none (q :: cs) = (closing? (some q) cs).map fun (s, r) => (q :: s, r) := by
  rw [closing?.eq_def]
  exact if_pos hq

theorem Passes.eq_some_iff {w x s r : List Char} (h : Passes w x) :
    closing? none (w ++ x) = some (w ++ s, r) ↔ closing? none x = some (s, r) := by
  rw [h]
  cases closing? none x with
  | none => simp
  | some p => simp [Prod.ext_iff]

theorem passes_char {c : Char} {x : List Char} (hq : ¬IsQuote c) (hb : c ≠ '}') : Passes [c] x :=
  closing?_outside hq fun h => hb h.1

theorem passes_of_forall {w : List Char} (h : ∀ c ∈ w, IsPlain c) (x : List Char) : Passes w x := by
  induction w with
  | nil => exact .nil x
  | cons c w ih =>
    rw [List.forall_mem_cons] at h
    exact (passes_char h.1.1 h.1.2).append (ih h.2)

theorem unbroken_cons {c : Char} {w : List Char} : Unbroken (c :: w) ↔ ¬(c = '}' ∧ w.head? = some '}') ∧ Unbroken w := by
  unfold Unbroken
  rw [List.infix_cons_iff, not_or]
  cases w with
  | nil => simp [List.cons_prefix_cons]
  | cons d w => simp [List.cons_prefix_cons, eq_comm]

/-- Outside quotes the scan stops only at two closing braces, which may lie across the end of the
text. -/
theorem passes_of_unbroken {w x : List Char} (hq : ∀ c ∈ w, ¬IsQuote c) (hw : Unbroken w)
    (hx : w.getLast? = some '}' → x.head? ≠ some '}') : Passes w x := by
  induction w with
  | nil => exact .nil x
  | cons c w ih =>
    rw [List.forall_mem_cons] at hq
    rw [unbroken_cons] at hw
    have hbrace : ¬(c = '}' ∧ (w ++ x).head? = some '}') := by
      rintro ⟨rfl, hd⟩
      cases w with
      | nil => exact hx rfl hd
      | cons d w => exact hw.1 ⟨rfl, hd⟩
    have hrest : w.getLast? = some '}' → x.head? ≠ some '}' := fun hl => hx (by simp [List.getLast?_cons, hl])
    exact Passes.append (w := [c]) (closing?_outside hq.1 hbrace) (ih hq.2 hw.2 hrest)

theorem closing?_broken {w x : List Char} (hq : ∀ c ∈ w, ¬IsQuote c)
    (hw : ¬Unbroken w ∨ w.getLast? = some '}' ∧ x.head? = some '}') :
    ∃ s r, closing? none (w ++ x) = some (s, r) ∧ s.length < w.length := by
  induction w with
  | nil => simp [Unbroken] at hw
  | cons c w ih =>
    rw [List.forall_mem_cons] at hq
    by_cases hbrace : c = '}' ∧ (w ++ x).head? = some '}'
    · obtain ⟨rfl, hd⟩ := hbrace
      refine ⟨[], (w ++ x).tail, ?_, Nat.zero_lt_succ _⟩
      rw [List.cons_append, closing?.eq_def]
      simp [hd]
    · have hrest : ¬Unbroken w ∨ w.getLast? = some '}' ∧ x.head? = some '}' := by
        rw [unbroken_cons] at hw
        cases w with
        | nil => simp_all [Unbroken]
        | cons d w =>
          exact hw.imp (fun hn hu => hn ⟨hbrace, hu⟩) fun hl => ⟨List.getLast?_cons_cons ▸ hl.1, hl.2⟩
      obtain ⟨s, r, hs, hl⟩ := ih hq.2 hrest
      refine ⟨c :: s, r, ?_, Nat.succ_lt_succ hl⟩
      rw [List.cons_append, closing?_outside hq.1 hbrace, hs]
      rfl

/-- The scan and the reader of texts agree on where a text ends. -/
theorem closing?_readText {q : Char} (hq : IsQuote q) {cs s r : List Char} (h : Token.readText? q cs = some (s, r)) :
    ∃ body, cs = body ++ r ∧ body.getLast? = some q ∧
      ∀ x, closing? (some q) (body ++ x) = (closing? none x).map fun (s, r) => (body ++ s, r) := by
  have hslash : q ≠ '\\' := by rcases hq with rfl | rfl <;> decide
  fun_induction Token.readText? q cs generalizing s with
  | case1 => cases h
  | case2 => cases h
  | case3 c cs ih =>
    obtain ⟨⟨t, r'⟩, ht, he⟩ := Option.map_eq_some_iff.mp h
    cases he
    obtain ⟨body, rfl, hlast, hbody⟩ := ih ht
    refine ⟨'\\' :: c :: body, rfl, by simp [List.getLast?_cons, hlast], fun x => ?_⟩
    rw [List.cons_append, List.cons_append, closing?.eq_def]
    simp only [if_neg hslash.symm, if_true, hbody, Option.map_map]
    rfl
  | case4 cs =>
    cases h
    refine ⟨[q], rfl, rfl, fun x => ?_⟩
    rw [List.singleton_append, closing?_quote]
    rfl
  | case5 c cs hlone hpair hne ih =>
    obtain ⟨⟨t, r'⟩, ht, he⟩ := Option.map_eq_some_iff.mp h
    cases he
    obtain ⟨body, rfl, hlast, hbody⟩ := ih ht
    have hb : c ≠ '\\' := by
      rintro rfl
      cases hcs : body ++ r with
      | nil => exact hlone rfl hcs
      | cons d ds => exact hpair d ds rfl hcs
    refine ⟨c :: body, rfl, by simp [List.getLast?_cons, hlast], fun x => ?_⟩
    rw [List.cons_append, closing?_inside hne hb, hbody, Option.map_map]
    rfl

theorem closing?_append {q : Option Char} {cs s r : List Char} (h : closing? q cs = some (s, r)) (x : List Char) :
    closing? q (cs ++ x) = some (s, r ++ x) := by
  fun_induction closing? q cs generalizing s r with
  | case1 => cases h
  | case2 c cs ih =>
    obtain ⟨t, rfl, ht⟩ := map_cons_eq_some h
    rw [List.cons_append, closing?_quote, ih ht]
    rfl
  | case3 => cases h
  | case4 q d ds hq ih =>
    obtain ⟨⟨t, r'⟩, h, he⟩ := Option.map_eq_some_iff.mp h
    cases he
    rw [List.cons_append, List.cons_append, closing?.eq_def]
    simp only [if_neg hq, if_true, ih h]
    rfl
  | case5 q c cs hq hb ih =>
    obtain ⟨t, rfl, ht⟩ := map_cons_eq_some h
    rw [List.cons_append, closing?_inside hq hb, ih ht]
    rfl
  | case6 c cs hq ih =>
    obtain ⟨t, rfl, ht⟩ := map_cons_eq_some h
    rw [List.cons_append, closing?.eq_def]
    simp only [if_pos hq, ih ht]
    rfl
  | case7 c cs hq hc =>
    obtain ⟨rfl, hd⟩ := hc
    obtain ⟨ds, rfl⟩ : ∃ ds, cs = '}' :: ds := List.head?_eq_some_iff.mp hd
    cases h
    rfl
  | case8 c cs hq hc ih =>
    obtain ⟨t, rfl, ht⟩ := map_cons_eq_some h
    have hhead : ¬(c = '}' ∧ (cs ++ x).head? = some '}') := by
      rintro ⟨rfl, hd⟩
      cases cs with
      | nil => cases ht
      | cons d ds => exact hc ⟨rfl, hd⟩
    rw [List.cons_append, closing?_outside hq hhead, ih ht]
    rfl

theorem enclosed_iff {e : List Char} : Enclosed e ↔ closing? none (e ++ ['}', '}']) = some (e, []) := by
  refine ⟨fun h => h [], fun h r => ?_⟩
  simpa using closing?_append h r

theorem byteLength_append (a b : List Char) : byteLength (a ++ b) = byteLength a + byteLength b := by
  induction a with
  | nil => simp [byteLength]
  | cons c a ih => rw [List.cons_append, byteLength, byteLength, ih, Nat.add_assoc]

theorem eq_nil_of_byteLength {cs : List Char} (h : byteLength cs = 0) : cs = [] := by
  cases cs with
  | nil => rfl
  | cons c cs =>
    have := c.utf8Size_pos
    rw [byteLength] at h
    omega

theorem spansFrom_chars (cs : List Char) (n : Nat) : spansFrom n (cs.map .char) = [] := by
  induction cs generalizing n with
  | nil => rfl
  | cons c cs ih => exact ih _

theorem pieces_placeholder_iff (e : List Char) : pieces (Piece.placeholder e).source = [.placeholder e] ↔ Enclosed e := by
  rw [enclosed_iff, Piece.source, pieces_open]
  cases hc : closing? none (e ++ ['}', '}']) with
  | none => simp
  | some p =>
    obtain ⟨s, r⟩ := p
    have he := closing?_eq_append hc
    simp only [List.cons.injEq, Piece.placeholder.injEq, Option.some.injEq, Prod.mk.injEq]
    refine and_congr_right fun hs => ⟨fun _ => ?_, fun hr => by rw [hr, pieces_nil]⟩
    subst hs
    simpa using he

theorem spans_placeholder_iff (e : List Char) :
    spans (Piece.placeholder e).source = [⟨0, byteLength (Piece.placeholder e).source⟩] ↔ Enclosed e := by
  have hsource : (Piece.placeholder e).source = '{' :: '{' :: (e ++ ['}', '}']) := rfl
  rw [enclosed_iff, spans, hsource, pieces_open]
  cases hc : closing? none (e ++ ['}', '}']) with
  | none =>
    simp only [spansFrom_chars]
    simp
  | some p =>
    obtain ⟨s, r⟩ := p
    have he : '{' :: '{' :: (e ++ ['}', '}']) = (Piece.placeholder s).source ++ r := by
      rw [closing?_eq_append hc]
      simp [Piece.source]
    simp only [spansFrom, Piece.isPlaceholder, if_true, List.cons.injEq, Span.mk.injEq, true_and, Nat.zero_add,
      Option.some.injEq, Prod.mk.injEq]
    constructor
    · -- the placeholder takes all bytes of the text, so nothing is left behind it
      rintro ⟨hstop, -⟩
      rw [he, byteLength_append] at hstop
      obtain rfl := eq_nil_of_byteLength (Nat.left_eq_add.mp hstop)
      simpa [Piece.source, eq_comm] using he
    · rintro ⟨rfl, rfl⟩
      exact ⟨rfl, rfl⟩

end Template

/-! ## What a token looks like -/

namespace Token

open Template (IsQuote IsPlain Passes Unbroken)

/-- The text that a token is read from, and what may stand behind it. -/
inductive Lexeme : List Char → Token → List Char → Prop
  | plain {w r : List Char} {t : Token} (hw : ∀ c ∈ w, IsPlain c) (ht : ∀ key, t ≠ .storageKey key) :
    Lexeme w t r
  | text {q : Char} {body r : List Char} {s : String} (hq : IsQuote q) (hlast : body.getLast? = some q)
    (hbody : ∀ x, Template.closing? (some q) (body ++ x) = (Template.closing? none x).map fun (s, r) => (body ++ s, r)) :
    Lexeme (q :: body) (.text s) r
  | key {key r : List Char} (hr : Text.Stops isStorageKeyChar r) :
    Lexeme ('k' :: 'e' :: 'y' :: ':' :: key) (.storageKey (String.ofList key)) r

theorem plain_of_class {p : Char → Bool} (hdouble : p '"' = false) (hsingle : p '\'' = false) (hbrace : p '}' = false)
    {c : Char} (hc : p c = true) : IsPlain c := by
  refine ⟨?_, ?_⟩
  · rintro (rfl | rfl)
    · rw [hdouble] at hc; cases hc
    · rw [hsingle] at hc; cases hc
  · rintro rfl
    rw [hbrace] at hc
    cases hc

theorem plain_wordChar {c : Char} (hc : isWordChar c = true) : IsPlain c :=
  plain_of_class (by decide) (by decide) (by decide) hc

theorem comparison?_spec {cs r : List Char} {op : Comparison} (h : comparison? cs = some (op, r)) :
    ∃ w, cs = w ++ r ∧ w ≠ [] ∧ ∀ c ∈ w, IsPlain c := by
  unfold comparison? at h
  split at h
  case h_1 => cases h; exact ⟨['=', '='], rfl, by simp, by simp [IsPlain, IsQuote]⟩
  case h_2 => cases h; exact ⟨['!', '='], rfl, by simp, by simp [IsPlain, IsQuote]⟩
  case h_3 => cases h; exact ⟨['>', '='], rfl, by simp, by simp [IsPlain, IsQuote]⟩
  case h_4 => cases h; exact ⟨['<', '='], rfl, by simp, by simp [IsPlain, IsQuote]⟩
  case h_5 => cases h; exact ⟨['>'], rfl, by simp, by simp [IsPlain, IsQuote]⟩
  case h_6 => cases h; exact ⟨['<'], rfl, by simp, by simp [IsPlain, IsQuote]⟩
  case h_7 => cases h

theorem readNumeral_eq_ok {cs : List Char} {t : Token} (h : readNumeral cs = .ok t) : ∃ n, t = .number n := by
  unfold readNumeral at h
  split at h
  · cases h; exact ⟨_, rfl⟩
  · split at h
    · cases h; exact ⟨_, rfl⟩
    · cases h

theorem ofWord_lexeme {word rest r : List Char} {t : Token} (hw : ∀ c ∈ word, IsPlain c) (hne : word ≠ [])
    (h : ofWord word rest = .ok (t, r)) : ∃ w, word ++ rest = w ++ r ∧ w ≠ [] ∧ Lexeme w t r := by
  unfold ofWord at h
  split at h
  · rename_i rest
    simp only at h
    split at h
    · cases h
    · cases h
      refine ⟨'k' :: 'e' :: 'y' :: ':' :: rest.takeWhile isStorageKeyChar, ?_, by simp, .key (Text.stops_dropWhile rest)⟩
      simp [List.takeWhile_append_dropWhile]
  · cases h
    exact ⟨word, rfl, hne, .plain hw (by simp)⟩

def marks : List (Char × Token) :=
  [('.', .dot), ('|', .pipe), ('(', .openParen), (')', .closeParen), (',', .comma)]

inductive Reads (afterDot : Bool) (c : Char) (rest : List Char) : Token → List Char → Prop
  | mark {t : Token} (h : (c, t) ∈ marks) : Reads afterDot c rest t rest
  | comparison {op : Comparison} {r : List Char} (h : comparison? (c :: rest) = some (op, r)) :
    Reads afterDot c rest (.comparison op) r
  | text {s r : List Char} (hc : c = '"' ∨ c = '\'') (h : readText? c rest = some (s, r)) :
    Reads afterDot c rest (.text (String.ofList s)) r
  | segment (hdot : afterDot = true) (hc : isWordChar c = true) :
    Reads afterDot c rest (.segment (String.ofList (c :: rest.takeWhile isWordChar))) (rest.dropWhile isWordChar)
  | numeral {t : Token} (hc : startsNumeral c rest = true)
    (h : readNumeral (c :: rest.takeWhile isNumeralChar) = .ok t) :
    Reads afterDot c rest t (rest.dropWhile isNumeralChar)
  | word {t : Token} {r : List Char} (hc : isWordStart c = true)
    (h : ofWord (c :: rest.takeWhile isWordChar) (rest.dropWhile isWordChar) = .ok (t, r)) :
    Reads afterDot c rest t r

theorem reads_of_next {afterDot : Bool} {c : Char} {rest r : List Char} {t : Token}
    (h : next afterDot c rest = .ok (t, r)) : Reads afterDot c rest t r := by
  have hmark {u : Token} (hu : (c, u) ∈ marks) (h : (.ok (u, rest) : Except Error _) = .ok (t, r)) :
      Reads afterDot c rest t r := by
    cases h
    exact .mark hu
  -- the definition is taken apart one condition at a time: splitting it whole is slow
  rw [next] at h
  rcases ite_eq_iff.mp h with ⟨hc, h⟩ | ⟨-, h⟩
  · exact hmark (by simp [marks, hc]) h
  rcases ite_eq_iff.mp h with ⟨hc, h⟩ | ⟨-, h⟩
  · exact hmark (by simp [marks, hc]) h
  rcases ite_eq_iff.mp h with ⟨hc, h⟩ | ⟨-, h⟩
  · exact hmark (by simp [marks, hc]) h
  rcases ite_eq_iff.mp h with ⟨hc, h⟩ | ⟨-, h⟩
  · exact hmark (by simp [marks, hc]) h
  rcases ite_eq_iff.mp h with ⟨hc, h⟩ | ⟨-, h⟩
  · exact hmark (by simp [marks, hc]) h
  rcases ite_eq_iff.mp h with ⟨-, h⟩ | ⟨-, h⟩
  · split at h
    · rename_i op r' hop
      cases h
      exact .comparison hop
    · cases h
  rcases ite_eq_iff.mp h with ⟨hquote, h⟩ | ⟨-, h⟩
  · split at h
    · rename_i s r' hread
      cases h
      exact .text hquote hread
    · cases h
  rcases ite_eq_iff.mp h with ⟨hsegment, h⟩ | ⟨-, h⟩
  · cases h
    obtain ⟨hdot, hc⟩ := Bool.and_eq_true_iff.mp hsegment
    exact .segment hdot hc
  rcases ite_eq_iff.mp h with ⟨hnumeral, h⟩ | ⟨-, h⟩
  · obtain ⟨u, hread, he⟩ := map_eq_ok.mp h
    cases he
    exact .numeral hnumeral hread
  rcases ite_eq_iff.mp h with ⟨hstart, h⟩ | ⟨-, h⟩
  · exact .word hstart h
  · cases h

theorem next_lexeme {afterDot : Bool} {c : Char} {rest r : List Char} {t : Token}
    (h : next afterDot c rest = .ok (t, r)) : ∃ w, c :: rest = w ++ r ∧ w ≠ [] ∧ Lexeme w t r := by
  have hword : ∀ d ∈ rest.takeWhile isWordChar, IsPlain d := fun d hd =>
    plain_wordChar (List.mem_takeWhile_imp hd)
  cases reads_of_next h with
  | mark hmark =>
    have hplain : ∀ p ∈ marks, IsPlain p.1 := by decide
    have hno : ∀ p ∈ marks, ∀ key, p.2 ≠ .storageKey key := by simp [marks]
    exact ⟨[c], rfl, by simp, .plain (by simpa using hplain _ hmark) (hno _ hmark)⟩
  | comparison hop =>
    obtain ⟨w, hw, hne, hplain⟩ := comparison?_spec hop
    exact ⟨w, hw, hne, .plain hplain (by simp)⟩
  | text hq hread =>
    obtain ⟨body, rfl, hlast, hbody⟩ := Template.closing?_readText hq hread
    exact ⟨c :: body, rfl, by simp, .text hq hlast hbody⟩
  | segment _ hc =>
    exact ⟨c :: rest.takeWhile isWordChar, by simp [List.takeWhile_append_dropWhile], by simp,
      .plain (List.forall_mem_cons.mpr ⟨plain_wordChar hc, hword⟩) (by simp)⟩
  | numeral hnumeral hread =>
    obtain ⟨n, rfl⟩ := readNumeral_eq_ok hread
    have hc : IsPlain c := plain_of_class (p := fun c => startsNumeral c rest) rfl rfl rfl hnumeral
    have hmore : ∀ d ∈ rest.takeWhile isNumeralChar, IsPlain d := fun d hd =>
      plain_of_class (p := isNumeralChar) (by decide) (by decide) (by decide) (List.mem_takeWhile_imp hd)
    exact ⟨c :: rest.takeWhile isNumeralChar, by simp [List.takeWhile_append_dropWhile], by simp,
      .plain (List.forall_mem_cons.mpr ⟨hc, hmore⟩) (by simp)⟩
  | word hstart hread =>
    have hc : IsPlain c := plain_of_class (p := isWordStart) (by decide) (by decide) (by decide) hstart
    obtain ⟨w, hw, hne, hlexeme⟩ := ofWord_lexeme (List.forall_mem_cons.mpr ⟨hc, hword⟩) (by simp) hread
    exact ⟨w, by rw [← hw]; simp [List.takeWhile_append_dropWhile], hne, hlexeme⟩

/-! ## Expressions -/

theorem Lexeme.passes {w r : List Char} {t : Token} (h : Lexeme w t r) (ht : ∀ key, t ≠ .storageKey key) :
    (∀ x, Passes w x) ∧ w.getLast? ≠ some '}' := by
  cases h with
  | plain hw _ =>
    exact ⟨Template.passes_of_forall hw, fun hl => (hw '}' (List.mem_of_getLast? hl)).2 rfl⟩
  | @text q body _ _ hq hlast hbody =>
    refine ⟨fun x => ?_, ?_⟩
    · rw [Passes, List.cons_append, Template.closing?_open hq, hbody, Option.map_map]
      rfl
    · rw [List.getLast?_cons, hlast]
      rcases hq with rfl | rfl <;> decide
  | key hr => exact absurd rfl (ht _)

/-- The scan finds the end of an expression behind a token if it finds it in what follows, and the
token is no storage key that holds the end or makes one with what follows. -/
theorem Lexeme.closing?_iff {w r x : List Char} {t : Token} (h : Lexeme w t r)
    (hquote : ∀ key, t = .storageKey key → ∀ c ∈ key.toList, ¬IsQuote c) :
    Template.closing? none (w ++ (r ++ '}' :: '}' :: x)) = some (w ++ r, x) ↔
      Template.closing? none (r ++ '}' :: '}' :: x) = some (r, x) ∧
        (∀ key, t = .storageKey key → Unbroken key.toList) ∧ (r = [] → w.getLast? ≠ some '}') := by
  by_cases ht : ∀ key, t ≠ .storageKey key
  · obtain ⟨hpasses, hlast⟩ := h.passes ht
    rw [(hpasses _).eq_some_iff]
    exact ⟨fun hx => ⟨hx, fun key he => absurd he (ht key), fun _ => hlast⟩, And.left⟩
  · cases h with
    | plain _ hno => exact absurd hno ht
    | text _ _ _ => exact absurd (by simp) ht
    | @key key _ hr =>
      have hq : ∀ c ∈ 'k' :: 'e' :: 'y' :: ':' :: key, ¬IsQuote c := by
        have := hquote _ rfl
        simpa [IsQuote] using this
      have hunbroken : Unbroken ('k' :: 'e' :: 'y' :: ':' :: key) ↔ Unbroken key := by
        simp [Template.unbroken_cons]
      simp only [Token.storageKey.injEq, forall_eq', String.toList_ofList]
      generalize 'k' :: 'e' :: 'y' :: ':' :: key = w at hq hunbroken ⊢
      -- a key ends where a brace does not stand, so only the closing braces can make a pair with its end
      have hhead : (r ++ '}' :: '}' :: x).head? = some '}' ↔ r = [] := by
        cases r with
        | nil => simp
        | cons c r =>
          have hc : c ≠ '}' := by
            rintro rfl
            exact absurd (Text.stops_cons.mp hr) (by decide)
          simpa using hc
      by_cases hgood : Unbroken w ∧ (w.getLast? = some '}' → (r ++ '}' :: '}' :: x).head? ≠ some '}')
      · rw [(Template.passes_of_unbroken hq hgood.1 hgood.2).eq_some_iff]
        refine ⟨fun hx => ⟨hx, hunbroken.mp hgood.1, fun hnil hl => hgood.2 hl (hhead.mpr hnil)⟩, And.left⟩
      · refine iff_of_false ?_ ?_
        · intro hw
          obtain ⟨s, y, hs, hlt⟩ := Template.closing?_broken (x := r ++ '}' :: '}' :: x) hq (by tauto)
          rw [hs] at hw
          cases hw
          simp at hlt
        · rintro ⟨-, hu, hl⟩
          exact hgood ⟨hunbroken.mpr hu, fun he hx => hl (hhead.mp hx) he⟩

theorem getLast?_append_ne_iff {w r : List Char} {c : Char} :
    (w ++ r).getLast? ≠ some c ↔ (r = [] → w.getLast? ≠ some c) ∧ r.getLast? ≠ some c := by
  cases r with
  | nil => simp
  | cons d r => simp [List.getLast?_append]

theorem scan_closing?_iff {x : List Char} : ∀ (fuel : Nat) {afterDot : Bool} {cs : List Char} {ts : List Token},
    cs.length ≤ fuel → scan afterDot fuel cs = .ok ts →
    (∀ key, .storageKey key ∈ ts → ∀ c ∈ key.toList, ¬IsQuote c) →
    (Template.closing? none (cs ++ '}' :: '}' :: x) = some (cs, x) ↔
      (∀ key, .storageKey key ∈ ts → Unbroken key.toList) ∧ cs.getLast? ≠ some '}')
  | fuel, _, [], ts, _, h, _ => by
    have hnil : ts = [] := by cases fuel <;> cases h <;> rfl
    subst hnil
    have hend : Template.closing? none ('}' :: '}' :: x) = some ([], x) := rfl
    simp [hend]
  | fuel + 1, afterDot, c :: rest, ts, hf, h, hquote => by
    have hlength : rest.length ≤ fuel := Nat.le_of_succ_le_succ hf
    rw [scan] at h
    split at h
    · rename_i hspace
      have hplain : ∀ d ∈ [c], IsPlain d := by
        simpa using plain_of_class (p := isSpace) (by decide) (by decide) (by decide) hspace
      have ih := scan_closing?_iff (x := x) fuel hlength h hquote
      have hpasses := Template.passes_of_forall hplain (rest ++ '}' :: '}' :: x)
      have hlast := (List.forall_mem_singleton.mp hplain).2
      show Template.closing? none ([c] ++ (rest ++ '}' :: '}' :: x)) = some ([c] ++ rest, x) ↔ _ ∧ ([c] ++ rest).getLast? ≠ _
      rw [hpasses.eq_some_iff, ih, getLast?_append_ne_iff]
      simp [hlast]
    · obtain ⟨⟨t, r⟩, hnext, h⟩ := bind_eq_ok.mp h
      obtain ⟨ts', hscan, h⟩ := bind_eq_ok.mp h
      cases h
      obtain ⟨w, hw, hne, hlexeme⟩ := next_lexeme hnext
      have hshort : r.length ≤ fuel := by
        have := congrArg List.length hw
        have := List.length_pos_iff.mpr hne
        simp only [List.length_cons, List.length_append] at *
        omega
      have ih := scan_closing?_iff (x := x) fuel hshort hscan fun key hk => hquote key (List.mem_cons_of_mem _ hk)
      rw [hw, List.append_assoc, hlexeme.closing?_iff fun key hk => hquote key (hk ▸ List.mem_cons_self), ih,
        getLast?_append_ne_iff]
      have hkeys : (∀ key, .storageKey key ∈ t :: ts' → Unbroken key.toList) ↔
          (∀ key, t = .storageKey key → Unbroken key.toList) ∧ ∀ key, .storageKey key ∈ ts' → Unbroken key.toList := by
        simp only [List.mem_cons, or_imp, forall_and, eq_comm]
      rw [hkeys]
      tauto

end Token

namespace Expr

open Template (IsQuote Unbroken)

/-- An expression of which no storage key holds a quote is read from between braces as it stands, and
its placeholder reaches over all of the text, just if no key holds two closing braces together and
none ends the expression with a closing brace. -/
theorem spans_iff {cs : List Char} {e : Expr} (h : ofText cs = .ok e) : ∃ ts, tokenize cs = .ok ts ∧
    ((∀ key, .storageKey key ∈ ts → ∀ c ∈ key.toList, ¬IsQuote c) →
      (Template.spans (Piece.placeholder cs).source = [⟨0, Template.byteLength (Piece.placeholder cs).source⟩] ∧
        Template.pieces (Piece.placeholder cs).source = [.placeholder cs] ↔
        (∀ key, .storageKey key ∈ ts → Unbroken key.toList) ∧ cs.getLast? ≠ some '}')) := by
  unfold ofText at h
  split at h
  · rename_i ts hts
    refine ⟨ts, hts, fun hquote => ?_⟩
    rw [Template.spans_placeholder_iff, Template.pieces_placeholder_iff, and_self, Template.enclosed_iff]
    exact Token.scan_closing?_iff _ le_rfl hts hquote
  · cases h

namespace Braced

def text : List Char := "key:a\x7db|default('\x7d\x7d')".toList

def tokens : List Token :=
  [.storageKey "a\x7db", .pipe, .ident "default", .openParen, .text "\x7d\x7d", .closeParen]

def expr : Expr := .piped (.ref ⟨.storage "a\x7db", []⟩) [⟨"default", [.string "\x7d\x7d"]⟩]

end Braced

theorem spans_iff_braced : ofText Braced.text = .ok Braced.expr ∧ tokenize Braced.text = .ok Braced.tokens ∧
    Template.spans (Piece.placeholder Braced.text).source = [⟨0, 25⟩] ∧
    Template.pieces (Piece.placeholder Braced.text).source = [.placeholder Braced.text] := by
  have hparse : ofText Braced.text = .ok Braced.expr := by cbv
  have htokens : tokenize Braced.text = .ok Braced.tokens := by cbv
  have hlength : Template.byteLength (Piece.placeholder Braced.text).source = 25 := by decide
  obtain ⟨ts, hts, h⟩ := spans_iff hparse
  obtain rfl : Braced.tokens = ts := Except.ok.inj (htokens.symm.trans hts)
  have hkey {p : String → Prop} (hp : p "a\x7db") : ∀ key, .storageKey key ∈ Braced.tokens → p key := by
    simpa [Braced.tokens] using hp
  rw [hlength] at h
  exact ⟨hparse, htokens, (h (hkey (by simp [IsQuote]))).mpr ⟨hkey (by decide), by decide⟩⟩

/-- An apostrophe in a key leaves the placeholder as text, since the scan takes it for a quote. -/
theorem not_spans : ¬∀ (cs : List Char) (e : Expr), ofText cs = .ok e →
    Template.spans (Piece.placeholder cs).source = [⟨0, Template.byteLength (Piece.placeholder cs).source⟩] := by
  intro h
  have hparse : ofText "key:it's".toList = .ok (.ref ⟨.storage "it's", []⟩) := by cbv
  have hspans : Template.spans (Piece.placeholder "key:it's".toList).source = [] := by decide +kernel
  exact absurd (hspans.symm.trans (h _ _ hparse)) (List.cons_ne_nil _ _).symm

end Expr

end FlowEngine
