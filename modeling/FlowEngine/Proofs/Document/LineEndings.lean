import Mathlib
import FlowEngine.Proofs.Document.Position
import FlowEngine.Proofs.Document.Values
import FlowEngine.Proofs.Workflow.Readable

/-!
# Line endings

A carriage return before a line end is skipped like a blank, or stands in a comment, or
else comes up where the line end itself would be an error. So two texts that differ in such
carriage returns only (`Rebroken`) are read alike, step by step (`readBlocks_agree`),
unless a string of several lines takes them in.
-/

namespace FlowEngine.Document

open Cursor

variable {α β γ δ : Type}

/-! ## The same text but for carriage returns -/

/-- Carriage returns may stand before line ends of the second text, and nowhere are there three
quotes in a row. -/
inductive Rebroken : List Char → List Char → Prop
  | nil : Rebroken [] []
  | char {c : Char} {r s : List Char} (hplain : ¬['"', '"', '"'] <+: c :: r) (h : Rebroken r s) :
    Rebroken (c :: r) (c :: s)
  | crlf {r s : List Char} (h : Rebroken r s) : Rebroken ('\n' :: r) ('\r' :: '\n' :: s)

structure Alike (c d : Cursor) : Prop where
  line : c.line = d.line
  rest : Rebroken c.rest d.rest

/-- The cursors of two readers that have the same character before them. -/
inductive Level : Cursor → Cursor → Prop
  | done (line : Nat) : Level ⟨[], line⟩ ⟨[], line⟩
  | char {c : Char} {r s : List Char} (line : Nat) (hplain : ¬['"', '"', '"'] <+: c :: r) (h : Rebroken r s) :
    Level ⟨c :: r, line⟩ ⟨c :: s, line⟩

namespace Rebroken

variable {r s : List Char}

theorem span (h : Rebroken r s) {p : Char → Bool} (hn : p '\n' = false) (hr : p '\r' = false) :
    r.takeWhile p = s.takeWhile p ∧ Rebroken (r.dropWhile p) (s.dropWhile p) := by
  induction h with
  | nil => exact ⟨rfl, .nil⟩
  | @char c r s hplain h ih =>
    by_cases hc : p c = true
    · simp [hc, ih]
    · simp [hc, Rebroken.char hplain h]
  | @crlf r s h ih => simp [hn, hr, Rebroken.crlf h]

theorem skipInline (h : Rebroken r s) (line : Nat) : Level (Cursor.skipInline ⟨r, line⟩) (Cursor.skipInline ⟨s, line⟩) := by
  unfold Cursor.skipInline moveTo
  induction h with
  | nil => exact .done line
  | @char c r s hplain h ih =>
    by_cases hc : isInlineBlank c = true
    · simpa [hc] using ih
    · simpa [hc] using .char line hplain h
  | crlf h ih => exact .char line (by simp) h

theorem skipLine (h : Rebroken r s) (line : Nat) :
    Level ⟨r.dropWhile (· != '\n'), line⟩ ⟨s.dropWhile (· != '\n'), line⟩ := by
  induction h with
  | nil => exact .done line
  | @char c r s hplain h ih =>
    by_cases hc : c = '\n'
    · simpa [hc] using .char line (by simp) h
    · simpa [hc] using ih
  | crlf h ih => exact .char line (by simp) h

theorem skipFrom (h : Rebroken r s) (inComment : Bool) (line : Nat) :
    Level (Cursor.skipFrom inComment line r) (Cursor.skipFrom inComment line s) := by
  induction h generalizing inComment line with
  | nil => exact .done line
  | @char c r s hplain h ih =>
    unfold Cursor.skipFrom
    split_ifs
    · exact ih false (line + 1)
    · exact ih inComment line
    · exact ih true line
    · exact .char line hplain h
  | crlf h ih => simpa [Cursor.skipFrom, isInlineBlank] using ih false (line + 1)

theorem plain (h : Rebroken r s) (hplain : ¬['"', '"', '"'] <+: '"' :: r) : ¬['"', '"', '"'] <+: '"' :: s := by
  rintro ⟨s', hs⟩
  cases hs
  obtain _ | ⟨-, h⟩ := h
  obtain _ | ⟨-, h⟩ := h
  exact hplain ⟨_, rfl⟩

theorem header (h : Rebroken r s) : (∃ r' s', r.dropWhile isNameChar = ']' :: r' ∧ s.dropWhile isNameChar = ']' :: s' ∧
      r.takeWhile isNameChar = s.takeWhile isNameChar ∧ Rebroken r' s') ∨
    (∀ r', r.dropWhile isNameChar ≠ ']' :: r') ∧ ∀ s', s.dropWhile isNameChar ≠ ']' :: s' := by
  induction h with
  | nil => right; simp
  | @char c r s hplain h ih =>
    by_cases hclose : c = ']'
    · left
      subst hclose
      exact ⟨r, s, rfl, rfl, rfl, h⟩
    by_cases hn : c = '\n'
    · right
      simp [hn, isNameChar]
    have hc : isNameChar c = true := by simp [isNameChar, hclose, hn]
    obtain ⟨r', s', hr, hs, htake, h'⟩ | ⟨hr, hs⟩ := ih
    · left
      exact ⟨r', s', by simpa [hc], by simpa [hc], by simpa [hc], h'⟩
    · right
      simpa [hc] using ⟨hr, hs⟩
  | crlf h ih => right; simp [isNameChar]

end Rebroken

/-! ## Cursors in step -/

theorem skipComment_of_ne {ch : Char} (h : ch ≠ '#') (r : List Char) (line : Nat) :
    Cursor.skipComment ⟨ch :: r, line⟩ = ⟨ch :: r, line⟩ := by
  unfold Cursor.skipComment
  split
  · rename_i he
    exact absurd (List.cons.inj he).1 h
  · rfl

section
variable {c d : Cursor}

theorem Level.alike (h : Level c d) : Alike c d := by
  cases h with
  | done line => exact ⟨rfl, .nil⟩
  | char line hplain h => exact ⟨rfl, .char hplain h⟩

theorem Level.head?_eq (h : Level c d) : d.rest.head? = c.rest.head? := by
  cases h <;> rfl

theorem Level.skipComment (h : Level c d) : Level c.skipComment d.skipComment := by
  cases h with
  | done line => exact .done line
  | @char ch r s line hplain h =>
    by_cases hc : ch = '#'
    · subst hc
      exact (Rebroken.char hplain h).skipLine line
    · rw [skipComment_of_ne hc, skipComment_of_ne hc]
      exact .char line hplain h

theorem Alike.skipInline (h : Alike c d) : Level c.skipInline d.skipInline := by
  obtain ⟨r, line⟩ := c
  obtain ⟨s, line'⟩ := d
  obtain ⟨rfl, hrest⟩ := h
  exact hrest.skipInline line

theorem Alike.skipAll (h : Alike c d) : Level c.skipAll d.skipAll := by
  unfold Cursor.skipAll
  rw [← h.line]
  exact h.rest.skipFrom false c.line

end

/-! ## Readers in step -/

/-- Both fail, or both answer and the answers are related. -/
inductive Agree (R : α → β → Prop) : Except SyntaxError α → Except SyntaxError β → Prop
  | ok {a : α} {b : β} (h : R a b) : Agree R (.ok a) (.ok b)
  | error (e f : SyntaxError) : Agree R (.error e) (.error f)

namespace Agree

variable {R : α → β → Prop} {S : γ → δ → Prop} {x : Except SyntaxError α} {y : Except SyntaxError β}

theorem bind (h : Agree R x y) {f : α → Except SyntaxError γ} {g : β → Except SyntaxError δ}
    (hfg : ∀ a b, x = .ok a → y = .ok b → R a b → Agree S (f a) (g b)) : Agree S (x >>= f) (y >>= g) := by
  cases h with
  | ok h => exact hfg _ _ rfl rfl h
  | error e f => exact .error e f

theorem map (h : Agree R x y) {f : α → γ} {g : β → δ} (hfg : ∀ a b, R a b → S (f a) (g b)) :
    Agree S (x.map f) (y.map g) := by
  cases h with
  | ok h => exact .ok (hfg _ _ h)
  | error e f => exact .error e f

theorem ok_iff {x y : Except SyntaxError α} (h : Agree Eq x y) (a : α) : y = .ok a ↔ x = .ok a := by
  cases h with
  | ok h => rw [h]
  | error e f => simp

end Agree

def Same (p q : α × Cursor) : Prop := p.1 = q.1 ∧ Alike p.2 q.2

theorem endLine_agree {c d : Cursor} (h : Alike c d) : Agree Alike (endLine c) (endLine d) := by
  have hskip := h.skipInline.skipComment
  unfold endLine
  generalize c.skipInline.skipComment = c at hskip
  generalize d.skipInline.skipComment = d at hskip
  cases hskip with
  | done line => exact .ok ⟨rfl, .nil⟩
  | @char ch r s line hplain h =>
    by_cases hn : ch = '\n'
    · subst hn
      exact .ok ⟨rfl, h⟩
    · simp only
      exact .error _ _

/-! ## Strings and words -/

theorem readQuotedFrom_agree {quote : Char} (hquote : quote ≠ '\r') {line : Nat} {r s : List Char} (h : Rebroken r s) :
    Agree (fun p q => p.1 = q.1 ∧ Rebroken p.2 q.2) (readQuotedFrom quote line r) (readQuotedFrom quote line s) := by
  fun_induction readQuotedFrom quote line r generalizing s with
  | case1 =>
    cases h
    exact .error _ _
  | case2 =>
    obtain _ | ⟨-, h⟩ := h
    cases h
    exact .error _ _
  | case3 e r he =>
    obtain _ | ⟨-, h⟩ := h
    cases h with
    | char _ h => simpa only [readQuotedFrom, he] using .error _ _
    | crlf h => exact .error _ _
  | case4 e r ch he ih =>
    obtain _ | ⟨-, h⟩ := h
    cases h with
    | char _ h =>
      simp only [readQuotedFrom, he]
      exact (ih h).map fun _ _ hp => ⟨congrArg (ch :: ·) hp.1, hp.2⟩
    | crlf h => cases he
  | case5 r =>
    -- a string that meets its line end fails, one character later if a carriage return is before it
    cases h with
    | char _ h => simpa [readQuotedFrom] using .error _ _
    | crlf h => simpa [readQuotedFrom, hquote.symm] using .error _ _
  | case6 r hb hn =>
    cases h with
    | char _ h => simpa [readQuotedFrom, hn] using .ok ⟨rfl, h⟩
    | crlf h => cases hn rfl
  | case7 ch r hb hn hq ih =>
    cases h with
    | char _ h =>
      simp only [readQuotedFrom, hn, hq, if_false]
      exact (ih h).map fun _ _ hp => ⟨congrArg (ch :: ·) hp.1, hp.2⟩
    | crlf h => cases hn rfl

theorem readQuoted_agree {quote : Char} (hquote : quote ≠ '\r') {r s r' s' : List Char} (line : Nat) (h : Rebroken r s) :
    Agree Same (readQuoted quote ⟨r', line⟩ r) (readQuoted quote ⟨s', line⟩ s) :=
  (readQuotedFrom_agree hquote h).map fun _ _ hp => ⟨congrArg String.ofList hp.1, rfl, hp.2⟩

theorem readWord_same {c d : Cursor} (h : Alike c d) : Same (readWord c) (readWord d) := by
  obtain ⟨hword, hrest⟩ := h.rest.span (p := isIdentChar) (by decide) (by decide)
  exact ⟨congrArg String.ofList hword, h.line, hrest⟩

theorem TakesQuotes.agree {read bare : Read String} (h : TakesQuotes read bare)
    (hbare : ∀ c d, Level c d → Agree Same (bare c) (bare d)) {c d : Cursor} (hcd : Level c d) :
    Agree Same (read c) (read d) := by
  by_cases hd : c.rest.head? = some '"'
  · cases hcd with
    | done line => cases hd
    | char line hplain hrs =>
      cases hd
      rw [h.double, h.double]
      exact readQuoted_agree (by decide) line hrs
  by_cases hs : c.rest.head? = some '\''
  · cases hcd with
    | done line => cases hs
    | char line hplain hrs =>
      cases hs
      rw [h.single, h.single]
      exact readQuoted_agree (by decide) line hrs
  · have hhead := hcd.head?_eq
    rw [h.other c hd hs, h.other d (by rwa [hhead]) (by rwa [hhead])]
    exact hbare c d hcd

theorem readKey_agree {c d : Cursor} (h : Level c d) : Agree Same (readKey c) (readKey d) := by
  apply readKey_takesQuotes.agree _ h
  intro c d hcd
  unfold readBareKey
  cases hcd with
  | done line => exact .error _ _
  | @char ch r s line hplain h =>
    obtain ⟨hword, hrest⟩ := (Rebroken.char hplain h).span (p := isKeyChar) (by decide) (by decide)
    simp only
    split_ifs
    · exact .ok ⟨congrArg String.ofList hword, rfl, hrest⟩
    · exact .error _ _

theorem readTarget_agree {c d : Cursor} (h : Level c d) : Agree Same (readTarget c) (readTarget d) := by
  apply readTarget_takesQuotes.agree _ h
  intro c d hcd
  unfold readBareTarget
  cases hcd with
  | done line => exact .error _ _
  | @char ch r s line hplain h =>
    simp only
    split_ifs
    · exact .ok (readWord_same ⟨rfl, .char hplain h⟩)
    · exact .error _ _

theorem readNumber_agree {c d : Cursor} (h : Alike c d) : Agree Same (readNumber c) (readNumber d) := by
  obtain ⟨htext, hrest⟩ := h.rest.span (p := isNumeralChar) (by decide) (by decide)
  unfold readNumber
  simp only [htext]
  split
  · exact .ok ⟨rfl, h.line, hrest⟩
  · exact .error _ _

/-! ## Values -/

/-- Two readers that read texts below the given lengths alike. -/
def AgreeBelow (m n : Nat) (f g : Read α) : Prop :=
  ∀ c d, Level c d → c.rest.length < m → d.rest.length < n → Agree Same (f c) (g d)

section
variable {m n : Nat} {item item' : Read α} (hitem : Advances item) (hitem' : Advances item')
  (h : AgreeBelow m n item item')
include hitem hitem' h

theorem readItems_agree {close : Char} {start start' : Nat} : ∀ {f g : Nat} {c d : Cursor}, f ≤ m → g ≤ n →
    c.rest.length < f → d.rest.length < g → Alike c d →
    Agree Same (readItems close item start f c) (readItems close item' start' g d)
  | 0, _, _, _, _, _, hc, _, _ => by omega
  | _ + 1, 0, _, _, _, _, _, hd, _ => by omega
  | f + 1, g + 1, c, d, hf, hg, hc, hd, hcd => by
    have hskip := hcd.skipAll
    have hc1 := (reaches_skipAll c).length_le
    have hd1 := (reaches_skipAll d).length_le
    unfold readItems
    simp only
    generalize c.skipAll = c1 at hskip hc1
    generalize d.skipAll = d1 at hskip hd1
    cases hskip with
    | done line => exact .error _ _
    | @char ch r s line hplain hrs =>
      simp only
      split_ifs
      · exact .ok ⟨rfl, rfl, hrs⟩
      apply (h _ _ (.char line hplain hrs) (by omega) (by omega)).bind
      rintro ⟨x, c2⟩ ⟨y, d2⟩ hx hy ⟨hxy, hcd2⟩
      cases hxy
      have hskip2 := hcd2.skipAll
      have hc3 := ((hitem _ _ _ hx).trans (reaches_skipAll c2)).length_le
      have hd3 := ((hitem' _ _ _ hy).trans (reaches_skipAll d2)).length_le
      simp only
      generalize c2.skipAll = c3 at hskip2 hc3
      generalize d2.skipAll = d3 at hskip2 hd3
      cases hskip2 with
      | done line => exact .error _ _
      | @char ch r' s' line hplain hrs =>
        simp only [List.length_cons] at hc1 hd1 hc3 hd3 ⊢
        split_ifs
        · have hrest : Alike ⟨r', line⟩ ⟨s', line⟩ := ⟨rfl, hrs⟩
          apply (readItems_agree (by omega) (by omega) (by simp only; omega) (by simp only; omega) hrest).bind
          rintro ⟨xs, c4⟩ ⟨ys, d4⟩ - - ⟨rfl, hcd4⟩
          exact .ok ⟨rfl, hcd4⟩
        · exact .ok ⟨rfl, rfl, hrs⟩
        · exact .error _ _

theorem readDelimited_agree (close opening : Char) (line : Nat) {r s : List Char} (hr : r.length < m) (hs : s.length < n)
    (hrs : Rebroken r s) :
    Agree Same (readDelimited close item ⟨opening :: r, line⟩) (readDelimited close item' ⟨opening :: s, line⟩) :=
  readItems_agree hitem hitem' h hr hs (Nat.lt_succ_self _) (Nat.lt_succ_self _) ⟨rfl, hrs⟩

end

theorem readMapEntry_agree {m n : Nat} {value value' : Read Value} (h : AgreeBelow m n value value') :
    AgreeBelow m n (readMapEntry value) (readMapEntry value') := by
  intro c d hcd hc hd
  unfold readMapEntry
  apply (readKey_agree hcd).bind
  rintro ⟨key, c1⟩ ⟨key', d1⟩ hkey hkey' ⟨hk, hcd1⟩
  cases hk
  have hskip := hcd1.skipInline
  have hc1 := ((readKey_reaches _ _ _ hkey).trans (reaches_skipInline c1)).length_le
  have hd1 := ((readKey_reaches _ _ _ hkey').trans (reaches_skipInline d1)).length_le
  simp only
  generalize c1.skipInline = c2 at hskip hc1
  generalize d1.skipInline = d2 at hskip hd1
  cases hskip with
  | done line => exact .error _ _
  | @char ch r s line hplain hrs =>
    by_cases he : ch = '='
    · subst he
      have hcr := (reaches_skipInline ⟨r, line⟩).length_le
      have hds := (reaches_skipInline ⟨s, line⟩).length_le
      simp only [List.length_cons] at hc1 hd1 hcr hds
      have hvalue : Alike ⟨r, line⟩ ⟨s, line⟩ := ⟨rfl, hrs⟩
      apply (h _ _ hvalue.skipInline (by omega) (by omega)).bind
      rintro ⟨v, c4⟩ ⟨w, d4⟩ - - ⟨hv, hcd4⟩
      cases hv
      exact .ok ⟨rfl, hcd4⟩
    · split
      · exact absurd (List.cons.inj ‹ch :: r = _›).1 he
      split
      · exact absurd (List.cons.inj ‹ch :: s = _›).1 he
      exact .error _ _

theorem readValue_quoted {r : List Char} (hplain : ¬['"', '"', '"'] <+: '"' :: r) (fuel line : Nat) :
    readValue (fuel + 1) ⟨'"' :: r, line⟩ = (readQuoted '"' ⟨'"' :: r, line⟩ r).map fun (s, c) => (.string s, c) := by
  rw [readValue.eq_def]
  simp only
  split
  · cases ‹ '"' :: r = []›
  · cases ‹ '"' :: r = _›
    exact absurd ⟨_, rfl⟩ hplain
  · cases ‹ '"' :: r = _›
    rfl
  · cases ‹ '"' :: r = _›
  · cases ‹ '"' :: r = _›
  · cases ‹ '"' :: r = _›
  · rename_i hch _ _ _ hr
    exact absurd (List.cons.inj hr).1.symm hch

theorem readValue_agree : ∀ f g : Nat, AgreeBelow f g (readValue f) (readValue g)
  | 0, _, _, _, _, hc, _ => by omega
  | _ + 1, 0, _, _, _, _, hd => by omega
  | f + 1, g + 1, c, d, hcd, hc, hd => by
    have ih := readValue_agree f g
    cases hcd with
    | done line => exact .error _ _
    | @char ch r s line hplain h =>
      simp only [List.length_cons] at hc hd
      by_cases hdouble : ch = '"'
      · subst hdouble
        rw [readValue_quoted hplain, readValue_quoted (h.plain hplain)]
        exact (readQuoted_agree (by decide) line h).map fun _ _ hp => ⟨congrArg Value.string hp.1, hp.2⟩
      by_cases hsingle : ch = '\''
      · subst hsingle
        exact (readQuoted_agree (by decide) line h).map fun _ _ hp => ⟨congrArg Value.string hp.1, hp.2⟩
      by_cases hlist : ch = '['
      · subst hlist
        have hitems := readDelimited_agree (readValue_reaches f) (readValue_reaches g) ih ']' '[' line (by omega)
          (by omega) h
        exact hitems.map fun _ _ hp => ⟨congrArg Value.list hp.1, hp.2⟩
      by_cases hmap : ch = '{'
      · subst hmap
        have hentries := readDelimited_agree (readMapEntry_reaches (readValue_reaches f))
          (readMapEntry_reaches (readValue_reaches g)) (readMapEntry_agree ih) '}' '{' line (by omega) (by omega) h
        apply hentries.bind
        rintro ⟨es, c1⟩ ⟨es', d1⟩ - - ⟨rfl, hcd1⟩
        simp only
        split
        · exact .error _ _
        · exact .ok ⟨rfl, hcd1⟩
      have hbare : ch ∉ ['"', '\'', '[', '{'] := by simp [hdouble, hsingle, hlist, hmap]
      rw [readValue_bare f hbare, readValue_bare g hbare]
      split_ifs
      · exact readNumber_agree ⟨rfl, .char hplain h⟩
      · have hword := readWord_same (c := ⟨ch :: r, line⟩) (d := ⟨ch :: s, line⟩) ⟨rfl, .char hplain h⟩
        exact .ok ⟨congrArg wordValue hword.1, hword.2⟩
      · exact .error _ _
      · exact .error _ _

/-- The fuel may be no more than what is left, since nothing is left where it runs out. -/
theorem Continues.agree {item : Nat → Read α} {more : Nat → Read (List α)} (hmore : Continues item more)
    (hitem : ∀ n, Advances (item n)) (hagree : ∀ m n, AgreeBelow m n (item m) (item n)) {f g : Nat} {c d : Cursor}
    (hc : c.rest.length ≤ f) (hd : d.rest.length ≤ g) (h : Level c d) : Agree Same (more f c) (more g d) := by
  induction f generalizing g c d with
  | zero =>
    cases h with
    | done line =>
      rw [hmore.stop, hmore.stop]
      · exact .ok ⟨rfl, rfl, .nil⟩
      all_goals simp
    | char line hplain h => simp at hc
  | succ f ih =>
    have hcd := h.alike
    cases h with
    | done line =>
      rw [hmore.stop, hmore.stop]
      · exact .ok ⟨rfl, hcd⟩
      all_goals simp
    | @char ch r s line hplain h =>
      by_cases hcomma : ch = ','
      · subst hcomma
        obtain _ | g := g
        · simp at hd
        have hcr := (reaches_skipInline ⟨r, line⟩).length_le
        have hds := (reaches_skipInline ⟨s, line⟩).length_le
        simp only [List.length_cons] at hc hd hcr hds
        have hvalue : Alike ⟨r, line⟩ ⟨s, line⟩ := ⟨rfl, h⟩
        rw [hmore.comma, hmore.comma]
        apply (hagree _ _ _ _ hvalue.skipInline (by omega) (by omega)).bind
        rintro ⟨x, c1⟩ ⟨y, d1⟩ hx hy ⟨hxy, hcd1⟩
        cases hxy
        have hc1 := ((hitem _ _ _ _ hx).trans (reaches_skipInline c1)).length_le
        have hd1 := ((hitem _ _ _ _ hy).trans (reaches_skipInline d1)).length_le
        have hrest : Level c1.skipInline d1.skipInline := hcd1.skipInline
        apply (ih (g := g) (by omega) (by omega) hrest).bind
        rintro ⟨xs, c2⟩ ⟨ys, d2⟩ - - ⟨hxs, hcd2⟩
        cases hxs
        exact .ok ⟨rfl, hcd2⟩
      · rw [hmore.stop, hmore.stop]
        · exact .ok ⟨rfl, hcd⟩
        all_goals simpa using hcomma

theorem readEntryValue_agree {c d : Cursor} (h : Level c d) : Agree Same (readEntryValue c) (readEntryValue d) := by
  unfold readEntryValue
  apply (readValue_agree _ _ _ _ h (Nat.lt_succ_self _) (Nat.lt_succ_self _)).bind
  rintro ⟨v, c1⟩ ⟨w, d1⟩ - - ⟨hvw, hcd1⟩
  cases hvw
  apply (readMoreValues_continues.agree readValue_reaches readValue_agree (reaches_skipInline _).length_le
    (reaches_skipInline _).length_le hcd1.skipInline).bind
  rintro ⟨vs, c2⟩ ⟨ws, d2⟩ - - ⟨hvs, hcd2⟩
  cases hvs
  exact .ok ⟨rfl, hcd2⟩

/-! ## Routings -/

theorem readTarget_agreeBelow (m n : Nat) : AgreeBelow m n readTarget readTarget := fun _ _ h _ _ => readTarget_agree h

theorem readRouting_fan {c : Cursor} (hlist : c.rest.head? ≠ some '[') (hmap : c.rest.head? ≠ some '\x7b') :
    readRouting c = (do
      let (t, c) ← readTarget c
      let (ts, c) ← readMoreTargets c.rest.length c.skipInline
      .ok (.fanOut (t :: ts), c)) := by
  unfold readRouting
  split
  · simp [*] at hlist
  · simp [*] at hmap
  · rfl

theorem readFan_agree {c d : Cursor} (h : Level c d) (hlist : c.rest.head? ≠ some '[') (hmap : c.rest.head? ≠ some '\x7b') :
    Agree Same (readRouting c) (readRouting d) := by
  have hhead := h.head?_eq
  rw [readRouting_fan hlist hmap, readRouting_fan (by rwa [hhead]) (by rwa [hhead])]
  apply (readTarget_agree h).bind
  rintro ⟨t, c1⟩ ⟨u, d1⟩ - - ⟨htu, hcd1⟩
  cases htu
  apply (readMoreTargets_continues.agree (fun _ => readTarget_reaches) readTarget_agreeBelow
    (reaches_skipInline _).length_le (reaches_skipInline _).length_le hcd1.skipInline).bind
  rintro ⟨ts, c2⟩ ⟨us, d2⟩ - - ⟨hts, hcd2⟩
  cases hts
  exact .ok ⟨rfl, hcd2⟩

theorem readRouting_agree {c d : Cursor} (h : Level c d) : Agree Same (readRouting c) (readRouting d) := by
  by_cases hlist : c.rest.head? = some '['
  · cases h with
    | done line => cases hlist
    | @char ch r s line hplain h =>
      cases hlist
      have htargets := readDelimited_agree readTarget_reaches readTarget_reaches (readTarget_agreeBelow _ _) ']' '[' line
        (Nat.lt_succ_self _) (Nat.lt_succ_self _) h
      apply htargets.map
      rintro ⟨ts, c1⟩ ⟨us, d1⟩ ⟨hts, hcd1⟩
      cases hts
      exact ⟨rfl, hcd1⟩
  by_cases hmap : c.rest.head? = some '\x7b'
  · cases h with
    | done line => cases hmap
    | @char ch r s line hplain h =>
      cases hmap
      have htargets := readDelimited_agree readTarget_reaches readTarget_reaches (readTarget_agreeBelow _ _) '}' '{' line
        (Nat.lt_succ_self _) (Nat.lt_succ_self _) h
      exact htargets.map fun _ _ hp => ⟨congrArg Routing.select hp.1, hp.2⟩
  · exact readFan_agree h hlist hmap

/-! ## Headers and entries -/

theorem readHeader_agree {r s : List Char} (line : Nat) (h : Rebroken r s) :
    Agree Same (readHeader ⟨'[' :: r, line⟩) (readHeader ⟨'[' :: s, line⟩) := by
  rw [readHeader_cons, readHeader_cons]
  obtain ⟨r', s', hr, hs, hname, hrest⟩ | ⟨hr, hs⟩ := h.header
  · simp only [hr, hs, hname]
    split_ifs
    · exact .error _ _
    have hend : Alike ⟨r', line⟩ ⟨s', line⟩ := ⟨rfl, hrest⟩
    apply (endLine_agree hend).bind
    intro c d _ _ hcd
    exact .ok ⟨rfl, hcd⟩
  · split
    · exact absurd ‹_› (hr _)
    · split
      · exact absurd ‹_› (hs _)
      · exact .error _ _
      · exact .error _ _
    · split
      · exact absurd ‹_› (hs _)
      · exact .error _ _
      · exact .error _ _

theorem readInto_agree (body : Body) (key : String) {c d : Cursor} (h : Level c d) :
    Agree Same (readInto body key c) (readInto body key d) := by
  cases body with
  | values entries =>
    apply (readEntryValue_agree h).map
    rintro ⟨v, c1⟩ ⟨w, d1⟩ ⟨hvw, hcd1⟩
    cases hvw
    exact ⟨rfl, hcd1⟩
  | routes edges =>
    apply (readRouting_agree h).map
    rintro ⟨v, c1⟩ ⟨w, d1⟩ ⟨hvw, hcd1⟩
    cases hvw
    exact ⟨rfl, hcd1⟩

theorem readEntry_agree (b : Block) {c d : Cursor} (h : Level c d) : Agree Same (readEntry b c) (readEntry b d) := by
  unfold readEntry
  apply (readKey_agree h).bind
  rintro ⟨key, c1⟩ ⟨key', d1⟩ - - ⟨hk, hcd1⟩
  cases hk
  have hskip := hcd1.skipInline
  simp only
  generalize c1.skipInline = c2 at hskip
  generalize d1.skipInline = d2 at hskip
  cases hskip with
  | done line => exact .error _ _
  | @char ch r s line hplain hrs =>
    by_cases he : ch = '='
    · subst he
      have hvalue : Alike ⟨r, line⟩ ⟨s, line⟩ := ⟨rfl, hrs⟩
      apply (readInto_agree b.body key hvalue.skipInline).bind
      rintro ⟨body, c3⟩ ⟨body', d3⟩ - - ⟨hb, hcd3⟩
      cases hb
      apply (endLine_agree hcd3).bind
      rintro c4 d4 - - hcd4
      split_ifs
      · exact .error _ _
      · exact .ok ⟨rfl, hcd4⟩
    · split
      · exact absurd (List.cons.inj ‹ch :: r = _›).1 he
      split
      · exact absurd (List.cons.inj ‹ch :: s = _›).1 he
      exact .error _ _

/-! ## Documents -/

theorem readBlocks_agree : ∀ {f g : Nat} (done : List Block) {c d : Cursor}, c.rest.length < f → d.rest.length < g →
    Alike c d → Agree Eq (readBlocks f done c) (readBlocks g done d)
  | 0, _, _, _, _, hc, _, _ => by omega
  | _ + 1, 0, _, _, _, _, hd, _ => by omega
  | f + 1, g + 1, done, c, d, hc, hd, hcd => by
    -- the texts differ in length and so do the fuels, but each fuel is more than what is left to read
    have hskip := hcd.skipAll
    have hc1 := (reaches_skipAll c).length_le
    have hd1 := (reaches_skipAll d).length_le
    generalize hcskip : c.skipAll = c1 at hskip hc1
    generalize hdskip : d.skipAll = d1 at hskip hd1
    cases hskip with
    | done line =>
      unfold readBlocks
      simp only [hcskip, hdskip]
      exact .ok rfl
    | @char ch r s line hplain hrs =>
      simp only [List.length_cons] at hc1 hd1
      by_cases hheader : ch = '['
      · subst hheader
        unfold readBlocks
        simp only [hcskip, hdskip]
        apply (readHeader_agree line hrs).bind
        rintro ⟨name, c2⟩ ⟨name', d2⟩ hname hname' ⟨hn, hcd2⟩
        cases hn
        have hc2 := (readHeader_reaches hname).length_le
        have hd2 := (readHeader_reaches hname').length_le
        simp only at hc2 hd2 ⊢
        split_ifs
        · exact .error _ _
        · exact readBlocks_agree _ (by omega) (by omega) hcd2
        · exact readBlocks_agree _ (by omega) (by omega) hcd2
      cases done with
      | nil =>
        rw [readBlocks_outside hcskip f hheader, readBlocks_outside hdskip g hheader]
        exact .error _ _
      | cons b bs =>
        rw [readBlocks_entry hcskip f hheader, readBlocks_entry hdskip g hheader]
        apply (readEntry_agree b (.char line hplain hrs)).bind
        rintro ⟨b1, c2⟩ ⟨b2, d2⟩ hb1 hb2 ⟨hb, hcd2⟩
        cases hb
        have hc2 := readEntry_length_lt hb1
        have hd2 := readEntry_length_lt hb2
        simp only [List.length_cons] at hc2 hd2
        exact readBlocks_agree _ (by simp only; omega) (by simp only; omega) hcd2

theorem blocks_agree {text text' : String} (h : Rebroken text.toList text'.toList) :
    Agree Eq (blocks text) (blocks text') := by
  unfold blocks
  apply readBlocks_agree
  · exact Nat.lt_add_one _
  · exact Nat.lt_add_one _
  · exact ⟨rfl, h⟩

end FlowEngine.Document

namespace FlowEngine.Workflow

open Document (Rebroken Block blocks_agree)

/-- Every line of a text ended as on systems that write a carriage return first. -/
def withCarriageReturns (text : String) : String :=
  String.ofList (text.toList.flatMap fun c => if c = '\n' then ['\r', '\n'] else [c])

theorem rebroken_flatMap {cs : List Char} (h : ¬['"', '"', '"'] <:+: cs) :
    Rebroken cs (cs.flatMap fun c => if c = '\n' then ['\r', '\n'] else [c]) := by
  induction cs with
  | nil => exact .nil
  | cons c cs ih =>
    have hrest := ih fun hin => h (hin.trans (List.suffix_cons c cs).isInfix)
    rw [List.flatMap_cons]
    by_cases hn : c = '\n'
    · rw [if_pos hn, hn]
      exact .crlf hrest
    · rw [if_neg hn]
      exact .char (fun hpre => h hpre.isInfix) hrest

theorem blocks_withCarriageReturns {text : String} (h : ¬['"', '"', '"'] <:+: text.toList) (bs : List Block) :
    Document.blocks (withCarriageReturns text) = .ok bs ↔ Document.blocks text = .ok bs := by
  have hstart : Rebroken text.toList (withCarriageReturns text).toList := by
    unfold withCarriageReturns
    rw [String.toList_ofList]
    exact rebroken_flatMap h
  exact (blocks_agree hstart).ok_iff bs

/-- Line endings do not matter, not even to the lines that blocks are on. -/
theorem parse_withCarriageReturns {text : String} (h : ¬['"', '"', '"'] <:+: text.toList) (w : Workflow) :
    parse (withCarriageReturns text) = .ok w ↔ parse text = .ok w := by
  rw [parse_eq_ok, parse_eq_ok]
  simp only [blocks_withCarriageReturns h]

def broken : String :=
  "[workflow] # one\nstart_node = A\n\n[node.A]\ntype = 'x'\nv = [1, # two\n 2]\nm = \x7b k = true\n\x7d\n[edges]\nA = [A,\nB]\n"

set_option maxRecDepth 20000 in
theorem parse_broken : (¬['"', '"', '"'] <:+: broken.toList) ∧ ∃ w, parse (withCarriageReturns broken) = .ok w ∧
    parse broken = .ok w ∧ w.edges = [("A", .branch ["A", "B"])] := by
  have hplain : ¬['"', '"', '"'] <:+: broken.toList := by decide +kernel
  have hedges : (parse broken).toOption.map edges = some [("A", .branch ["A", "B"])] := by decide +kernel
  cases hw : parse broken with
  | error e =>
    rw [hw] at hedges
    cases hedges
  | ok w =>
    rw [hw] at hedges
    exact ⟨hplain, w, (parse_withCarriageReturns hplain w).mpr hw, rfl, Option.some.inj hedges⟩

end FlowEngine.Workflow
