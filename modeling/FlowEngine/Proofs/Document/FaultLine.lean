import Mathlib
import FlowEngine.Proofs.Document.Position
import FlowEngine.Proofs.Text.Span
import FlowEngine.Proofs.Workflow.Readable

/-!
# The lines of lexical faults

A header, a string or a key that is broken off is reported on the line it begins on, unless the
character that breaks it off is a line end that was read already (`Workflow.parse_lexical_iff`).
For that the places are told apart that a reader comes to (`Course`) and what can be wrong at a
place (`Defect`).
-/

namespace FlowEngine.Document

open Cursor

variable {α β : Type}

/-! ## What can be wrong at a place -/

/-- A header, a string or a key that is broken off, or an escape within a string. -/
def SyntaxFault.isLexical : SyntaxFault → Bool
  | unterminatedHeader | unterminatedString | unknownEscape _ | unterminatedEscape => true
  | missingEquals _ | missingEqualsInMap _ => true
  | _ => false

inductive Place where
  | header
  | entryKey
  | mapKey
  | string
  | multiline

/-- How a string of one line breaks off after its opening quote, and how many line ends are read in it. -/
inductive Unclosed (quote : Char) : List Char → SyntaxFault → Nat → Prop
  | done : Unclosed quote [] .unterminatedString 0
  | newline (r : List Char) : Unclosed quote ('\n' :: r) .unterminatedString 0
  | escapeDone : Unclosed quote ['\\'] .unterminatedEscape 0
  | escapeUnknown {ch : Char} (hch : escaped? ch = none) (r : List Char) :
    Unclosed quote ('\\' :: ch :: r) (.unknownEscape ch) (lineAfter 0 ch)
  | char {ch : Char} {r : List Char} {fault : SyntaxFault} {late : Nat} (hb : ch ≠ '\\') (hn : ch ≠ '\n')
    (hq : ch ≠ quote) (h : Unclosed quote r fault late) : Unclosed quote (ch :: r) fault late
  | escape {ch s : Char} {r : List Char} {fault : SyntaxFault} {late : Nat} (hch : escaped? ch = some s)
    (h : Unclosed quote r fault late) : Unclosed quote ('\\' :: ch :: r) fault late

/-- How an escape is wrong in a string of several lines, and how many line ends are read before. -/
inductive BadEscape : List Char → SyntaxFault → Nat → Prop
  | done : BadEscape ['\\'] .unterminatedEscape 0
  | unknown {ch : Char} (hch : escaped? ch = none) (r : List Char) :
    BadEscape ('\\' :: ch :: r) (.unknownEscape ch) (lineAfter 0 ch)
  | char {ch : Char} {r : List Char} {fault : SyntaxFault} {late : Nat} (hopen : ¬['"', '"', '"'] <+: ch :: r)
    (hb : ch ≠ '\\') (h : BadEscape r fault late) : BadEscape (ch :: r) fault (lineAfter late ch)
  | escape {ch s : Char} {r : List Char} {fault : SyntaxFault} {late : Nat} (hch : escaped? ch = some s)
    (h : BadEscape r fault late) : BadEscape ('\\' :: ch :: r) fault late

/-- What is wrong at a place, and how many line ends are read there before it is reported. -/
inductive Defect (c : Cursor) : Place → SyntaxFault → Nat → Prop
  | headerOpen {name : List Char} (hc : c.rest = '[' :: name) (hname : ∀ ch ∈ name, ch ≠ ']' ∧ ch ≠ '\n') :
    Defect c .header .unterminatedHeader 0
  | headerBroken {name r : List Char} (hc : c.rest = '[' :: (name ++ '\n' :: r))
    (hname : ∀ ch ∈ name, ch ≠ ']' ∧ ch ≠ '\n') : Defect c .header .unterminatedHeader 1
  | string {quote : Char} {body : List Char} {fault : SyntaxFault} {late : Nat} (hc : c.rest = quote :: body)
    (hquote : quote = '"' ∨ quote = '\'') (h : Unclosed quote body fault late) : Defect c .string fault late
  | multiline {body : List Char} {fault : SyntaxFault} {late : Nat} (hc : c.rest = '"' :: '"' :: '"' :: body)
    (h : BadEscape body fault late) : Defect c .multiline fault late
  | entryKey {key : String} {d : Cursor} (hkey : readKey c = .ok (key, d))
    (h : d.skipInline.rest.head? ≠ some '=') : Defect c .entryKey (.missingEquals key) 0
  | mapKey {key : String} {d : Cursor} (hkey : readKey c = .ok (key, d)) (h : d.skipInline.rest.head? ≠ some '=') :
    Defect c .mapKey (.missingEqualsInMap key) (if d.skipInline.rest.head? = some '\n' then 1 else 0)

/-! ## Where a run comes to -/

abbrev Course := Place → Cursor → Prop

namespace Course

def nowhere : Course := fun _ _ => False

def single (p : Place) (c : Cursor) : Course := fun p' c' => p' = p ∧ c' = c

def or (V W : Course) : Course := fun p c => V p c ∨ W p c

theorem or_nowhere (V : Course) : V.or nowhere = V := by
  funext p c
  simp [or, nowhere]

def andThen (V : Course) (x : Except SyntaxError α) (W : α → Course) : Course :=
  fun p c => V p c ∨ ∃ a, x = .ok a ∧ W a p c

def after (mark : Char) (V : Cursor → Course) (c : Cursor) : Course :=
  match c.rest with
  | [] => nowhere
  | ch :: r => if ch = mark then V (c.moveTo r) else nowhere

theorem after_of_mark {mark : Char} {V : Cursor → Course} {c : Cursor} {r : List Char} (hc : c.rest = mark :: r) :
    after mark V c = V (c.moveTo r) := by
  simp [after, hc]

theorem after_of_ne {mark : Char} {V : Cursor → Course} {c : Cursor} (hc : c.rest.head? ≠ some mark) :
    after mark V c = nowhere := by
  unfold after
  split
  · rfl
  · rename_i ch r hr
    rw [hr, List.head?_cons, ne_eq, Option.some.injEq] at hc
    exact if_neg hc

/-- At a place of the course something is wrong that is reported so. -/
def Blames (V : Course) (e : SyntaxError) : Prop :=
  ∃ p d late, V p d ∧ Defect d p e.fault late ∧ e.line = d.line + late

end Course

open Course

/-- A run from a cursor goes on from there, and fails with a lexical fault exactly if it comes to one. -/
structure Locates (c : Cursor) (x : Except SyntaxError α) (V : Course) : Prop where
  reaches : ∀ p d, V p d → c.Reaches d
  eq_error : ∀ e, e.fault.isLexical = true → (x = .error e ↔ V.Blames e)

namespace Locates

variable {c d : Cursor} {x : Except SyntaxError α} {V W : Course}

/-- A run that has no place to come to does not fail with a lexical fault. -/
theorem quiet (c : Cursor) (hx : ∀ e, x = .error e → e.fault.isLexical = false) : Locates c x nowhere where
  reaches _ _ h := h.elim
  eq_error e he := by
    constructor
    · intro h
      rw [hx e h] at he
      cases he
    · rintro ⟨p, d, late, h, -⟩
      exact h.elim

theorem ok (c : Cursor) (a : α) : Locates c (.ok a) nowhere := quiet c fun _ h => by cases h

theorem error (c : Cursor) (line : Nat) {fault : SyntaxFault} (hfault : fault.isLexical = false) :
    Locates c (.error ⟨line, fault⟩ : Except SyntaxError α) nowhere :=
  quiet c fun _ h => by
    cases h
    exact hfault

theorem of_reaches (h : Locates d x V) (hcd : c.Reaches d) : Locates c x V where
  reaches p d' hd' := hcd.trans (h.reaches p d' hd')
  eq_error := h.eq_error

theorem bind {f : α → Except SyntaxError β} {W : α → Course} (h : Locates c x V)
    (hf : ∀ a, x = .ok a → Locates c (f a) (W a)) : Locates c (x >>= f) (V.andThen x W) where
  reaches p d := by
    rintro (hV | ⟨a, ha, hW⟩)
    · exact h.reaches p d hV
    · exact (hf a ha).reaches p d hW
  eq_error e he := by
    rw [bind_eq_error, h.eq_error e he]
    constructor
    · rintro (⟨p, d, late, hV, hd⟩ | ⟨a, ha, hfa⟩)
      · exact ⟨p, d, late, .inl hV, hd⟩
      · obtain ⟨p, d, late, hW, hd⟩ := ((hf a ha).eq_error e he).mp hfa
        exact ⟨p, d, late, .inr ⟨a, ha, hW⟩, hd⟩
    · rintro ⟨p, d, late, hV | ⟨a, ha, hW⟩, hd⟩
      · exact .inl ⟨p, d, late, hV, hd⟩
      · exact .inr ⟨a, ha, ((hf a ha).eq_error e he).mpr ⟨p, d, late, hW, hd⟩⟩

theorem bind_plain {f : α → Except SyntaxError β} (h : Locates c x V)
    (hf : ∀ a e, f a = .error e → e.fault.isLexical = false) : Locates c (x >>= f) V where
  reaches := h.reaches
  eq_error e he := by
    rw [bind_eq_error, h.eq_error e he]
    constructor
    · rintro (hV | ⟨a, -, hfa⟩)
      · exact hV
      · rw [hf a e hfa] at he
        cases he
    · exact .inl

theorem map (h : Locates c x V) (f : α → β) : Locates c (x.map f) V where
  reaches := h.reaches
  eq_error e he := by rw [map_eq_error, h.eq_error e he]

theorem or_single {p : Place} (h : Locates c x V) (hp : ∀ fault late, ¬Defect c p fault late) :
    Locates c x ((single p c).or V) where
  reaches p' d := by
    rintro (⟨rfl, rfl⟩ | hV)
    · exact .refl _
    · exact h.reaches p' d hV
  eq_error e he := by
    rw [h.eq_error e he]
    constructor
    · rintro ⟨p', d, late, hV, hd⟩
      exact ⟨p', d, late, .inr hV, hd⟩
    · rintro ⟨p', d, late, ⟨rfl, rfl⟩ | hV, hd⟩
      · exact absurd hd.1 (hp _ _)
      · exact ⟨p', d, late, hV, hd⟩

theorem of_defect {p : Place} {a : α} (fault : SyntaxFault) (late : Nat) (h : Locates c (.ok a : Except SyntaxError α) V)
    (hp : ∀ f l, Defect c p f l ↔ f = fault ∧ l = late) :
    Locates c (.error ⟨c.line + late, fault⟩ : Except SyntaxError β) ((single p c).or V) where
  reaches p' d := by
    rintro (⟨rfl, rfl⟩ | hV)
    · exact .refl _
    · exact h.reaches p' d hV
  eq_error e he := by
    constructor
    · intro h
      cases h
      exact ⟨p, c, late, .inl ⟨rfl, rfl⟩, (hp _ _).mpr ⟨rfl, rfl⟩, rfl⟩
    · rintro ⟨p', d, l, ⟨rfl, rfl⟩ | hV, hd, hline⟩
      · obtain ⟨eline, efault⟩ := e
        obtain ⟨hfault, hlate⟩ := (hp _ _).mp hd
        simp only at hfault hline
        rw [hfault, hline, hlate]
      · cases (h.eq_error e he).mpr ⟨p', d, l, hV, hd, hline⟩

end Locates

/-! ## Strings -/

theorem lineAfter_add (line : Nat) (ch : Char) : lineAfter line ch = line + lineAfter 0 ch := by
  unfold lineAfter
  split_ifs <;> rfl

theorem readQuotedFrom_eq_error {quote : Char} {line : Nat} {body : List Char} {e : SyntaxError} :
    readQuotedFrom quote line body = .error e ↔ ∃ late, Unclosed quote body e.fault late ∧ e.line = line + late := by
  constructor
  · intro h
    fun_induction readQuotedFrom quote line body with
    | case1 =>
      cases h
      exact ⟨0, .done, rfl⟩
    | case2 =>
      cases h
      exact ⟨0, .escapeDone, rfl⟩
    | case3 ch r hch =>
      cases h
      exact ⟨lineAfter 0 ch, .escapeUnknown hch r, lineAfter_add line ch⟩
    | case4 ch r s hch ih =>
      obtain ⟨late, hr, hline⟩ := ih (map_eq_error.mp h)
      exact ⟨late, .escape hch hr, hline⟩
    | case5 r =>
      cases h
      exact ⟨0, .newline r, rfl⟩
    | case6 => cases h
    | case7 ch r hb hn hq ih =>
      obtain ⟨late, hr, hline⟩ := ih (map_eq_error.mp h)
      exact ⟨late, .char hb hn hq hr, hline⟩
  · obtain ⟨eline, fault⟩ := e
    rintro ⟨late, h, hline⟩
    simp only at h hline
    subst hline
    induction h with
    | done => rfl
    | newline r => simp [readQuotedFrom]
    | escapeDone => rfl
    | escapeUnknown hch r => simp only [readQuotedFrom, hch, lineAfter_add line]
    | char hb hn hq h ih => simp [readQuotedFrom, hn, hq, ih]
    | escape hch h ih => simp [readQuotedFrom, hch, ih]

theorem readMultilineFrom_char {ch : Char} {r : List Char} (hopen : ¬['"', '"', '"'] <+: ch :: r) (hb : ch ≠ '\\')
    (start line : Nat) : readMultilineFrom start line (ch :: r) =
      (readMultilineFrom start (lineAfter line ch) r).map fun (s, c) => (ch :: s, c) := by
  rw [readMultilineFrom.eq_def]
  split
  · cases ‹ch :: r = []›
  · cases ‹ch :: r = _›
    exact absurd ⟨_, rfl⟩ hopen
  · exact absurd (List.cons.inj ‹ch :: r = _›).1 hb
  · cases ‹ch :: r = _›
    rfl

theorem readMultilineFrom_eq_error {start line : Nat} {body : List Char} {e : SyntaxError}
    (he : e.fault.isLexical = true) :
    readMultilineFrom start line body = .error e ↔ ∃ late, BadEscape body e.fault late ∧ e.line = line + late := by
  constructor
  · intro h
    fun_induction readMultilineFrom start line body with
    | case1 =>
      cases h
      cases he
    | case2 => cases h
    | case3 =>
      cases h
      exact ⟨0, .done, rfl⟩
    | case4 line ch r hch =>
      cases h
      exact ⟨lineAfter 0 ch, .unknown hch r, lineAfter_add line ch⟩
    | case5 line ch r s hch ih =>
      obtain ⟨late, hr, hline⟩ := ih (map_eq_error.mp h)
      exact ⟨late, .escape hch hr, hline⟩
    | case6 line ch r hopen hb ih =>
      obtain ⟨late, hr, hline⟩ := ih (map_eq_error.mp h)
      refine ⟨lineAfter late ch, .char ?_ hb hr, ?_⟩
      · rintro ⟨r', hr'⟩
        cases hr'
        exact hopen r' rfl rfl
      · rw [hline, lineAfter_add, lineAfter_add late]
        omega
  · obtain ⟨eline, fault⟩ := e
    rintro ⟨late, h, hline⟩
    simp only at h hline he
    subst hline
    induction h generalizing line with
    | done => rfl
    | unknown hch r => simp only [readMultilineFrom, hch, lineAfter_add line]
    | @char ch r fault late hopen hb h ih =>
      rw [readMultilineFrom_char hopen hb, map_eq_error, lineAfter_add late, ← Nat.add_assoc, Nat.add_right_comm,
        ← lineAfter_add]
      exact ih he
    | escape hch h ih => simp [readMultilineFrom, hch, ih he]

def quoteCourse (c : Cursor) : Course :=
  fun p d => (p = .string ∧ d = c) ∧ (c.rest.head? = some '"' ∨ c.rest.head? = some '\'')

theorem readQuoted_locates {quote : Char} (hquote : quote = '"' ∨ quote = '\'') {c : Cursor} {body : List Char}
    (hc : c.rest = quote :: body) : Locates c (readQuoted quote c body) (quoteCourse c) where
  reaches p d := by
    rintro ⟨⟨-, rfl⟩, -⟩
    exact .refl _
  eq_error e he := by
    unfold readQuoted
    rw [map_eq_error, readQuotedFrom_eq_error]
    constructor
    · rintro ⟨late, h, hline⟩
      refine ⟨.string, c, late, ⟨⟨rfl, rfl⟩, ?_⟩, .string hc hquote h, hline⟩
      rw [hc]
      exact hquote.imp (congrArg some) (congrArg some)
    · rintro ⟨p, d, late, ⟨⟨rfl, rfl⟩, -⟩, hd, hline⟩
      cases hd with
      | string hc' _ h =>
        rw [hc] at hc'
        cases hc'
        exact ⟨late, h, hline⟩

theorem Locates.plain {c : Cursor} {x : Except SyntaxError α} (h : Locates c x nowhere) (hd : c.rest.head? ≠ some '"')
    (hs : c.rest.head? ≠ some '\'') : Locates c x (quoteCourse c) where
  reaches p d := by
    rintro ⟨-, hq | hq⟩
    · exact absurd hq hd
    · exact absurd hq hs
  eq_error e he := by
    rw [h.eq_error e he]
    constructor
    · rintro ⟨p, d, late, h, -⟩
      exact h.elim
    · rintro ⟨p, d, late, ⟨-, hq | hq⟩, -⟩
      · exact absurd hq hd
      · exact absurd hq hs

theorem TakesQuotes.locates {read bare : Read String} (h : TakesQuotes read bare)
    (hbare : ∀ c e, bare c = .error e → e.fault.isLexical = false) (c : Cursor) : Locates c (read c) (quoteCourse c) := by
  obtain ⟨rest, line⟩ := c
  by_cases hd : rest.head? = some '"'
  · obtain ⟨r, rfl⟩ := List.head?_eq_some_iff.mp hd
    rw [h.double]
    exact readQuoted_locates (.inl rfl) rfl
  by_cases hs : rest.head? = some '\''
  · obtain ⟨r, rfl⟩ := List.head?_eq_some_iff.mp hs
    rw [h.single]
    exact readQuoted_locates (.inr rfl) rfl
  · rw [h.other _ hd hs]
    exact (Locates.quiet _ (hbare _)).plain hd hs

theorem readKey_locates (c : Cursor) : Locates c (readKey c) (quoteCourse c) := by
  apply readKey_takesQuotes.locates
  intro c e he
  unfold readBareKey at he
  split at he
  · cases he
    rfl
  · split at he
    · cases he
    · cases he
      rfl

theorem readTarget_locates (c : Cursor) : Locates c (readTarget c) (quoteCourse c) := by
  apply readTarget_takesQuotes.locates
  intro c e he
  unfold readBareTarget at he
  split at he
  · cases he
    rfl
  · split at he
    · cases he
    · cases he
      rfl

theorem readMultiline_eq_error {c : Cursor} {body : List Char} {e : SyntaxError} (he : e.fault.isLexical = true) :
    readMultiline c body = .error e ↔ ∃ late, BadEscape body e.fault late ∧ e.line = c.line + late := by
  obtain ⟨eline, fault⟩ := e
  unfold readMultiline
  rw [map_eq_error, readMultilineFrom_eq_error he]
  split
  · -- the line end after the opening quotes is dropped, but counted like any other
    rename_i r
    constructor
    · rintro ⟨late, h, hline⟩
      exact ⟨late + 1, .char (by simp) (by decide) h, by rw [hline, Nat.add_assoc, Nat.add_comm 1]⟩
    · rintro ⟨late, h, hline⟩
      cases h with
      | @char _ _ _ late hopen hb h => exact ⟨late, h, by rw [hline, lineAfter, if_pos rfl, Nat.add_assoc, Nat.add_comm 1]⟩
  · rfl

theorem readMultiline_locates {c : Cursor} {body : List Char} (hc : c.rest = '"' :: '"' :: '"' :: body) :
    Locates c (readMultiline c body) (single .multiline c) where
  reaches p d := by
    rintro ⟨-, rfl⟩
    exact .refl _
  eq_error e he := by
    rw [readMultiline_eq_error he]
    constructor
    · rintro ⟨late, h, hline⟩
      exact ⟨.multiline, c, late, ⟨rfl, rfl⟩, .multiline hc h, hline⟩
    · rintro ⟨p, d, late, ⟨rfl, rfl⟩, hd, hline⟩
      cases hd with
      | multiline hc' h =>
        rw [hc] at hc'
        cases hc'
        exact ⟨late, h, hline⟩

/-! ## Values -/

def itemsCourse (close : Char) (item : Read α) (V : Cursor → Course) : Nat → Cursor → Course
  | 0, _ => nowhere
  | fuel + 1, c =>
    match c.skipAll.rest with
    | [] => nowhere
    | ch :: _ =>
      if ch = close then nowhere
      else (V c.skipAll).andThen (item c.skipAll) fun p => after ',' (itemsCourse close item V fuel) p.2.skipAll

def delimitedCourse (close : Char) (item : Read α) (V : Cursor → Course) (c : Cursor) : Course :=
  itemsCourse close item V c.rest.length (c.moveTo c.rest.tail)

def keyedCourse (p : Place) (V : Cursor → Course) (c : Cursor) : Course :=
  (single p c).or ((quoteCourse c).andThen (readKey c) fun q => after '=' (fun d => V d.skipInline) q.2.skipInline)

def valueCourse : Nat → Cursor → Course
  | 0, _ => nowhere
  | fuel + 1, c =>
    match c.rest with
    | '"' :: '"' :: '"' :: _ => single .multiline c
    | '[' :: _ => delimitedCourse ']' (readValue fuel) (valueCourse fuel) c
    | '{' :: _ => delimitedCourse '}' (readMapEntry (readValue fuel)) (keyedCourse .mapKey (valueCourse fuel)) c
    | _ => quoteCourse c

section
variable {item : Read α} {V : Cursor → Course} (h : ∀ c, Locates c (item c) (V c)) (hitem : Advances item)
include h hitem

theorem readItems_locates (close : Char) (start fuel : Nat) (c : Cursor) :
    Locates c (readItems close item start fuel c) (itemsCourse close item V fuel c) := by
  induction fuel generalizing c with
  | zero => exact .error c start rfl
  | succ fuel ih =>
    unfold readItems itemsCourse
    simp only
    apply Locates.of_reaches (d := c.skipAll) _ (reaches_skipAll c)
    -- reader and course run out of fuel together, so no bound on it is needed
    cases hc : c.skipAll.rest with
    | nil => exact .error _ start rfl
    | cons ch r =>
      simp only
      split
      · exact .ok _ _
      apply (h c.skipAll).bind
      rintro ⟨x, c1⟩ hx
      simp only
      have hreach := (hitem _ _ _ hx).trans (reaches_skipAll c1)
      split
      · rw [after_of_ne (by simp [*])]
        exact .error _ start rfl
      · rename_i ch1 r1 hc1
        split
        · rename_i hcomma
          subst hcomma
          rw [after_of_mark hc1]
          apply ((ih _).of_reaches (hreach.trans (reaches_tail hc1 (by decide)))).bind_plain
          intro _ _ he
          cases he
        · rename_i hcomma
          rw [after_of_ne (by simpa [hc1] using hcomma)]
          split
          · exact .ok _ _
          · exact .error _ _ rfl

theorem readDelimited_locates {close opening : Char} {c : Cursor} {r : List Char} (hc : c.rest = opening :: r)
    (hopening : opening ≠ '\n') : Locates c (readDelimited close item c) (delimitedCourse close item V c) := by
  apply (readItems_locates h hitem close c.line c.rest.length _).of_reaches
  rw [hc, List.tail_cons]
  exact reaches_tail hc hopening

end

theorem readKey_line {c d : Cursor} {key : String} (h : readKey c = .ok (key, d)) : d.line = c.line := by
  unfold readKey at h
  split at h
  · cases h
  · obtain ⟨p, -, he⟩ := map_eq_ok.mp h
    cases he
    rfl
  · obtain ⟨p, -, he⟩ := map_eq_ok.mp h
    cases he
    rfl
  · split at h
    · cases h
      rfl
    · cases h

theorem keyed_locates {p : Place} (fault : String → SyntaxFault) (late : Cursor → Nat) {c : Cursor}
    (hp : ∀ f l, Defect c p f l ↔ ∃ key d, readKey c = .ok (key, d) ∧ d.skipInline.rest.head? ≠ some '=' ∧
      f = fault key ∧ l = late d.skipInline)
    {V : Cursor → Course} {follow : String × Cursor → Except SyntaxError α}
    (hmissing : ∀ key d, readKey c = .ok (key, d) → d.skipInline.rest.head? ≠ some '=' →
      follow (key, d) = .error ⟨c.line + late d.skipInline, fault key⟩)
    (hfollow : ∀ key d r, readKey c = .ok (key, d) → d.skipInline.rest = '=' :: r →
      Locates (d.skipInline.moveTo r).skipInline (follow (key, d)) (V (d.skipInline.moveTo r).skipInline)) :
    Locates c (readKey c >>= follow) (keyedCourse p V c) := by
  -- either the place answers for the failure, or there is nothing wrong with it
  by_cases hdefect : ∃ key d, readKey c = .ok (key, d) ∧ d.skipInline.rest.head? ≠ some '='
  · obtain ⟨key, d, hkey, hhead⟩ := hdefect
    have hquiet : Locates c (readKey c >>= Except.ok) ((quoteCourse c).andThen (readKey c) fun q =>
        after '=' (fun d => V d.skipInline) q.2.skipInline) := by
      apply (readKey_locates c).bind
      rintro ⟨key', d'⟩ hkey'
      rw [hkey] at hkey'
      cases hkey'
      rw [after_of_ne hhead]
      exact .ok c _
    have hread : (readKey c >>= Except.ok) = .ok (key, d) := by
      rw [hkey, ok_bind]
    have hfail : (readKey c >>= follow) = .error ⟨c.line + late d.skipInline, fault key⟩ := by
      rw [hkey, ok_bind, hmissing key d hkey hhead]
    rw [hread] at hquiet
    rw [hfail]
    apply hquiet.of_defect _ _
    intro f l
    rw [hp]
    constructor
    · rintro ⟨key', d', hkey', -, hf, hl⟩
      rw [hkey] at hkey'
      cases hkey'
      exact ⟨hf, hl⟩
    · rintro ⟨rfl, rfl⟩
      exact ⟨key, d, hkey, hhead, rfl, rfl⟩
  · apply Locates.or_single
    · apply (readKey_locates c).bind
      rintro ⟨key, d⟩ hkey
      have hhead : d.skipInline.rest.head? = some '=' := by
        by_contra hne
        exact hdefect ⟨key, d, hkey, hne⟩
      obtain ⟨r, hr⟩ := List.head?_eq_some_iff.mp hhead
      rw [after_of_mark hr]
      apply (hfollow key d r hkey hr).of_reaches
      have hequals := (readKey_reaches _ _ _ hkey).trans (reaches_skipInline d)
      exact (hequals.trans (reaches_tail hr (by decide))).trans (reaches_skipInline _)
    · intro f l hd
      obtain ⟨key, d, hkey, hhead, -⟩ := (hp f l).mp hd
      exact hdefect ⟨key, d, hkey, hhead⟩

theorem defect_mapKey {c : Cursor} {fault : SyntaxFault} {late : Nat} : Defect c .mapKey fault late ↔
    ∃ key d, readKey c = .ok (key, d) ∧ d.skipInline.rest.head? ≠ some '=' ∧ fault = .missingEqualsInMap key ∧
      late = if d.skipInline.rest.head? = some '\n' then 1 else 0 := by
  constructor
  · rintro (_ | _)
    exact ⟨_, _, ‹_›, ‹_›, rfl, rfl⟩
  · rintro ⟨key, d, hkey, hhead, rfl, rfl⟩
    exact .mapKey hkey hhead

theorem defect_entryKey {c : Cursor} {fault : SyntaxFault} {late : Nat} : Defect c .entryKey fault late ↔
    ∃ key d, readKey c = .ok (key, d) ∧ d.skipInline.rest.head? ≠ some '=' ∧ fault = .missingEquals key ∧ late = 0 := by
  constructor
  · rintro (_ | _)
    exact ⟨_, _, ‹_›, ‹_›, rfl, rfl⟩
  · rintro ⟨key, d, hkey, hhead, rfl, rfl⟩
    exact .entryKey hkey hhead

theorem lineAfterNext_eq (c : Cursor) : lineAfterNext c = c.line + if c.rest.head? = some '\n' then 1 else 0 := by
  unfold lineAfterNext
  split
  · simp [*]
  · rename_i ch r hr
    rw [hr, lineAfter_add]
    simp [lineAfter]

theorem readMapEntry_locates {value : Read Value} {V : Cursor → Course} (h : ∀ c, Locates c (value c) (V c)) (c : Cursor) :
    Locates c (readMapEntry value c) (keyedCourse .mapKey V c) := by
  unfold readMapEntry
  apply keyed_locates .missingEqualsInMap (fun d => if d.rest.head? = some '\n' then 1 else 0) fun _ _ => defect_mapKey
  · intro key d hkey hhead
    simp only
    split
    · simp [*] at hhead
    · rw [lineAfterNext_eq, ← readKey_line hkey]
      rfl
  · intro key d r hkey hr
    simp only [hr]
    apply (h _).bind_plain
    intro _ _ he
    cases he

theorem readNumber_plain (c : Cursor) (e : SyntaxError) (h : readNumber c = .error e) : e.fault.isLexical = false := by
  unfold readNumber at h
  simp only at h
  split at h
  · cases h
  · cases h
    rfl

theorem valueCourse_plain (fuel : Nat) {c : Cursor} (hopen : ¬['"', '"', '"'] <+: c.rest) (hlist : c.rest.head? ≠ some '[')
    (hmap : c.rest.head? ≠ some '\x7b') : valueCourse (fuel + 1) c = quoteCourse c := by
  rw [valueCourse]
  split
  · rename_i r hr
    exact absurd ⟨r, hr.symm⟩ hopen
  · simp [*] at hlist
  · simp [*] at hmap
  · rfl

theorem readValue_locates : ∀ (fuel : Nat) (c : Cursor), Locates c (readValue fuel c) (valueCourse fuel c)
  | 0, c => .error c c.line rfl
  | fuel + 1, c => by
    have ih := readValue_locates fuel
    rw [readValue]
    split
    · rename_i hc
      rw [valueCourse_plain fuel (by simp [hc]) (by simp [hc]) (by simp [hc])]
      exact (Locates.error c c.line rfl).plain (by simp [hc]) (by simp [hc])
    · rename_i hc
      simp only [valueCourse, hc]
      exact (readMultiline_locates hc).map _
    · rename_i r hopen hc
      rw [valueCourse_plain fuel _ (by simp [hc]) (by simp [hc])]
      · exact (readQuoted_locates (.inl rfl) hc).map _
      · rw [hc]
        rintro ⟨r', hr⟩
        cases hr
        exact hopen r' rfl
    · rename_i hc
      rw [valueCourse_plain fuel (by simp [hc]) (by simp [hc]) (by simp [hc])]
      exact (readQuoted_locates (.inr rfl) hc).map _
    · rename_i hc
      simp only [valueCourse, hc]
      exact (readDelimited_locates ih (readValue_reaches fuel) hc (by decide)).map _
    · rename_i hc
      simp only [valueCourse, hc]
      apply (readDelimited_locates (readMapEntry_locates ih) (readMapEntry_reaches (readValue_reaches fuel)) hc
        (by decide)).bind_plain
      rintro ⟨es, d⟩ e he
      simp only at he
      split at he
      · cases he
        rfl
      · cases he
    · rename_i ch r hopen hd hs hlist hmap hc
      have hplain : ∀ quote, ch ≠ quote → c.rest.head? ≠ some quote := fun quote h => by simpa [hc] using h
      rw [valueCourse_plain fuel _ (hplain _ hlist) (hplain _ hmap)]
      · apply Locates.plain _ (hplain _ hd) (hplain _ hs)
        apply Locates.quiet
        intro e he
        split at he
        · exact readNumber_plain c e he
        split at he
        · cases he
        split at he
        · cases he
          rfl
        · cases he
          rfl
      · rw [hc]
        rintro ⟨r', hr⟩
        exact hd (List.cons.inj hr).1.symm

/-! ## Rows -/

def moreCourse (item : Nat → Read α) (V : Nat → Cursor → Course) : Nat → Cursor → Course
  | 0, _ => nowhere
  | fuel + 1, c => after ',' (fun d => (V (d.rest.length + 1) d.skipInline).andThen (item (d.rest.length + 1) d.skipInline)
      fun p => moreCourse item V fuel p.2.skipInline) c

theorem Continues.locates {item : Nat → Read α} {more : Nat → Read (List α)} (hmore : Continues item more)
    (hitem : ∀ n, Advances (item n)) {V : Nat → Cursor → Course} (h : ∀ n c, Locates c (item n c) (V n c)) (fuel : Nat)
    (c : Cursor) : Locates c (more fuel c) (moreCourse item V fuel c) := by
  induction fuel generalizing c with
  | zero =>
    rw [hmore.zero]
    exact .ok c _
  | succ fuel ih =>
    obtain ⟨rest, line⟩ := c
    unfold moreCourse
    by_cases hcomma : rest.head? = some ','
    · obtain ⟨r, rfl⟩ := List.head?_eq_some_iff.mp hcomma
      rw [hmore.comma, after_of_mark rfl]
      have hskip : Reaches ⟨',' :: r, line⟩ (skipInline ⟨r, line⟩) :=
        (reaches_tail (c := ⟨',' :: r, line⟩) rfl (by decide)).trans (reaches_skipInline _)
      apply Locates.of_reaches _ hskip
      apply (h _ _).bind
      rintro ⟨x, d⟩ hx
      apply ((ih d.skipInline).of_reaches ((hitem _ _ _ _ hx).trans (reaches_skipInline d))).bind_plain
      intro _ _ he
      cases he
    · rw [hmore.stop _ _ hcomma, after_of_ne hcomma]
      exact .ok _ _

def entryValueCourse (c : Cursor) : Course :=
  (valueCourse (c.rest.length + 1) c).andThen (readValue (c.rest.length + 1) c) fun p =>
    moreCourse readValue valueCourse p.2.rest.length p.2.skipInline

theorem readEntryValue_locates (c : Cursor) : Locates c (readEntryValue c) (entryValueCourse c) := by
  unfold readEntryValue
  apply (readValue_locates _ c).bind
  rintro ⟨v, d⟩ hv
  have hmore := readMoreValues_continues.locates readValue_reaches readValue_locates d.rest.length d.skipInline
  apply (hmore.of_reaches ((readValue_reaches _ _ _ _ hv).trans (reaches_skipInline d))).bind_plain
  intro _ _ he
  cases he

def routingCourse (c : Cursor) : Course :=
  match c.rest with
  | '[' :: _ => delimitedCourse ']' readTarget quoteCourse c
  | '{' :: _ => delimitedCourse '}' readTarget quoteCourse c
  | _ => (quoteCourse c).andThen (readTarget c) fun p =>
    moreCourse (fun _ => readTarget) (fun _ => quoteCourse) p.2.rest.length p.2.skipInline

theorem readRouting_locates (c : Cursor) : Locates c (readRouting c) (routingCourse c) := by
  unfold readRouting
  split
  · rename_i hc
    simp only [routingCourse, hc]
    exact (readDelimited_locates readTarget_locates readTarget_reaches hc (by decide)).map _
  · rename_i hc
    simp only [routingCourse, hc]
    exact (readDelimited_locates readTarget_locates readTarget_reaches hc (by decide)).map _
  · rename_i hlist hmap
    unfold routingCourse
    split
    · exact absurd ‹_› (hlist _)
    · exact absurd ‹_› (hmap _)
    apply (readTarget_locates c).bind
    rintro ⟨t, d⟩ ht
    have hmore := readMoreTargets_continues.locates (fun _ => readTarget_reaches) (fun _ => readTarget_locates)
      d.rest.length d.skipInline
    apply (hmore.of_reaches ((readTarget_reaches _ _ _ ht).trans (reaches_skipInline d))).bind_plain
    intro _ _ he
    cases he

/-! ## Entries and headers -/

def bodyCourse : Body → Cursor → Course
  | .values _ => entryValueCourse
  | .routes _ => routingCourse

theorem readInto_locates (body : Body) (key : String) (c : Cursor) :
    Locates c (readInto body key c) (bodyCourse body c) := by
  cases body with
  | values entries => exact (readEntryValue_locates c).map _
  | routes edges => exact (readRouting_locates c).map _

theorem endLine_plain {c : Cursor} {e : SyntaxError} (h : endLine c = .error e) : e.fault.isLexical = false := by
  unfold endLine at h
  simp only at h
  split at h
  · cases h
  · cases h
  · cases h
    rfl

theorem readEntry_locates (b : Block) (c : Cursor) :
    Locates c (readEntry b c) (keyedCourse .entryKey (bodyCourse b.body) c) := by
  unfold readEntry
  apply keyed_locates .missingEquals (fun _ => 0) fun _ _ => defect_entryKey
  · intro key d hkey hhead
    simp only
    split
    · simp [*] at hhead
    · rfl
  · intro key d r hkey hr
    simp only [hr]
    apply (readInto_locates b.body key _).bind_plain
    rintro ⟨body, d'⟩ e he
    rcases bind_eq_error.mp he with hend | ⟨d'', -, he⟩
    · exact endLine_plain hend
    · split at he
      · cases he
        rfl
      · cases he

theorem defect_header {r : List Char} {line : Nat} {fault : SyntaxFault} {late : Nat} :
    Defect ⟨'[' :: r, line⟩ .header fault late ↔ fault = .unterminatedHeader ∧
      (r.dropWhile isNameChar = [] ∧ late = 0 ∨ (∃ r', r.dropWhile isNameChar = '\n' :: r') ∧ late = 1) := by
  have hchar : ∀ ch, (ch ≠ ']' ∧ ch ≠ '\n') ↔ isNameChar ch = true := by simp [isNameChar]
  constructor
  · intro h
    cases h with
    | headerOpen hc hname =>
      cases hc
      exact ⟨rfl, .inl ⟨List.dropWhile_eq_nil_iff.mpr fun ch hch => (hchar ch).mp (hname ch hch), rfl⟩⟩
    | @headerBroken name r hc hname =>
      cases hc
      have hdrop : (name ++ '\n' :: r).dropWhile isNameChar = '\n' :: r :=
        Text.dropWhile_span (fun ch hch => (hchar ch).mp (hname ch hch)) (by simp [isNameChar])
      exact ⟨rfl, .inr ⟨⟨r, hdrop⟩, rfl⟩⟩
  · rintro ⟨rfl, ⟨hnil, rfl⟩ | ⟨⟨r', hr⟩, rfl⟩⟩
    · exact .headerOpen rfl fun ch hch => (hchar ch).mpr (List.dropWhile_eq_nil_iff.mp hnil ch hch)
    · have hname : ∀ ch ∈ r.takeWhile isNameChar, ch ≠ ']' ∧ ch ≠ '\n' :=
        fun ch hch => (hchar ch).mpr (List.mem_takeWhile_imp hch)
      have hsplit : r = r.takeWhile isNameChar ++ '\n' :: r' := by
        rw [← hr, List.takeWhile_append_dropWhile]
      exact .headerBroken (congrArg ('[' :: ·) hsplit) hname

theorem readHeader_locates {c : Cursor} {r : List Char} (hc : c.rest = '[' :: r) :
    Locates c (readHeader c) (single .header c) := by
  obtain ⟨rest, line⟩ := c
  cases hc
  rw [readHeader_cons, ← or_nowhere (single _ _)]
  split
  · rename_i r' hr
    apply Locates.or_single
    · apply Locates.quiet
      intro e he
      split at he
      · cases he
        rfl
      rcases bind_eq_error.mp he with hend | ⟨d, -, he⟩
      · exact endLine_plain hend
      · cases he
    · intro fault late hd
      obtain ⟨-, ⟨hnil, -⟩ | ⟨⟨r'', hr'⟩, -⟩⟩ := defect_header.mp hd
      · cases hnil.symm.trans hr
      · cases hr'.symm.trans hr
  · rename_i hnil
    apply (Locates.ok _ ()).of_defect .unterminatedHeader 0
    intro fault late
    rw [defect_header, hnil]
    simp
  · rename_i hclosed hnonempty
    obtain ⟨r', hr⟩ : ∃ r', r.dropWhile isNameChar = '\n' :: r' := by
      have hstops := Text.stops_dropWhile (p := isNameChar) r
      cases hdrop : r.dropWhile isNameChar with
      | nil => exact (hnonempty hdrop).elim
      | cons ch r' =>
        rw [hdrop, Text.stops_cons] at hstops
        have hch : ch = ']' ∨ ch = '\n' := by
          simpa [isNameChar, or_iff_not_imp_left] using hstops
        obtain rfl | rfl := hch
        · exact (hclosed r' hdrop).elim
        · exact ⟨r', rfl⟩
    apply (Locates.ok _ ()).of_defect .unterminatedHeader 1
    intro fault late
    rw [defect_header, hr]
    simp

/-! ## Documents -/

def blocksCourse : Nat → List Block → Cursor → Course
  | 0, _, _ => nowhere
  | fuel + 1, blocks, c =>
    match c.skipAll.rest with
    | [] => nowhere
    | ch :: _ =>
      if ch = '[' then
        (single .header c.skipAll).andThen (readHeader c.skipAll) fun p =>
          if (blocks.map Block.name).contains p.1 then nowhere
          else
            let body := if p.1 = edgesName then Body.routes [] else Body.values []
            blocksCourse fuel (⟨p.1, c.skipAll.line, body⟩ :: blocks) p.2
      else
        match blocks with
        | [] => nowhere
        | b :: bs => (keyedCourse .entryKey (bodyCourse b.body) c.skipAll).andThen (readEntry b c.skipAll) fun p =>
          blocksCourse fuel (p.1 :: bs) p.2

theorem readBlocks_locates (fuel : Nat) (blocks : List Block) (c : Cursor) :
    Locates c (readBlocks fuel blocks c) (blocksCourse fuel blocks c) := by
  induction fuel generalizing blocks c with
  | zero => exact .ok c _
  | succ fuel ih =>
    apply Locates.of_reaches _ (reaches_skipAll c)
    unfold blocksCourse
    cases hc : c.skipAll.rest with
    | nil =>
      unfold readBlocks
      simp only [hc]
      exact .ok _ _
    | cons ch r =>
      have hskip : c.skipAll = ⟨ch :: r, c.skipAll.line⟩ := by rw [← hc]
      by_cases hheader : ch = '['
      · subst hheader
        unfold readBlocks
        simp only [hc, if_true]
        apply (readHeader_locates hc).bind
        rintro ⟨name, d⟩ hname
        simp only
        split
        · exact .error _ _ rfl
        · rw [hskip] at hname
          exact (ih _ d).of_reaches ((reaches_tail hc (by decide)).trans (readHeader_reaches hname))
      · simp only [hheader, if_false]
        cases blocks with
        | nil =>
          rw [readBlocks_outside hskip fuel hheader]
          exact .error _ _ rfl
        | cons b bs =>
          rw [readBlocks_entry hskip fuel hheader, ← hskip]
          apply (readEntry_locates b c.skipAll).bind
          rintro ⟨b', d⟩ hb
          exact (ih _ d).of_reaches (readEntry_reaches _ _ _ _ hb)

/-- The headers, keys and strings that the reading of a text comes to. -/
def course (text : String) : Course := blocksCourse (text.toList.length + 1) [] ⟨text.toList, 1⟩

theorem blocks_locates (text : String) : Locates ⟨text.toList, 1⟩ (blocks text) (course text) := readBlocks_locates _ _ _

end FlowEngine.Document

namespace FlowEngine.Workflow

open Document (Block SyntaxError SyntaxFault Defect course)

theorem Draft.add_plain {d : Draft} {b : Block} {e : SyntaxError} (h : d.add b = .error (.malformed e)) :
    e.fault.isLexical = false := by
  unfold Draft.add at h
  split at h
  · cases h
  · simp only at h
    split_ifs at h
    split at h
    · cases h
      rfl
    · split at h <;> cases h
    · cases h

theorem ofBlocks_plain {bs : List Block} {e : SyntaxError} (h : ofBlocks bs = .error (.malformed e)) :
    e.fault.isLexical = false := by
  unfold ofBlocks at h
  rcases bind_eq_error.mp h with hd | ⟨draft, -, h⟩
  · obtain ⟨b, -, d, hb⟩ := foldlM_eq_error hd
    exact Draft.add_plain hb
  · split at h
    · cases h
    · cases h

theorem parse_eq_malformed {text : String} {e : SyntaxError} (he : e.fault.isLexical = true) :
    parse text = .error (.malformed e) ↔ Document.blocks text = .error e := by
  unfold parse
  split
  · rename_i bs hb
    rw [hb]
    constructor
    · intro h
      rw [ofBlocks_plain h] at he
      cases he
    · intro h
      cases h
  · rename_i e' hb
    simp [hb]

/-- A lexical fault is reported where the reading of the text comes to a header, a key or a string with that
defect, on the line this begins on and as many lines on as line ends were read in it. -/
theorem parse_lexical_iff {text : String} {e : SyntaxError} (he : e.fault.isLexical = true) :
    parse text = .error (.malformed e) ↔ ∃ place before rest late, text.toList = before ++ rest ∧
      course text place ⟨rest, 1 + before.count '\n'⟩ ∧ Defect ⟨rest, 1 + before.count '\n'⟩ place e.fault late ∧
      e.line = 1 + before.count '\n' + late := by
  rw [parse_eq_malformed he, (Document.blocks_locates text).eq_error e he]
  constructor
  · rintro ⟨place, ⟨rest, line⟩, late, hcourse, hdefect, hline⟩
    obtain ⟨before, htext, hstart⟩ := (Document.blocks_locates text).reaches _ _ hcourse
    simp only at htext hstart hline
    subst hstart
    exact ⟨place, before, rest, late, htext, hcourse, hdefect, hline⟩
  · rintro ⟨place, before, rest, late, -, hcourse, hdefect, hline⟩
    exact ⟨place, _, late, hcourse, hdefect, hline⟩

/-! ## A line too late -/

def unclosedHeader : String := "[workflow\nname = x\n"

theorem parse_unclosedHeader : parse unclosedHeader = .error (.malformed ⟨2, .unterminatedHeader⟩) := by cbv

theorem parse_lexical_iff_unclosed : SyntaxFault.unterminatedHeader.isLexical = true ∧
    parse unclosedHeader = .error (.malformed ⟨2, .unterminatedHeader⟩) ∧
    ∃ place before rest late, unclosedHeader.toList = before ++ rest ∧
      course unclosedHeader place ⟨rest, 1 + before.count '\n'⟩ ∧
      Defect ⟨rest, 1 + before.count '\n'⟩ place .unterminatedHeader late ∧ 2 = 1 + before.count '\n' + late :=
  ⟨rfl, parse_unclosedHeader, (parse_lexical_iff (e := ⟨2, .unterminatedHeader⟩) rfl).mp parse_unclosedHeader⟩

example : parse "[workflow]\nname = 'a\\\nb'\n" = .error (.malformed ⟨3, .unknownEscape '\n'⟩) ∧
    parse "[workflow]\nm = \x7b a\n= 1 \x7d\n" = .error (.malformed ⟨3, .missingEqualsInMap "a"⟩) := by
  constructor <;> cbv

theorem not_header_line : ¬∀ text e, parse text = .error (.malformed e) → e.fault = .unterminatedHeader →
    ∃ before rest, text.toList = before ++ '[' :: rest ∧ e.line = 1 + before.count '\n' := by
  intro hall
  obtain ⟨before, rest, htext, hline⟩ := hall unclosedHeader _ parse_unclosedHeader rfl
  have honce : '[' ∉ unclosedHeader.toList.tail := by decide
  cases before with
  | nil => cases hline
  | cons ch before =>
    rw [htext] at honce
    simp at honce

end FlowEngine.Workflow
