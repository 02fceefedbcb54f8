import Mathlib
import FlowEngine.Proofs.Document.Words

/-!
# Where a reader stands

A reader moves its cursor forward only, and the line of the cursor counts the line ends
that it has passed (`Cursor.Reaches`). Each reader keeps to that, whatever it reads
(`readEntry_reaches`), so a cursor within a document always knows its line.
-/

namespace FlowEngine.Document

open Cursor

variable {α : Type}

/-! ## Moving forward -/

/-- `d` comes after `c`: what was read stands between them, and each line end in it was counted. -/
def Cursor.Reaches (c d : Cursor) : Prop := ∃ read, c.rest = read ++ d.rest ∧ d.line = c.line + read.count '\n'

/-- A reader that leaves its cursor where it has come to. -/
def Advances (f : Read α) : Prop := ∀ c a d, f c = .ok (a, d) → c.Reaches d

namespace Cursor

theorem Reaches.refl (c : Cursor) : c.Reaches c := ⟨[], rfl, by simp⟩

theorem Reaches.trans {c d e : Cursor} (h : c.Reaches d) (h' : d.Reaches e) : c.Reaches e := by
  obtain ⟨v, hv, hvline⟩ := h
  obtain ⟨w, hw, hwline⟩ := h'
  refine ⟨v ++ w, ?_, ?_⟩
  · rw [hv, hw, List.append_assoc]
  · rw [hwline, hvline, List.count_append, Nat.add_assoc]

theorem Reaches.length_le {c d : Cursor} (h : c.Reaches d) : d.rest.length ≤ c.rest.length := by
  obtain ⟨w, hw, -⟩ := h
  rw [hw, List.length_append]
  omega

theorem reaches_moveTo {c : Cursor} {w r : List Char} (h : c.rest = w ++ r) (hw : '\n' ∉ w) : c.Reaches (c.moveTo r) :=
  ⟨w, h, by simp [moveTo, List.count_eq_zero.mpr hw]⟩

theorem reaches_tail {c : Cursor} {ch : Char} {r : List Char} (h : c.rest = ch :: r) (hch : ch ≠ '\n') :
    c.Reaches (c.moveTo r) :=
  reaches_moveTo (w := [ch]) h (by simpa using hch.symm)

theorem reaches_dropWhile (c : Cursor) {p : Char → Bool} (hp : p '\n' = false) :
    c.Reaches (c.moveTo (c.rest.dropWhile p)) := by
  apply reaches_moveTo (List.takeWhile_append_dropWhile (p := p)).symm
  intro h
  rw [List.mem_takeWhile_imp h] at hp
  cases hp

theorem reaches_skipInline (c : Cursor) : c.Reaches c.skipInline := reaches_dropWhile c (by decide)

theorem reaches_skipComment (c : Cursor) : c.Reaches c.skipComment := by
  unfold skipComment
  split
  · exact reaches_dropWhile c (by decide)
  · exact .refl c

theorem reaches_skipFrom (b : Bool) (line : Nat) (cs : List Char) : Reaches ⟨cs, line⟩ (skipFrom b line cs) := by
  induction cs generalizing b line with
  | nil => exact .refl _
  | cons ch cs ih =>
    have hnext : ch ≠ '\n' → Reaches ⟨ch :: cs, line⟩ ⟨cs, line⟩ := reaches_tail (c := ⟨ch :: cs, line⟩) rfl
    unfold skipFrom
    split_ifs with hn hb hc
    · subst hn
      exact .trans ⟨['\n'], rfl, by simp⟩ (ih false (line + 1))
    · exact (hnext hn).trans (ih b line)
    · exact (hnext hn).trans (ih true line)
    · exact .refl _

theorem reaches_skipAll (c : Cursor) : c.Reaches c.skipAll := reaches_skipFrom false c.line c.rest

end Cursor

theorem endLine_reaches {c d : Cursor} (h : endLine c = .ok d) : c.Reaches d := by
  have hskip : c.Reaches c.skipInline.skipComment := (reaches_skipInline c).trans (reaches_skipComment _)
  unfold endLine at h
  simp only at h
  split at h
  · cases h
    exact hskip
  · rename_i r hr
    cases h
    exact hskip.trans ⟨['\n'], hr, by simp⟩
  · cases h

/-! ## Strings and words -/

theorem escaped?_ne_newline {e ch : Char} (h : escaped? e = some ch) : e ≠ '\n' := by
  rintro rfl
  cases h

theorem readQuotedFrom_span {quote : Char} (hquote : quote ≠ '\n') {line : Nat} {body s r : List Char}
    (h : readQuotedFrom quote line body = .ok (s, r)) : ∃ w, body = w ++ r ∧ '\n' ∉ w := by
  fun_induction readQuotedFrom quote line body generalizing s r with
  | case1 => cases h
  | case2 => cases h
  | case3 => cases h
  | case4 e rest ch he ih =>
    obtain ⟨⟨t, r'⟩, hread, heq⟩ := map_eq_ok.mp h
    cases heq
    obtain ⟨w, rfl, hw⟩ := ih hread
    exact ⟨'\\' :: e :: w, rfl, by simp [hw, (escaped?_ne_newline he).symm]⟩
  | case5 => cases h
  | case6 =>
    cases h
    exact ⟨[quote], rfl, by simpa using hquote.symm⟩
  | case7 ch rest hb hn hq ih =>
    obtain ⟨⟨t, r'⟩, hread, heq⟩ := map_eq_ok.mp h
    cases heq
    obtain ⟨w, rfl, hw⟩ := ih hread
    exact ⟨ch :: w, rfl, by simp [hw, Ne.symm hn]⟩

theorem readQuoted_reaches {quote : Char} (hquote : quote ≠ '\n') {c d : Cursor} {body : List Char} {s : String}
    (hc : c.rest = quote :: body) (h : readQuoted quote c body = .ok (s, d)) : c.Reaches d := by
  obtain ⟨⟨t, r⟩, hread, heq⟩ := map_eq_ok.mp h
  cases heq
  obtain ⟨w, rfl, hw⟩ := readQuotedFrom_span hquote hread
  exact reaches_moveTo (w := quote :: w) hc (by simp [hw, hquote.symm])

theorem readMultilineFrom_reaches {start line : Nat} {body s : List Char} {d : Cursor}
    (h : readMultilineFrom start line body = .ok (s, d)) : Reaches ⟨body, line⟩ d := by
  fun_induction readMultilineFrom start line body generalizing s d with
  | case1 => cases h
  | case2 line r =>
    cases h
    exact ⟨['"', '"', '"'], rfl, by simp⟩
  | case3 => cases h
  | case4 => cases h
  | case5 line e r ch he ih =>
    obtain ⟨⟨t, d'⟩, hread, heq⟩ := map_eq_ok.mp h
    cases heq
    exact .trans ⟨['\\', e], rfl, by simp [escaped?_ne_newline he]⟩ (ih hread)
  | case6 line ch r h1 h2 ih =>
    obtain ⟨⟨t, d'⟩, hread, heq⟩ := map_eq_ok.mp h
    cases heq
    refine .trans ⟨[ch], rfl, ?_⟩ (ih hread)
    by_cases hn : ch = '\n' <;> simp [lineAfter, hn]

theorem readMultiline_reaches {c d : Cursor} {body : List Char} {s : String} (hc : c.rest = '"' :: '"' :: '"' :: body)
    (h : readMultiline c body = .ok (s, d)) : c.Reaches d := by
  obtain ⟨⟨t, e⟩, hread, heq⟩ := map_eq_ok.mp h
  cases heq
  have hquotes : c.Reaches (c.moveTo body) := reaches_moveTo (w := ['"', '"', '"']) hc (by simp)
  apply hquotes.trans
  split at hread
  · exact .trans ⟨['\n'], rfl, by simp [moveTo]⟩ (readMultilineFrom_reaches hread)
  · exact readMultilineFrom_reaches hread

theorem readWord_reaches (c : Cursor) : c.Reaches (readWord c).2 := reaches_dropWhile c (by decide)

/-- A reader that takes a string where a quote stands, and otherwise goes on `bare`. -/
structure TakesQuotes (read bare : Read String) : Prop where
  double : ∀ r line, read ⟨'"' :: r, line⟩ = readQuoted '"' ⟨'"' :: r, line⟩ r
  single : ∀ r line, read ⟨'\'' :: r, line⟩ = readQuoted '\'' ⟨'\'' :: r, line⟩ r
  other : ∀ c, c.rest.head? ≠ some '"' → c.rest.head? ≠ some '\'' → read c = bare c

def readBareKey : Read String := fun c =>
  match c.rest with
  | [] => c.fail .endOfInput
  | ch :: _ =>
    if isKeyChar ch then
      .ok (String.ofList (c.rest.takeWhile isKeyChar), c.moveTo (c.rest.dropWhile isKeyChar))
    else c.fail (.keyExpected ch)

def readBareTarget : Read String := fun c =>
  match c.rest with
  | [] => c.fail .missingTarget
  | ch :: _ => if ch.isAlphanum || ch == '_' then .ok (readWord c) else c.fail (.targetExpected ch)

theorem readKey_takesQuotes : TakesQuotes readKey readBareKey where
  double _ _ := rfl
  single _ _ := rfl
  other c hd hs := by
    unfold readKey readBareKey
    split
    · simp [*]
    · simp [*] at hd
    · simp [*] at hs
    · simp [*]

theorem readTarget_takesQuotes : TakesQuotes readTarget readBareTarget where
  double _ _ := rfl
  single _ _ := rfl
  other c hd hs := by
    unfold readTarget readBareTarget
    split
    · simp [*]
    · simp [*] at hd
    · simp [*] at hs
    · simp [*]

theorem TakesQuotes.reaches {read bare : Read String} (h : TakesQuotes read bare) (hbare : Advances bare) :
    Advances read := by
  intro c s d hread
  obtain ⟨rest, line⟩ := c
  by_cases hd : rest.head? = some '"'
  · obtain ⟨r, rfl⟩ := List.head?_eq_some_iff.mp hd
    rw [h.double] at hread
    exact readQuoted_reaches (by decide) rfl hread
  by_cases hs : rest.head? = some '\''
  · obtain ⟨r, rfl⟩ := List.head?_eq_some_iff.mp hs
    rw [h.single] at hread
    exact readQuoted_reaches (by decide) rfl hread
  · rw [h.other _ hd hs] at hread
    exact hbare _ _ _ hread

theorem readKey_reaches : Advances readKey := by
  apply readKey_takesQuotes.reaches
  intro c s d h
  unfold readBareKey at h
  split at h
  · cases h
  · split at h
    · cases h
      exact reaches_dropWhile c (by decide)
    · cases h

theorem readTarget_reaches : Advances readTarget := by
  apply readTarget_takesQuotes.reaches
  intro c s d h
  unfold readBareTarget at h
  split at h
  · cases h
  · split at h
    · cases h
      exact readWord_reaches c
    · cases h

theorem readNumber_reaches : Advances readNumber := by
  intro c v d h
  unfold readNumber at h
  simp only at h
  split at h
  · cases h
    exact reaches_dropWhile c (by decide)
  · cases h

/-! ## Rows of items -/

section
variable {item : Read α} (hitem : Advances item)
include hitem

theorem readItems_reaches {close : Char} (hclose : close ≠ '\n') {start fuel : Nat} :
    Advances (readItems close item start fuel) := by
  induction fuel with
  | zero => intro c xs d h; cases h
  | succ fuel ih =>
    intro c xs d h
    unfold readItems at h
    simp only at h
    split at h
    · cases h
    split at h
    · rename_i hr hch
      subst hch
      cases h
      exact (reaches_skipAll c).trans (reaches_tail hr hclose)
    obtain ⟨⟨x, c1⟩, hx, hmore⟩ := bind_eq_ok.mp h
    have hfirst : c.Reaches c1.skipAll := ((reaches_skipAll c).trans (hitem _ _ _ hx)).trans (reaches_skipAll c1)
    simp only at hmore
    split at hmore
    · cases hmore
    rename_i hr
    split at hmore
    · rename_i hcomma
      subst hcomma
      obtain ⟨⟨ys, c2⟩, hys, he⟩ := bind_eq_ok.mp hmore
      cases he
      exact (hfirst.trans (reaches_tail hr (by decide))).trans (ih _ _ _ hys)
    split at hmore
    · rename_i hch
      subst hch
      cases hmore
      exact hfirst.trans (reaches_tail hr hclose)
    · cases hmore

theorem readDelimited_reaches {c d : Cursor} {opening : Char} {r : List Char} (hc : c.rest = opening :: r)
    (hopening : opening ≠ '\n') {close : Char} {xs : List α} (h : readDelimited close item c = .ok (xs, d))
    (hclose : close ≠ '\n') : c.Reaches d := by
  unfold readDelimited at h
  rw [hc, List.tail_cons] at h
  exact (reaches_tail hc hopening).trans (readItems_reaches hitem hclose _ _ _ h)

end

theorem readMapEntry_reaches {value : Read Value} (hvalue : Advances value) : Advances (readMapEntry value) := by
  intro c entry d h
  obtain ⟨⟨key, c1⟩, hkey, h⟩ := bind_eq_ok.mp h
  simp only at h
  split at h
  · rename_i r hr
    obtain ⟨⟨v, c2⟩, hv, h⟩ := bind_eq_ok.mp h
    cases h
    have hequals := (readKey_reaches _ _ _ hkey).trans (reaches_skipInline c1)
    exact ((hequals.trans (reaches_tail hr (by decide))).trans (reaches_skipInline _)).trans (hvalue _ _ _ hv)
  · cases h

theorem readValue_reaches (fuel : Nat) : Advances (readValue fuel) := by
  induction fuel with
  | zero => intro c v d h; cases h
  | succ fuel ih =>
    intro c v d h
    rw [readValue] at h
    split at h
    · cases h
    · obtain ⟨⟨s, c1⟩, hs, he⟩ := map_eq_ok.mp h
      cases he
      exact readMultiline_reaches ‹_› hs
    · obtain ⟨⟨s, c1⟩, hs, he⟩ := map_eq_ok.mp h
      cases he
      exact readQuoted_reaches (by decide) ‹_› hs
    · obtain ⟨⟨s, c1⟩, hs, he⟩ := map_eq_ok.mp h
      cases he
      exact readQuoted_reaches (by decide) ‹_› hs
    · rename_i hr
      obtain ⟨⟨vs, c1⟩, hvs, he⟩ := map_eq_ok.mp h
      cases he
      exact readDelimited_reaches ih hr (by decide) hvs (by decide)
    · rename_i hr
      obtain ⟨⟨es, c1⟩, hes, he⟩ := bind_eq_ok.mp h
      simp only at he
      split at he
      · cases he
      · cases he
        exact readDelimited_reaches (readMapEntry_reaches ih) hr (by decide) hes (by decide)
    · split at h
      · exact readNumber_reaches _ _ _ h
      split at h
      · cases h
        exact readWord_reaches c
      split at h
      · cases h
      · cases h

/-- A reader of further items, each with a comma before it. The item may depend on how long a text is left. -/
structure Continues (item : Nat → Read α) (more : Nat → Read (List α)) : Prop where
  zero : ∀ c, more 0 c = .ok ([], c)
  comma : ∀ fuel r line, more (fuel + 1) ⟨',' :: r, line⟩ = do
    let (x, c) ← item (r.length + 1) (skipInline ⟨r, line⟩)
    let (xs, c) ← more fuel c.skipInline
    .ok (x :: xs, c)
  stop : ∀ fuel c, c.rest.head? ≠ some ',' → more fuel c = .ok ([], c)

theorem readMoreValues_continues : Continues readValue readMoreValues where
  zero _ := rfl
  comma _ _ _ := rfl
  stop fuel c h := by
    cases fuel with
    | zero => rfl
    | succ fuel =>
      unfold readMoreValues
      split
      · simp [*] at h
      · rfl

theorem readMoreTargets_continues : Continues (fun _ => readTarget) readMoreTargets where
  zero _ := rfl
  comma _ _ _ := rfl
  stop fuel c h := by
    cases fuel with
    | zero => rfl
    | succ fuel =>
      unfold readMoreTargets
      split
      · simp [*] at h
      · rfl

theorem Continues.reaches {item : Nat → Read α} {more : Nat → Read (List α)} (hmore : Continues item more)
    (hitem : ∀ n, Advances (item n)) (fuel : Nat) : Advances (more fuel) := by
  induction fuel with
  | zero =>
    intro c xs d h
    rw [hmore.zero] at h
    cases h
    exact .refl c
  | succ fuel ih =>
    intro c xs d h
    obtain ⟨rest, line⟩ := c
    by_cases hcomma : rest.head? = some ','
    · obtain ⟨r, rfl⟩ := List.head?_eq_some_iff.mp hcomma
      rw [hmore.comma] at h
      obtain ⟨⟨x, c1⟩, hx, h⟩ := bind_eq_ok.mp h
      obtain ⟨⟨ys, c2⟩, hys, h⟩ := bind_eq_ok.mp h
      cases h
      have hskip : Reaches ⟨',' :: r, line⟩ (skipInline ⟨r, line⟩) :=
        (reaches_tail (c := ⟨',' :: r, line⟩) rfl (by decide)).trans (reaches_skipInline _)
      exact ((hskip.trans (hitem _ _ _ _ hx)).trans (reaches_skipInline c1)).trans (ih _ _ _ hys)
    · rw [hmore.stop _ _ hcomma] at h
      cases h
      exact .refl _

/-! ## Entries and headers -/

theorem readEntryValue_reaches : Advances readEntryValue := by
  intro c v d h
  obtain ⟨⟨w, c1⟩, hw, h⟩ := bind_eq_ok.mp h
  obtain ⟨⟨ws, c2⟩, hws, h⟩ := bind_eq_ok.mp h
  cases h
  have hmore := readMoreValues_continues.reaches readValue_reaches _ _ _ _ hws
  exact ((readValue_reaches _ _ _ _ hw).trans (reaches_skipInline c1)).trans hmore

theorem readRouting_reaches : Advances readRouting := by
  intro c r d h
  unfold readRouting at h
  split at h
  · rename_i hr
    obtain ⟨⟨ts, c1⟩, hts, he⟩ := map_eq_ok.mp h
    cases he
    exact readDelimited_reaches readTarget_reaches hr (by decide) hts (by decide)
  · rename_i hr
    obtain ⟨⟨ts, c1⟩, hts, he⟩ := map_eq_ok.mp h
    cases he
    exact readDelimited_reaches readTarget_reaches hr (by decide) hts (by decide)
  · obtain ⟨⟨t, c1⟩, ht, h⟩ := bind_eq_ok.mp h
    obtain ⟨⟨ts, c2⟩, hts, h⟩ := bind_eq_ok.mp h
    cases h
    have hmore := readMoreTargets_continues.reaches (fun _ => readTarget_reaches) _ _ _ _ hts
    exact ((readTarget_reaches _ _ _ ht).trans (reaches_skipInline c1)).trans hmore

theorem readInto_reaches (body : Body) (key : String) : Advances (readInto body key) := by
  intro c b d h
  cases body with
  | values entries =>
    obtain ⟨⟨v, c1⟩, hv, he⟩ := map_eq_ok.mp h
    cases he
    exact readEntryValue_reaches _ _ _ hv
  | routes edges =>
    obtain ⟨⟨r, c1⟩, hr, he⟩ := map_eq_ok.mp h
    cases he
    exact readRouting_reaches _ _ _ hr

theorem readEntry_passes {b b' : Block} {c d : Cursor} (h : readEntry b c = .ok (b', d)) :
    ∃ r line, c.Reaches ⟨'=' :: r, line⟩ ∧ Reaches ⟨r, line⟩ d := by
  unfold readEntry at h
  obtain ⟨⟨key, c1⟩, hkey, h⟩ := bind_eq_ok.mp h
  simp only at h
  split at h
  · rename_i r hr
    obtain ⟨⟨body, c2⟩, hbody, h⟩ := bind_eq_ok.mp h
    obtain ⟨c3, hend, h⟩ := bind_eq_ok.mp h
    split at h
    · cases h
    · cases h
      refine ⟨r, c1.skipInline.line, ?_, ?_⟩
      · rw [← hr]
        exact (readKey_reaches _ _ _ hkey).trans (reaches_skipInline c1)
      · exact ((reaches_skipInline _).trans (readInto_reaches _ _ _ _ _ hbody)).trans (endLine_reaches hend)
  · cases h

theorem readEntry_reaches (b : Block) : Advances (readEntry b) := by
  intro c b' d h
  obtain ⟨r, line, hequals, hafter⟩ := readEntry_passes h
  exact (hequals.trans (reaches_tail (c := ⟨'=' :: r, line⟩) rfl (by decide))).trans hafter

theorem readEntry_length_lt {b b' : Block} {c d : Cursor} (h : readEntry b c = .ok (b', d)) :
    d.rest.length < c.rest.length := by
  obtain ⟨r, line, hequals, hafter⟩ := readEntry_passes h
  have hread := hequals.length_le
  have hleft := hafter.length_le
  simp only [List.length_cons] at hread hleft
  omega

def isNameChar (ch : Char) : Bool := ch != ']' && ch != '\n'

theorem readHeader_cons (r : List Char) (line : Nat) : readHeader ⟨'[' :: r, line⟩ =
    match r.dropWhile isNameChar with
    | ']' :: after =>
      if (Text.trim (r.takeWhile isNameChar)).isEmpty then .error ⟨line, .emptySectionName⟩
      else do
        let c ← endLine ⟨after, line⟩
        .ok (String.ofList (Text.trim (r.takeWhile isNameChar)), c)
    | [] => .error ⟨line, .unterminatedHeader⟩
    | _ => .error ⟨line + 1, .unterminatedHeader⟩ := rfl

theorem readHeader_reaches {r : List Char} {line : Nat} {name : String} {d : Cursor}
    (h : readHeader ⟨'[' :: r, line⟩ = .ok (name, d)) : Reaches ⟨r, line⟩ d := by
  rw [readHeader_cons] at h
  split at h
  · rename_i after hr
    split at h
    · cases h
    obtain ⟨c1, hend, h⟩ := bind_eq_ok.mp h
    cases h
    have hname : Reaches ⟨r, line⟩ ⟨']' :: after, line⟩ := by
      rw [← hr]
      exact reaches_dropWhile ⟨r, line⟩ (by decide)
    exact (hname.trans (reaches_tail (c := ⟨']' :: after, line⟩) rfl (by decide))).trans (endLine_reaches hend)
  · cases h
  · cases h

section
variable {c : Cursor} {ch : Char} {r : List Char} {line : Nat} (hc : c.skipAll = ⟨ch :: r, line⟩) (fuel : Nat)
include hc

theorem readBlocks_outside (hch : ch ≠ '[') : readBlocks (fuel + 1) [] c = .error ⟨line, .outsideSection⟩ := by
  unfold readBlocks
  simp only [hc]
  split
  · cases ‹ch :: r = []›
  · exact absurd (List.cons.inj ‹ch :: r = _›).1 hch
  · rfl

theorem readBlocks_entry (hch : ch ≠ '[') (b : Block) (bs : List Block) :
    readBlocks (fuel + 1) (b :: bs) c = readEntry b ⟨ch :: r, line⟩ >>= fun p => readBlocks fuel (p.1 :: bs) p.2 := by
  rw [readBlocks]
  simp only [hc]
  split
  · cases ‹ch :: r = []›
  · exact absurd (List.cons.inj ‹ch :: r = _›).1 hch
  · rfl

end

end FlowEngine.Document
