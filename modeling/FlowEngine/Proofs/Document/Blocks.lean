import Mathlib
import FlowEngine.Proofs.Document.Values
import FlowEngine.Workflow.Printer

/-!
# Blocks read back

A page is the name of a block and its body. What is read from a text is a row of
readable pages with distinct names (`blocks_readable`), and such a row is read
back from its written form (`blocks_written`), whatever lines the blocks start
on.
-/

namespace FlowEngine.Document

open Text (Stops stops_nil stops_cons takeWhile_span dropWhile_span)
open Workflow (writeLine writeHeader)
open Cursor

/-! ## Routings -/

def ReadableRouting : Routing → Prop
  | .fanOut ts | .branch ts => ts ≠ []
  | .select _ | .none => True

theorem readRouting_readable {c c' : Cursor} {r : Routing} (h : readRouting c = .ok (r, c')) : ReadableRouting r := by
  rw [readRouting] at h
  split at h
  · obtain ⟨⟨ts, c1⟩, -, he⟩ := map_eq_ok.mp h
    cases he
    split
    · trivial
    · rename_i hts
      simpa [ReadableRouting] using hts
  · obtain ⟨⟨ts, c1⟩, -, he⟩ := map_eq_ok.mp h
    cases he
    trivial
  · obtain ⟨⟨t, c1⟩, -, h⟩ := bind_eq_ok.mp h
    obtain ⟨⟨ts, c2⟩, -, h⟩ := bind_eq_ok.mp h
    cases h
    exact List.cons_ne_nil _ _

theorem reads_target (t : String) : Reads readTarget writeName t := fun _ line hr =>
  readTarget_writeName t (stops_isIdentChar hr) line

theorem writeName_head (t : String) : ∃ c w, writeName t = c :: w ∧ c ≠ '[' ∧ c ≠ '{' := by
  unfold writeName
  split
  · rename_i h
    obtain ⟨⟨c, w, hs, hc⟩, -, -⟩ := isBareIdent_iff.mp h
    refine ⟨c, w, hs, ?_, ?_⟩ <;> (rintro rfl; exact absurd hc (by decide))
  · exact ⟨'"', _, rfl, by decide, by decide⟩

theorem writeTargets_cons (t : String) (ts : List String) :
    Routing.writeTargets (t :: ts) = writeName t ++ writeMore writeName [] ts :=
  intercalate_writeMore writeName t ts

section
variable (r : List Char) (line : Nat)

theorem stops_moreTargets (ts : List String) : Stops isInner (writeMore writeName ('\n' :: r) ts) :=
  stops_writeMore writeName (stops_cons.mpr (by decide)) ts

theorem skipInline_moreTargets (ts : List String) :
    skipInline ⟨writeMore writeName ('\n' :: r) ts, line⟩ = ⟨writeMore writeName ('\n' :: r) ts, line⟩ := by
  cases ts with
  | nil => exact skipInline_of_stops (stops_cons.mpr (by decide)) line
  | cons t ts => exact skipInline_of_stops (stops_cons.mpr (by decide)) line

theorem readMoreTargets_write : ∀ (fuel : Nat) (ts : List String), ts.length < fuel →
    readMoreTargets fuel ⟨writeMore writeName ('\n' :: r) ts, line⟩ = .ok (ts, ⟨'\n' :: r, line⟩)
  | fuel + 1, [], _ => rfl
  | fuel + 1, t :: ts, hf => by
    have hblank := skipInline_starts ((starts_writeName t).append (writeMore writeName ('\n' :: r) ts)) line
    have ih := readMoreTargets_write fuel ts (by simpa using hf)
    simp only [writeMore, readMoreTargets, Cursor.moveTo, skipInline_blank, hblank,
      reads_target t _ line (stops_moreTargets r ts), ok_bind, skipInline_moreTargets, ih]

theorem readRouting_fanOut (t : String) (ts : List String) :
    readRouting ⟨(Routing.fanOut (t :: ts)).write ++ '\n' :: r, line⟩ = .ok (.fanOut (t :: ts), ⟨'\n' :: r, line⟩) := by
  have hlen := length_le_writeMore writeName ('\n' :: r) ts
  have hmore := readMoreTargets_write r line (writeMore writeName ('\n' :: r) ts).length ts
    (by rw [List.length_cons] at hlen; omega)
  have hfirst := reads_target t _ line (stops_moreTargets r ts)
  obtain ⟨c, w, hw, hc1, hc2⟩ := writeName_head t
  rw [Routing.write, writeTargets_cons, List.append_assoc, writeMore_append]
  · rw [List.nil_append, readRouting]
    split
    · rename_i he; rw [hw] at he; exact absurd (List.cons.inj he).1 hc1
    · rename_i he; rw [hw] at he; exact absurd (List.cons.inj he).1 hc2
    · simp only [hfirst, ok_bind, skipInline_moreTargets, hmore]
  · simp

theorem readRouting_write {x : Routing} (h : ReadableRouting x) :
    readRouting ⟨x.write ++ '\n' :: r, line⟩ = .ok (x, ⟨'\n' :: r, line⟩) := by
  have htargets (ts : List String) : ∀ t ∈ ts, Starts (writeName t) ∧ Reads readTarget writeName t := fun t _ =>
    ⟨starts_writeName t, reads_target t⟩
  match x with
  | .none | .select [] => rfl
  | .fanOut [] | .branch [] => exact absurd rfl h
  | .fanOut (t :: ts) => exact readRouting_fanOut r line t ts
  | .branch (t :: ts) =>
    have hrow := readDelimited_written .bracket '[' (.inl rfl) t ts (htargets _) ('\n' :: r) line
    rw [Routing.write, writeTargets_cons]
    simp only [List.cons_append, List.append_assoc, writeMore_append, List.nil_append] at hrow ⊢
    rw [readRouting]
    simp only [hrow]
    rfl
  | .select (t :: ts) =>
    have hrow := readDelimited_written .brace '{' (.inr rfl) t ts (htargets _) ('\n' :: r) line
    rw [Routing.write, writeTargets_cons]
    simp only [List.cons_append, List.append_assoc, writeMore_append, List.nil_append] at hrow ⊢
    rw [readRouting]
    simp only [hrow]
    rfl

end

theorem starts_writeRouting {x : Routing} (h : ReadableRouting x) : Starts x.write := by
  match x with
  | .none | .branch _ => exact ⟨'[', _, rfl, by decide⟩
  | .select _ => exact ⟨'{', _, rfl, by decide⟩
  | .fanOut [] => exact absurd rfl h
  | .fanOut (t :: ts) =>
    rw [Routing.write, writeTargets_cons]
    · exact (starts_writeName t).append _
    · simp

/-! ## Pages -/

abbrev Page := String × Body

def Block.page (b : Block) : Page := (b.name, b.body)

structure HeaderName (name : String) : Prop where
  trimmed : Text.Trimmed name.toList
  nonempty : name.toList ≠ []
  inside : ∀ c ∈ name.toList, (c != ']' && c != '\n') = true

instance (name : String) : Decidable (HeaderName name) :=
  decidable_of_iff (Text.Trimmed name.toList ∧ name.toList ≠ [] ∧ name.toList.all (fun c => c != ']' && c != '\n') = true)
    ⟨fun ⟨h1, h2, h3⟩ => ⟨h1, h2, List.all_eq_true.mp h3⟩, fun h => ⟨h.trimmed, h.nonempty, List.all_eq_true.mpr h.inside⟩⟩

/-- The values of a body can be read, and it is of the kind that its name asks for. -/
def Body.Readable (name : String) : Body → Prop
  | .values entries => name ≠ edgesName ∧ ∀ e ∈ entries, e.2.Canonical
  | .routes edges => name = edgesName ∧ ∀ e ∈ edges, ReadableRouting e.2

structure Page.Readable (p : Page) : Prop where
  header : HeaderName p.1
  keys : p.2.keys.Nodup
  body : p.2.Readable p.1

/-! ## What a reader of blocks answers -/

theorem readHeader_name {c c' : Cursor} {name : String} (h : readHeader c = .ok (name, c')) : HeaderName name := by
  simp only [readHeader] at h
  split at h
  · split at h
    · cases h
    · rename_i hne
      obtain ⟨c1, -, h⟩ := bind_eq_ok.mp h
      cases h
      refine ⟨by rw [String.toList_ofList]; exact Text.trimmed_trim _, ?_, ?_⟩
      · simpa using hne
      · intro ch hch
        rw [String.toList_ofList] at hch
        exact List.mem_takeWhile_imp (p := fun ch => ch != ']' && ch != '\n') (Text.mem_of_mem_trim hch)
  · cases h
  · cases h

theorem readInto_readable {name key : String} {body body' : Body} {c c' : Cursor} (hb : body.Readable name)
    (h : readInto body key c = .ok (body', c')) : body'.keys = body.keys ++ [key] ∧ body'.Readable name := by
  cases body with
  | values entries =>
    obtain ⟨⟨v, c1⟩, hv, he⟩ := map_eq_ok.mp h
    cases he
    refine ⟨List.map_append, hb.1, ?_⟩
    intro e he
    rcases List.mem_append.mp he with he | he
    · exact hb.2 e he
    · rw [List.mem_singleton.mp he]
      exact readEntryValue_canonical hv
  | routes edges =>
    obtain ⟨⟨r, c1⟩, hr, he⟩ := map_eq_ok.mp h
    cases he
    refine ⟨List.map_append, hb.1, ?_⟩
    intro e he
    rcases List.mem_append.mp he with he | he
    · exact hb.2 e he
    · rw [List.mem_singleton.mp he]
      exact readRouting_readable hr

theorem readEntry_readable {b b' : Block} {c c' : Cursor} (hb : b.page.Readable) (h : readEntry b c = .ok (b', c')) :
    b'.name = b.name ∧ b'.page.Readable := by
  simp only [readEntry] at h
  obtain ⟨⟨key, c1⟩, -, h⟩ := bind_eq_ok.mp h
  simp only at h
  split at h
  · obtain ⟨⟨body, c2⟩, hbody, h⟩ := bind_eq_ok.mp h
    obtain ⟨c3, -, h⟩ := bind_eq_ok.mp h
    split at h
    · cases h
    · rename_i hkey
      cases h
      obtain ⟨hkeys, hread⟩ := readInto_readable hb.body hbody
      refine ⟨rfl, hb.header, ?_, hread⟩
      have hnew : key ∉ b.body.keys := by simpa using hkey
      show body.keys.Nodup
      rw [hkeys, List.nodup_append]
      refine ⟨hb.keys, List.nodup_singleton key, ?_⟩
      intro k hk j hj
      rw [List.mem_singleton.mp hj]
      rintro rfl
      exact hnew hk
  · cases h

/-- Distinct names and readable pages, kept by each block and each entry. -/
structure ReadableBlocks (bs : List Block) : Prop where
  names : (bs.map Block.name).Nodup
  pages : ∀ b ∈ bs, b.page.Readable

theorem readBlocks_readable : ∀ (fuel : Nat) (done bs : List Block) (c : Cursor), ReadableBlocks done →
    readBlocks fuel done c = .ok bs → ReadableBlocks bs
  | 0, done, bs, c, hd, h => by
    cases h
    exact ⟨by rw [List.map_reverse, List.nodup_reverse]; exact hd.names, by simpa using hd.pages⟩
  | fuel + 1, done, bs, c, hd, h => by
    rw [readBlocks.eq_def] at h
    simp only at h
    split at h
    · exact readBlocks_readable 0 done bs c hd h
    · obtain ⟨⟨name, after⟩, hname, h⟩ := bind_eq_ok.mp h
      simp only at h
      split at h
      · cases h
      · rename_i hnew
        refine readBlocks_readable fuel _ bs after ⟨?_, List.forall_mem_cons.mpr ⟨?_, hd.pages⟩⟩ h
        · exact List.nodup_cons.mpr ⟨by simpa using hnew, hd.names⟩
        · refine ⟨readHeader_name hname, ?_, ?_⟩ <;> (simp only [Block.page]; split)
          · exact List.nodup_nil
          · exact List.nodup_nil
          · rename_i he; exact ⟨he, by simp⟩
          · rename_i he; exact ⟨he, by simp⟩
    · cases done with
      | nil => cases h
      | cons b done =>
        obtain ⟨⟨b', after⟩, hb, h⟩ := bind_eq_ok.mp h
        obtain ⟨hname, hread⟩ := readEntry_readable (hd.pages b (by simp)) hb
        have hrest := List.forall_mem_cons.mp hd.pages
        refine readBlocks_readable fuel _ bs after ⟨?_, List.forall_mem_cons.mpr ⟨hread, hrest.2⟩⟩ h
        rw [List.map_cons, hname]
        exact hd.names

theorem blocks_readable {text : String} {bs : List Block} (h : blocks text = .ok bs) : ReadableBlocks bs :=
  readBlocks_readable _ [] bs _ ⟨List.nodup_nil, by simp⟩ h

/-! ## Written pages -/

def Body.write : Body → List Char
  | .values entries => entries.flatMap fun e => writeLine (writeKey e.1) e.2.write
  | .routes edges => edges.flatMap fun e => writeLine (writeKey e.1) e.2.write

def Page.write (p : Page) : List Char := writeHeader p.1 ++ p.2.write

theorem readBlocks_newline (fuel : Nat) (done : List Block) (r : List Char) (line : Nat) :
    readBlocks fuel done ⟨'\n' :: r, line⟩ = readBlocks fuel done ⟨r, line + 1⟩ := by
  cases fuel with
  | zero => rfl
  | succ fuel => simp only [readBlocks, skipAll_newline]

theorem readHeader_write {name : String} (h : HeaderName name) (r : List Char) (line : Nat) :
    readHeader ⟨'[' :: (name.toList ++ ']' :: '\n' :: r), line⟩ = .ok (name, ⟨r, line + 1⟩) := by
  have hstop : Stops (fun c => c != ']' && c != '\n') (']' :: '\n' :: r) := stops_cons.mpr rfl
  have hne : ¬name.toList.isEmpty = true := by simpa using h.nonempty
  simp only [readHeader, List.tail_cons, takeWhile_span h.inside hstop, dropWhile_span h.inside hstop,
    Text.trim_of_trimmed h.trimmed, if_neg hne, Cursor.moveTo, endLine_newline, ok_bind, String.ofList_toList]

theorem readBlocks_header {name : String} (h : HeaderName name) {done : List Block} (hnew : name ∉ done.map Block.name)
    (fuel : Nat) (r : List Char) (line : Nat) :
    readBlocks (fuel + 1) done ⟨writeHeader name ++ r, line⟩
      = readBlocks fuel (⟨name, line + 1, if name = edgesName then .routes [] else .values []⟩ :: done) ⟨r, line + 2⟩ := by
  have hskip := skipAll_of_visible (c := '[') (by decide) (name.toList ++ ']' :: '\n' :: r) (line + 1)
  have hnew' : ¬(done.map Block.name).contains name = true := by simpa using hnew
  simp only [writeHeader, List.cons_append, List.append_assoc, List.nil_append]
  rw [readBlocks_newline, readBlocks.eq_def]
  simp only [hskip, readHeader_write h, ok_bind, if_neg hnew']

section
variable {α : Type} (wrap : List (String × α) → Body) {item : Read α} {wr : α → List Char}
  (hkeys : ∀ es, (wrap es).keys = es.map (·.1))
  (hinto : ∀ es key c, readInto (wrap es) key c = (item c).map fun (x, c) => (wrap (es ++ [(key, x)]), c))
include hkeys hinto

theorem readEntry_write (name : String) (start : Nat) {pre : List (String × α)} {e : String × α}
    (hnew : e.1 ∉ pre.map (·.1)) (hstart : Starts (wr e.2)) {r : List Char} {line : Nat}
    (hread : item ⟨wr e.2 ++ '\n' :: r, line⟩ = .ok (e.2, ⟨'\n' :: r, line⟩)) :
    readEntry ⟨name, start, wrap pre⟩ ⟨writeLine (writeKey e.1) (wr e.2) ++ r, line⟩
      = .ok (⟨name, start, wrap (pre ++ [e])⟩, ⟨r, line + 1⟩) := by
  have hkey := readKey_writeKey e.1 (r := ' ' :: '=' :: ' ' :: (wr e.2 ++ '\n' :: r)) (stops_cons.mpr (by decide)) line
  have hblank := skipInline_starts (hstart.append ('\n' :: r)) line
  have hequals := skipInline_of_stops (r := '=' :: ' ' :: (wr e.2 ++ '\n' :: r)) (stops_cons.mpr (by decide)) line
  have hnew' : ¬(wrap pre).keys.contains e.1 = true := by rw [hkeys]; simpa using hnew
  have hline : writeLine (writeKey e.1) (wr e.2) ++ r = writeKey e.1 ++ ' ' :: '=' :: ' ' :: (wr e.2 ++ '\n' :: r) := by
    simp [writeLine]
  rw [hline]
  simp only [readEntry, hkey, ok_bind, skipInline_blank, hequals, Cursor.moveTo, hblank, hinto, hread, ok_map,
    endLine_newline, if_neg hnew']

theorem readBlocks_entries {name : String} {start : Nat} {done : List Block} {r : List Char} :
    ∀ {es : List (String × α)} (pre : List (String × α)), ((pre ++ es).map (·.1)).Nodup →
      (∀ e ∈ es, Starts (wr e.2) ∧ ∀ r line, item ⟨wr e.2 ++ '\n' :: r, line⟩ = .ok (e.2, ⟨'\n' :: r, line⟩)) →
      ∀ {f line : Nat}, ((es.flatMap fun e => writeLine (writeKey e.1) (wr e.2)) ++ r).length ≤ f →
      ∃ fuel' line', r.length ≤ fuel' ∧
        readBlocks f (⟨name, start, wrap pre⟩ :: done)
            ⟨(es.flatMap fun e => writeLine (writeKey e.1) (wr e.2)) ++ r, line⟩
          = readBlocks fuel' (⟨name, start, wrap (pre ++ es)⟩ :: done) ⟨r, line'⟩
  | [], pre, _, _, fuel, line, hf => ⟨fuel, line, hf, by rw [List.append_nil]; rfl⟩
  | e :: es, pre, hn, hi, fuel, line, hf => by
    obtain ⟨⟨hstart, hread⟩, hrest⟩ := List.forall_mem_cons.mp hi
    have hnew : e.1 ∉ pre.map (·.1) := by
      rw [List.map_append, List.nodup_append] at hn
      exact fun h => hn.2.2 e.1 h e.1 (by simp) rfl
    rw [List.flatMap_cons, List.append_assoc] at hf ⊢
    generalize hmore : (es.flatMap fun e => writeLine (writeKey e.1) (wr e.2)) ++ r = more at hf ⊢
    have hskip := skipAll_starts (((starts_writeKey e.1).append
      ([' ', '=', ' '] ++ (wr e.2 ++ ['\n']))).append more) line
    have hentry := readEntry_write wrap hkeys hinto name start hnew hstart (hread more line)
    have hline : writeLine (writeKey e.1) (wr e.2) = writeKey e.1 ++ ([' ', '=', ' '] ++ (wr e.2 ++ ['\n'])) := by
      simp [writeLine]
    obtain ⟨c, w, hw, hc⟩ := writeKey_head e.1
    cases fuel with
    | zero => simp [writeLine] at hf
    | succ fuel =>
      obtain ⟨fuel', line', hf', hgoal⟩ := readBlocks_entries (pre ++ [e])
        (by rwa [List.append_assoc, List.singleton_append]) hrest (r := r) (f := fuel) (by
          rw [hmore]
          simp only [writeLine, List.length_append, List.length_cons] at hf
          omega)
      refine ⟨fuel', line', hf', ?_⟩
      rw [List.append_assoc, List.singleton_append, hmore] at hgoal
      rw [← hgoal, readBlocks.eq_def]
      simp only [hline, hskip]
      split
      · rename_i he; rw [hw] at he; cases he
      · rename_i he; rw [hw] at he; exact absurd (List.cons.inj he).1 hc
      · rw [← hline, hentry]
        rfl

end

theorem readBlocks_page {p : Page} (hp : p.Readable) {done : List Block} (hnew : p.1 ∉ done.map Block.name)
    {r : List Char} {fuel line : Nat} (hf : (p.write ++ r).length ≤ fuel) :
    ∃ fuel' line' b, r.length ≤ fuel' ∧ b.page = p ∧
      readBlocks fuel done ⟨p.write ++ r, line⟩ = readBlocks fuel' (b :: done) ⟨r, line'⟩ := by
  obtain ⟨name, body⟩ := p
  rw [Page.write, List.append_assoc] at hf ⊢
  cases fuel with
  | zero => simp [writeHeader] at hf
  | succ fuel =>
    have hlen : (body.write ++ r).length ≤ fuel := by
      simp only [writeHeader, List.length_append, List.length_cons] at hf ⊢
      omega
    rw [readBlocks_header hp.header hnew]
    cases body with
    | values entries =>
      have hread : ∀ e ∈ entries, Starts e.2.write ∧
          ∀ r line, readEntryValue ⟨e.2.write ++ '\n' :: r, line⟩ = .ok (e.2, ⟨'\n' :: r, line⟩) := fun e he =>
        have hc := hp.body.2 e he
        ⟨Value.starts_write hc, fun r line => readEntryValue_write hc r line⟩
      obtain ⟨fuel', line', hf', hgoal⟩ := readBlocks_entries .values (fun _ => rfl)
        (fun _ _ _ => rfl) [] hp.keys hread hlen
      refine ⟨fuel', line', _, hf', ?_, (?_ : _ = _).trans hgoal⟩
      · rfl
      · rw [if_neg hp.body.1]; rfl
    | routes edges =>
      have hread : ∀ e ∈ edges, Starts e.2.write ∧
          ∀ r line, readRouting ⟨e.2.write ++ '\n' :: r, line⟩ = .ok (e.2, ⟨'\n' :: r, line⟩) := fun e he =>
        have hc := hp.body.2 e he
        ⟨starts_writeRouting hc, fun r line => readRouting_write r line hc⟩
      obtain ⟨fuel', line', hf', hgoal⟩ := readBlocks_entries .routes (fun _ => rfl)
        (fun _ _ _ => rfl) [] hp.keys hread hlen
      refine ⟨fuel', line', _, hf', ?_, (?_ : _ = _).trans hgoal⟩
      · rfl
      · rw [if_pos hp.body.1]; rfl

theorem readBlocks_pages : ∀ {ps : List Page} (done : List Block), (done.map Block.name ++ ps.map (·.1)).Nodup →
    (∀ p ∈ ps, p.Readable) → ∀ {f line : Nat}, (ps.flatMap Page.write).length ≤ f →
    ∃ bs, readBlocks f done ⟨ps.flatMap Page.write, line⟩ = .ok (done.reverse ++ bs) ∧ bs.map Block.page = ps
  | [], done, _, _, fuel, line, _ => by
    refine ⟨[], ?_, rfl⟩
    cases fuel with
    | zero => rw [List.append_nil]; rfl
    | succ fuel => rw [List.append_nil]; rfl
  | p :: ps, done, hn, hp, fuel, line, hf => by
    obtain ⟨hp1, hrest⟩ := List.forall_mem_cons.mp hp
    have hnew : p.1 ∉ done.map Block.name := fun h => (List.nodup_append.mp hn).2.2 p.1 h p.1 (by simp) rfl
    rw [List.flatMap_cons] at hf ⊢
    obtain ⟨fuel', line', b, hf', hb, hstep⟩ := readBlocks_page hp1 hnew hf
    have hname : b.name = p.1 := congrArg Prod.fst hb
    have hn' : ((b :: done).map Block.name ++ ps.map (·.1)).Nodup := by
      rw [List.map_cons, hname, List.cons_append]
      exact (List.perm_middle.nodup_iff).mp hn
    obtain ⟨bs, hbs, hpages⟩ := readBlocks_pages _ hn' hrest hf'
    refine ⟨b :: bs, ?_, by rw [List.map_cons, hb, hpages]⟩
    rw [hstep, hbs, List.reverse_cons, List.append_assoc, List.singleton_append]

theorem blocks_written {ps : List Page} (hn : (ps.map (·.1)).Nodup) (hp : ∀ p ∈ ps, p.Readable) {text : List Char}
    (ht : ps.flatMap Page.write = '\n' :: text) :
    ∃ bs, blocks (String.ofList text) = .ok bs ∧ bs.map Block.page = ps := by
  obtain ⟨bs, hbs, hpages⟩ := readBlocks_pages [] hn hp (f := text.length + 1)
    (by rw [ht]; rfl)
  refine ⟨bs, ?_, hpages⟩
  rw [ht, readBlocks_newline] at hbs
  rw [blocks, String.toList_ofList]
  exact hbs

end FlowEngine.Document
