import Mathlib
import FlowEngine.Proofs.Placeholder.Scan

/-!
# Slices at the offsets of placeholders

The offsets that the scan finds cut a text into the parts that its pieces stand for, so
no slice is out of range or cuts a character, and what the slices resolve to is what
the pieces do (`resolveSlices_eq`). `spans_sound` puts this beside what is known of the
offsets themselves.
-/

namespace FlowEngine

open Template (Span byteLength pieces source)
open Text (bytes cut? slice?)
open Scan (OpensAt ClosesAt)

/-! ## Pieces and their offsets -/

namespace Template

theorem source_split (fuel : Nat) (cs : List Char) : source (split fuel cs) = cs := by
  fun_induction split fuel cs with
  | case1 cs => exact source_chars cs
  | case2 => rfl
  | case3 fuel r inner rest hc ih => rw [source_placeholder, ih, closing?_eq_append hc]
  | case4 fuel r hc => exact source_chars _
  | case5 fuel c r hopen ih => rw [source_char, ih]

theorem source_pieces (cs : List Char) : source (pieces cs) = cs := source_split _ cs

theorem exists_placeholder (ps : List Piece) : (∃ as : List Char, ps = as.map .char) ∨
    ∃ (as inner : List Char) (qs : List Piece), ps = as.map .char ++ .placeholder inner :: qs := by
  induction ps with
  | nil => exact .inl ⟨[], rfl⟩
  | cons p ps ih =>
    cases p with
    | char c =>
      rcases ih with ⟨as, rfl⟩ | ⟨as, inner, qs, rfl⟩
      · exact .inl ⟨c :: as, rfl⟩
      · exact .inr ⟨c :: as, inner, qs, rfl⟩
    | placeholder inner => exact .inr ⟨[], inner, ps, rfl⟩

theorem spansFrom_chars_append (as : List Char) (ps : List Piece) (i : Nat) :
    spansFrom i (as.map .char ++ ps) = spansFrom (i + (bytes as).length) ps := by
  induction as generalizing i with
  | nil => rfl
  | cons c as ih =>
    have hsize : byteLength (Piece.char c).source = c.utf8Size := rfl
    rw [List.map_cons, List.cons_append, spansFrom, Text.length_bytes_cons, ← Nat.add_assoc, ← ih, hsize]
    rfl

end Template

namespace Resolver

theorem filter_blank_chars (as : List Char) : (as.map Piece.char).filter (fun p => !p.isBlank)
    = (as.filter fun c => !Text.isBlank c).map .char := by
  rw [List.filter_map]
  rfl

theorem filter_eq_nil_iff_all {α : Type} {p : α → Bool} {xs : List α} :
    xs.filter (fun x => !p x) = [] ↔ xs.all p = true := by
  simp

theorem soleInner?_append (as inner : List Char) (qs : List Piece) :
    soleInner? (as.map .char ++ .placeholder inner :: qs)
      = if as.all Text.isBlank && qs.all Piece.isBlank then some inner else none := by
  have hfilter : (as.map Piece.char ++ .placeholder inner :: qs).filter (fun p => !p.isBlank)
      = (as.filter fun c => !Text.isBlank c).map .char ++ .placeholder inner :: qs.filter fun p => !p.isBlank := by
    rw [List.filter_append, filter_blank_chars, List.filter_cons_of_pos rfl]
  rw [soleInner?, hfilter]
  simp only [Bool.and_eq_true, ← filter_eq_nil_iff_all]
  cases as.filter fun c => !Text.isBlank c with
  | cons c cs => simp
  | nil =>
    cases qs.filter fun p => !p.isBlank with
    | cons q qs => simp
    | nil => simp

variable (r : Resolver)

/-! ## Slices -/

theorem slice?_inner (a inner b : List Char) :
    slice? (a ++ (Piece.placeholder inner).source ++ b) ((bytes a).length + 2)
      ((bytes a).length + byteLength (Piece.placeholder inner).source - 2) = some inner := by
  have hbraces : (bytes ['{', '{']).length = 2 := rfl
  refine Text.slice?_eq_some_iff.mpr ⟨a ++ ['{', '{'], ['}', '}'] ++ b, ?_, ?_, ?_⟩
  · simp [Piece.source]
  · rw [Text.length_bytes_append, hbraces]
  · rw [Text.length_bytes_append, Text.length_bytes_append, hbraces, Scan.byteLength_placeholder]
    omega

/-- Along the pieces of a text: `a` is what stands up to the last span, `b` the text since. -/
theorem spliceSpans_eq : ∀ (ps : List Piece) (a b : List Char),
    r.spliceSpans (a ++ b ++ source ps) (bytes a).length (Template.spansFrom (bytes (a ++ b)).length ps)
      = some ((r.splice ps).map (b ++ ·))
  | [], a, b => by
    rw [Template.source_nil, List.append_nil, Template.spansFrom, spliceSpans, Text.cut?_append, splice]
    simp [Except.map]
  | .char c :: ps, a, b => by
    have hoffset : Template.spansFrom (bytes (a ++ b)).length (.char c :: ps)
        = Template.spansFrom (bytes (a ++ (b ++ [c]))).length ps := by
      rw [← List.append_assoc, Text.length_bytes_append (a ++ b), Text.length_bytes_cons]
      rfl
    have htext : a ++ b ++ source (.char c :: ps) = a ++ (b ++ [c]) ++ source ps := by simp
    rw [hoffset, htext, spliceSpans_eq ps a (b ++ [c]), splice]
    cases r.splice ps with
    | error e => rfl
    | ok cs => simp [Except.map]
  | .placeholder inner :: ps, a, b => by
    have htext : a ++ b ++ source (.placeholder inner :: ps)
        = a ++ b ++ ((Piece.placeholder inner).source ++ source ps) := rfl
    have hlength : (bytes (a ++ b)).length + byteLength (Piece.placeholder inner).source
        = (bytes (a ++ b ++ (Piece.placeholder inner).source)).length := by
      rw [Text.length_bytes_append (a ++ b), Scan.length_bytes (Piece.placeholder inner).source]
    have ih := spliceSpans_eq ps (a ++ b ++ (Piece.placeholder inner).source) []
    rw [List.append_nil, List.append_assoc (a ++ b), ← hlength] at ih
    have hinner := slice?_inner (a ++ b) inner (source ps)
    rw [List.append_assoc (a ++ b)] at hinner
    have hbefore := Text.slice?_append a b ((Piece.placeholder inner).source ++ source ps)
    rw [htext, Template.spansFrom, Piece.isPlaceholder, if_pos rfl, spliceSpans, splice]
    simp only [hbefore, hinner, Option.bind_eq_bind, Option.bind_some]
    cases r.placeholder inner with
    | error e => rfl
    | ok v =>
      simp only [Option.bind_some, ih]
      cases r.splice ps with
      | error e => rfl
      | ok cs => simp [Except.map]

theorem spliceSpans_pieces (cs : List Char) : r.spliceSpans cs 0 (Template.spans cs) = some (r.splice (pieces cs)) := by
  have h := spliceSpans_eq r (pieces cs) [] []
  rw [List.append_nil, List.nil_append, Template.source_pieces] at h
  refine h.trans (congrArg some ?_)
  cases r.splice (pieces cs) <;> rfl

theorem standsAlone?_eq (a inner b : List Char) :
    standsAlone? (a ++ (Piece.placeholder inner).source ++ b)
        ⟨(bytes a).length, (bytes a).length + byteLength (Piece.placeholder inner).source⟩
      = some (a.all Text.isBlank && b.all Text.isBlank) := by
  have hbefore := Text.cut?_append a ((Piece.placeholder inner).source ++ b)
  have hafter := Text.cut?_append (a ++ (Piece.placeholder inner).source) b
  rw [Text.length_bytes_append, Scan.length_bytes (Piece.placeholder inner).source] at hafter
  rw [← List.append_assoc] at hbefore
  simp only [standsAlone?, hbefore, hafter, Option.bind_eq_bind, Option.bind_some]
  cases a.all Text.isBlank <;> rfl

theorem soleInner?_chars (as : List Char) : soleInner? (as.map .char) = none := by
  rw [soleInner?, filter_blank_chars]
  cases as.filter fun c => !Text.isBlank c <;> rfl

theorem resolveSlices_eq (text : String) : r.resolveSlices text = some (r.resolveText text) := by
  have hspliced := r.spliceSpans_pieces text.toList
  have hsource := Template.source_pieces text.toList
  simp only [resolveSlices, resolveText, Scan.spans_bytes]
  rw [Template.spans] at hspliced ⊢
  rcases Template.exists_placeholder (pieces text.toList) with ⟨as, hps⟩ | ⟨as, inner, qs, hps⟩
  · rw [hps, Template.source_chars] at hsource
    rw [hps, Template.spansFrom_chars, soleInner?_chars, Environment.splice_chars, hsource]
    simp [Except.map]
  rw [hps, Template.source_append, Template.source_chars] at hsource
  rw [hps, soleInner?_append]
  rw [hps] at hspliced
  rw [Template.spansFrom_chars_append, Nat.zero_add, Template.spansFrom, Piece.isPlaceholder, if_pos rfl] at hspliced ⊢
  rcases Template.exists_placeholder qs with ⟨bs, rfl⟩ | ⟨bs, inner', qs, rfl⟩
  · -- one placeholder: the value is its own if only blanks stand around it
    have htext : text.toList = as ++ (Piece.placeholder inner).source ++ bs := by
      rw [← hsource, Template.source_placeholder, Template.source_chars]
      simp [Piece.source]
    have hblank : (bs.map Piece.char).all Piece.isBlank = bs.all Text.isBlank := by
      rw [List.all_map]
      rfl
    rw [Template.spansFrom_chars] at hspliced ⊢
    simp only [hspliced, hblank, Option.bind_eq_bind]
    rw [htext, standsAlone?_eq, Option.bind_some]
    cases as.all Text.isBlank && bs.all Text.isBlank with
    | true =>
      simp only [if_true]
      rw [slice?_inner]
      rfl
    | false => rfl
  · have hblank : (bs.map Piece.char ++ .placeholder inner' :: qs).all Piece.isBlank = false := by
      simp [Piece.isBlank]
    rw [Template.spansFrom_chars_append, Template.spansFrom, Piece.isPlaceholder, if_pos rfl] at hspliced ⊢
    simp only [hspliced, hblank, Bool.and_false]
    rfl

end Resolver

/-! ## Offsets in a text -/

namespace Scan

variable {text : String}

/-- Where a narrow character stands twice by its bytes, characters meet before, between and
behind the two. -/
theorem isValid_of_pair {d : Char} (hd : d.utf8Size = 1) {k : Nat} (h1 : (bytes text.toList)[k]? = some d.toUInt8)
    (h2 : (bytes text.toList)[k + 1]? = some d.toUInt8) :
    (⟨k⟩ : String.Pos.Raw).IsValid text ∧ (⟨k + 2⟩ : String.Pos.Raw).IsValid text := by
  obtain ⟨a, b, ha, hk⟩ := Text.exists_of_getElem? hd h1
  obtain ⟨a', b', ha', hk'⟩ := Text.exists_of_getElem? hd h2
  refine ⟨Text.isValid_iff.mpr ⟨a, d :: b, ha, hk⟩, Text.isValid_iff.mpr ⟨a' ++ [d], b', by simp [ha'], ?_⟩⟩
  rw [Text.length_bytes_append, Text.length_bytes_cons, hk', hd]
  rfl

theorem OpensAt.isValid {k : Nat} (h : OpensAt (bytes text.toList) k) :
    (⟨k⟩ : String.Pos.Raw).IsValid text ∧ (⟨k + 2⟩ : String.Pos.Raw).IsValid text :=
  isValid_of_pair rfl h.1 h.2

theorem ClosesAt.isValid {k : Nat} (h : ClosesAt (bytes text.toList) k) :
    (⟨k⟩ : String.Pos.Raw).IsValid text ∧ (⟨k + 2⟩ : String.Pos.Raw).IsValid text :=
  isValid_of_pair rfl h.1 h.2

/-- The spans of any text stand in order and apart, each from the first two opening braces
behind the one before to two closing braces, over four bytes or more, and characters of
the text meet at both of its ends and within its braces. So a resolver that takes the
text apart at these offsets finds every slice, and makes of them what the pieces make. -/
theorem spans_sound (text : String) :
    Placed (bytes text.toList) 0 (spans (bytes text.toList)) ∧
    (spans (bytes text.toList)).Pairwise (fun s t => s.stop ≤ t.start) ∧
    (∀ s ∈ spans (bytes text.toList), s.start + 4 ≤ s.stop ∧ s.stop ≤ text.utf8ByteSize ∧
      OpensAt (bytes text.toList) s.start ∧ ClosesAt (bytes text.toList) (s.stop - 2) ∧
      ∀ k ∈ [s.start, s.start + 2, s.stop - 2, s.stop], (⟨k⟩ : String.Pos.Raw).IsValid text) ∧
    ∀ r : Resolver, r.resolveSlices text = some (r.resolveText text) := by
  have hplaced := placed_spans (bytes text.toList)
  refine ⟨hplaced, hplaced.pairwise, ?_, fun r => r.resolveSlices_eq text⟩
  intro s hs
  obtain ⟨-, hsize, hopens, hcloses⟩ := hplaced.of_mem hs
  have hstop := hcloses.isValid.2
  rw [show s.stop - 2 + 2 = s.stop by omega] at hstop
  refine ⟨hsize, hstop.le_rawEndPos, hopens, hcloses, ?_⟩
  simp only [List.forall_mem_cons]
  exact ⟨hopens.isValid.1, hopens.isValid.2, hcloses.isValid.1, hstop, by simp⟩

end Scan

end FlowEngine
