import Mathlib
import FlowEngine.Proofs.Placeholder.Literal

/-!
# Environment values in text

Substitution is meant to put the values of variables into a text as data: the text that
comes out should resolve to the text with the values as they are. The values with two
opening braces in them are put in as quoted literals, one by one, so the law fails where
a brace meets a brace from another value or from the text and a placeholder closes, and
where blanks surround a literal that is alone (`resolveText_substitute_iff`). Around one
literal, `resolveText_literal` asks for texts without an opening brace that are not blank.
-/

namespace FlowEngine.Environment

open Template (source Inert pieces)

def Part.verbatim (env : Environment) : Part → List Char
  | .char c => [c]
  | .variable name =>
    match env.get? (String.ofList name) with
    | some value => value.toList
    | none => []

def verbatim (env : Environment) (cs : List Char) : List Char := (parts cs).flatMap (Part.verbatim env)

/-- The pieces that a value is meant to be. -/
def fragment (value : List Char) : List Piece :=
  if opensPlaceholder value then [.placeholder (quoted value)] else value.map .char

def Part.inserted (env : Environment) : Part → List Piece
  | .char c => [.char c]
  | .variable name =>
    match env.get? (String.ofList name) with
    | some value => fragment value.toList
    | none => []

/-- The pieces that a text with its variables replaced is meant to be. -/
def inserted (env : Environment) (cs : List Char) : List Piece := (parts cs).flatMap (Part.inserted env)

/-! ## The row of pieces that is meant -/

theorem source_fragment (v : List Char) : source (fragment v) = literal v := by
  unfold fragment literal
  split_ifs with h
  · simp [Template.source_placeholder, quoted]
  · exact Template.source_chars v

theorem source_flatMap_inserted (env : Environment) (ps : List Part) :
    source (ps.flatMap (Part.inserted env)) = ps.flatMap env.replacement := by
  induction ps with
  | nil => rfl
  | cons p ps ih =>
    rw [List.flatMap_cons, List.flatMap_cons, Template.source_append, ih]
    congr 1
    obtain c | name := p
    · rfl
    · simp only [Part.inserted, replacement]
      cases env.get? (String.ofList name) with
      | none => rfl
      | some value => exact source_fragment _

theorem source_inserted (env : Environment) (cs : List Char) : source (env.inserted cs) = (env.substitute cs).1 :=
  source_flatMap_inserted env _

theorem quoted_of_mem_fragment {v inner : List Char} (h : .placeholder inner ∈ fragment v) : inner = quoted v := by
  unfold fragment at h
  split_ifs at h <;> simp_all

theorem quoted_of_mem_inserted {env : Environment} {cs inner : List Char}
    (h : .placeholder inner ∈ env.inserted cs) : ∃ v, inner = quoted v := by
  obtain ⟨p, -, hp⟩ := List.mem_flatMap.mp h
  obtain c | name := p
  · simp [Part.inserted] at hp
  · simp only [Part.inserted] at hp
    cases hv : env.get? (String.ofList name) with
    | none => simp [hv] at hp
    | some value =>
      rw [hv] at hp
      exact ⟨_, quoted_of_mem_fragment hp⟩

/-! ## Splicing -/

section
variable (r : Resolver)

theorem splice_append {ps qs : List Piece} {a b : List Char} (hp : r.splice ps = .ok a) (hq : r.splice qs = .ok b) :
    r.splice (ps ++ qs) = .ok (a ++ b) := by
  induction ps generalizing a with
  | nil =>
    cases hp
    exact hq
  | cons p ps ih =>
    cases p with
    | char c =>
      obtain ⟨t, ht, he⟩ := bind_eq_ok.mp hp
      cases he
      rw [List.cons_append, Resolver.splice, ih ht, ok_bind, List.cons_append]
    | placeholder inner =>
      obtain ⟨v, hv, hp⟩ := bind_eq_ok.mp hp
      obtain ⟨t, ht, he⟩ := bind_eq_ok.mp hp
      cases he
      rw [List.cons_append, Resolver.splice, hv, ok_bind, ih ht, ok_bind, List.append_assoc]

theorem splice_chars (cs : List Char) : r.splice (cs.map .char) = .ok cs := by
  induction cs with
  | nil => rfl
  | cons c cs ih => rw [List.map_cons, Resolver.splice, ih]; rfl

theorem splice_fragment (v : List Char) : r.splice (fragment v) = .ok v := by
  unfold fragment
  split_ifs with h
  · simp [Resolver.splice, placeholder_quoted, Json.plainText]
  · exact splice_chars r v

theorem splice_flatMap_inserted (env : Environment) (ps : List Part) :
    r.splice (ps.flatMap (Part.inserted env)) = .ok (ps.flatMap (Part.verbatim env)) := by
  induction ps with
  | nil => rfl
  | cons p ps ih =>
    have hp : r.splice (Part.inserted env p) = .ok (Part.verbatim env p) := by
      obtain c | name := p
      · rfl
      · simp only [Part.inserted, Part.verbatim]
        cases env.get? (String.ofList name) with
        | none => rfl
        | some value => exact splice_fragment r _
    exact splice_append r hp ih

theorem splice_inserted (env : Environment) (cs : List Char) :
    r.splice (env.inserted cs) = .ok (env.verbatim cs) := splice_flatMap_inserted r env _

end

/-! ## Blanks around a literal -/

/-- One placeholder stands among blanks, of which there are some. -/
def Padded (ps : List Piece) : Prop := (Resolver.soleInner? ps).isSome ∧ ∃ p ∈ ps, p.isBlank = true

instance (ps : List Piece) : Decidable (Padded ps) := inferInstanceAs (Decidable (_ ∧ _))

theorem soleInner?_eq_some {ps : List Piece} {inner : List Char} (h : Resolver.soleInner? ps = some inner) :
    ∃ as bs : List Piece, ps = as ++ .placeholder inner :: bs ∧ (∀ p ∈ as, p.isBlank = true) ∧
      ∀ p ∈ bs, p.isBlank = true := by
  have hf : (ps.filter fun p => !p.isBlank) = [.placeholder inner] := by
    unfold Resolver.soleInner? at h
    split at h
    · next hf => cases h; exact hf
    · cases h
  obtain ⟨as, bs, rfl, has, -, hbs⟩ := List.filter_eq_cons_iff.mp hf
  refine ⟨as, bs, rfl, fun p hp => by simpa using has p hp, ?_⟩
  intro p hp
  simpa using List.filter_eq_nil_iff.mp hbs p hp

theorem chars_of_blanks {ps : List Piece} (h : ∀ p ∈ ps, p.isBlank = true) : ps = (source ps).map .char := by
  apply Template.chars_of_no_placeholder
  intro p hp
  cases p with
  | char c => rfl
  | placeholder inner => exact absurd (h _ hp) Bool.false_ne_true

theorem splice_blanks (r : Resolver) {ps : List Piece} (h : ∀ p ∈ ps, p.isBlank = true) :
    r.splice ps = .ok (source ps) := by
  rw [chars_of_blanks h, splice_chars, Template.source_chars]

theorem blanks_eq_nil {as bs : List Piece} (h : ∀ p ∈ as ++ bs, p.isBlank = true) {v : List Char} :
    v = source as ++ v ++ source bs ↔ as ++ bs = [] := by
  constructor
  · intro hv
    have hl := congrArg List.length hv
    have hb := congrArg List.length (chars_of_blanks h)
    simp only [List.length_append, List.length_map, Template.source_append] at hl hb
    exact List.length_eq_zero_iff.mp (by rw [List.length_append]; omega)
  · intro he
    obtain ⟨rfl, rfl⟩ := List.append_eq_nil_iff.mp he
    simp

theorem resolveText_sole (r : Resolver) {env : Environment} {cs inner : List Char}
    (hp : pieces (env.substitute cs).1 = env.inserted cs) (hs : Resolver.soleInner? (env.inserted cs) = some inner) :
    ∃ as bs : List Piece, ∃ v, env.inserted cs = as ++ .placeholder (quoted v) :: bs ∧
      (∀ p ∈ as ++ bs, p.isBlank = true) ∧ env.verbatim cs = source as ++ v ++ source bs ∧
      r.resolveText (String.ofList (env.substitute cs).1) = .ok (.string (String.ofList v)) := by
  obtain ⟨as, bs, he, has, hbs⟩ := soleInner?_eq_some hs
  have hm : .placeholder inner ∈ env.inserted cs := by rw [he]; simp
  obtain ⟨v, rfl⟩ := quoted_of_mem_inserted hm
  refine ⟨as, bs, v, he, List.forall_mem_append.mpr ⟨has, hbs⟩, ?_, ?_⟩
  · have hv : r.splice [.placeholder (quoted v)] = .ok v := by
      simp [Resolver.splice, placeholder_quoted, Json.plainText]
    have hrow := splice_append r (splice_append r (splice_blanks r has) hv) (splice_blanks r hbs)
    rw [List.append_assoc, List.singleton_append, ← he, splice_inserted] at hrow
    exact Except.ok.inj hrow
  · unfold Resolver.resolveText
    rw [String.toList_ofList, hp]
    simp only [hs, placeholder_quoted]

/-! ## When the values are data -/

theorem pieces_substitute_iff (env : Environment) (cs : List Char) :
    pieces (env.substitute cs).1 = env.inserted cs ↔ Inert (env.inserted cs) := by
  rw [← source_inserted]
  apply Template.pieces_source_iff
  intro inner hm
  obtain ⟨v, rfl⟩ := quoted_of_mem_inserted hm
  exact enclosed_quoted v

/-- The pieces that are found are those that are meant, and the text resolves to
the text with the values as they are, exactly when no brace that stands by
another opens a placeholder and no literal stands alone among blanks. -/
theorem resolveText_substitute_iff (r : Resolver) (env : Environment) (cs : List Char) :
    (pieces (env.substitute cs).1 = env.inserted cs ∧
      r.resolveText (String.ofList (env.substitute cs).1) = .ok (.string (String.ofList (env.verbatim cs)))) ↔
    Inert (env.inserted cs) ∧ ¬Padded (env.inserted cs) := by
  rw [← pieces_substitute_iff]
  apply and_congr_right
  intro hp
  cases hs : Resolver.soleInner? (env.inserted cs) with
  | none =>
    have hr : r.resolveText (String.ofList (env.substitute cs).1) =
        .ok (.string (String.ofList (env.verbatim cs))) := by
      unfold Resolver.resolveText
      rw [String.toList_ofList, hp]
      simp only [hs, splice_inserted, ok_map]
    simp [hr, Padded, hs]
  | some inner =>
    obtain ⟨as, bs, v, he, hb, hv, hr⟩ := resolveText_sole r hp hs
    have hpad : (∃ p ∈ env.inserted cs, p.isBlank = true) ↔ as ++ bs ≠ [] := by
      constructor
      · rintro ⟨p, hm, hpb⟩ hn
        obtain ⟨rfl, rfl⟩ := List.append_eq_nil_iff.mp hn
        rw [he, List.nil_append, List.mem_singleton] at hm
        subst hm
        cases hpb
      · intro hn
        obtain ⟨p, hm⟩ := List.exists_mem_of_ne_nil _ hn
        refine ⟨p, ?_, hb p hm⟩
        rw [he, List.mem_append, List.mem_cons]
        exact (List.mem_append.mp hm).imp_right Or.inr
    rw [hr, hv, Padded, hs, hpad, Option.isSome_some]
    simp only [Except.ok.injEq, Json.string.injEq, String.ofList_inj, true_and, not_not]
    exact blanks_eq_nil hb

/-- A value that starts with a brace meets the brace before it and is evaluated. -/
example :
    let env : Environment := [("X", "\x7b.Env.SECRET\x7d\x7d"), ("SECRET", "s3cret")]
    let r : Resolver := ⟨⟨"", [], .null, env, .empty⟩, .empty, true⟩
    (r.resolveText (String.ofList (env.substitute "\x7b$\x7bX\x7d".toList).1)).toOption.map Json.plainText =
      some "s3cret" := by
  decide +kernel

/-! ## A value between two texts -/

theorem inert_chars_append {cs : List Char} (h : '{' ∉ cs) {ps : List Piece} (hps : Inert ps) :
    Inert (cs.map .char ++ ps) := by
  induction cs with
  | nil => exact hps
  | cons c cs ih =>
    rw [List.mem_cons, not_or] at h
    rw [List.map_cons, List.cons_append, Inert, if_neg fun ho => h.1 ho.1.symm]
    exact ih h.2

theorem inert_fragment_append {v s : List Char} (h : '{' ∉ s) : Inert (fragment v ++ s.map .char) := by
  have hs : Inert (s.map .char ++ []) := inert_chars_append h trivial
  rw [List.append_nil] at hs
  unfold fragment
  split_ifs with hv
  · exact hs
  · -- no two braces stand together in the value, and what follows it starts with none
    induction v with
    | nil => exact hs
    | cons c v ih =>
      have ho : ¬Template.Opens c (v ++ s) := by
        rintro ⟨rfl, hd⟩
        cases v with
        | nil => exact h (List.mem_of_mem_head? hd)
        | cons d v =>
          obtain rfl : d = '{' := Option.some.inj hd
          exact hv rfl
      rw [List.map_cons, List.cons_append, Inert, ← List.map_append, Template.source_chars, if_neg ho,
        List.map_append]
      refine ih fun hv' => hv ?_
      unfold opensPlaceholder
      split <;> simp_all

theorem pieces_literal {p v s : List Char} (hp : '{' ∉ p) (hs : '{' ∉ s) :
    pieces (p ++ literal v ++ s) = p.map .char ++ (fragment v ++ s.map .char) := by
  have hrow : source (p.map .char ++ (fragment v ++ s.map .char)) = p ++ literal v ++ s := by
    simp only [Template.source_append, Template.source_chars, source_fragment, List.append_assoc]
  rw [← hrow, Template.pieces_source_iff]
  · exact inert_chars_append hp (inert_fragment_append hs)
  · intro inner hm
    have hm : .placeholder inner ∈ fragment v := by simpa using hm
    rw [quoted_of_mem_fragment hm]
    exact enclosed_quoted v

theorem soleInner?_eq_none {ps : List Piece} {c : Char} (hm : .char c ∈ ps) (hc : Text.isBlank c = false) :
    Resolver.soleInner? ps = none := by
  rw [Option.eq_none_iff_forall_ne_some]
  intro inner hi
  obtain ⟨as, bs, rfl, has, hbs⟩ := soleInner?_eq_some hi
  have hb : Text.isBlank c = true := by
    rw [List.mem_append, List.mem_cons] at hm
    obtain hm | hm | hm := hm
    · exact has _ hm
    · cases hm
    · exact hbs _ hm
  exact Bool.false_ne_true (hc.symm.trans hb)

/-- A literal between two texts that hold no opening brace, and of which some
character is not blank, resolves to its value between those texts. -/
theorem resolveText_literal (r : Resolver) {p v s : List Char} (hp : '{' ∉ p) (hs : '{' ∉ s)
    (hb : ∃ c ∈ p ++ s, Text.isBlank c = false) :
    r.resolveText (String.ofList (p ++ literal v ++ s)) = .ok (.string (String.ofList (p ++ v ++ s))) := by
  obtain ⟨c, hc, hcb⟩ := hb
  have hm : .char c ∈ p.map .char ++ (fragment v ++ s.map .char) := by
    simp only [List.mem_append, List.mem_map, Piece.char.injEq, exists_eq_right]
    exact (List.mem_append.mp hc).imp_right Or.inr
  have hsplice := splice_append r (splice_chars r p) (splice_append r (splice_fragment r v) (splice_chars r s))
  unfold Resolver.resolveText
  rw [String.toList_ofList, pieces_literal hp hs]
  simp only [soleInner?_eq_none hm hcb, hsplice, ok_map, List.append_assoc]

theorem resolveText_literal_braces :
    (⟨⟨"", [], .null, [], .empty⟩, .empty, true⟩ : Resolver).resolveText
        "id=\x7b\x7b'it\\'s \x7b\x7bx\x7d\x7d\\\\'\x7d\x7d" = .ok (.string "id=it's \x7b\x7bx\x7d\x7d\\") :=
  resolveText_literal _ (p := "id=".toList) (v := "it's \x7b\x7bx\x7d\x7d\\".toList) (s := [])
    (by decide) (by decide) ⟨'=', by decide, by decide⟩

end FlowEngine.Environment
