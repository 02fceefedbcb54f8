import FlowEngine.Catalog
import FlowEngine.Proofs.Placeholder.Braces
import FlowEngine.Proofs.Placeholder.Literal
import FlowEngine.Proofs.Placeholder.Lookup

/-!
# Names of nodes

The id of a node is any text that fits into the header of a section, but expressions have
names for some nodes only (`Expr.IsNodeName`). An id stands for its node in a placeholder
just if it is such a name (`Expr.node_addressable_iff`). Where the node of a reference
comes from is traced back through the readers to a token, and from there to a word of the
text, so no other text is read as its own node.
-/

namespace FlowEngine

open Token (isWordStart isWordChar)

namespace Expr

/-! ## Where a reference to a node comes from -/

def FromIdent (read : List Token → Except ExprError (Expr × List Token)) : Prop :=
  ∀ ts id path r, read ts = .ok (.ref ⟨.node id, path⟩, r) → .ident id ∈ ts

theorem parseOrTail_ref : ∀ {fuel : Nat} {left : Expr} {ts r : List Token} {target : Reference},
    parseOrTail fuel left ts = .ok (.ref target, r) → left = .ref target
  | fuel + 1, left, ts, r, target, h => by
    rw [parseOrTail.eq_def] at h
    simp only at h
    split at h
    · obtain ⟨⟨right, rest⟩, -, h⟩ := bind_eq_ok.mp h
      cases parseOrTail_ref h
    · cases h
      rfl

theorem parseAndTail_ref : ∀ {fuel : Nat} {left : Expr} {ts r : List Token} {target : Reference},
    parseAndTail fuel left ts = .ok (.ref target, r) → left = .ref target
  | fuel + 1, left, ts, r, target, h => by
    rw [parseAndTail.eq_def] at h
    simp only at h
    split at h
    · obtain ⟨⟨right, rest⟩, -, h⟩ := bind_eq_ok.mp h
      cases parseAndTail_ref h
    · cases h
      rfl

theorem parseSourced_node {ts r : List Token} {id : String} {path : List String} :
    parseSourced ts ≠ .ok (.ref ⟨.node id, path⟩, r) := by
  intro h
  obtain ⟨⟨names, rest⟩, -, h⟩ := bind_eq_ok.mp h
  cases names with
  | nil => cases h
  | cons name names =>
    simp only at h
    split at h
    · rename_i source hsource
      cases h
      unfold sourceOf? at hsource
      split at hsource <;> cases hsource
    · cases h

theorem parsePrimary_node {fuel : Nat} (hexpr : FromIdent (parseExpr fuel)) : FromIdent (parsePrimary (fuel + 1)) := by
  intro ts id path r h
  rw [parsePrimary.eq_def] at h
  cases ts with
  | nil => cases h
  | cons t ts =>
    simp only at h
    split at h
    · cases h
    cases t with
    | openParen =>
      obtain ⟨⟨inner, rest⟩, hinner, h⟩ := bind_eq_ok.mp h
      simp only at h
      split at h
      · cases h
        exact List.mem_cons_of_mem _ (hexpr _ _ _ _ hinner)
      · cases h
    | ident w =>
      obtain ⟨p, -, he⟩ := map_eq_ok.mp h
      cases he
      exact List.mem_cons_self
    | dot => exact absurd h parseSourced_node
    | _ => cases h

theorem parseOperand_node {fuel : Nat} (hprimary : FromIdent (parsePrimary fuel)) : FromIdent (parseOperand (fuel + 1)) := by
  intro ts id path r h
  rw [parseOperand] at h
  obtain ⟨⟨primary, rest⟩, hread, h⟩ := bind_eq_ok.mp h
  obtain ⟨⟨filters, rest'⟩, -, h⟩ := bind_eq_ok.mp h
  simp only at h
  split at h
  · cases h
    exact hprimary _ _ _ _ hread
  · cases h

theorem parseComparison_node {fuel : Nat} (hoperand : FromIdent (parseOperand fuel)) :
    FromIdent (parseComparison (fuel + 1)) := by
  intro ts id path r h
  rw [parseComparison] at h
  obtain ⟨⟨left, rest⟩, hread, h⟩ := bind_eq_ok.mp h
  simp only at h
  split at h
  · obtain ⟨right, -, h⟩ := bind_eq_ok.mp h
    cases h
  · cases h
    exact hoperand _ _ _ _ hread

theorem parseNot_node {fuel : Nat} (hcomparison : FromIdent (parseComparison fuel)) : FromIdent (parseNot (fuel + 1)) := by
  intro ts id path r h
  rw [parseNot.eq_def] at h
  simp only at h
  split at h
  · obtain ⟨a, -, h⟩ := bind_eq_ok.mp h
    cases h
  · exact hcomparison _ _ _ _ h

theorem parseAnd_node {fuel : Nat} (hnot : FromIdent (parseNot fuel)) : FromIdent (parseAnd (fuel + 1)) := by
  intro ts id path r h
  rw [parseAnd] at h
  obtain ⟨⟨left, rest⟩, hread, h⟩ := bind_eq_ok.mp h
  obtain rfl := parseAndTail_ref h
  exact hnot _ _ _ _ hread

theorem parseOr_node {fuel : Nat} (hand : FromIdent (parseAnd fuel)) : FromIdent (parseOr (fuel + 1)) := by
  intro ts id path r h
  rw [parseOr] at h
  obtain ⟨⟨left, rest⟩, hread, h⟩ := bind_eq_ok.mp h
  obtain rfl := parseOrTail_ref h
  exact hand _ _ _ _ hread

theorem parseExpr_node {fuel : Nat} (hor : FromIdent (parseOr fuel)) : FromIdent (parseExpr (fuel + 1)) := by
  intro ts id path r h
  rw [parseExpr] at h
  obtain ⟨⟨value, rest⟩, hread, h⟩ := bind_eq_ok.mp h
  simp only at h
  split at h
  · obtain ⟨⟨condition, rest'⟩, -, h⟩ := bind_eq_ok.mp h
    simp only at h
    split at h
    · obtain ⟨fallback, -, h⟩ := bind_eq_ok.mp h
      cases h
    · cases h
  · cases h
    exact hor _ _ _ _ hread

structure AllFromIdent (fuel : Nat) : Prop where
  expr : FromIdent (parseExpr fuel)
  or : FromIdent (parseOr fuel)
  and : FromIdent (parseAnd fuel)
  not : FromIdent (parseNot fuel)
  comparison : FromIdent (parseComparison fuel)
  operand : FromIdent (parseOperand fuel)
  primary : FromIdent (parsePrimary fuel)

theorem allFromIdent (fuel : Nat) : AllFromIdent fuel := by
  induction fuel with
  | zero =>
    constructor
    all_goals
      intro ts id path r h
      cases h
  | succ fuel ih =>
    exact {
      expr := parseExpr_node ih.or
      or := parseOr_node ih.and
      and := parseAnd_node ih.not
      not := parseNot_node ih.comparison
      comparison := parseComparison_node ih.operand
      operand := parseOperand_node ih.primary
      primary := parsePrimary_node ih.expr }

theorem ident_mem_of_ofTokens {ts : List Token} {id : String} {path : List String}
    (h : ofTokens ts = .ok (.ref ⟨.node id, path⟩)) : .ident id ∈ ts := by
  cases ts with
  | nil => cases h
  | cons t ts =>
    obtain ⟨⟨e, rest⟩, hread, h⟩ := bind_eq_ok.mp (show parseExpr _ (t :: ts) >>= _ = _ from h)
    cases rest with
    | nil =>
      cases h
      exact (allFromIdent _).expr _ _ _ _ hread
    | cons t' rest => cases h

end Expr

/-! ## Words -/

namespace Token

def IsWord : List Char → Prop
  | [] => False
  | c :: cs => isWordStart c = true ∧ ∀ d ∈ cs, isWordChar d = true

instance : DecidablePred IsWord
  | [] => inferInstanceAs (Decidable False)
  | c :: cs => decidable_of_iff ((isWordStart c && cs.all isWordChar) = true) (by simp [IsWord])

theorem ofWord_ident {word rest r : List Char} {w : String} (h : ofWord word rest = .ok (.ident w, r)) :
    w.toList = word := by
  unfold ofWord at h
  split at h
  · simp only at h
    split at h <;> cases h
  · cases h
    exact String.toList_ofList

theorem ofWord_nil (word : List Char) : ofWord word [] = .ok (.ident (String.ofList word), []) := by
  unfold ofWord
  split
  · rename_i hcolon
    cases hcolon
  · rfl

theorem next_ident {afterDot : Bool} {c : Char} {rest r : List Char} {w : String}
    (h : next afterDot c rest = .ok (.ident w, r)) : IsWord w.toList := by
  cases reads_of_next h with
  | mark hmark => simp [marks] at hmark
  | numeral _ hread =>
    obtain ⟨n, hn⟩ := readNumeral_eq_ok hread
    cases hn
  | word hc hread =>
    rw [ofWord_ident hread]
    exact ⟨hc, fun d hd => List.mem_takeWhile_imp hd⟩

theorem scan_ident {w : String} : ∀ (fuel : Nat) {afterDot : Bool} {cs : List Char} {ts : List Token},
    scan afterDot fuel cs = .ok ts → .ident w ∈ ts → IsWord w.toList
  | _, _, [], ts, h, hw => by
    rw [Environment.scan_nil] at h
    cases h
    cases hw
  | 0, _, c :: cs, ts, h, hw => by
    cases h
    cases hw
  | fuel + 1, afterDot, c :: cs, ts, h, hw => by
    rw [scan] at h
    split at h
    · exact scan_ident fuel h hw
    · obtain ⟨⟨t, r⟩, hnext, h⟩ := bind_eq_ok.mp h
      obtain ⟨rest, hrest, h⟩ := bind_eq_ok.mp h
      cases h
      rcases List.mem_cons.mp hw with rfl | hw
      · exact next_ident hnext
      · exact scan_ident fuel hrest hw

/-- A class of characters that leaves out some code points has none of the characters there. -/
theorem not_mem_of_class {p : Char → Bool} (points : List Nat) (h : ∀ n ∈ points, p (Char.ofNat n) = false) {c : Char}
    (hc : p c = true) : c.toNat ∉ points := by
  intro hmem
  have hnot := h _ hmem
  rw [Char.ofNat_toNat, hc] at hnot
  cases hnot

theorem ne_of_class {p : Char → Bool} {c d : Char} (hc : p c = true) (hd : p d = false) : c ≠ d := by
  rintro rfl
  rw [hc] at hd
  cases hd

theorem not_isBlank_of_wordChar {c : Char} (hc : isWordChar c = true) : Text.isBlank c = false := by
  have hnot := not_mem_of_class [9, 10, 11, 12, 13, 32, 0x85, 0xA0, 0x1680, 0x2000, 0x2001, 0x2002, 0x2003, 0x2004, 0x2005,
    0x2006, 0x2007, 0x2008, 0x2009, 0x200A, 0x2028, 0x2029, 0x202F, 0x205F, 0x3000] (by decide +kernel) hc
  rw [← Bool.not_eq_true]
  intro hblank
  apply hnot
  simp [Text.isBlank] at hblank
  simp only [List.mem_cons, List.not_mem_nil, or_false]
  omega

theorem wordChar_of_wordStart {c : Char} (hc : isWordStart c = true) : isWordChar c = true := by
  rw [isWordStart, Bool.or_eq_true] at hc
  rcases hc with hc | hc
  · simp [isWordChar, Text.isAlphanumeric, hc]
  · simp [isWordChar, hc]

theorem not_isDigit_of_wordStart {c : Char} (hc : isWordStart c = true) : c.isDigit = false := by
  have hnot := not_mem_of_class [48, 49, 50, 51, 52, 53, 54, 55, 56, 57] (by decide) hc
  rw [← Bool.not_eq_true]
  intro hdigit
  rw [Char.isDigit, Bool.and_eq_true, decide_eq_true_eq, decide_eq_true_eq] at hdigit
  have hlow : 48 ≤ c.toNat := hdigit.1
  have hhigh : c.toNat ≤ 57 := hdigit.2
  apply hnot
  simp only [List.mem_cons, List.not_mem_nil, or_false]
  omega

theorem IsWord.chars {w : List Char} (h : IsWord w) : ∀ c ∈ w, isWordChar c = true := by
  cases w with
  | nil => exact h.elim
  | cons c cs => exact List.forall_mem_cons.mpr ⟨wordChar_of_wordStart h.1, h.2⟩

theorem next_word {c : Char} {cs : List Char} (h : IsWord (c :: cs)) :
    next false c cs = .ok (.ident (String.ofList (c :: cs)), []) := by
  obtain ⟨hc, hcs⟩ := h
  have hne (d : Char) (hd : isWordStart d = false) : c ≠ d := ne_of_class hc hd
  have hnumeral : startsNumeral c cs = false := by
    simp [startsNumeral, not_isDigit_of_wordStart hc, hne '-' (by decide)]
  have hquote : ¬(c = '"' ∨ c = '\'') := not_or.mpr ⟨hne _ (by decide), hne _ (by decide)⟩
  have hsign : ¬(c = '=' ∨ c = '!' ∨ c = '>' ∨ c = '<') := by
    simp only [not_or]
    exact ⟨hne _ (by decide), hne _ (by decide), hne _ (by decide), hne _ (by decide)⟩
  have hspan := Text.takeWhile_span hcs (Text.stops_nil (p := isWordChar))
  have hrest := Text.dropWhile_span hcs (Text.stops_nil (p := isWordChar))
  rw [List.append_nil] at hspan hrest
  rw [next, if_neg (hne '.' (by decide)), if_neg (hne '|' (by decide)), if_neg (hne '(' (by decide)),
    if_neg (hne ')' (by decide)), if_neg (hne ',' (by decide)), if_neg hsign, if_neg hquote, if_neg (by simp),
    if_neg (by simp [hnumeral]), if_pos hc, hspan, hrest, ofWord_nil]

theorem tokenize_word {w : String} (h : IsWord w.toList) : tokenize w.toList = .ok [.ident w] := by
  cases hw : w.toList with
  | nil => rw [hw] at h; exact h.elim
  | cons c cs =>
    rw [hw] at h
    have hspace : isSpace c = false := by
      have hne (d : Char) (hd : isWordStart d = false) : c ≠ d := ne_of_class h.1 hd
      simp [isSpace, hne ' ' (by decide), hne '\t' (by decide), hne '\n' (by decide), hne '\r' (by decide)]
    have hname : String.ofList (c :: cs) = w := by rw [← hw, String.ofList_toList]
    rw [tokenize, List.length_cons, scan, hspace, if_neg (by simp), next_word h, hname]
    simp only [ok_bind, Environment.scan_nil]

end Token

namespace Expr

/-! ## Names -/

def keywords : List String := ["true", "false", "null", "none", "not"]

/-- Whether a text is a name that expressions have for a node. -/
def IsNodeName (id : String) : Prop := Token.IsWord id.toList ∧ id ∉ keywords

instance : DecidablePred IsNodeName := fun _ => inferInstanceAs (Decidable (_ ∧ _))

theorem ofTokens_ident {id : String} (h : id ∉ keywords) : ofTokens [.ident id] = .ok (.ref ⟨.node id, []⟩) := by
  simp only [keywords, List.mem_cons, not_or] at h
  have hliteral : literalOf? (.ident id) = none := by simp [literalOf?, h]
  have hprimary : parsePrimary 10 [.ident id] = .ok (.ref ⟨.node id, []⟩, []) := by
    rw [parsePrimary, hliteral]
    rfl
  have hoperand : parseOperand 11 [.ident id] = .ok (.ref ⟨.node id, []⟩, []) := by
    rw [parseOperand, hprimary]
    rfl
  have hcomparison : parseComparison 12 [.ident id] = .ok (.ref ⟨.node id, []⟩, []) := by
    rw [parseComparison, hoperand]
    rfl
  have hnot : parseNot 13 [.ident id] = .ok (.ref ⟨.node id, []⟩, []) := by
    rw [parseNot, hcomparison]
    simp [h]
  have hand : parseAnd 14 [.ident id] = .ok (.ref ⟨.node id, []⟩, []) := by
    rw [parseAnd, hnot]
    rfl
  have hor : parseOr 15 [.ident id] = .ok (.ref ⟨.node id, []⟩, []) := by
    rw [parseOr, hand]
    rfl
  have hexpr : parseExpr 16 [.ident id] = .ok (.ref ⟨.node id, []⟩, []) := by
    rw [parseExpr, hor]
    rfl
  rw [ofTokens]
  simp [hexpr]

theorem ofTokens_keyword {id : String} (h : id ∈ keywords) (target : Reference) :
    ofTokens [.ident id] ≠ .ok (.ref target) := by
  simp only [keywords, List.mem_cons, List.not_mem_nil, or_false] at h
  rcases h with rfl | rfl | rfl | rfl | rfl <;> exact fun h => by cases h

theorem ofText_node_iff (id : String) : ofText id.toList = .ok (.ref ⟨.node id, []⟩) ↔ IsNodeName id := by
  constructor
  · intro h
    have hword : Token.IsWord id.toList := by
      rw [ofText] at h
      split at h
      · rename_i ts hts
        exact Token.scan_ident _ hts (ident_mem_of_ofTokens h)
      · cases h
    refine ⟨hword, fun hkeyword => ?_⟩
    rw [ofText, Token.tokenize_word hword] at h
    exact ofTokens_keyword hkeyword _ h
  · rintro ⟨hword, hfree⟩
    rw [ofText, Token.tokenize_word hword]
    exact ofTokens_ident hfree

end Expr

/-! ## Placeholders of names -/

theorem Environment.split_of_not_mem : ∀ (fuel : Nat) {cs : List Char}, '$' ∉ cs → split fuel cs = cs.map .char
  | 0, _, _ => by rw [split]
  | fuel + 1, [], _ => rfl
  | fuel + 1, c :: cs, h => by
    rw [List.mem_cons, not_or] at h
    rw [split, split_of_not_mem fuel h.2, List.map_cons]
    rintro r rfl
    exact absurd rfl h.1

theorem Environment.substitute_of_not_mem (env : Environment) {cs : List Char} (h : '$' ∉ cs) :
    env.substitute cs = (cs, []) := by
  rw [substitute, parts, split_of_not_mem _ h]
  simp [List.flatMap_map, List.filterMap_map, replacement, unsetName?, Function.comp_def]

theorem Environment.get?_substituteEntries (env : Environment) (key : String) :
    ∀ es : List (String × Document.Value), Entries.get? (env.substituteEntries es).1 key =
      (Entries.get? es key).map fun v => (env.substituteValue v).1
  | [] => rfl
  | (k, v) :: es => by
    rw [substituteEntries, Entries.get?, Entries.get?, get?_substituteEntries env key es]
    split <;> rfl

theorem Resolver.get?_resolveEntries {r : Resolver} {key : String} {v : Document.Value} :
    ∀ {es : List (String × Document.Value)} {js : List (String × Json)}, r.resolveEntries es = .ok js →
      Entries.get? es key = some v → ∃ j, r.resolve v = .ok j ∧ Entries.get? js key = some j
  | (k, v') :: es, js, h, hv => by
    rw [resolveEntries] at h
    obtain ⟨j, hj, h⟩ := bind_eq_ok.mp h
    obtain ⟨js', hjs, h⟩ := bind_eq_ok.mp h
    cases h
    rw [Entries.get?] at hv ⊢
    split at hv
    · rename_i hk
      cases hv
      exact ⟨j, hj, if_pos hk⟩
    · rename_i hk
      rw [if_neg hk]
      exact get?_resolveEntries hjs hv

namespace Expr.IsNodeName

variable {id : String}

theorem trim (h : IsNodeName id) : Text.trim id.toList = id.toList := by
  have hblank : ∀ c ∈ id.toList, Text.isBlank c = false := fun c hc =>
    Token.not_isBlank_of_wordChar (h.1.chars c hc)
  refine Text.trim_of_trimmed ⟨fun c hc => hblank c (List.mem_of_mem_head? hc), fun c hc => hblank c ?_⟩
  exact List.mem_reverse.mp (List.mem_of_mem_head? hc)

theorem enclosed (h : IsNodeName id) : Template.Enclosed id.toList := by
  intro r
  have hpasses := Template.passes_of_forall (fun c hc => Token.plain_wordChar (h.1.chars c hc)) ('}' :: '}' :: r)
  rw [hpasses, Template.closing?.eq_def]
  simp

theorem resolveText (h : IsNodeName id) (r : Resolver) {result : NodeResult} (hr : r.context.results.get? id = some result) :
    r.resolveText (String.ofList (Piece.placeholder id.toList).source) = .ok result.payload := by
  have hpieces := (Template.pieces_placeholder_iff id.toList).mpr h.enclosed
  have hlookup : r.lookup? ⟨.node id, []⟩ = some result.payload := by
    rw [Resolver.lookup?_node, hr, Option.bind_some, NodeResult.lookup?_direct (Json.walk?_nil _), Option.map_some]
  rw [Resolver.resolveText, String.toList_ofList, hpieces]
  show r.placeholder id.toList = _
  rw [Resolver.placeholder]
  simp only [h.trim, (ofText_node_iff id).mpr h, Resolver.eval, hlookup]
  rfl

theorem substitute (h : IsNodeName id) (env : Environment) :
    env.substitute (Piece.placeholder id.toList).source = ((Piece.placeholder id.toList).source, []) := by
  refine env.substitute_of_not_mem fun hmem => ?_
  have hid : '$' ∉ id.toList := fun hc => absurd (h.1.chars _ hc) (by decide)
  simp [Piece.source, hid] at hmem

end Expr.IsNodeName

open Document (Value)

/-- The value of an entry that is a placeholder with nothing but an id in it. -/
def Expr.idPlaceholder (id : String) : Value := .string (String.ofList (Piece.placeholder id.toList).source)

/-- The id of a node stands for the node just if it is a name of the grammar. Then a placeholder of
it comes through the preparation as it is and resolves to the payload that is recorded, and so it
does wherever it is an entry of a configuration. -/
theorem Expr.node_addressable_iff (id : String) : (ofText id.toList = .ok (.ref ⟨.node id, []⟩) ↔ IsNodeName id) ∧
    (IsNodeName id → ∀ (env : Environment) (r : Resolver) (result : NodeResult), r.context.results.get? id = some result →
      env.substituteValue (idPlaceholder id) = (idPlaceholder id, []) ∧ r.resolve (idPlaceholder id) = .ok result.payload ∧
      ∀ (config : Entries Value) (resolved : Entries Json) (key : String), config.get? key = some (idPlaceholder id) →
        r.resolveEntries (env.substituteEntries config).1 = .ok resolved → resolved.get? key = some result.payload) := by
  refine ⟨ofText_node_iff id, ?_⟩
  intro h env r result hr
  have hsubstitute : env.substituteValue (idPlaceholder id) = (idPlaceholder id, []) := by
    rw [idPlaceholder, Environment.substituteValue, String.toList_ofList, h.substitute env]
  have hresolve : r.resolve (idPlaceholder id) = .ok result.payload := h.resolveText r hr
  refine ⟨hsubstitute, hresolve, ?_⟩
  intro config resolved key hkey hresolved
  have hentry : Entries.get? (env.substituteEntries config).1 key = some (idPlaceholder id) := by
    rw [Environment.get?_substituteEntries, hkey, Option.map_some, hsubstitute]
  obtain ⟨j, hj, hget⟩ := Resolver.get?_resolveEntries hresolved hentry
  rw [hresolve] at hj
  cases hj
  exact hget

/-! ## A document with odd names -/

namespace Odd

def text : String :=
  "[workflow]\nname = \"odd\"\nstart_node = A.b\n[node.A.b]\ntype = set\n[node.2nd]\ntype = set\n[node.true]\ntype = set\n"

/-- Of the names that the document has for its nodes one is a path, one no expression and one a
literal. -/
theorem not_addressable : (CompiledWorkflow.ofDocument .standard text).toOption.map (·.workflow.nodeIds) = some ["A.b", "2nd", "true"] ∧
    Expr.ofText "A.b".toList = .ok (.ref ⟨.node "A", ["b"]⟩) ∧
    Expr.ofText "2nd".toList = .error (.trailing (.ident "nd")) ∧
    Expr.ofText "true".toList = .ok (.literal (.bool true)) :=
  ⟨by decide, by rfl, by rfl, by rfl⟩

end Odd

theorem Expr.node_addressable_iff_hyphen : IsNodeName "if-2" ∧
    ∃ (r : Resolver) (result : NodeResult), r.context.results.get? "if-2" = some result ∧
      r.resolve (idPlaceholder "if-2") = .ok (.int 7) := by
  have h : IsNodeName "if-2" := by decide
  let r : Resolver := ⟨⟨"", [], .null, [], ⟨[("if-2", .success (.int 7))]⟩⟩, .empty, true⟩
  have hr : r.context.results.get? "if-2" = some (.success (.int 7)) := by rfl
  exact ⟨h, r, _, hr, ((node_addressable_iff "if-2").2 h [] r _ hr).2.1⟩

end FlowEngine
