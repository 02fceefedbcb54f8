import Mathlib
import FlowEngine.Placeholder.Parser
import FlowEngine.Proofs.Except

/-!
# Writing expressions and reading them back

An expression is written by its grammar: parentheses enclose a part that stands below
the level at which it is used. Each level has a reader. `Reads l` says what the reader
of level `l` does with an expression and any tokens behind it that it does not go on
at; `reads` proves it for all levels by induction on the expression. A constructor is
read at its own level, and from there `Reads.down` goes to the looser levels, and
through parentheses (`Reads.enclosed`) around to the tighter ones.
-/

namespace FlowEngine

/-! ## The tokens of an expression -/

def Json.token? : Json → Option Token
  | .null => some (.ident "null")
  | .bool true => some (.ident "true")
  | .bool false => some (.ident "false")
  | .number n => some (.number n)
  | .string s => some (.text s)
  | .array _ => none
  | .object _ => none

namespace Reference

def pathTokens (path : List String) : List Token := path.flatMap fun s => [.dot, .segment s]

def tokens (r : Reference) : List Token :=
  match r.source with
  | .node id => .ident id :: pathTokens r.path
  | .parameter => pathTokens ("Parameter" :: r.path)
  | .request => pathTokens ("Request" :: r.path)
  | .env => pathTokens ("Env" :: r.path)
  | .storage key => [.storageKey key]

end Reference

namespace FilterCall

def moreArgTokens (vs : List Json) : List Token := vs.flatMap (fun v => .comma :: v.token?.toList) ++ [.closeParen]

def argTokens : List Json → List Token
  | [] => []
  | v :: vs => .openParen :: (v.token?.toList ++ moreArgTokens vs)

def tokens (f : FilterCall) : List Token := .pipe :: .ident f.name :: argTokens f.args

end FilterCall

namespace Expr

/-- The level of the grammar that an expression stands at, the loosest first. -/
def level : Expr → Nat
  | choice .. => 0
  | or .. => 1
  | and .. => 2
  | not .. => 3
  | compare .. => 4
  | piped .. => 5
  | literal _ => 6
  | ref _ => 6

/-- The tokens of an expression where one of level `l` is wanted. -/
def encloseAt (l : Nat) (e : Expr) (ts : List Token) : List Token :=
  if e.level < l then .openParen :: (ts ++ [.closeParen]) else ts

def tokens : Expr → List Token
  | literal v => v.token?.toList
  | ref r => r.tokens
  | piped a fs => encloseAt 6 a a.tokens ++ fs.flatMap FilterCall.tokens
  | compare op a b => encloseAt 5 a a.tokens ++ .comparison op :: encloseAt 5 b b.tokens
  | not a => .ident "not" :: encloseAt 3 a a.tokens
  | and a b => encloseAt 2 a a.tokens ++ .ident "and" :: encloseAt 3 b b.tokens
  | or a b => encloseAt 1 a a.tokens ++ .ident "or" :: encloseAt 2 b b.tokens
  | choice v c f =>
    encloseAt 1 v v.tokens ++ .ident "if" :: (encloseAt 1 c c.tokens ++ .ident "else" :: encloseAt 0 f f.tokens)

def tokensAt (l : Nat) (e : Expr) : List Token := encloseAt l e e.tokens

def reserved : List String := ["true", "false", "null", "none", "not", "and", "or", "if", "else"]

/-- A stored value is read as a whole, and a node has a name. -/
def WritableRef (r : Reference) : Prop :=
  match r.source with
  | .node id => id ∉ reserved
  | .storage _ => r.path = []
  | _ => True

/-- The expressions that the grammar has words for. -/
def Writable : Expr → Prop
  | literal v => v.token?.isSome
  | ref r => WritableRef r
  | piped a fs => a.Writable ∧ fs ≠ [] ∧ ∀ f ∈ fs, ∀ v ∈ f.args, v.token?.isSome
  | compare _ a b => a.Writable ∧ b.Writable
  | not a => a.Writable
  | and a b => a.Writable ∧ b.Writable
  | or a b => a.Writable ∧ b.Writable
  | choice v c f => v.Writable ∧ c.Writable ∧ f.Writable

theorem tokensAt_of_le {l : Nat} {e : Expr} (h : l ≤ e.level) : tokensAt l e = e.tokens :=
  if_neg (Nat.not_lt.mpr h)

theorem tokensAt_of_lt {l : Nat} {e : Expr} (h : e.level < l) :
    tokensAt l e = .openParen :: (e.tokens ++ [.closeParen]) :=
  if_pos h

theorem tokensAt_succ {l : Nat} {e : Expr} (h : e.level ≠ l) : tokensAt (l + 1) e = tokensAt l e := by
  rcases Nat.lt_or_gt_of_ne h with hlt | hgt
  · rw [tokensAt_of_lt hlt, tokensAt_of_lt (Nat.lt_succ_of_lt hlt)]
  · rw [tokensAt_of_le (Nat.le_of_lt hgt), tokensAt_of_le hgt]

theorem literalOf?_token? {v : Json} {t : Token} (h : v.token? = some t) : literalOf? t = some v := by
  unfold Json.token? at h
  split at h <;> cases h <;> rfl

theorem head?_append_of_eq_some {α : Type} {xs : List α} {x : α} (h : xs.head? = some x) (ys : List α) :
    (xs ++ ys).head? = some x := by
  rw [List.head?_append, h, Option.some_or]

theorem head?_tokensAt {e : Expr} (h : ∃ t, e.tokens.head? = some t ∧ (4 ≤ e.level → t ≠ .ident "not")) (l : Nat) :
    ∃ t, (tokensAt l e).head? = some t ∧ (4 ≤ l → t ≠ .ident "not") := by
  rcases Nat.lt_or_ge e.level l with hl | hl
  · exact ⟨.openParen, by rw [tokensAt_of_lt hl]; rfl, fun _ => by simp⟩
  · obtain ⟨t, ht, hnot⟩ := h
    exact ⟨t, by rw [tokensAt_of_le hl, ht], fun h4 => hnot (h4.trans hl)⟩

theorem head?_tokens : ∀ {e : Expr}, e.Writable → ∃ t, e.tokens.head? = some t ∧ (4 ≤ e.level → t ≠ .ident "not")
  | literal v, h => by
    obtain ⟨t, ht⟩ := Option.isSome_iff_exists.mp h
    refine ⟨t, by simp [tokens, ht], fun _ => ?_⟩
    rintro rfl
    cases literalOf?_token? ht
  | ref ⟨source, path⟩, h => by
    cases source with
    | node id =>
      refine ⟨.ident id, rfl, fun _ he => ?_⟩
      obtain rfl := Token.ident.inj he
      exact absurd h (by simp [Writable, WritableRef, reserved])
    | parameter => exact ⟨.dot, rfl, fun _ => by simp⟩
    | request => exact ⟨.dot, rfl, fun _ => by simp⟩
    | env => exact ⟨.dot, rfl, fun _ => by simp⟩
    | storage key => exact ⟨.storageKey key, rfl, fun _ => by simp⟩
  | piped a fs, h => by
    obtain ⟨t, ht, hnot⟩ := head?_tokensAt (head?_tokens h.1) 6
    exact ⟨t, head?_append_of_eq_some ht _, fun _ => hnot (by decide)⟩
  | compare op a b, h => by
    obtain ⟨t, ht, hnot⟩ := head?_tokensAt (head?_tokens h.1) 5
    exact ⟨t, head?_append_of_eq_some ht _, fun _ => hnot (by decide)⟩
  | not a, _ => ⟨.ident "not", rfl, fun h4 => absurd h4 (by simp [level])⟩
  | and a b, h => by
    obtain ⟨t, ht, -⟩ := head?_tokensAt (head?_tokens h.1) 2
    exact ⟨t, head?_append_of_eq_some ht _, fun h4 => absurd h4 (by simp [level])⟩
  | or a b, h => by
    obtain ⟨t, ht, -⟩ := head?_tokensAt (head?_tokens h.1) 1
    exact ⟨t, head?_append_of_eq_some ht _, fun h4 => absurd h4 (by simp [level])⟩
  | choice v c f, h => by
    obtain ⟨t, ht, -⟩ := head?_tokensAt (head?_tokens h.1) 1
    exact ⟨t, head?_append_of_eq_some ht _, fun h4 => absurd h4 (by simp [level])⟩

/-! ## Where a reader ends -/

/-- The readers of all levels below this go on at a token. -/
def grip : Token → Nat
  | .dot => 7
  | .pipe => 6
  | .openParen => 6
  | .comparison _ => 5
  | .ident "and" => 3
  | .ident "or" => 2
  | .ident "if" => 1
  | _ => 0

/-- The reader of a level does not go on at these tokens. -/
def Ends (l : Nat) (rest : List Token) : Prop := ∀ t ∈ rest.head?, grip t ≤ l

theorem Ends.mono {l m : Nat} {rest : List Token} (h : Ends l rest) (hl : l ≤ m) : Ends m rest :=
  fun t ht => (h t ht).trans hl

theorem ends_cons {l : Nat} {t : Token} {rest : List Token} : Ends l (t :: rest) ↔ grip t ≤ l := by
  simp [Ends]

theorem ends_nil (l : Nat) : Ends l [] := by
  simp [Ends]

theorem Ends.head_ne {l : Nat} {rest : List Token} (h : Ends l rest) {t : Token} (ht : l < grip t) (r : List Token) :
    rest ≠ t :: r := by
  rintro rfl
  exact absurd (ends_cons.mp h) (Nat.not_le.mpr ht)

/-! ## References and filters -/

theorem parsePath_tokens {rest : List Token} (hr : Ends 6 rest) :
    ∀ path : List String, parsePath (Reference.pathTokens path ++ rest) = .ok (path, rest)
  | [] => by
    rw [Reference.pathTokens, List.flatMap_nil, List.nil_append, parsePath.eq_def]
    split
    · exact absurd rfl (hr.head_ne (by decide) _)
    · exact absurd rfl (hr.head_ne (by decide) _)
    · rfl
  | s :: path => by
    show parsePath (.dot :: .segment s :: (Reference.pathTokens path ++ rest)) = _
    rw [parsePath, parsePath_tokens hr path, ok_map]

theorem parseSourced_tokens {name : String} {source : Source} (hs : sourceOf? name = some source) (path : List String)
    {rest : List Token} (hr : Ends 6 rest) :
    parseSourced (Reference.pathTokens (name :: path) ++ rest) = .ok (.ref ⟨source, path⟩, rest) := by
  rw [parseSourced, parsePath_tokens hr, ok_bind]
  simp only [hs]

theorem parseMoreArgs_tokens {rest : List Token} : ∀ {vs : List Json}, (∀ v ∈ vs, v.token?.isSome) →
    parseMoreArgs (FilterCall.moreArgTokens vs ++ rest) = .ok (vs, rest)
  | [], _ => rfl
  | v :: vs, h => by
    rw [List.forall_mem_cons] at h
    obtain ⟨t, ht⟩ := Option.isSome_iff_exists.mp h.1
    have hcons : FilterCall.moreArgTokens (v :: vs) ++ rest = .comma :: t :: (FilterCall.moreArgTokens vs ++ rest) := by
      simp [FilterCall.moreArgTokens, ht]
    rw [hcons, parseMoreArgs, literalOf?_token? ht]
    simp only [parseMoreArgs_tokens h.2, ok_map]

theorem parseArgs_tokens {rest : List Token} (hr : rest.head? ≠ some .openParen) : ∀ {vs : List Json},
    (∀ v ∈ vs, v.token?.isSome) → parseArgs (FilterCall.argTokens vs ++ rest) = .ok (vs, rest)
  | [], _ => by
    rw [FilterCall.argTokens, List.nil_append, parseArgs.eq_def]
    split
    · exact absurd rfl hr
    · exact absurd rfl hr
    · rfl
  | v :: vs, h => by
    rw [List.forall_mem_cons] at h
    obtain ⟨t, ht⟩ := Option.isSome_iff_exists.mp h.1
    have hliteral := literalOf?_token? ht
    have hcons : FilterCall.argTokens (v :: vs) ++ rest = .openParen :: t :: (FilterCall.moreArgTokens vs ++ rest) := by
      simp [FilterCall.argTokens, ht]
    have hclose : t ≠ .closeParen := by
      rintro rfl
      cases hliteral
    rw [hcons, parseArgs]
    · simp only [parseLiteral, hliteral, ok_bind, parseMoreArgs_tokens h.2]
    · rintro r ⟨⟩
      exact hclose rfl

theorem length_le_filterTokens (fs : List FilterCall) : fs.length ≤ (fs.flatMap FilterCall.tokens).length := by
  induction fs with
  | nil => exact le_rfl
  | cons f fs ih =>
    simp only [List.flatMap_cons, List.length_append, List.length_cons, FilterCall.tokens]
    omega

theorem parseFilters_ends {rest : List Token} (hr : Ends 5 rest) (fuel : Nat) : parseFilters fuel rest = .ok ([], rest) := by
  cases fuel with
  | zero => rfl
  | succ fuel =>
    rw [parseFilters]
    · exact Nat.succ_ne_zero fuel
    · exact fun _ r _ => hr.head_ne (by decide) r

theorem parseFilters_tokens {rest : List Token} (hr : Ends 5 rest) : ∀ {fuel : Nat} {fs : List FilterCall},
    fs.length ≤ fuel → (∀ f ∈ fs, ∀ v ∈ f.args, v.token?.isSome) →
    parseFilters fuel (fs.flatMap FilterCall.tokens ++ rest) = .ok (fs, rest)
  | fuel, [], _, _ => parseFilters_ends hr fuel
  | fuel + 1, f :: fs, hf, h => by
    rw [List.forall_mem_cons] at h
    have hcons : (f :: fs).flatMap FilterCall.tokens ++ rest =
        .pipe :: .ident f.name :: (FilterCall.argTokens f.args ++ (fs.flatMap FilterCall.tokens ++ rest)) := by
      simp [FilterCall.tokens]
    have hopen : (fs.flatMap FilterCall.tokens ++ rest).head? ≠ some .openParen := by
      cases fs with
      | nil => exact fun ho => absurd (hr _ ho) (by decide)
      | cons g gs => simp [FilterCall.tokens]
    rw [hcons, parseFilters]
    simp only [parseArgs_tokens hopen h.1, parseFilters_tokens hr (Nat.le_of_succ_le_succ hf) h.2, ok_bind]

/-! ## Readers -/

/-- A reader of level `l` takes an expression and nothing of what follows. The fuel it needs is less
the tighter the level is. -/
def ReadsBy (read : Nat → List Token → Except ExprError (Expr × List Token)) (l : Nat) (e : Expr) : Prop :=
  ∀ (fuel : Nat) (rest : List Token), Ends l rest → 8 * (tokensAt l e).length ≤ fuel + l + 1 →
    read fuel (tokensAt l e ++ rest) = .ok (e, rest)

/-- A reader that joins parts from the left stands behind an expression with it as its left part. -/
def JoinsBy (read : Nat → List Token → Except ExprError (Expr × List Token))
    (tail : Nat → Expr → List Token → Except ExprError (Expr × List Token)) (l : Nat) (e : Expr) : Prop :=
  ∀ (fuel : Nat) (rest : List Token), Ends (l + 1) rest → 8 * (tokensAt l e).length ≤ fuel + l + 1 →
    ∃ left, fuel ≤ left + (tokensAt l e).length ∧ read fuel (tokensAt l e ++ rest) = tail left e rest

def Reads : Nat → Expr → Prop
  | 0 => ReadsBy parseExpr 0
  | 1 => JoinsBy parseOr parseOrTail 1
  | 2 => JoinsBy parseAnd parseAndTail 2
  | 3 => ReadsBy parseNot 3
  | 4 => ReadsBy parseComparison 4
  | 5 => ReadsBy parseOperand 5
  | _ => ReadsBy parsePrimary 6

theorem length_tokensAt_pos {e : Expr} (h : e.Writable) (l : Nat) : 0 < (tokensAt l e).length := by
  obtain ⟨t, ht, -⟩ := head?_tokensAt (head?_tokens h) l
  exact List.length_pos_of_mem (List.mem_of_head? ht)

theorem exists_fuel {e : Expr} (h : e.Writable) {l fuel : Nat} (hl : l ≤ 6)
    (hf : 8 * (tokensAt l e).length ≤ fuel + l + 1) : ∃ left, fuel = left + 1 := by
  have := length_tokensAt_pos h l
  exact ⟨fuel - 1, by omega⟩

theorem JoinsBy.readsBy {read : Nat → List Token → Except ExprError (Expr × List Token)}
    {tail : Nat → Expr → List Token → Except ExprError (Expr × List Token)} {l : Nat} {e : Expr} (h : e.Writable)
    (hl : l ≤ 5) (htail : ∀ left rest, Ends l rest → tail (left + 1) e rest = .ok (e, rest)) (hjoins : JoinsBy read tail l e) :
    ReadsBy read l e := by
  intro fuel rest hr hf
  obtain ⟨left, hleft, hread⟩ := hjoins _ _ (hr.mono (Nat.le_succ l)) hf
  have hpos := length_tokensAt_pos h l
  obtain ⟨left, rfl⟩ : ∃ k, left = k + 1 := ⟨left - 1, by omega⟩
  rw [hread, htail left rest hr]

theorem parseAndTail_ends {left : Nat} {e : Expr} {rest : List Token} (hr : Ends 2 rest) :
    parseAndTail (left + 1) e rest = .ok (e, rest) := by
  rw [parseAndTail]
  exact hr.head_ne (by decide)

theorem parseOrTail_ends {left : Nat} {e : Expr} {rest : List Token} (hr : Ends 1 rest) :
    parseOrTail (left + 1) e rest = .ok (e, rest) := by
  rw [parseOrTail]
  exact hr.head_ne (by decide)

section
variable {e : Expr} (h : e.Writable)
include h

theorem Reads.and (he : Reads 2 e) : ReadsBy parseAnd 2 e :=
  JoinsBy.readsBy h (by decide) (fun _ _ => parseAndTail_ends) he

theorem Reads.or (he : Reads 1 e) : ReadsBy parseOr 1 e :=
  JoinsBy.readsBy h (by decide) (fun _ _ => parseOrTail_ends) he

/-! ### From a level to the one below it -/

theorem operand_of_primary (hl : e.level ≠ 5) (he : Reads 6 e) : Reads 5 e := by
  intro fuel rest hr hf
  obtain ⟨fuel, rfl⟩ := exists_fuel h (by decide) hf
  rw [← tokensAt_succ hl] at *
  rw [parseOperand, he _ _ (hr.mono (by decide)) (by omega), ok_bind]
  simp only [parseFilters_ends hr, ok_bind]

theorem comparison_of_operand (hl : e.level ≠ 4) (he : Reads 5 e) : Reads 4 e := by
  intro fuel rest hr hf
  obtain ⟨fuel, rfl⟩ := exists_fuel h (by decide) hf
  rw [← tokensAt_succ hl] at *
  rw [parseComparison, he _ _ (hr.mono (by decide)) (by omega), ok_bind]
  dsimp only
  split
  · exact absurd (ends_cons.mp hr) (by simp [grip])
  · rfl

theorem not_of_comparison (hl : e.level ≠ 3) (he : Reads 4 e) : Reads 3 e := by
  intro fuel rest hr hf
  obtain ⟨fuel, rfl⟩ := exists_fuel h (by decide) hf
  rw [← tokensAt_succ hl] at *
  obtain ⟨t, ht, hnot⟩ := head?_tokensAt (head?_tokens h) 4
  have hread := he fuel rest (hr.mono (by decide)) (by omega)
  rw [parseNot]
  · exact hread
  · intro r hr
    have := head?_append_of_eq_some ht rest
    rw [hr] at this
    exact hnot le_rfl (Option.some.inj this).symm

theorem and_of_not (hl : e.level ≠ 2) (he : Reads 3 e) : Reads 2 e := by
  intro fuel rest hr hf
  obtain ⟨fuel, rfl⟩ := exists_fuel h (by decide) hf
  have hpos := length_tokensAt_pos h 2
  refine ⟨fuel, by omega, ?_⟩
  rw [← tokensAt_succ hl] at *
  rw [parseAnd, he _ _ hr (by omega), ok_bind]

theorem or_of_and (hl : e.level ≠ 1) (he : Reads 2 e) : Reads 1 e := by
  intro fuel rest hr hf
  obtain ⟨fuel, rfl⟩ := exists_fuel h (by decide) hf
  have hpos := length_tokensAt_pos h 1
  refine ⟨fuel, by omega, ?_⟩
  rw [← tokensAt_succ hl] at *
  rw [parseOr, Reads.and h he _ _ hr (by omega), ok_bind]

theorem expr_of_or (hl : e.level ≠ 0) (he : Reads 1 e) : Reads 0 e := by
  intro fuel rest hr hf
  obtain ⟨fuel, rfl⟩ := exists_fuel h (by decide) hf
  rw [← tokensAt_succ hl] at *
  rw [parseExpr, Reads.or h he _ _ (hr.mono (by decide)) (by omega), ok_bind]
  dsimp only
  split
  · exact absurd rfl (hr.head_ne (by decide) _)
  · rfl

theorem primary_of_expr (hl : e.level < 6) (he : Reads 0 e) : Reads 6 e := by
  intro fuel rest hr hf
  obtain ⟨fuel, rfl⟩ := exists_fuel h (by decide) hf
  rw [tokensAt_of_lt hl] at *
  have hread := he fuel (.closeParen :: rest) (ends_cons.mpr (by decide))
  rw [tokensAt_of_le (Nat.zero_le _)] at hread
  simp only [List.length_cons, List.length_append, List.length_nil] at hf
  rw [List.cons_append, List.append_assoc, List.singleton_append, parsePrimary]
  simp only [literalOf?, hread (by omega), ok_bind]

theorem Reads.down {l : Nat} (hlt : l < 6) (hl : e.level ≠ l) (he : Reads (l + 1) e) : Reads l e :=
  match l with
  | 0 => expr_of_or h hl he
  | 1 => or_of_and h hl he
  | 2 => and_of_not h hl he
  | 3 => not_of_comparison h hl he
  | 4 => comparison_of_operand h hl he
  | 5 => operand_of_primary h hl he

theorem Reads.descend {m n : Nat} (hn : n ≤ 6) (hmn : m ≤ n) (hl : ∀ l, m ≤ l → l < n → e.level ≠ l)
    (he : Reads n e) : Reads m e := by
  induction hmn with
  | refl => exact he
  | @step k hmk ih =>
    exact ih (Nat.le_of_succ_le hn) (fun l hm hlt => hl l hm (Nat.lt_succ_of_lt hlt))
      (he.down h hn (hl k hmk (Nat.lt_succ_self k)))

theorem Reads.all (he : Reads e.level e) {l : Nat} (hl : l ≤ 6) : Reads l e := by
  have hlevel : e.level ≤ 6 := by cases e <;> simp [level]
  rcases Nat.lt_or_ge e.level l with hlt | hge
  · have hzero : Reads 0 e := he.descend h hlevel (Nat.zero_le _) fun k _ hk => hk.ne'
    have hsix := primary_of_expr h (hlt.trans_le hl) hzero
    exact hsix.descend h le_rfl hl fun k hk _ => (hlt.trans_le hk).ne
  · exact he.descend h hlevel hge fun k _ hk => hk.ne'

end

/-! ### Each constructor at its own level -/

theorem reads_literal {v : Json} (h : (literal v).Writable) : Reads 6 (literal v) := by
  intro fuel rest hr hf
  obtain ⟨fuel, rfl⟩ := exists_fuel h (by decide) hf
  obtain ⟨t, ht⟩ := Option.isSome_iff_exists.mp h
  have htokens : tokensAt 6 (literal v) = [t] := (tokensAt_of_le le_rfl).trans (by rw [tokens, ht, Option.toList_some])
  rw [htokens, List.singleton_append]
  unfold parsePrimary
  simp only [literalOf?_token? ht]

theorem literalOf?_ident {id : String} (h : id ∉ reserved) : literalOf? (.ident id) = none := by
  simp only [reserved, List.mem_cons, not_or] at h
  simp [literalOf?, h]

theorem reads_ref {r : Reference} (h : (ref r).Writable) : Reads 6 (ref r) := by
  intro fuel rest hr hf
  obtain ⟨fuel, rfl⟩ := exists_fuel h (by decide) hf
  obtain ⟨source, path⟩ := r
  have htokens : tokensAt 6 (ref ⟨source, path⟩) = Reference.tokens ⟨source, path⟩ := tokensAt_of_le le_rfl
  rw [htokens]
  cases source with
  | node id =>
    show parsePrimary (fuel + 1) (.ident id :: (Reference.pathTokens path ++ rest)) = _
    rw [parsePrimary, literalOf?_ident h]
    simp only [parsePath_tokens hr, ok_map]
  | parameter => exact parseSourced_tokens (by cbv) path hr
  | request => exact parseSourced_tokens (by cbv) path hr
  | env => exact parseSourced_tokens (by cbv) path hr
  | storage key =>
    obtain rfl : path = [] := h
    rfl

theorem reads_piped {a : Expr} {fs : List FilterCall} (h : (piped a fs).Writable) (ha : Reads 6 a) :
    Reads 5 (piped a fs) := by
  intro fuel rest hr hf
  obtain ⟨fuel, rfl⟩ := exists_fuel h (by decide) hf
  have htokens : tokensAt 5 (piped a fs) = tokensAt 6 a ++ fs.flatMap FilterCall.tokens := tokensAt_of_le le_rfl
  obtain ⟨-, hne, hargs⟩ := h
  rw [htokens] at hf ⊢
  have hpipe : Ends 6 (fs.flatMap FilterCall.tokens ++ rest) := by
    cases fs with
    | nil => exact absurd rfl hne
    | cons f fs => exact ends_cons.mpr (by decide)
  have hcount : fs.length ≤ (fs.flatMap FilterCall.tokens ++ rest).length := by
    rw [List.length_append]
    exact Nat.le_add_right_of_le (length_le_filterTokens fs)
  rw [List.length_append] at hf
  rw [parseOperand, List.append_assoc, ha _ _ hpipe (by omega), ok_bind]
  simp only [parseFilters_tokens hr hcount hargs, ok_bind]

theorem reads_compare {op : Comparison} {a b : Expr} (h : (compare op a b).Writable) (ha : Reads 5 a) (hb : Reads 5 b) :
    Reads 4 (compare op a b) := by
  intro fuel rest hr hf
  obtain ⟨fuel, rfl⟩ := exists_fuel h (by decide) hf
  have htokens : tokensAt 4 (compare op a b) = tokensAt 5 a ++ .comparison op :: tokensAt 5 b := tokensAt_of_le le_rfl
  rw [htokens] at hf ⊢
  rw [List.length_append, List.length_cons] at hf
  rw [parseComparison, List.append_assoc, List.cons_append, ha _ _ (ends_cons.mpr le_rfl) (by omega), ok_bind]
  simp only [hb _ _ (hr.mono (by decide)) (by omega : _ ≤ fuel + 5 + 1), ok_bind]

theorem reads_not {a : Expr} (ha : Reads 3 a) : Reads 3 (not a) := by
  intro fuel rest hr hf
  have htokens : tokensAt 3 (not a) = .ident "not" :: tokensAt 3 a := tokensAt_of_le le_rfl
  rw [htokens, List.length_cons] at hf
  obtain ⟨fuel, rfl⟩ : ∃ k, fuel = k + 1 := ⟨fuel - 1, by omega⟩
  rw [htokens, List.cons_append, parseNot, ha _ _ hr (by omega), ok_bind]

theorem reads_and {a b : Expr} (ha : Reads 2 a) (hb : Reads 3 b) : Reads 2 (and a b) := by
  intro fuel rest hr hf
  have htokens : tokensAt 2 (and a b) = tokensAt 2 a ++ .ident "and" :: tokensAt 3 b := tokensAt_of_le le_rfl
  rw [htokens] at hf ⊢
  rw [List.length_append, List.length_cons] at hf ⊢
  obtain ⟨left, hleft, hread⟩ := ha fuel (.ident "and" :: (tokensAt 3 b ++ rest))
    (ends_cons.mpr (by decide)) (by omega)
  obtain ⟨left, rfl⟩ : ∃ k, left = k + 1 := ⟨left - 1, by omega⟩
  refine ⟨left, by omega, ?_⟩
  rw [List.append_assoc, List.cons_append, hread, parseAndTail, hb _ _ hr (by omega), ok_bind]

theorem reads_or {a b : Expr} (hw : b.Writable) (ha : Reads 1 a) (hb : Reads 2 b) : Reads 1 (or a b) := by
  intro fuel rest hr hf
  have htokens : tokensAt 1 (or a b) = tokensAt 1 a ++ .ident "or" :: tokensAt 2 b := tokensAt_of_le le_rfl
  rw [htokens] at hf ⊢
  rw [List.length_append, List.length_cons] at hf ⊢
  obtain ⟨left, hleft, hread⟩ := ha fuel (.ident "or" :: (tokensAt 2 b ++ rest))
    (ends_cons.mpr (by decide)) (by omega)
  obtain ⟨left, rfl⟩ : ∃ k, left = k + 1 := ⟨left - 1, by omega⟩
  refine ⟨left, by omega, ?_⟩
  rw [List.append_assoc, List.cons_append, hread, parseOrTail, hb.and hw _ _ hr (by omega), ok_bind]

theorem reads_choice {v c f : Expr} (h : (choice v c f).Writable) (hv : Reads 1 v) (hc : Reads 1 c) (hf : Reads 0 f) :
    Reads 0 (choice v c f) := by
  intro fuel rest hr hfuel
  obtain ⟨fuel, rfl⟩ := exists_fuel h (by decide) hfuel
  have htokens : tokensAt 0 (choice v c f) =
      tokensAt 1 v ++ .ident "if" :: (tokensAt 1 c ++ .ident "else" :: tokensAt 0 f) := tokensAt_of_le le_rfl
  rw [htokens] at hfuel ⊢
  simp only [List.length_append, List.length_cons] at hfuel
  have hvalue := hv.or h.1 fuel (.ident "if" :: (tokensAt 1 c ++ .ident "else" :: (tokensAt 0 f ++ rest)))
    (ends_cons.mpr (by decide)) (by omega)
  have hcondition := hc.or h.2.1 fuel (.ident "else" :: (tokensAt 0 f ++ rest))
    (ends_cons.mpr (by decide)) (by omega)
  have hfallback := hf fuel rest hr (by omega)
  simp only [List.append_assoc, List.cons_append, parseExpr, hvalue, hcondition, hfallback, ok_bind]

/-! ## All expressions -/

theorem reads : ∀ {e : Expr}, e.Writable → ∀ {l : Nat}, l ≤ 6 → Reads l e
  | literal _, h, _, hl => (reads_literal h).all h hl
  | ref _, h, _, hl => (reads_ref h).all h hl
  | piped _ _, h, _, hl => (reads_piped h (reads h.1 (by decide))).all h hl
  | compare _ _ _, h, _, hl => (reads_compare h (reads h.1 (by decide)) (reads h.2 (by decide))).all h hl
  | not a, h, _, hl => (reads_not (reads (e := a) h (by decide))).all h hl
  | and _ _, h, _, hl => (reads_and (reads h.1 (by decide)) (reads h.2 (by decide))).all h hl
  | or _ _, h, _, hl => (reads_or h.2 (reads h.1 (by decide)) (reads h.2 (by decide))).all h hl
  | choice _ _ _, h, _, hl =>
    (reads_choice h (reads h.1 (by decide)) (reads h.2.1 (by decide)) (reads h.2.2 (by decide))).all h hl

/-- The parser reads back every expression that the grammar has words for, and all of its tokens. -/
theorem ofTokens_tokens {e : Expr} (h : e.Writable) : ofTokens e.tokens = .ok e := by
  have hread := (reads h (Nat.zero_le 6) : Reads 0 e) (8 * e.tokens.length + 8) [] (ends_nil 0)
  rw [tokensAt_of_le (Nat.zero_le _), List.append_nil] at hread
  have hne : e.tokens.isEmpty = false := by
    obtain ⟨t, ht, -⟩ := head?_tokens h
    rw [List.isEmpty_eq_false_iff]
    exact List.ne_nil_of_mem (List.mem_of_head? ht)
  rw [ofTokens, hne]
  simp only [Bool.false_eq_true, if_false, hread (by omega), ok_bind]

namespace Guarded

def name : Expr := .piped (.piped (.ref ⟨.node "Fetch", ["users", "0"]⟩) [⟨"first", []⟩])
  [⟨"default", [.string "nobody"]⟩, ⟨"join", [.bool true, .null]⟩]

def allowed : Expr :=
  .and (.and (.not (.or (.ref ⟨.storage "locked", []⟩) (.ref ⟨.request, []⟩))) (.ref ⟨.env, ["OPEN"]⟩))
    (.not (.compare .lt (.ref ⟨.parameter, ["age"]⟩) (.literal (.number (.int 18)))))

def expr : Expr := .choice (.choice name allowed (.literal .null)) (.not allowed) (.choice name (.not name) (.literal (.bool false)))

def nameTokens : List Token :=
  [.openParen, .ident "Fetch", .dot, .segment "users", .dot, .segment "0", .pipe, .ident "first", .closeParen,
    .pipe, .ident "default", .openParen, .text "nobody", .closeParen,
    .pipe, .ident "join", .openParen, .ident "true", .comma, .ident "null", .closeParen]

def allowedTokens : List Token :=
  [.ident "not", .openParen, .storageKey "locked", .ident "or", .dot, .segment "Request", .closeParen,
    .ident "and", .dot, .segment "Env", .dot, .segment "OPEN",
    .ident "and", .ident "not", .dot, .segment "Parameter", .dot, .segment "age", .comparison .lt, .number (.int 18)]

def tokens : List Token :=
  let parts : List (List Token) :=
    [[.openParen], nameTokens, [.ident "if"], allowedTokens, [.ident "else", .ident "null", .closeParen],
      [.ident "if", .ident "not", .openParen], allowedTokens, [.closeParen],
      [.ident "else"], nameTokens, [.ident "if", .ident "not"], nameTokens, [.ident "else", .ident "false"]]
  parts.flatten

end Guarded

theorem ofTokens_tokens_guarded : Guarded.expr.Writable ∧ Guarded.expr.tokens = Guarded.tokens ∧
    ofTokens Guarded.tokens = .ok Guarded.expr := by
  have hname : Guarded.name.Writable := by
    simp [Guarded.name, Writable, WritableRef, reserved, Json.token?]
  have hallowed : Guarded.allowed.Writable := by
    simp [Guarded.allowed, Writable, WritableRef, Json.token?]
  have h : Guarded.expr.Writable := by
    simp [Guarded.expr, Writable, hname, hallowed, Json.token?]
  have htokens : Guarded.expr.tokens = Guarded.tokens := by decide
  exact ⟨h, htokens, htokens ▸ ofTokens_tokens h⟩

end Expr

end FlowEngine
