import Mathlib
import FlowEngine.Placeholder.Template

/-!
# Taking templates apart

`pieces_open` and `pieces_char` are the equations of `pieces` without its fuel.
The text of a row of pieces is taken apart into those pieces exactly when the row
is inert (`pieces_source_iff`): a brace that meets another opens nothing.
-/

namespace FlowEngine.Template

/-! ## Closing braces -/

theorem closing?_quote (q : Char) (cs : List Char) :
    closing? (some q) (q :: cs) = (closing? none cs).map fun (s, r) => (q :: s, r) := by
  rw [closing?.eq_def]
  simp only [if_true]

theorem closing?_inside {q c : Char} (hq : c ≠ q) (hb : c ≠ '\\') (cs : List Char) :
    closing? (some q) (c :: cs) = (closing? (some q) cs).map fun (s, r) => (c :: s, r) := by
  rw [closing?.eq_def]
  simp only [if_neg hq, if_neg hb]

theorem map_cons_eq_some {c : Char} {x : Option (List Char × List Char)} {s r : List Char}
    (h : (x.map fun (s, r) => (c :: s, r)) = some (s, r)) : ∃ t, s = c :: t ∧ x = some (t, r) := by
  obtain ⟨⟨t, r'⟩, hx, he⟩ := Option.map_eq_some_iff.mp h
  cases he
  exact ⟨t, rfl, hx⟩

theorem closing?_eq_append {q : Option Char} {cs s r : List Char} (h : closing? q cs = some (s, r)) :
    cs = s ++ '}' :: '}' :: r := by
  fun_induction closing? q cs generalizing s r with
  | case1 => cases h
  | case2 c cs ih =>
    obtain ⟨t, rfl, hx⟩ := map_cons_eq_some h
    rw [ih hx, List.cons_append]
  | case3 => cases h
  | case4 q hq d ds ih =>
    obtain ⟨⟨t, r'⟩, h, he⟩ := Option.map_eq_some_iff.mp h
    cases he
    rw [ih h, List.cons_append, List.cons_append]
  | case5 q c cs hq hb ih =>
    obtain ⟨t, rfl, hx⟩ := map_cons_eq_some h
    rw [ih hx, List.cons_append]
  | case6 c cs hq ih =>
    obtain ⟨t, rfl, hx⟩ := map_cons_eq_some h
    rw [ih hx, List.cons_append]
  | case7 c cs hq hc =>
    obtain ⟨rfl, hd⟩ := hc
    obtain ⟨ds, rfl⟩ : ∃ ds, cs = '}' :: ds := List.head?_eq_some_iff.mp hd
    cases h
    rfl
  | case8 c cs hq hc ih =>
    obtain ⟨t, rfl, hx⟩ := map_cons_eq_some h
    rw [ih hx, List.cons_append]

theorem closing?_length {q : Option Char} {cs s r : List Char} (h : closing? q cs = some (s, r)) :
    r.length < cs.length := by
  rw [closing?_eq_append h]
  simp only [List.length_append, List.length_cons]
  omega

/-! ## Equations of the scan -/

def Opens (c : Char) (r : List Char) : Prop := c = '{' ∧ r.head? = some '{'

instance (c : Char) (r : List Char) : Decidable (Opens c r) := inferInstanceAs (Decidable (_ ∧ _))

theorem split_nil (fuel : Nat) : split fuel [] = [] := by cases fuel <;> rfl

theorem split_open (fuel : Nat) (r : List Char) :
    split (fuel + 1) ('{' :: '{' :: r) =
      match closing? none r with
      | some (inner, rest) => .placeholder inner :: split fuel rest
      | none => ('{' :: '{' :: r).map .char := rfl

theorem split_char {c : Char} {r : List Char} (h : ¬Opens c r) (fuel : Nat) :
    split (fuel + 1) (c :: r) = .char c :: split fuel r := by
  rw [split]
  rintro r' rfl rfl
  exact h ⟨rfl, rfl⟩

theorem split_of_le : ∀ (f g : Nat) (cs : List Char), cs.length ≤ f → cs.length ≤ g → split f cs = split g cs
  | f, g, [], _, _ => by rw [split_nil, split_nil]
  | f + 1, g + 1, c :: r, hf, hg => by
    rw [List.length_cons, Nat.add_le_add_iff_right] at hf hg
    by_cases ho : Opens c r
    · obtain ⟨rfl, hd⟩ := ho
      obtain ⟨r, rfl⟩ := List.head?_eq_some_iff.mp hd
      rw [split_open, split_open]
      cases hc : closing? none r with
      | none => rfl
      | some p =>
        have hl := closing?_length hc
        rw [List.length_cons] at hf hg
        simp only [split_of_le f g p.2 (by omega) (by omega)]
    · rw [split_char ho, split_char ho, split_of_le f g r hf hg]

@[simp] theorem pieces_nil : pieces [] = [] := rfl

theorem pieces_open (r : List Char) :
    pieces ('{' :: '{' :: r) =
      match closing? none r with
      | some (inner, rest) => .placeholder inner :: pieces rest
      | none => ('{' :: '{' :: r).map .char := by
  unfold pieces
  rw [List.length_cons, split_open]
  cases hc : closing? none r with
  | none => rfl
  | some p =>
    have hl := closing?_length hc
    simp only [split_of_le ('{' :: r).length p.2.length p.2 (by simp only [List.length_cons]; omega) le_rfl]

theorem pieces_char {c : Char} {r : List Char} (h : ¬Opens c r) : pieces (c :: r) = .char c :: pieces r :=
  split_char h _

/-! ## Rows of pieces -/

def source (ps : List Piece) : List Char := ps.flatMap Piece.source

@[simp] theorem source_nil : source [] = [] := rfl

@[simp] theorem source_char (c : Char) (ps : List Piece) : source (.char c :: ps) = c :: source ps := rfl

theorem source_placeholder (inner : List Char) (ps : List Piece) :
    source (.placeholder inner :: ps) = '{' :: '{' :: (inner ++ '}' :: '}' :: source ps) := by
  simp [source, Piece.source]

theorem source_append (ps qs : List Piece) : source (ps ++ qs) = source ps ++ source qs :=
  List.flatMap_append

theorem source_chars (cs : List Char) : source (cs.map .char) = cs := by
  induction cs with
  | nil => rfl
  | cons c cs ih => rw [List.map_cons, source_char, ih]

/-- An inner text that ends at its own closing braces, whatever follows them. -/
def Enclosed (inner : List Char) : Prop :=
  ∀ r, closing? none (inner ++ '}' :: '}' :: r) = some (inner, r)

/-- Where a character of the row is a brace and another follows, no closing
braces and no placeholder come after them. -/
def Inert : List Piece → Prop
  | [] => True
  | .placeholder _ :: ps => Inert ps
  | .char c :: ps =>
    if Opens c (source ps) then
      closing? none (source ps).tail = none ∧ ∀ p ∈ ps, p.isPlaceholder = false
    else Inert ps

theorem chars_of_no_placeholder {ps : List Piece} (h : ∀ p ∈ ps, p.isPlaceholder = false) :
    ps = (source ps).map .char := by
  induction ps with
  | nil => rfl
  | cons p ps ih =>
    rw [List.forall_mem_cons] at h
    cases p with
    | char c => rw [source_char, List.map_cons, ← ih h.2]
    | placeholder inner => simp [Piece.isPlaceholder] at h

theorem pieces_source_iff {ps : List Piece} (h : ∀ inner, .placeholder inner ∈ ps → Enclosed inner) :
    pieces (source ps) = ps ↔ Inert ps := by
  induction ps with
  | nil => simp [Inert]
  | cons p ps ih =>
    have ih := ih fun inner hm => h inner (List.mem_cons_of_mem _ hm)
    cases p with
    | placeholder inner =>
      rw [source_placeholder, pieces_open, h inner List.mem_cons_self (source ps), Inert, ← ih]
      simp only [List.cons.injEq, true_and]
    | char c =>
      rw [source_char, Inert]
      split_ifs with ho
      · -- two braces: either they open a placeholder or all that follows is text
        obtain ⟨rfl, hd⟩ := ho
        obtain ⟨r, hr⟩ := List.head?_eq_some_iff.mp hd
        rw [hr, pieces_open, List.tail_cons]
        constructor
        · intro hp
          cases hc : closing? none r with
          | some q => simp [hc] at hp
          | none =>
            simp only [hc, List.map_cons, List.cons.injEq, true_and] at hp
            refine ⟨rfl, ?_⟩
            rw [← hp]
            simp [Piece.isPlaceholder]
        · rintro ⟨hc, hn⟩
          simp only [hc]
          rw [List.map_cons, ← hr, ← chars_of_no_placeholder hn]
      · rw [pieces_char ho, ← ih]
        simp only [List.cons.injEq, true_and]

end FlowEngine.Template
