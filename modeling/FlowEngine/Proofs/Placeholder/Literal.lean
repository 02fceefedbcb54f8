import Mathlib
import FlowEngine.Placeholder.Environment
import FlowEngine.Placeholder.Resolver
import FlowEngine.Proofs.Except
import FlowEngine.Proofs.Placeholder.Template
import FlowEngine.Proofs.Text.Span

/-!
# Quoted literals

The scan for closing braces and the reader of texts agree on where a quoted
literal ends, so a quoted value is one placeholder (`enclosed_quoted`), and that
placeholder resolves to the value (`placeholder_quoted`).
-/

namespace FlowEngine.Environment

open Template (closing?)

def quoted (v : List Char) : List Char := '\'' :: (v.flatMap escape ++ ['\''])

theorem escape_eq (c : Char) :
    (c = '\\' ∨ c = '\'') ∧ escape c = ['\\', c] ∨ (c ≠ '\\' ∧ c ≠ '\'') ∧ escape c = [c] := by
  unfold escape
  by_cases h : c = '\\' ∨ c = '\''
  · exact .inl ⟨h, if_pos h⟩
  · exact .inr ⟨not_or.mp h, if_neg h⟩

/-! ## The end of a literal -/

theorem closing?_escape (c : Char) (r : List Char) :
    closing? (some '\'') (escape c ++ r) =
      (closing? (some '\'') r).map fun (s, t) => (escape c ++ s, t) := by
  obtain ⟨-, he⟩ | ⟨⟨hb, hq⟩, he⟩ := escape_eq c
  · rw [he]; rfl
  · rw [he, List.singleton_append, Template.closing?_inside hq hb]
    rfl

theorem closing?_escaped (v r : List Char) :
    closing? (some '\'') (v.flatMap escape ++ '\'' :: r) =
      (closing? none r).map fun (s, t) => (v.flatMap escape ++ '\'' :: s, t) := by
  induction v with
  | nil =>
    rw [List.flatMap_nil, List.nil_append, Template.closing?_quote]
    rfl
  | cons c v ih =>
    rw [List.flatMap_cons, List.append_assoc, closing?_escape, ih, Option.map_map]
    simp only [Function.comp_def, List.append_assoc]

theorem enclosed_quoted (v : List Char) : Template.Enclosed (quoted v) := fun r => by
  have hr : closing? none ('}' :: '}' :: r) = some ([], r) := rfl
  have ho : closing? none ('\'' :: (v.flatMap escape ++ '\'' :: '}' :: '}' :: r)) =
      (closing? (some '\'') (v.flatMap escape ++ '\'' :: '}' :: '}' :: r)).map fun (s, t) => ('\'' :: s, t) := rfl
  rw [quoted, List.cons_append, List.append_assoc, List.singleton_append, ho, closing?_escaped, hr]
  rfl

/-! ## Reading a literal -/

theorem readText?_escape (c : Char) (r : List Char) :
    Token.readText? '\'' (escape c ++ r) = (Token.readText? '\'' r).map fun (s, t) => (c :: s, t) := by
  obtain ⟨hc, he⟩ | ⟨⟨hb, hq⟩, he⟩ := escape_eq c
  · have hu : Token.unescape c = c := by obtain rfl | rfl := hc <;> rfl
    rw [he, List.cons_append, List.singleton_append, Token.readText?, hu]
  · rw [he, List.singleton_append, Token.readText?, if_neg hq]
    · rintro rfl; exact fun _ => hb rfl
    · rintro _ _ rfl; exact fun _ => hb rfl

theorem readText?_escaped (v r : List Char) :
    Token.readText? '\'' (v.flatMap escape ++ '\'' :: r) = some (v, r) := by
  induction v with
  | nil => rfl
  | cons c v ih => rw [List.flatMap_cons, List.append_assoc, readText?_escape, ih]; rfl

theorem scan_nil (afterDot : Bool) (fuel : Nat) : Token.scan afterDot fuel [] = .ok [] := by cases fuel <;> rfl

theorem tokenize_quoted (v : List Char) : tokenize (quoted v) = .ok [.text (String.ofList v)] := by
  have hn : Token.next false '\'' (v.flatMap escape ++ ['\'']) = .ok (.text (String.ofList v), []) := by
    unfold Token.next
    simp [readText?_escaped v []]
  unfold tokenize quoted
  rw [List.length_cons, Token.scan, if_neg (by decide), hn]
  simp only [ok_bind, scan_nil]

theorem ofText_quoted (v : List Char) : Expr.ofText (quoted v) = .ok (.literal (.string (String.ofList v))) := by
  rw [Expr.ofText, tokenize_quoted]
  rfl

theorem trim_quoted (v : List Char) : Text.trim (quoted v) = quoted v := by
  refine Text.trim_of_trimmed ⟨by simp [quoted]; decide, ?_⟩
  rw [quoted, ← List.cons_append, List.reverse_append]
  simp
  decide

/-- A quoted value resolves to itself, whatever the context, the store and the
policy are. -/
theorem placeholder_quoted (r : Resolver) (v : List Char) :
    r.placeholder (quoted v) = .ok (.string (String.ofList v)) := by
  unfold Resolver.placeholder
  simp only [trim_quoted, ofText_quoted]
  rfl

end FlowEngine.Environment
