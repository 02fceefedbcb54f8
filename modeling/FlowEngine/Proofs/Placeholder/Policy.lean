import Mathlib
import FlowEngine.Placeholder.Resolver
import FlowEngine.Proofs.Except

/-!
# The policy on missing values

Whether a missing value is an error is asked once, when the expression of a
placeholder has been evaluated. So what a strict resolver gives a lenient one gives
too, except that it goes on where the strict one stops for a missing value
(`Relaxes`). That is kept where a step follows another (`Relaxes.bind`), and so from
the pieces of a text to lists and maps.
-/

namespace FlowEngine

/-- What a lenient resolver may answer where a strict one answers `x`: the same value, the
same error of an expression, or anything but a missing value where `x` is one. -/
inductive Relaxes {α : Type} : Except ResolveError α → Except ResolveError α → Prop
  | ok (a : α) : Relaxes (.ok a) (.ok a)
  | invalid (expression : String) (cause : InvalidExpr) :
    Relaxes (.error (.invalid expression cause)) (.error (.invalid expression cause))
  | forgives (expression : String) {y : Except ResolveError α} (h : ∀ missing, y ≠ .error (.unresolved missing)) :
    Relaxes (.error (.unresolved expression)) y

namespace Relaxes

variable {α β : Type} {x y : Except ResolveError α}

theorem resolved (h : Relaxes x y) (missing : String) : y ≠ .error (.unresolved missing) := by
  cases h with
  | ok a => exact fun he => by cases he
  | invalid expression cause => exact fun he => by cases he
  | forgives expression h => exact h missing

theorem eq_ok (h : Relaxes x y) {a : α} (hx : x = .ok a) : y = .ok a := by
  cases h with
  | ok b => exact hx
  | _ => cases hx

theorem eq_invalid (h : Relaxes x y) {expression : String} {cause : InvalidExpr}
    (hx : x = .error (.invalid expression cause)) : y = .error (.invalid expression cause) := by
  cases h with
  | invalid e c => exact hx
  | _ => cases hx

theorem bind {f g : α → Except ResolveError β} (h : Relaxes x y) (hf : ∀ a, Relaxes (f a) (g a)) :
    Relaxes (x >>= f) (y >>= g) := by
  cases h with
  | ok a => exact hf a
  | invalid expression cause => exact .invalid expression cause
  | forgives expression hy =>
    -- the strict resolver stops here, while the lenient one may have a value to go on with
    refine .forgives expression fun missing he => ?_
    cases y with
    | ok a => exact (hf a).resolved missing he
    | error e =>
      cases he
      exact hy missing rfl

theorem map (f : α → β) (h : Relaxes x y) : Relaxes (x.map f) (y.map f) :=
  h.bind fun a => .ok (f a)

end Relaxes

namespace Resolver

variable (c : Context) (store : Store)

theorem eval_policy (strict lenient : Bool) : ∀ e : Expr,
    (Resolver.mk c store strict).eval e = (Resolver.mk c store lenient).eval e
  | .literal _ => rfl
  | .ref _ => rfl
  | .piped input _ => by rw [eval, eval, eval_policy strict lenient input]
  | .not a => by rw [eval, eval, eval_policy strict lenient a]
  | .and a b => by rw [eval, eval, eval_policy strict lenient a, eval_policy strict lenient b]
  | .or a b => by rw [eval, eval, eval_policy strict lenient a, eval_policy strict lenient b]
  | .compare _ a b => by rw [eval, eval, eval_policy strict lenient a, eval_policy strict lenient b]
  | .choice value condition fallback => by
    rw [eval, eval, eval_policy strict lenient value, eval_policy strict lenient condition,
      eval_policy strict lenient fallback]

theorem placeholder_relaxes (inner : List Char) :
    Relaxes ((Resolver.mk c store true).placeholder inner) ((Resolver.mk c store false).placeholder inner) := by
  unfold placeholder
  simp only
  cases Expr.ofText (Text.trim inner) with
  | error e => exact .invalid _ _
  | ok expr =>
    simp only [eval_policy c store true false expr]
    cases (Resolver.mk c store false).eval expr with
    | error e => exact .invalid _ _
    | ok e =>
      cases hm : e.missing with
      | false =>
        simp only [hm, Bool.not_false, if_true]
        exact .ok e.value
      | true =>
        simp only [hm, Bool.not_true, Bool.false_eq_true, if_false, if_true]
        exact .forgives _ fun missing he => by cases he

theorem splice_relaxes : ∀ ps : List Piece,
    Relaxes ((Resolver.mk c store true).splice ps) ((Resolver.mk c store false).splice ps)
  | [] => .ok []
  | .char a :: ps => (splice_relaxes ps).bind fun cs => .ok (a :: cs)
  | .placeholder inner :: ps =>
    (placeholder_relaxes c store inner).bind fun v => (splice_relaxes ps).bind fun cs => .ok (v.plainText.toList ++ cs)

theorem resolveText_relaxes (s : String) :
    Relaxes ((Resolver.mk c store true).resolveText s) ((Resolver.mk c store false).resolveText s) := by
  unfold resolveText
  simp only
  cases soleInner? (Template.pieces s.toList) with
  | some inner => exact placeholder_relaxes c store inner
  | none => exact (splice_relaxes c store _).map _

open Document (Value)

mutual

theorem resolve_relaxes : ∀ v : Value,
    Relaxes ((Resolver.mk c store true).resolve v) ((Resolver.mk c store false).resolve v)
  | .string s => resolveText_relaxes c store s
  | .list items => (resolveItems_relaxes items).bind fun js => .ok (Json.array js)
  | .map entries => (resolveEntries_relaxes entries).bind fun es => .ok (Json.object es)
  | .null => .ok _
  | .bool _ => .ok _
  | .int _ => .ok _
  | .float _ => .ok _
  | .ident _ => .ok _

theorem resolveItems_relaxes (vs : List Value) :
    Relaxes ((Resolver.mk c store true).resolveItems vs) ((Resolver.mk c store false).resolveItems vs) := by
  cases vs with
  | nil => exact .ok []
  | cons v vs => exact (resolve_relaxes v).bind fun j => (resolveItems_relaxes vs).bind fun js => .ok (j :: js)

theorem resolveEntries_relaxes (es : List (String × Value)) :
    Relaxes ((Resolver.mk c store true).resolveEntries es) ((Resolver.mk c store false).resolveEntries es) := by
  cases es with
  | nil => exact .ok []
  | cons e es =>
    obtain ⟨k, v⟩ := e
    exact (resolve_relaxes v).bind fun j => (resolveEntries_relaxes es).bind fun js => .ok ((k, j) :: js)

end

/-- A lenient resolver never complains of a missing value. A value that a strict one gives it
gives too, and an expression that the strict one finds invalid it finds so as well. -/
theorem resolve_lenient (v : Value) :
    (∀ missing, (Resolver.mk c store false).resolve v ≠ .error (.unresolved missing)) ∧
    (∀ j, (Resolver.mk c store true).resolve v = .ok j → (Resolver.mk c store false).resolve v = .ok j) ∧
    ∀ expression cause, (Resolver.mk c store true).resolve v = .error (.invalid expression cause) →
      (Resolver.mk c store false).resolve v = .error (.invalid expression cause) := by
  have h := resolve_relaxes c store v
  exact ⟨h.resolved, fun _ => h.eq_ok, fun _ _ => h.eq_invalid⟩

namespace Ghost

def context : Context := ⟨"flow", [("n", .string "3")], .null, [], .empty⟩

def greeting : Value := .map [("text", .list [.string "\x7b\x7bGhost.name|default('you')\x7d\x7d: \x7b\x7b.Parameter.n|trim\x7d\x7d"])]

/-- The first item has no missing value, since a condition forgives it; the second has a filter that
is unknown. -/
def broken : Value := .list [.string "\x7b\x7bnot Ghost.x\x7d\x7d", .string "\x7b\x7b'x'|size\x7d\x7d \x7b\x7bGhost.x\x7d\x7d"]

end Ghost

set_option maxRecDepth 20000 in
theorem resolve_lenient_ghost :
    (Resolver.mk Ghost.context .empty true).resolve Ghost.greeting
      = .ok (.object [("text", .array [.string "you: 3"])]) ∧
    (Resolver.mk Ghost.context .empty false).resolve Ghost.greeting
      = .ok (.object [("text", .array [.string "you: 3"])]) ∧
    (Resolver.mk Ghost.context .empty true).resolve Ghost.broken
      = .error (.invalid "'x'|size" (.filter (.unknown "size"))) ∧
    (Resolver.mk Ghost.context .empty false).resolve Ghost.broken
      = .error (.invalid "'x'|size" (.filter (.unknown "size"))) := by
  have hvalue : (Resolver.mk Ghost.context .empty true).resolve Ghost.greeting
      = .ok (.object [("text", .array [.string "you: 3"])]) := by cbv
  have herror : (Resolver.mk Ghost.context .empty true).resolve Ghost.broken
      = .error (.invalid "'x'|size" (.filter (.unknown "size"))) := by cbv
  obtain ⟨-, hok, -⟩ := resolve_lenient Ghost.context .empty Ghost.greeting
  obtain ⟨-, -, hinvalid⟩ := resolve_lenient Ghost.context .empty Ghost.broken
  exact ⟨hvalue, hok _ hvalue, herror, hinvalid _ _ herror⟩

end Resolver

end FlowEngine
