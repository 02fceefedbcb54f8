import Mathlib
import FlowEngine.Placeholder.Resolver
import FlowEngine.Proofs.Run.Invariant

/-!
# Values that last

A node resolves its values while other nodes record their results. Of two results of one
node the first stays, so a context only grows (`Context.extends_recordAll`), and a
reference that finds a value goes on to find that value. Conditions, choices and the
filter `default` can turn on what is missing. A value whose placeholders have none of them is
resolved for good once a strict resolver has resolved it (`resolve_lasts`).
-/

namespace FlowEngine

/-! ## Contexts that grow -/

namespace Context

def recordAll (c : Context) (history : List (String × NodeResult)) : Context :=
  history.foldl (fun c entry => c.record entry.1 entry.2) c

/-- What is given is the same, and the results of `c` are there. -/
structure Extends (c d : Context) : Prop where
  parameters : d.parameters = c.parameters
  request : d.request = c.request
  environment : d.environment = c.environment
  results : ∀ id r, c.results.get? id = some r → d.results.get? id = some r

theorem Extends.refl (c : Context) : c.Extends c := ⟨rfl, rfl, rfl, fun _ _ h => h⟩

theorem Extends.trans {c d e : Context} (h : c.Extends d) (h' : d.Extends e) : c.Extends e where
  parameters := h'.parameters.trans h.parameters
  request := h'.request.trans h.request
  environment := h'.environment.trans h.environment
  results := fun id r hr => h'.results id r (h.results id r hr)

theorem extends_record (c : Context) (id : String) (r : NodeResult) : c.Extends (c.record id r) :=
  ⟨rfl, rfl, rfl, fun _ _ => RunState.record_get?⟩

theorem extends_recordAll (history : List (String × NodeResult)) (c : Context) : c.Extends (c.recordAll history) := by
  induction history generalizing c with
  | nil => exact .refl c
  | cons entry history ih => exact (extends_record c entry.1 entry.2).trans (ih _)

end Context

/-! ## Plain expressions -/

/-- Only literals, references and filters other than `default`. -/
def Expr.isPlain : Expr → Bool
  | .literal _ | .ref _ => true
  | .piped input filters => input.isPlain && filters.all fun f => f.name != "default"
  | _ => false

/-- What cannot be read counts as plain, since no strict resolver gets past it. -/
def Piece.isPlain : Piece → Bool
  | .char _ => true
  | .placeholder inner =>
    match Expr.ofText (Text.trim inner) with
    | .ok e => e.isPlain
    | .error _ => true

namespace Resolver

theorem applyFilters_missing {fs : List FilterCall} (hfs : ∀ f ∈ fs, f.name ≠ "default") {e e' : Evaluated}
    (h : applyFilters e fs = .ok e') : e'.missing = e.missing := by
  induction fs generalizing e with
  | nil => cases h; rfl
  | cons f fs ih =>
    obtain ⟨v, -, h⟩ := bind_eq_ok.mp h
    have hname : (f.name != "default") = true := by simpa using hfs f (by simp)
    rw [ih (fun g hg => hfs g (List.mem_cons_of_mem _ hg)) h, hname, Bool.and_true]

variable {c d : Context} {store : Store}

theorem lookup?_extends (h : c.Extends d) {strict : Bool} {ref : Reference} {v : Json}
    (hv : (Resolver.mk c store strict).lookup? ref = some v) : (Resolver.mk d store strict).lookup? ref = some v := by
  unfold lookup? at *
  cases hs : ref.source with
  | node id =>
    simp only [hs] at *
    obtain ⟨r, hr, hfound⟩ := Option.bind_eq_some_iff.mp hv
    rw [h.results id r hr, Option.bind_some, hfound]
  | parameter => simpa only [hs, h.parameters] using hv
  | request => simpa only [hs, h.request] using hv
  | env => simpa only [hs, h.environment] using hv
  | storage key => simpa only [hs] using hv

theorem eval_extends (h : c.Extends d) {strict : Bool} {e : Expr} (hplain : e.isPlain = true) {found : Evaluated}
    (hfound : found.missing = false) (he : (Resolver.mk c store strict).eval e = .ok found) :
    (Resolver.mk d store strict).eval e = .ok found := by
  induction e generalizing found with
  | literal v => exact he
  | ref reference =>
    rw [eval] at he ⊢
    cases hl : (Resolver.mk c store strict).lookup? reference with
    | none =>
      rw [hl] at he
      cases he
      cases hfound
    | some v =>
      rw [lookup?_extends h hl]
      rwa [hl] at he
  | piped input fs ih =>
    simp only [Expr.isPlain, Bool.and_eq_true, List.all_eq_true, bne_iff_ne] at hplain
    obtain ⟨hinput, hfs⟩ := hplain
    rw [eval] at he ⊢
    obtain ⟨x, hx, happly⟩ := bind_eq_ok.mp he
    -- no filter forgives, so the value that they were sent had been found
    have hmissing : x.missing = false := by rw [← applyFilters_missing hfs happly, hfound]
    rw [ih hinput hmissing hx]
    exact happly
  | not a => cases hplain
  | and a b => cases hplain
  | or a b => cases hplain
  | compare op a b => cases hplain
  | choice value condition fallback => cases hplain

/-! ## Texts -/

theorem placeholder_extends (h : c.Extends d) {inner : List Char} {v : Json}
    (hplain : (Piece.placeholder inner).isPlain = true)
    (hv : (Resolver.mk c store true).placeholder inner = .ok v) :
    (Resolver.mk d store true).placeholder inner = .ok v := by
  unfold placeholder at *
  unfold Piece.isPlain at hplain
  cases hparse : Expr.ofText (Text.trim inner) with
  | error e => simp [hparse] at hv
  | ok e =>
    simp only [hparse] at *
    cases heval : (Resolver.mk c store true).eval e with
    | error fault => simp [heval] at hv
    | ok found =>
      simp only [heval] at hv
      by_cases hm : found.missing = true
      · simp [hm] at hv
      · rw [Bool.not_eq_true] at hm
        rwa [eval_extends h hplain hm heval]

theorem splice_extends (h : c.Extends d) {ps : List Piece} (hplain : ∀ p ∈ ps, p.isPlain = true) {cs : List Char}
    (hcs : (Resolver.mk c store true).splice ps = .ok cs) : (Resolver.mk d store true).splice ps = .ok cs := by
  induction ps generalizing cs with
  | nil => exact hcs
  | cons p ps ih =>
    obtain ⟨hp, hrest⟩ := List.forall_mem_cons.mp hplain
    cases p with
    | char a =>
      obtain ⟨ds, hds, he⟩ := bind_eq_ok.mp hcs
      rw [splice, ih hrest hds]
      exact he
    | placeholder inner =>
      obtain ⟨v, hv, he⟩ := bind_eq_ok.mp hcs
      obtain ⟨ds, hds, he⟩ := bind_eq_ok.mp he
      rw [splice, placeholder_extends h hp hv, ok_bind, ih hrest hds]
      exact he

theorem mem_of_soleInner? {ps : List Piece} {inner : List Char} (h : soleInner? ps = some inner) :
    .placeholder inner ∈ ps := by
  unfold soleInner? at h
  split at h
  · rename_i hf
    cases h
    apply List.mem_of_mem_filter (p := fun p => !p.isBlank)
    rw [hf]
    simp
  · cases h

theorem resolveText_extends (h : c.Extends d) {s : String}
    (hplain : ∀ p ∈ Template.pieces s.toList, p.isPlain = true) {j : Json}
    (hj : (Resolver.mk c store true).resolveText s = .ok j) : (Resolver.mk d store true).resolveText s = .ok j := by
  unfold resolveText at *
  cases hs : soleInner? (Template.pieces s.toList) with
  | some inner =>
    simp only [hs] at hj ⊢
    exact placeholder_extends h (hplain _ (mem_of_soleInner? hs)) hj
  | none =>
    simp only [hs] at hj ⊢
    obtain ⟨cs, hcs, he⟩ := map_eq_ok.mp hj
    rw [splice_extends h hplain hcs]
    exact congrArg _ he

/-! ## Values -/

end Resolver

open Document (Value)

namespace Document.Value

mutual

/-- The strings within a value, which alone hold placeholders. -/
def strings : Value → List String
  | .string s => [s]
  | .list items => stringsOfItems items
  | .map entries => stringsOfEntries entries
  | .null | .bool _ | .int _ | .float _ | .ident _ => []

def stringsOfItems : List Value → List String
  | [] => []
  | v :: vs => strings v ++ stringsOfItems vs

def stringsOfEntries : List (String × Value) → List String
  | [] => []
  | (_, v) :: es => strings v ++ stringsOfEntries es

end

end Document.Value

namespace Resolver

def PlainStrings (ss : List String) : Prop := ∀ s ∈ ss, ∀ p ∈ Template.pieces s.toList, p.isPlain = true

instance (ss : List String) : Decidable (PlainStrings ss) :=
  inferInstanceAs (Decidable (∀ s ∈ ss, ∀ p ∈ Template.pieces s.toList, p.isPlain = true))

theorem plainStrings_append {ss ts : List String} : PlainStrings (ss ++ ts) ↔ PlainStrings ss ∧ PlainStrings ts :=
  List.forall_mem_append

variable {c d : Context} {store : Store}

mutual

theorem resolve_extends (h : c.Extends d) : ∀ {v : Value} {j : Json}, PlainStrings v.strings →
    (Resolver.mk c store true).resolve v = .ok j → (Resolver.mk d store true).resolve v = .ok j
  | .string s, j, hplain, hj => resolveText_extends h (hplain s (by simp [Value.strings])) hj
  | .list items, j, hplain, hj => by
    obtain ⟨js, hjs, he⟩ := bind_eq_ok.mp hj
    rw [resolve, resolveItems_extends h hplain hjs]
    exact he
  | .map entries, j, hplain, hj => by
    obtain ⟨js, hjs, he⟩ := bind_eq_ok.mp hj
    rw [resolve, resolveEntries_extends h hplain hjs]
    exact he
  | .null, _, _, hj => hj
  | .bool _, _, _, hj => hj
  | .int _, _, _, hj => hj
  | .float _, _, _, hj => hj
  | .ident _, _, _, hj => hj

theorem resolveItems_extends (h : c.Extends d) : ∀ {vs : List Value} {js : List Json},
    PlainStrings (Value.stringsOfItems vs) → (Resolver.mk c store true).resolveItems vs = .ok js →
    (Resolver.mk d store true).resolveItems vs = .ok js
  | [], _, _, hjs => hjs
  | v :: vs, js, hplain, hjs => by
    obtain ⟨hv, hvs⟩ := plainStrings_append.mp hplain
    obtain ⟨j, hj, he⟩ := bind_eq_ok.mp hjs
    obtain ⟨ks, hks, he⟩ := bind_eq_ok.mp he
    rw [resolveItems, resolve_extends h hv hj, ok_bind, resolveItems_extends h hvs hks]
    exact he

theorem resolveEntries_extends (h : c.Extends d) : ∀ {es : List (String × Value)} {js : List (String × Json)},
    PlainStrings (Value.stringsOfEntries es) → (Resolver.mk c store true).resolveEntries es = .ok js →
    (Resolver.mk d store true).resolveEntries es = .ok js
  | [], _, _, hjs => hjs
  | (k, v) :: es, js, hplain, hjs => by
    obtain ⟨hv, hes⟩ := plainStrings_append.mp hplain
    obtain ⟨j, hj, he⟩ := bind_eq_ok.mp hjs
    obtain ⟨ks, hks, he⟩ := bind_eq_ok.mp he
    rw [resolveEntries, resolve_extends h hv hj, ok_bind, resolveEntries_extends h hes hks]
    exact he

end

/-- Once a strict resolver has resolved a value with plain placeholders, whatever is recorded
later leaves the value as it is. -/
theorem resolve_lasts (c : Context) (store : Store) (v : Value) (hplain : PlainStrings v.strings) {j : Json}
    (hj : (Resolver.mk c store true).resolve v = .ok j) (history : List (String × NodeResult)) :
    (Resolver.mk (c.recordAll history) store true).resolve v = .ok j :=
  resolve_extends (c.extends_recordAll history) hplain hj

namespace Branches

def context : Context := ⟨"flow", [("n", .int 3)], .null, [], ⟨[("Left", .success (.object [("x", .string "a")]))]⟩⟩

def value : Value := .map [("text", .string "\x7b\x7bLeft.x|upper\x7d\x7d\x7b\x7b.Parameter.n\x7d\x7d"), ("n", .int 1)]

def history : List (String × NodeResult) := [("Right", .success (.int 5)), ("Left", .success (.object [("x", .string "b")]))]

end Branches

set_option maxRecDepth 20000 in
theorem resolve_lasts_branches : PlainStrings Branches.value.strings ∧
    (Resolver.mk Branches.context .empty true).resolve Branches.value
      = .ok (.object [("text", .string "A3"), ("n", .int 1)]) ∧
    (Resolver.mk (Branches.context.recordAll Branches.history) .empty true).resolve Branches.value
      = .ok (.object [("text", .string "A3"), ("n", .int 1)]) := by
  have hplain : PlainStrings Branches.value.strings := by decide +kernel
  have hvalue : (Resolver.mk Branches.context .empty true).resolve Branches.value
      = .ok (.object [("text", .string "A3"), ("n", .int 1)]) := by cbv
  exact ⟨hplain, hvalue, resolve_lasts _ _ _ hplain hvalue Branches.history⟩

/-- A default does not last: it gives way to what it stands in for. -/
example : (Resolver.mk Branches.context .empty true).resolve (.string "\x7b\x7bRight|default(0)\x7d\x7d") = .ok (.int 0) ∧
    (Resolver.mk (Branches.context.recordAll Branches.history) .empty true).resolve
      (.string "\x7b\x7bRight|default(0)\x7d\x7d") = .ok (.int 5) := by
  constructor <;> cbv

end Resolver

end FlowEngine
