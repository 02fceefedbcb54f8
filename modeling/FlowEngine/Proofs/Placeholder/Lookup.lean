import FlowEngine.Placeholder.Resolver

/-!
# The two spellings of a path

A path into the payload of a node may start with `result` or leave that out. As long
as the payload holds no `result` of its own, both spellings find the same value
(`NodeResult.lookup?_spellings`), and a reference means the same in both
(`Resolver.eval_spellings`). Only the strategy that finds a value tells them apart.
-/

namespace FlowEngine

theorem Json.step?_of_get?_eq_none {j : Json} {key : String} (hkey : readNat64? key.toList = none)
    (h : j.get? key = none) : j.step? key = none := by
  cases j with
  | object members => exact h
  | array items => rw [step?, hkey, Option.bind_none]
  | _ => rfl

namespace Strategy

variable {r : NodeResult} {path : List String}

def wrapped : Strategy → Strategy
  | direct => unwrapped
  | s => s

theorem direct_result (h : r.payload.get? "result" = none) (path : List String) :
    direct.find? r ("result" :: path) = none := by
  rw [find?, Json.walk?, Json.step?_of_get?_eq_none (by decide) h, Option.bind_none]

theorem unwrapped_result (r : NodeResult) (path : List String) :
    unwrapped.find? r ("result" :: path) = direct.find? r path := rfl

theorem unwrapped_eq_none (hpath : path.head? ≠ some "result") : unwrapped.find? r path = none := by
  unfold find?
  cases path with
  | nil => rfl
  | cons s path =>
    have hs : s ≠ "result" := fun he => hpath (congrArg some he)
    simp [hs]

theorem nested_eq_none (h : r.payload.get? "result" = none) (path : List String) : nested.find? r path = none := by
  simp [find?, h]

theorem ne_nil_of_direct (h : direct.find? r path = none) : path ≠ [] := by
  rintro rfl
  rw [find?, Json.walk?_nil] at h
  cases h

theorem flat_result (r : NodeResult) (hpath : path ≠ []) : flat.find? r ("result" :: path) = flat.find? r path := by
  obtain ⟨s, path, rfl⟩ := List.exists_cons_of_ne_nil hpath
  rw [find?, find?, List.getLast?_cons_cons]

end Strategy

namespace NodeResult

open Strategy

variable {r : NodeResult} {path : List String}

theorem lookup?_direct {v : Json} (h : r.payload.walk? path = some v) : r.lookup? path = some (.direct, v) := by
  simp [lookup?, Strategy.all, Strategy.find?, h]

theorem lookup?_wrapped (h : r.payload.get? "result" = none) (hpath : path.head? ≠ some "result") :
    r.lookup? ("result" :: path) = (r.lookup? path).map fun found => (found.1.wrapped, found.2) := by
  unfold lookup? Strategy.all
  simp only [List.findSome?_cons, List.findSome?_nil, direct_result h, unwrapped_result, unwrapped_eq_none hpath,
    nested_eq_none h, Option.map_none]
  cases hwalk : direct.find? r path with
  | some v => rfl
  | none =>
    rw [flat_result r (ne_nil_of_direct hwalk)]
    cases flat.find? r path <;> rfl

/-- A path that does not start with `result` finds the same behind a leading `result` as it
does without, if it finds anything. -/
theorem lookup?_spellings (r : NodeResult) (path : List String) (h : r.payload.get? "result" = none)
    (hpath : path.head? ≠ some "result") :
    (r.lookup? ("result" :: path)).map (·.2) = (r.lookup? path).map (·.2) := by
  rw [lookup?_wrapped h hpath, Option.map_map]
  rfl

-- the last segment of this path names a part of the envelope, which only the last strategy looks into
theorem lookup?_spellings_envelope : (success (.object [("x", .int 1)])).payload.get? "result" = none ∧
    ["body", "status"].head? ≠ some "result" ∧
    ((success (.object [("x", .int 1)])).lookup? ["result", "body", "status"]).map (·.2)
      = ((success (.object [("x", .int 1)])).lookup? ["body", "status"]).map (·.2) ∧
    ((success (.object [("x", .int 1)])).lookup? ["body", "status"]).map (·.1) = some flat :=
  ⟨rfl, by decide, lookup?_spellings _ _ rfl (by decide), by decide⟩

end NodeResult

theorem Resolver.lookup?_node (r : Resolver) (id : String) (path : List String) :
    r.lookup? ⟨.node id, path⟩ =
      (r.context.results.get? id).bind fun result => (result.lookup? path).map (·.2) := rfl

theorem Resolver.eval_spellings (r : Resolver) (id : String) {path : List String} (hpath : path.head? ≠ some "result")
    (h : ∀ result, r.context.results.get? id = some result → result.payload.get? "result" = none) :
    r.eval (.ref ⟨.node id, "result" :: path⟩) = r.eval (.ref ⟨.node id, path⟩) := by
  have hlookup : r.lookup? ⟨.node id, "result" :: path⟩ = r.lookup? ⟨.node id, path⟩ := by
    rw [lookup?_node, lookup?_node]
    cases hresult : r.context.results.get? id with
    | none => rfl
    | some result =>
      rw [Option.bind_some, Option.bind_some, NodeResult.lookup?_wrapped (h result hresult) hpath, Option.map_map]
      rfl
  rw [eval, eval, hlookup]

end FlowEngine
