import Mathlib
import FlowEngine.Placeholder.Resolver
import FlowEngine.Proofs.Text.Dotted

/-!
# Keys with a path behind them

A reference to the store is one text, in which the key ends at some dot or at the end and
a path follows (`Heads`). Of the keys that it may mean the longest that is stored decides,
also when the path finds nothing in its value (`lookup?_storage`).
-/

namespace FlowEngine

/-! ## The keys that a text may mean -/

/-- The text is the key and segments behind it, each after a dot. -/
def Heads (text key : String) (path : List String) : Prop :=
  text = ".".intercalate (key :: path) ∧ ∀ s ∈ path, '.' ∉ s.toList

theorem heads_self (text : String) : Heads text text [] := ⟨by simp, by simp⟩

theorem heads_iff {text key : String} {path : List String} :
    Heads text key path ↔ key = text ∧ path = [] ∨
      ∃ b, (key.toList, b) ∈ Text.cutsAtDots text.toList ∧ path = Text.segments b := by
  constructor
  · rintro ⟨htext, hpath⟩
    cases path with
    | nil => exact .inl ⟨by simpa using htext.symm, rfl⟩
    | cons s ss =>
      refine .inr ⟨['.'].intercalate ((s :: ss).map String.toList), ?_, ?_⟩
      · rw [Text.mem_cutsAtDots, htext, String.toList_intercalate, List.map_cons, List.map_cons,
          List.intercalate_cons_cons]
        simp
      · have hdots : ∀ t ∈ (s :: ss).map String.toList, '.' ∉ t := by simpa using hpath
        rw [Text.segments, Text.splitDots_intercalate hdots (by simp), List.map_map]
        simp
  · rintro (⟨rfl, rfl⟩ | ⟨b, hb, rfl⟩)
    · exact heads_self key
    rw [Text.mem_cutsAtDots] at hb
    constructor
    · apply String.ext
      have hjoin := Text.intercalate_splitDots b
      obtain ⟨t, ts, hts⟩ := List.exists_cons_of_ne_nil (Text.splitDots_ne_nil b)
      rw [hts] at hjoin
      rw [hb, String.toList_intercalate, Text.segments, hts, List.map_cons, List.map_map, List.map_cons,
        List.intercalate_cons_cons]
      simp [Function.comp_def, hjoin]
    · intro t ht
      obtain ⟨u, hu, rfl⟩ := List.mem_map.mp ht
      rw [String.toList_ofList]
      exact Text.not_mem_splitDots hu

theorem Heads.length_le {text key : String} {path : List String} (h : Heads text key path) :
    key.length ≤ text.length := by
  rcases heads_iff.mp h with ⟨rfl, -⟩ | ⟨b, hb, -⟩
  · rfl
  · rw [← String.length_toList, ← String.length_toList, Text.mem_cutsAtDots.mp hb, List.length_append]
    omega

/-! ## The key that decides -/

/-- The longest key that the text may mean of those that are stored. -/
structure Store.Decides (s : Store) (text key : String) (path : List String) (v : Json) : Prop where
  heads : Heads text key path
  stored : s.get? key = some v
  longest : ∀ other rest, Heads text other rest → s.get? other ≠ none → other.length ≤ key.length

namespace Resolver

variable {s : Store} {text key : String} {rest : List String} {v : Json}

theorem heads_cut {p : List Char × List Char} (h : p ∈ Text.cutsAtDots text.toList) :
    Heads text (String.ofList p.1) (Text.segments p.2) :=
  heads_iff.mpr (.inr ⟨p.2, by rwa [String.toList_ofList], rfl⟩)

theorem stored?_self (h : s.get? text = some v) (path : List String) : stored? s text path = v.walk? path := by
  simp [stored?, h]

theorem stored?_cut {as bs : List (List Char × List Char)} {b : List Char}
    (hsplit : (Text.cutsAtDots text.toList).reverse = as ++ (key.toList, b) :: bs) (hself : s.get? text = none)
    (has : ∀ p ∈ as, s.get? (String.ofList p.1) = none) (hv : s.get? key = some v) (path : List String) :
    stored? s text path = v.walk? (Text.segments b ++ path) := by
  unfold stored?
  simp only [hself]
  rw [List.findSome?_eq_some_iff.mpr ⟨as, _, bs, hsplit, by rw [String.ofList_toList, hv, Option.map_some], ?_⟩]
  · rfl
  · intro p hp
    rw [has p hp, Option.map_none]

theorem stored?_of_decides (h : s.Decides text key rest v) (path : List String) :
    stored? s text path = v.walk? (rest ++ path) := by
  rcases heads_iff.mp h.heads with ⟨rfl, rfl⟩ | ⟨b, hb, rfl⟩
  · exact stored?_self h.stored path
  obtain ⟨as, bs, hsplit⟩ := List.append_of_mem (List.mem_reverse.mpr hb)
  have hself : s.get? text = none := by
    by_contra hne
    have hle := h.longest text [] (heads_self text) hne
    rw [← String.length_toList, ← String.length_toList, Text.mem_cutsAtDots.mp hb, List.length_append,
      List.length_cons] at hle
    omega
  -- the cuts before this one are longer, so no key of theirs is stored
  have has : ∀ p ∈ as, s.get? (String.ofList p.1) = none := by
    intro p hp
    by_contra hne
    have hmem : p ∈ Text.cutsAtDots text.toList := by
      rw [← List.mem_reverse, hsplit]
      exact List.mem_append_left _ hp
    have hle := h.longest _ _ (heads_cut hmem) hne
    have hlt := (Text.reverse_cutsAtDots hsplit).1 p hp
    rw [← String.length_toList, ← String.length_toList, String.toList_ofList] at hle
    exact absurd hle (by simpa using hlt)
  exact stored?_cut hsplit hself has h.stored path

theorem stored?_of_none (h : ∀ key rest, Heads text key rest → s.get? key = none) (path : List String) :
    stored? s text path = none := by
  have hcuts : ∀ p ∈ (Text.cutsAtDots text.toList).reverse, s.get? (String.ofList p.1) = none :=
    fun p hp => h _ _ (heads_cut (List.mem_reverse.mp hp))
  unfold stored?
  simp only [h text [] (heads_self text)]
  rw [List.findSome?_eq_none_iff.mpr]
  · rfl
  · intro p hp
    rw [hcuts p hp, Option.map_none]

theorem exists_decides (hhead : Heads text key rest) (hkey : s.get? key ≠ none) :
    ∃ key rest v, s.Decides text key rest v := by
  classical
  have hex : ∃ n, ∃ key rest, Heads text key rest ∧ s.get? key ≠ none ∧ text.length - key.length = n :=
    ⟨_, key, rest, hhead, hkey, rfl⟩
  obtain ⟨key, rest, hh, hne, hn⟩ := Nat.find_spec hex
  obtain ⟨v, hv⟩ := Option.ne_none_iff_exists'.mp hne
  refine ⟨key, rest, v, hh, hv, fun other rest' hother hne' => ?_⟩
  have hmin := Nat.find_min' hex ⟨other, rest', hother, hne', rfl⟩
  have hle := hother.length_le
  have hle' := hh.length_le
  omega

/-- The longest stored key decides, in whose value the segments behind it are walked, whatever is
stored under shorter keys. -/
theorem lookup?_storage (r : Resolver) (text : String) (path : List String) :
    (∀ key rest v, r.store.Decides text key rest v → r.lookup? ⟨.storage text, path⟩ = v.walk? (rest ++ path)) ∧
    (r.lookup? ⟨.storage text, path⟩ = none ↔
      (∀ key rest, Heads text key rest → r.store.get? key = none) ∨
        ∃ key rest v, r.store.Decides text key rest v ∧ v.walk? (rest ++ path) = none) ∧
    ∀ key rest v, r.store.Decides text key rest v → ∀ other : Store,
      (∀ k, key.length ≤ k.length → other.get? k = r.store.get? k) →
      Resolver.lookup? { r with store := other } ⟨.storage text, path⟩ = r.lookup? ⟨.storage text, path⟩ := by
  have hfound : ∀ key rest v, r.store.Decides text key rest v →
      r.lookup? ⟨.storage text, path⟩ = v.walk? (rest ++ path) := fun _ _ _ h => stored?_of_decides h path
  refine ⟨hfound, ⟨fun hnone => ?_, ?_⟩, fun key rest v h other hother => ?_⟩
  · by_cases hall : ∀ key rest, Heads text key rest → r.store.get? key = none
    · exact .inl hall
    · push Not at hall
      obtain ⟨key, rest, hhead, hkey⟩ := hall
      obtain ⟨key, rest, v, h⟩ := exists_decides hhead hkey
      exact .inr ⟨key, rest, v, h, by rw [← hfound key rest v h, hnone]⟩
  · rintro (hall | ⟨key, rest, v, h, hwalk⟩)
    · exact stored?_of_none hall path
    · rw [hfound key rest v h, hwalk]
  · have hdecides : other.Decides text key rest v := by
      refine ⟨h.heads, by rw [hother key le_rfl, h.stored], fun k rest' hk hne => ?_⟩
      by_contra hlt
      rw [hother k (by omega)] at hne
      exact hlt (h.longest k rest' hk hne)
    rw [hfound key rest v h]
    exact stored?_of_decides hdecides path

namespace Shadowed

/-- The path `b.c` leads somewhere from the shorter key, while `c` leads nowhere from the longer. -/
def store : Store := ⟨[("a", .object [("b", .object [("c", .int 1)])]), ("a.b", .object [("x", .int 2)])]⟩

def resolver : Resolver := ⟨⟨"flow", [], .null, [], .empty⟩, store, true⟩

theorem decides : resolver.store.Decides "a.b.c" "a.b" ["c"] (.object [("x", .int 2)]) where
  heads := ⟨by decide, by decide⟩
  stored := rfl
  longest := by
    intro other rest h hne
    rcases heads_iff.mp h with ⟨rfl, -⟩ | ⟨b, hb, -⟩
    · exact absurd rfl hne
    · have hcuts : ∀ p ∈ Text.cutsAtDots "a.b.c".toList, p.1.length ≤ 3 := by decide
      rw [← String.length_toList]
      exact hcuts _ hb

end Shadowed

theorem lookup?_storage_shadowed : Shadowed.resolver.store.Decides "a.b.c" "a.b" ["c"] (.object [("x", .int 2)]) ∧
    Shadowed.resolver.lookup? ⟨.storage "a.b.c", []⟩ = none ∧
    ∀ v, Resolver.lookup? { Shadowed.resolver with store := ⟨[("a", v), ("a.b", .object [("x", .int 2)])]⟩ }
      ⟨.storage "a.b.c", []⟩ = none := by
  obtain ⟨hfound, -, hshorter⟩ := lookup?_storage Shadowed.resolver "a.b.c" []
  have hnone : Shadowed.resolver.lookup? ⟨.storage "a.b.c", []⟩ = none := hfound _ _ _ Shadowed.decides
  refine ⟨Shadowed.decides, hnone, fun v => ?_⟩
  rw [hshorter _ _ _ Shadowed.decides, hnone]
  intro k hk
  have hne : ¬"a" = k := by
    rintro rfl
    exact absurd hk (by decide)
  simp [Store.get?, Entries.get?, Shadowed.resolver, Shadowed.store, hne]

end Resolver

end FlowEngine
