import Mathlib
import FlowEngine.Entries

/-!
# Entries with distinct keys

What looking up, putting, taking and erasing do when no key stands twice.
-/

namespace FlowEngine.Entries

variable {α : Type}

theorem mem_of_get? : ∀ {m : Entries α} {key : String} {v : α}, m.get? key = some v → (key, v) ∈ m
  | (k, w) :: m, key, v, h => by
    rw [get?] at h
    split at h
    · rename_i hk
      cases h
      simp [hk]
    · exact List.mem_cons_of_mem _ (mem_of_get? h)

theorem get?_of_mem : ∀ {m : Entries α} {key : String} {v : α}, m.keys.Nodup → (key, v) ∈ m → m.get? key = some v
  | (k, w) :: m, key, v, hn, h => by
    obtain ⟨hk, hm⟩ := List.nodup_cons.mp hn
    rw [get?]
    rcases List.mem_cons.mp h with h | h
    · cases h
      rw [if_pos rfl]
    · rw [if_neg, get?_of_mem hm h]
      rintro rfl
      exact hk (List.mem_map.mpr ⟨_, h, rfl⟩)

theorem get?_eq_none : ∀ {m : Entries α} {key : String}, m.get? key = none ↔ key ∉ m.keys
  | [], _ => by simp [get?, keys]
  | (k, w) :: m, key => by
    rw [get?, keys, List.map_cons, List.mem_cons, not_or]
    split
    · rename_i hk; simp [hk]
    · rename_i hk
      rw [get?_eq_none (m := m)]
      exact ⟨fun h => ⟨fun he => hk he.symm, h⟩, fun h => h.2⟩

theorem mem_keys_of_get? {m : Entries α} {key : String} {v : α} (h : m.get? key = some v) : key ∈ m.keys :=
  List.mem_map.mpr ⟨_, mem_of_get? h, rfl⟩

theorem exists_get? {m : Entries α} {key : String} (h : key ∈ m.keys) : ∃ v, m.get? key = some v :=
  Option.ne_none_iff_exists'.mp fun hnone => get?_eq_none.mp hnone h

theorem get?_map (f : String → α) : ∀ {ks : List String} {key : String},
    get? (ks.map fun k => (k, f k)) key = if key ∈ ks then some (f key) else none
  | [], _ => by simp [get?]
  | k :: ks, key => by
    rw [List.map_cons, get?, get?_map f]
    by_cases hk : k = key
    · simp [hk]
    · simp [hk, Ne.symm hk]

theorem get?_map_values {β : Type} (f : α → β) : ∀ (m : Entries α) (key : String),
    get? (m.map fun e => (e.1, f e.2)) key = (m.get? key).map f
  | [], _ => rfl
  | (k, v) :: m, key => by
    rw [List.map_cons, get?, get?, get?_map_values f m]
    split <;> rfl

theorem get?_append : ∀ (m n : Entries α) (key : String), get? (m ++ n) key = (m.get? key).or (n.get? key)
  | [], _, _ => rfl
  | (k, v) :: m, n, key => by
    rw [List.cons_append, get?, get?, get?_append m n]
    split <;> rfl

theorem keys_map (f : String → α) (ks : List String) : keys (ks.map fun k => (k, f k)) = ks := by
  simp [keys, Function.comp_def]

theorem keys_insert_of_mem : ∀ {m : Entries α} {key : String} (value : α), key ∈ m.keys →
    (m.insert key value).keys = m.keys
  | (k, v) :: m, key, value, h => by
    rw [insert_cons]
    split
    · rfl
    · rename_i hk
      simp only [keys, List.map_cons, List.mem_cons] at h ⊢
      exact congrArg _ (keys_insert_of_mem value (h.resolve_left fun he => hk he.symm))

theorem get?_foldl_insert (value : α) : ∀ {ks : List String} {m : Entries α} {key : String},
    (ks.foldl (fun m k => m.insert k value) m).get? key = if key ∈ ks then some value else m.get? key
  | [], _, _ => by simp
  | k :: ks, m, key => by
    rw [List.foldl_cons, get?_foldl_insert value, get?_insert]
    by_cases hk : key ∈ ks
    · simp [hk]
    · by_cases he : k = key
      · simp [he]
      · simp [hk, he, Ne.symm he]

theorem keys_foldl_insert (value : α) : ∀ {ks : List String} {m : Entries α}, (∀ k ∈ ks, k ∈ m.keys) →
    (ks.foldl (fun m k => m.insert k value) m).keys = m.keys
  | [], _, _ => rfl
  | k :: ks, m, h => by
    obtain ⟨hk, hrest⟩ := List.forall_mem_cons.mp h
    have hkeys := keys_insert_of_mem value hk
    rw [List.foldl_cons, keys_foldl_insert value (m := m.insert k value) (by rwa [hkeys]), hkeys]

theorem insert_of_not_mem : ∀ {m : Entries α} {key : String} (value : α), key ∉ m.keys →
    m.insert key value = m ++ [(key, value)]
  | [], _, _, _ => rfl
  | (k, v) :: m, key, value, h => by
    simp only [keys, List.map_cons, List.mem_cons, not_or] at h
    rw [insert_cons, if_neg fun he => h.1 he.symm, insert_of_not_mem value h.2, List.cons_append]

theorem mem_keys_insert {m : Entries α} {key other : String} (value : α) (h : key ∈ m.keys) :
    key ∈ (m.insert other value).keys := by
  by_contra hn
  rw [← get?_eq_none, get?_insert] at hn
  split at hn
  · cases hn
  · exact get?_eq_none.mp hn h

theorem insert_insert : ∀ (m : Entries α) (key : String) (v w : α), (m.insert key v).insert key w = m.insert key w
  | [], key, v, w => by simp [insert_cons]
  | (k, u) :: m, key, v, w => by
    rw [insert_cons, insert_cons]
    by_cases hk : k = key
    · rw [if_pos hk, if_pos hk, insert_cons, if_pos hk]
    · rw [if_neg hk, if_neg hk, insert_cons, if_neg hk, insert_insert]

/-- Values of different keys may be put in either order if one of the keys has its place. -/
theorem insert_comm {a b : String} (hab : a ≠ b) (v w : α) : ∀ {m : Entries α}, a ∈ m.keys →
    (m.insert a v).insert b w = (m.insert b w).insert a v
  | (k, u) :: m, h => by
    rw [insert_cons, insert_cons]
    by_cases ha : k = a
    · have hb : ¬k = b := fun he => hab (ha.symm.trans he)
      rw [if_pos ha, if_neg hb, insert_cons, insert_cons, if_neg hb, if_pos ha]
    · have hm : a ∈ keys m := (List.mem_cons.mp h).resolve_left fun he => ha he.symm
      by_cases hb : k = b
      · rw [if_neg ha, if_pos hb, insert_cons, insert_cons, if_pos hb, if_neg ha]
      · rw [if_neg ha, if_neg hb, insert_cons, insert_cons, if_neg hb, if_neg ha, insert_comm hab v w hm]

theorem insert_map (f : String → α) (key : String) (v : α) : ∀ {ks : List String}, ks.Nodup → key ∈ ks →
    insert (ks.map fun k => (k, f k)) key v = ks.map fun k => (k, if k = key then v else f k)
  | k :: ks, hn, h => by
    obtain ⟨hk, hks⟩ := List.nodup_cons.mp hn
    rw [List.map_cons, List.map_cons, insert_cons]
    by_cases he : k = key
    · have hrest : (ks.map fun k => (k, f k)) = ks.map fun k => (k, if k = key then v else f k) :=
        List.map_congr_left fun m hm => by rw [if_neg fun hm' : m = key => hk (he.trans hm'.symm ▸ hm)]
      rw [if_pos he, if_pos he, hrest]
    · rw [if_neg he, if_neg he, insert_map f key v hks ((List.mem_cons.mp h).resolve_left fun h' => he h'.symm)]

theorem insertAll_of_nodup : ∀ {new m : Entries α}, (keys (m ++ new)).Nodup → insertAll m new = m ++ new
  | [], m, _ => (List.append_nil m).symm
  | (k, v) :: new, m, h => by
    have hk : k ∉ m.keys := by
      rw [keys, List.map_append, List.nodup_append] at h
      exact fun hm => h.2.2 k hm k (by simp) rfl
    have ih := insertAll_of_nodup (m := m ++ [(k, v)]) (by rwa [List.append_assoc, List.singleton_append])
    rw [List.append_assoc, List.singleton_append, ← insert_of_not_mem v hk] at ih
    exact ih

theorem ofList_of_nodup {m : Entries α} (h : m.keys.Nodup) : ofList m = m := insertAll_of_nodup (m := []) h

theorem take_of_not_mem : ∀ {m : Entries α} {key : String}, key ∉ m.keys → m.take key = (none, m)
  | [], _, _ => rfl
  | (k, v) :: m, key, h => by
    simp only [keys, List.map_cons, List.mem_cons, not_or] at h
    rw [take, if_neg fun he => h.1 he.symm, take_of_not_mem h.2]

theorem take_eq (m : Entries α) (key : String) : m.take key = (m.get? key, m.erase key) :=
  Prod.ext (take_fst m key) rfl

theorem perm_cons_erase : ∀ {m : Entries α} {key : String} {v : α}, m.get? key = some v → m.Perm ((key, v) :: m.erase key)
  | (k, w) :: m, key, v, h => by
    rw [get?] at h
    rw [erase_cons]
    split at h
    · rename_i hk
      cases h
      rw [if_pos hk, hk]
    · rename_i hk
      rw [if_neg hk]
      exact ((perm_cons_erase h).cons _).trans (.swap ..)

theorem erase_sublist : ∀ (m : Entries α) (key : String), (m.erase key).Sublist m
  | [], _ => .slnil
  | (k, v) :: m, key => by
    rw [erase_cons]
    split
    · exact List.sublist_cons_self _ m
    · exact (erase_sublist m key).cons_cons _

theorem keys_erase_sublist (m : Entries α) (key : String) : (m.erase key).keys.Sublist m.keys :=
  (erase_sublist m key).map _

theorem keys_erase : ∀ (m : Entries α) (key : String), (m.erase key).keys = m.keys.erase key
  | [], _ => rfl
  | (k, v) :: m, key => by
    have hkeys : keys ((k, v) :: m) = k :: keys m := rfl
    rw [erase_cons, hkeys, List.erase_cons]
    by_cases hk : k = key
    · rw [if_pos hk, if_pos (by simpa using hk)]
    · rw [if_neg hk, if_neg (by simpa using hk), ← keys_erase m key]
      rfl

theorem keys_insert_perm : ∀ (m : Entries α) (key : String) (value : α),
    (m.insert key value).keys.Perm (key :: (m.erase key).keys)
  | [], _, _ => .refl _
  | (k, v) :: m, key, value => by
    rw [insert_cons, erase_cons]
    by_cases hk : k = key
    · rw [if_pos hk, if_pos hk, hk]
      exact .refl _
    · rw [if_neg hk, if_neg hk]
      exact ((keys_insert_perm m key value).cons k).trans (.swap _ _ _)

theorem mem_insert : ∀ {m : Entries α} {key : String} {value : α} {e : String × α}, e ∈ m.insert key value →
    e = (key, value) ∨ e ∈ m
  | [], _, _, _, h => .inl (List.mem_singleton.mp h)
  | (k, v) :: m, key, value, e, h => by
    rw [insert_cons] at h
    split at h
    · rename_i hk
      rcases List.mem_cons.mp h with rfl | h
      · exact .inl (by rw [hk])
      · exact .inr (List.mem_cons_of_mem _ h)
    · rcases List.mem_cons.mp h with rfl | h
      · exact .inr (by simp)
      · exact (mem_insert h).imp id (List.mem_cons_of_mem _)

theorem get?_erase_of_ne : ∀ (m : Entries α) {key other : String}, key ≠ other → (m.erase key).get? other = m.get? other
  | [], _, _, _ => rfl
  | (k, v) :: m, key, other, h => by
    rw [erase_cons]
    split
    · rename_i hk
      rw [get?, if_neg fun he => h (hk.symm.trans he)]
    · rw [get?, get?, get?_erase_of_ne m h]

theorem get?_filter_ne (key : String) : ∀ (m : Entries α) (other : String),
    get? (m.filter fun e => e.1 != key) other = if key = other then none else m.get? other
  | [], _ => by simp [get?]
  | (k, v) :: m, other => by
    rw [List.filter_cons, get?]
    by_cases hk : k = key
    · subst hk
      simp only [bne_self_eq_false, Bool.false_eq_true, if_false, get?_filter_ne k m other]
      split <;> rfl
    · rw [if_pos (bne_iff_ne.mpr hk), get?, get?_filter_ne key m other]
      split
      · rename_i ho
        rw [if_neg fun he => hk (ho.trans he.symm)]
      · rfl

theorem erase_eq_filter : ∀ {m : Entries α} {key : String}, m.keys.Nodup → m.erase key = m.filter fun e => e.1 != key
  | [], _, _ => rfl
  | (k, v) :: m, key, h => by
    obtain ⟨hk, hm⟩ := List.nodup_cons.mp h
    rw [erase_cons, List.filter_cons]
    by_cases he : k = key
    · subst he
      have hrest : (m.filter fun e => e.1 != k) = m := by
        apply List.filter_eq_self.mpr
        intro e hmem
        have hne : e.1 ≠ k := fun he => hk (he ▸ List.mem_map.mpr ⟨e, hmem, rfl⟩)
        simpa using hne
      rw [if_pos rfl, if_neg (by simp), hrest]
    · rw [if_neg he, if_pos (by simpa using he), erase_eq_filter hm]

theorem not_mem_keys_erase : ∀ {m : Entries α} (key : String), m.keys.Nodup → key ∉ (m.erase key).keys
  | [], _, _ => by simp [keys]
  | (k, v) :: m, key, h => by
    obtain ⟨hk, hm⟩ := List.nodup_cons.mp h
    rw [erase_cons]
    split
    · rename_i he
      rwa [← he]
    · rename_i hne
      rw [keys, List.map_cons, List.mem_cons, not_or]
      exact ⟨fun he => hne he.symm, not_mem_keys_erase key hm⟩

theorem get?_erase {m : Entries α} (h : m.keys.Nodup) (key other : String) :
    (m.erase key).get? other = if key = other then none else m.get? other := by
  rw [erase_eq_filter h, get?_filter_ne]

theorem filter_insert : ∀ (m : Entries α) (key : String) (value : α),
    (m.insert key value).filter (·.1 != key) = m.filter (·.1 != key)
  | [], key, value => by simp
  | (k, v) :: m, key, value => by
    rw [insert_cons]
    split
    · rename_i hk
      simp [hk]
    · rw [List.filter_cons, List.filter_cons, filter_insert m key value]

theorem filter_erase : ∀ (m : Entries α) (key : String), (m.erase key).filter (·.1 != key) = m.filter (·.1 != key)
  | [], _ => rfl
  | (k, v) :: m, key => by
    rw [erase_cons]
    split
    · rename_i hk
      simp [hk]
    · rw [List.filter_cons, List.filter_cons, filter_erase m key]

theorem nodup_keys_insert {m : Entries α} (key : String) (value : α) (h : m.keys.Nodup) :
    (m.insert key value).keys.Nodup :=
  (keys_insert_perm m key value).nodup_iff.mpr
    (List.nodup_cons.mpr ⟨not_mem_keys_erase key h, h.sublist (keys_erase_sublist m key)⟩)

end FlowEngine.Entries
