import FlowEngine.Proofs.Entries

/-!
# Entries in the order of insertion

A history of edits leaves the keys that were put in and not taken out since, in the order in which
they came in, each with the value that was put in last. An edit answers what its key had before and
leaves the other entries as they were (`insertion_ordered`).
-/

namespace FlowEngine.Entries

variable {α : Type}

/-! ## Histories -/

inductive Edit (α : Type) where
  | insert (key : String) (value : α)
  | remove (key : String)

namespace Edit

def key : Edit α → String
  | insert key _ => key
  | remove key => key

def value? : Edit α → Option α
  | insert _ value => some value
  | remove _ => none

theorem insert_ne_remove {key other : String} {value : α} : insert key value ≠ remove other := by
  intro h
  cases h

end Edit

/-- What an edit answers, and the entries after it. -/
def edit (m : Entries α) : Edit α → Option α × Entries α
  | .insert key value => m.put key value
  | .remove key => m.take key

def replay (edits : List (Edit α)) : Entries α := edits.foldl (fun m e => (m.edit e).2) []

variable {edits : List (Edit α)} {e : Edit α} {a b key : String} {value : α} {i j : Nat} {m : Entries α}

theorem replay_concat (edits : List (Edit α)) (e : Edit α) :
    replay (edits ++ [e]) = ((replay edits).edit e).2 := List.foldl_concat ..

theorem getElem?_concat_eq_some {e' : Edit α} :
    (edits ++ [e])[i]? = some e' ↔ edits[i]? = some e' ∨ i = edits.length ∧ e = e' := by
  rcases Nat.lt_trichotomy i edits.length with h | h | h
  · rw [List.getElem?_append_left h]
    exact ⟨.inl, fun h' => h'.resolve_right fun h' => h.ne h'.1⟩
  · rw [h, List.getElem?_concat_length, List.getElem?_eq_none le_rfl]
    simp
  · rw [List.getElem?_eq_none (by simpa using h), List.getElem?_eq_none h.le]
    simp [h.ne']

theorem le_of_getElem?_concat {e' : Edit α} (h : (edits ++ [e])[i]? = some e') : i ≤ edits.length := by
  have hlt := (List.getElem?_eq_some_iff.mp h).1
  rw [List.length_append, List.length_singleton] at hlt
  exact Nat.le_of_lt_succ hlt

/-! ## One edit -/

theorem edit_fst (m : Entries α) (e : Edit α) : (m.edit e).1 = m.get? e.key := by
  cases e with
  | insert key value => exact put_fst m key value
  | remove key => exact take_fst m key

theorem get?_edit (h : m.keys.Nodup) (e : Edit α) (other : String) :
    (m.edit e).2.get? other = if e.key = other then e.value? else m.get? other := by
  cases e with
  | insert key value => exact get?_insert m key value other
  | remove key => exact get?_erase h key other

theorem filter_edit (m : Entries α) (e : Edit α) :
    (m.edit e).2.filter (·.1 != e.key) = m.filter (·.1 != e.key) := by
  cases e with
  | insert key value => exact filter_insert m key value
  | remove key => exact filter_erase m key

/-! ## When a key came in -/

/-- Edit `i` inserts the key, and no later edit removes it. -/
structure Stays (edits : List (Edit α)) (key : String) (i : Nat) : Prop where
  inserted : ∃ value, edits[i]? = some (.insert key value)
  kept : ∀ j > i, edits[j]? ≠ some (.remove key)

/-- Edit `i` is the first insertion of the key since its last removal. -/
structure Entered (edits : List (Edit α)) (key : String) (i : Nat) : Prop extends Stays edits key i where
  first : ∀ j < i, ¬Stays edits key j

theorem Stays.lt_length (h : Stays edits key i) : i < edits.length := by
  obtain ⟨value, hi⟩ := h.inserted
  exact (List.getElem?_eq_some_iff.mp hi).1

theorem Stays.concat (h : Stays edits key i) (he : e ≠ .remove key) : Stays (edits ++ [e]) key i where
  inserted := h.inserted.imp fun _ hvalue => getElem?_concat_eq_some.mpr (.inl hvalue)
  kept j hj hremoved := by
    rcases getElem?_concat_eq_some.mp hremoved with hold | hnew
    · exact h.kept j hj hold
    · exact he hnew.2

theorem Stays.of_concat (h : Stays (edits ++ [e]) key i) (hi : i ≠ edits.length) : Stays edits key i where
  inserted := h.inserted.imp fun _ hvalue =>
    (getElem?_concat_eq_some.mp hvalue).resolve_right fun hnew => hi hnew.1
  kept j hj hremoved := h.kept j hj (getElem?_concat_eq_some.mpr (.inl hremoved))

theorem stays_length (edits : List (Edit α)) (key : String) (value : α) :
    Stays (edits ++ [.insert key value]) key edits.length where
  inserted := ⟨value, List.getElem?_concat_length⟩
  kept _ hj hremoved := absurd (le_of_getElem?_concat hremoved) (Nat.not_le_of_gt hj)

theorem not_stays_remove : ¬Stays (edits ++ [.remove key]) key i := by
  intro h
  have hremoved : (edits ++ [Edit.remove key])[edits.length]? = some (.remove key) := List.getElem?_concat_length
  obtain ⟨value, hi⟩ := h.inserted
  rcases Nat.lt_or_eq_of_le (le_of_getElem?_concat hi) with hlt | heq
  · exact h.kept edits.length hlt hremoved
  · rw [heq, hremoved] at hi
    cases hi

theorem exists_entered (h : Stays edits key i) : ∃ i, Entered edits key i := by
  classical
  have hex : ∃ i, Stays edits key i := ⟨i, h⟩
  exact ⟨Nat.find hex, Nat.find_spec hex, fun j hj => Nat.find_min hex hj⟩

theorem Entered.unique (hi : Entered edits key i) (hj : Entered edits key j) : i = j := by
  rcases Nat.lt_trichotomy i j with hlt | heq | hgt
  · exact absurd hi.toStays (hj.first i hlt)
  · exact heq
  · exact absurd hj.toStays (hi.first j hgt)

theorem Entered.concat (h : Entered edits key i) (he : e ≠ .remove key) : Entered (edits ++ [e]) key i where
  toStays := h.toStays.concat he
  first j hj hstays := h.first j hj (hstays.of_concat (hj.trans h.lt_length).ne)

theorem Entered.of_concat (h : Entered (edits ++ [e]) key i) (he : e.key ≠ key) : Entered edits key i := by
  have hi : i ≠ edits.length := by
    intro hi
    obtain ⟨value, hvalue⟩ := h.inserted
    rw [hi, List.getElem?_concat_length] at hvalue
    cases hvalue
    exact he rfl
  have hkept : e ≠ .remove key := by
    intro hremove
    exact he (by rw [hremove]; rfl)
  exact ⟨h.toStays.of_concat hi, fun j hj hstays => h.first j hj (hstays.concat hkept)⟩

theorem entered_length (h : ∀ i, ¬Entered edits key i) (value : α) :
    Entered (edits ++ [.insert key value]) key edits.length where
  toStays := stays_length edits key value
  first j hj hstays := by
    obtain ⟨i, hi⟩ := exists_entered (hstays.of_concat hj.ne)
    exact h i hi

/-! ## The order of the keys -/

def Before (edits : List (Edit α)) (a b : String) : Prop :=
  ∃ i j, Entered edits a i ∧ Entered edits b j ∧ i < j

structure InOrder (edits : List (Edit α)) (keys : List String) : Prop where
  mem_iff : ∀ key, key ∈ keys ↔ ∃ i, Entered edits key i
  sorted : keys.Pairwise (Before edits)

theorem Before.ne (h : Before edits a b) : a ≠ b := by
  intro hab
  subst hab
  obtain ⟨i, j, hi, hj, hij⟩ := h
  exact hij.ne (hi.unique hj)

theorem Before.concat (h : Before edits a b) (ha : e ≠ .remove a) (hb : e ≠ .remove b) :
    Before (edits ++ [e]) a b := by
  obtain ⟨i, j, hi, hj, hij⟩ := h
  exact ⟨i, j, hi.concat ha, hj.concat hb, hij⟩

theorem InOrder.nodup {keys : List String} (h : InOrder edits keys) : keys.Nodup := h.sorted.imp Before.ne

theorem InOrder.mem_keys_edit (h : InOrder edits m.keys) (e : Edit α) (a : String) :
    a ∈ (m.edit e).2.keys ↔ ∃ i, Entered (edits ++ [e]) a i := by
  have hget := get?_edit h.nodup e a
  by_cases ha : e.key = a
  · rw [if_pos ha] at hget
    subst ha
    cases e with
    | insert key value => exact iff_of_true (mem_keys_of_get? hget) (exists_entered (stays_length edits key value))
    | remove key =>
      refine iff_of_false (get?_eq_none.mp hget) ?_
      intro hex
      obtain ⟨i, hi⟩ := hex
      exact not_stays_remove hi.toStays
  · -- another key neither comes in nor goes out
    rw [if_neg ha] at hget
    have hkeys : a ∈ (m.edit e).2.keys ↔ a ∈ m.keys := by
      rw [← not_iff_not, ← get?_eq_none, hget, get?_eq_none]
    rw [hkeys, h.mem_iff]
    exact exists_congr fun i => ⟨fun hi => hi.concat fun he => ha (he ▸ rfl), fun hi => hi.of_concat ha⟩

theorem InOrder.sorted_edit (h : InOrder edits m.keys) (e : Edit α) : (m.edit e).2.keys.Pairwise (Before (edits ++ [e])) := by
  cases e with
  | insert key value =>
    have hold : m.keys.Pairwise (Before (edits ++ [.insert key value])) :=
      h.sorted.imp fun hab => hab.concat Edit.insert_ne_remove Edit.insert_ne_remove
    show (m.insert key value).keys.Pairwise _
    by_cases hk : key ∈ m.keys
    · rwa [keys_insert_of_mem value hk]
    · -- the new key stands behind the keys that came in before this edit
      rw [insert_of_not_mem value hk, keys, List.map_append, List.pairwise_append]
      refine ⟨hold, List.pairwise_singleton _ _, fun a ha b hb => ?_⟩
      obtain rfl : b = key := by simpa using hb
      obtain ⟨i, hi⟩ := (h.mem_iff a).mp ha
      have hnew := entered_length (fun j hj => hk ((h.mem_iff b).mpr ⟨j, hj⟩)) value
      exact ⟨i, _, hi.concat Edit.insert_ne_remove, hnew, hi.lt_length⟩
  | remove key =>
    show (m.erase key).keys.Pairwise _
    have hgone := not_mem_keys_erase key h.nodup
    have hne {a : String} (ha : a ∈ (m.erase key).keys) : (Edit.remove key : Edit α) ≠ .remove a := by
      intro he
      cases he
      exact hgone ha
    apply (h.sorted.sublist (keys_erase_sublist m key)).imp_of_mem
    intro a b ha hb hab
    exact hab.concat (hne ha) (hne hb)

theorem inOrder_replay (edits : List (Edit α)) : InOrder edits (replay edits).keys := by
  induction edits using List.reverseRecOn with
  | nil =>
    refine ⟨fun key => iff_of_false (by simp [replay, keys]) ?_, .nil⟩
    intro hex
    obtain ⟨i, hi⟩ := hex
    exact absurd hi.lt_length (Nat.not_lt_zero i)
  | append_singleton before e ih =>
    rw [replay_concat]
    exact ⟨ih.mem_keys_edit e, ih.sorted_edit e⟩

/-! ## The values -/

structure Latest (edits : List (Edit α)) (key : String) (value : α) (i : Nat) : Prop where
  inserted : edits[i]? = some (.insert key value)
  last : ∀ j > i, ∀ e, edits[j]? = some e → e.key ≠ key

theorem exists_latest_concat :
    (∃ i, Latest (edits ++ [e]) key value i) ↔
      if e.key = key then e.value? = some value else ∃ i, Latest edits key value i := by
  split
  · rename_i hkey
    constructor
    · intro hex
      obtain ⟨i, hi⟩ := hex
      rcases getElem?_concat_eq_some.mp hi.inserted with hold | ⟨-, rfl⟩
      · have hlt := (List.getElem?_eq_some_iff.mp hold).1
        exact absurd hkey (hi.last edits.length hlt e List.getElem?_concat_length)
      · rfl
    · intro hvalue
      obtain rfl : e = .insert key value := by
        cases e with
        | insert => cases hkey; cases hvalue; rfl
        | remove => cases hvalue
      exact ⟨edits.length, List.getElem?_concat_length, fun j hj e he =>
        absurd (le_of_getElem?_concat he) (Nat.not_le_of_gt hj)⟩
  · rename_i hkey
    refine exists_congr fun i => ⟨fun hi => ⟨?_, fun j hj e' he' => ?_⟩, fun hi => ⟨?_, fun j hj e' he' => ?_⟩⟩
    · exact (getElem?_concat_eq_some.mp hi.inserted).resolve_right fun hnew => hkey (by rw [hnew.2]; rfl)
    · exact hi.last j hj e' (getElem?_concat_eq_some.mpr (.inl he'))
    · exact getElem?_concat_eq_some.mpr (.inl hi.inserted)
    · rcases getElem?_concat_eq_some.mp he' with hold | ⟨-, rfl⟩
      · exact hi.last j hj e' hold
      · exact hkey

theorem get?_replay (edits : List (Edit α)) (key : String) (value : α) :
    (replay edits).get? key = some value ↔ ∃ i, Latest edits key value i := by
  induction edits using List.reverseRecOn with
  | nil =>
    refine iff_of_false (by simp [replay, get?]) ?_
    intro hex
    obtain ⟨i, hi⟩ := hex
    simpa using hi.inserted
  | append_singleton before e ih =>
    rw [replay_concat, get?_edit (inOrder_replay before).nodup, exists_latest_concat]
    split
    · rfl
    · exact ih

/-- Entries keep the order of insertion: after any history the keys are distinct and stand in the
order in which they came in, a key has the value of its latest insertion unless it was removed
since, and one more edit answers what its key had and leaves the entries of all other keys alone. -/
theorem insertion_ordered (edits : List (Edit α)) :
    (replay edits).keys.Nodup ∧
      (∀ key, key ∈ (replay edits).keys ↔ ∃ i, Entered edits key i) ∧
      (replay edits).keys.Pairwise (fun a b => ∃ i j, Entered edits a i ∧ Entered edits b j ∧ i < j) ∧
      (∀ key value, (replay edits).get? key = some value ↔ ∃ i, Latest edits key value i) ∧
      ∀ e : Edit α,
        ((replay edits).edit e).1 = (replay edits).get? e.key ∧
          (∀ other, ((replay edits).edit e).2.get? other =
            if e.key = other then e.value? else (replay edits).get? other) ∧
          ((replay edits).edit e).2.filter (·.1 != e.key) = (replay edits).filter (·.1 != e.key) := by
  have horder := inOrder_replay edits
  refine ⟨horder.nodup, horder.mem_iff, horder.sorted, get?_replay edits, fun e => ⟨?_, ?_, ?_⟩⟩
  · exact edit_fst (replay edits) e
  · exact get?_edit horder.nodup e
  · exact filter_edit (replay edits) e

/-- A key that is inserted again keeps its place, and comes last if it was removed in between. -/
example : replay [.insert "b" 1, .insert "a" 2, .insert "b" 3] = [("b", 3), ("a", 2)] ∧
    replay [.insert "b" 1, .insert "a" 2, .remove "b", .insert "b" 3] = [("a", 2), ("b", 3)] := by decide

end FlowEngine.Entries
