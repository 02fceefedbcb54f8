import Mathlib
import FlowEngine.Proofs.Run.Readiness

/-!
# Readiness along any edges

The edges of a workflow may give a node predecessors that never release it, and
then its count is out of balance. It is still bounded: a node that is pending waits
for at least as many as may release it, and no one is left to release a node that
is ready (`Bounded`). So whatever the edges, a node gets ready once at most, and
never after it was skipped.
-/

namespace FlowEngine

namespace Readiness

def mayRelease (successors : String → List String) (r : Readiness) (todo : List String) (n p : String) : Bool :=
  r.isOwed todo p && (successors p).contains n

/-- What holds while the nodes of `todo` have settled but not released their successors,
and those of `owed` have yet to be released by one more. -/
structure Bounded (scope : List String) (successors : String → List String) (todo owed : List String)
    (r : Readiness) : Prop where
  stateKeys : r.state.keys = scope
  bound : ∀ n, r.state.get? n = some .pending → n ∉ r.ready → ∃ k, r.waiting.get? n = some k ∧
    scope.countP (r.mayRelease successors todo n) + owed.count n ≤ k
  readyPending : ∀ n ∈ r.ready, r.state.get? n = some .pending
  readyLast : ∀ n ∈ r.ready, n ∉ owed ∧ scope.countP (r.mayRelease successors todo n) = 0
  readyNodup : r.ready.Nodup
  settled : ∀ p ∈ todo, p ∈ scope ∧ r.isOpen p = false
  todoNodup : todo.Nodup
  skipped_iff : ∀ n, n ∈ r.skipped ↔ r.state.get? n = some .skipped

section
variable {scope : List String} {successors : String → List String} {todo owed : List String} {r : Readiness}

theorem mayRelease_congr {r' : Readiness} {todo' : List String} (h : r'.isOwed todo' = r.isOwed todo) (n : String) :
    r'.mayRelease successors todo' n = r.mayRelease successors todo n := by
  funext p
  rw [mayRelease, mayRelease, h]

theorem countP_forget (scope : List String) (successors : String → List String) (r : Readiness) (todo : List String)
    (n : String) : scope.countP (r.mayRelease successors [] n) ≤ scope.countP (r.mayRelease successors todo n) :=
  List.countP_mono_left fun p _ => by
    simp only [mayRelease, isOwed, Bool.and_eq_true, Bool.or_eq_true, List.contains_nil, Bool.false_eq_true, or_false]
    exact fun h => ⟨.inl h.1, h.2⟩

theorem Bounded.forget (h : Bounded scope successors todo owed r) : Bounded scope successors [] owed r where
  stateKeys := h.stateKeys
  bound := by
    intro n hn hready
    obtain ⟨k, hk, hle⟩ := h.bound n hn hready
    have := countP_forget scope successors r todo n
    exact ⟨k, hk, by omega⟩
  readyPending := h.readyPending
  readyLast := by
    intro n hn
    obtain ⟨howed, hnone⟩ := h.readyLast n hn
    have := countP_forget scope successors r todo n
    exact ⟨howed, by omega⟩
  readyNodup := h.readyNodup
  settled := by simp
  todoNodup := List.nodup_nil
  skipped_iff := h.skipped_iff

/-! ## One release -/

section
variable {n : String} (h : Bounded scope successors todo (n :: owed) r)
include h

theorem Bounded.released : Bounded scope successors todo owed r :=
  { h with
    bound := by
      intro m hm hready
      obtain ⟨k, hk, hle⟩ := h.bound m hm hready
      have := (List.sublist_cons_self n owed).count_le m
      exact ⟨k, hk, by omega⟩
    readyLast := fun m hm => ⟨fun hmem => (h.readyLast m hm).1 (List.mem_cons_of_mem n hmem), (h.readyLast m hm).2⟩ }

theorem Bounded.counted {k : Nat} (hk : r.waiting.get? n = some k) :
    Bounded scope successors todo owed { r with waiting := r.waiting.insert n (k - 1) } :=
  { h.released with
    bound := by
      intro m hm hready
      obtain ⟨j, hj, hle⟩ := h.bound m hm hready
      have hle : scope.countP (r.mayRelease successors todo m) + (n :: owed).count m ≤ j := hle
      simp only [Entries.get?_insert]
      show ∃ j, _ ∧ scope.countP (r.mayRelease successors todo m) + owed.count m ≤ j
      by_cases hnm : n = m
      · subst hnm
        rw [hk] at hj
        cases hj
        rw [List.count_cons_self] at hle
        exact ⟨k - 1, if_pos rfl, by omega⟩
      · rw [List.count_cons_of_ne hnm] at hle
        exact ⟨j, by rw [if_neg hnm, hj], hle⟩ }

end

section
variable {n : String} (h : Bounded scope successors todo owed r) (hn : r.state.get? n = some .pending)
  (hready : n ∉ r.ready) (hzero : r.waiting.get? n = some 0)
include h hn hready hzero

theorem Bounded.last : n ∉ owed ∧ scope.countP (r.mayRelease successors todo n) = 0 := by
  obtain ⟨k, hk, hle⟩ := h.bound n hn hready
  rw [hzero] at hk
  cases hk
  exact ⟨List.count_eq_zero.mp (by omega), by omega⟩

theorem Bounded.readied : Bounded scope successors todo owed { r with ready := r.ready ++ [n] } :=
  { h with
    bound := fun m hm hnot => h.bound m hm fun hmem => hnot (List.mem_append_left _ hmem)
    readyPending := by
      intro m hm
      rcases List.mem_append.mp hm with hm | hm
      · exact h.readyPending m hm
      · rw [List.mem_singleton.mp hm]
        exact hn
    readyLast := by
      intro m hm
      rcases List.mem_append.mp hm with hm | hm
      · exact h.readyLast m hm
      · rw [List.mem_singleton.mp hm]
        exact h.last hn hready hzero
    readyNodup := nodup_append_singleton h.readyNodup hready }

omit hzero in
theorem Bounded.skip : Bounded scope successors (n :: todo) owed
    { r.setState n .skipped with skipped := r.skipped ++ [n] } := by
  have hopen : r.isOpen n = true := isOpen_iff.mpr (.inl hn)
  have hstate (m : String) : (r.setState n .skipped).state.get? m = if n = m then some .skipped else r.state.get? m :=
    Entries.get?_insert ..
  have hscope : n ∈ scope := h.stateKeys ▸ Entries.mem_keys_of_get? hn
  obtain ⟨hshut, hisOpen, howed⟩ := isOwed_close rfl hstate hopen
  obtain ⟨htodo, hsettled⟩ := settled_cons hscope hopen hshut hisOpen h.settled
  have hmay (m : String) : (r.setState n .skipped).mayRelease successors (n :: todo) m = r.mayRelease successors todo m :=
    mayRelease_congr (howed todo) m
  have hother {m : String} (hm : (r.setState n .skipped).state.get? m = some .pending) : r.state.get? m = some .pending := by
    rw [hstate] at hm
    split at hm
    · cases hm
    · exact hm
  exact
    { stateKeys := (Entries.keys_insert_of_mem _ (by rw [h.stateKeys]; exact hscope)).trans h.stateKeys
      bound := by
        intro m hm hnot
        obtain ⟨k, hk, hle⟩ := h.bound m (hother hm) hnot
        rw [← hmay m] at hle
        exact ⟨k, hk, hle⟩
      readyPending := by
        intro m hm
        have hne : n ≠ m := by
          rintro rfl
          exact hready hm
        exact (hstate m).trans ((if_neg hne).trans (h.readyPending m hm))
      readyLast := by
        intro m hm
        have hlast := h.readyLast m hm
        rw [← hmay m] at hlast
        exact hlast
      readyNodup := h.readyNodup
      settled := hsettled
      todoNodup := List.nodup_cons.mpr ⟨htodo, h.todoNodup⟩
      skipped_iff := skipped_iff_skip h.skipped_iff n }

end

theorem Bounded.release {n : String} (h : Bounded scope successors todo (n :: owed) r) :
    Bounded scope successors (release (r, todo) n).2 owed (release (r, todo) n).1 := by
  simp only [Readiness.release]
  cases hk : r.waiting.get? n with
  | none => exact h.released
  | some k =>
    have hcounted := h.counted hk
    simp only
    split
    · exact hcounted
    rename_i hstay
    simp only [not_or, not_lt, Nat.le_zero, ne_eq, not_not] at hstay
    obtain ⟨hzero, hn⟩ := hstay
    have hready : n ∉ r.ready := fun hm => (h.readyLast n hm).1 List.mem_cons_self
    rw [hzero] at hcounted ⊢
    split
    · exact hcounted.readied hn hready (by rw [Entries.get?_insert, if_pos rfl])
    · exact hcounted.skip hn hready

theorem Bounded.releases : ∀ {owed todo : List String} {r : Readiness}, Bounded scope successors todo owed r →
    Bounded scope successors (owed.foldl Readiness.release (r, todo)).2 [] (owed.foldl Readiness.release (r, todo)).1
  | [], _, _, h => h
  | _ :: _, _, _, h => h.release.releases

/-! ## Cascades -/

theorem Bounded.pop (hscope : scope.Nodup) {id : String} (h : Bounded scope successors (id :: todo) [] r) :
    Bounded scope successors todo (successors id).eraseDups r := by
  obtain ⟨hid, htodo⟩ := List.nodup_cons.mp h.todoNodup
  obtain ⟨⟨hin, hshut⟩, hrest⟩ := List.forall_mem_cons.mp h.settled
  -- Of those that may release a node, the one taken off is no more, if it was one.
  have hcount (n : String) : scope.countP (r.mayRelease successors todo n) + (successors id).eraseDups.count n
      = scope.countP (r.mayRelease successors (id :: todo) n) := by
    have heq : ∀ p, p ≠ id → r.mayRelease successors (id :: todo) n p = r.mayRelease successors todo n p := fun p hp => by
      simp [mayRelease, isOwed, hp]
    by_cases hn : n ∈ successors id
    · rw [List.count_eq_one_of_mem (Graph.nodup_eraseDups _) (List.mem_eraseDups.mpr hn)]
      refine (countP_update (x := id) ?_ ?_ heq hscope hin).symm
      · simp [mayRelease, isOwed, hn]
      · simp [mayRelease, isOwed, hshut, hid]
    · rw [List.count_eq_zero.mpr fun hm => hn (List.mem_eraseDups.mp hm), Nat.add_zero]
      refine List.countP_congr fun p _ => ?_
      by_cases hp : p = id
      · subst hp
        simp [mayRelease, hn]
      · rw [heq p hp]
  exact
    { h with
      bound := fun n hn hready => by
        rw [hcount n]
        exact h.bound n hn hready
      readyLast := fun n hn => by
        have hlast := (h.readyLast n hn).2
        rw [← hcount n] at hlast
        exact ⟨List.count_eq_zero.mp (by omega), by omega⟩
      settled := hrest
      todoNodup := htodo }

theorem Bounded.cascade (hscope : scope.Nodup) : ∀ (fuel : Nat) {todo : List String} {r : Readiness},
    Bounded scope successors todo [] r → Bounded scope successors [] [] (Readiness.cascade successors fuel todo r)
  | 0, _, _, h => h.forget
  | _ + 1, [], _, h => h
  | fuel + 1, _ :: _, _, h => cascade hscope fuel (h.pop hscope).releases

/-! ## The steps of a run -/

theorem Bounded.settle (hscope : scope.Nodup) (h : Bounded scope successors [] [] r) {id : String} {t : NodeState}
    (hid : r.state.get? id = some .started) (ht : t = .succeeded ∨ t = .failed) :
    Bounded scope successors [] [] (Readiness.settle successors r id t) := by
  have hin : id ∈ scope := h.stateKeys ▸ Entries.mem_keys_of_get? hid
  have hstate (m : String) : (r.setState id t).state.get? m = if id = m then some t else r.state.get? m :=
    Entries.get?_insert ..
  have hterminal : t.isTerminal = true ∧ t ≠ .pending := by
    rcases ht with rfl | rfl
    · simp [NodeState.isTerminal]
    · simp [NodeState.isTerminal]
  obtain ⟨hshut, -, howed⟩ := isOwed_close hterminal.1 hstate (isOpen_iff.mpr (.inr hid))
  have hmay (m : String) : (r.setState id t).mayRelease successors [id] m = r.mayRelease successors [] m :=
    mayRelease_congr (howed []) m
  have hpending (m : String) : (r.setState id t).state.get? m = some .pending ↔ r.state.get? m = some .pending := by
    rw [hstate]
    by_cases hm : id = m
    · subst hm
      simp [hid, hterminal.2]
    · rw [if_neg hm]
  have hclosed : Bounded scope successors [id] [] (r.setState id t) :=
    { stateKeys := (Entries.keys_insert_of_mem _ (by rw [h.stateKeys]; exact hin)).trans h.stateKeys
      bound := fun m hm hready => by
        rw [hmay]
        exact h.bound m ((hpending m).mp hm) hready
      readyPending := fun m hm => (hpending m).mpr (h.readyPending m hm)
      readyLast := fun m hm => by
        rw [hmay]
        exact h.readyLast m hm
      readyNodup := h.readyNodup
      settled := fun p hp => by
        rw [List.mem_singleton.mp hp]
        exact ⟨hin, hshut⟩
      todoNodup := List.nodup_singleton id
      skipped_iff := skipped_iff_settle h.skipped_iff hid ht }
  exact hclosed.cascade hscope _

theorem Bounded.activate (h : Bounded scope successors todo owed r) (ids : List String) :
    Bounded scope successors todo owed (r.activate ids) := { h with }

theorem Bounded.start (h : Bounded scope successors [] [] r) : Bounded scope successors [] [] r.start.2 := by
  obtain ⟨hwaiting, -, hnone, -⟩ := r.start_fields
  have hmay (n : String) : r.start.2.mayRelease successors [] n = r.mayRelease successors [] n :=
    mayRelease_congr (start_isOwed h.readyPending) n
  have hready (n : String) : n ∉ r.start.2.ready := by simp [hnone]
  exact
    { stateKeys := (start_stateKeys h.readyPending).trans h.stateKeys
      bound := by
        intro n hn _
        rw [start_state] at hn
        split at hn
        · cases hn
        · rename_i hnot
          rw [hwaiting, hmay]
          exact h.bound n hn hnot
      readyPending := fun n hn => absurd hn (hready n)
      readyLast := fun n hn => absurd hn (hready n)
      readyNodup := by rw [hnone]; exact List.nodup_nil
      settled := by simp
      todoNodup := List.nodup_nil
      skipped_iff := skipped_iff_start h.readyPending h.skipped_iff }

/-! ## A run from its start -/

/-- The run is about to hand out its root, or did so and is bounded. -/
def Guarded (scope : List String) (successors predecessors : String → List String) (root : String) (r : Readiness) : Prop :=
  r = .initial scope predecessors root ∨ Bounded scope successors [] [] r

section
variable {predecessors : String → List String} {root : String}

theorem Guarded.stateKeys (h : Guarded scope successors predecessors root r) : r.state.keys = scope := by
  rcases h with rfl | h
  · exact Entries.keys_map _ scope
  · exact h.stateKeys

theorem Guarded.skipped_iff (h : Guarded scope successors predecessors root r) (n : String) :
    n ∈ r.skipped ↔ r.state.get? n = some .skipped := by
  rcases h with rfl | h
  · show n ∈ [] ↔ _
    rw [initial_state]
    split
    · simp
    · simp
  · exact h.skipped_iff n

theorem Guarded.readyPending (h : Guarded scope successors predecessors root r) (hroot : root ∈ scope) :
    ∀ n ∈ r.ready, r.state.get? n = some .pending := by
  rcases h with rfl | h
  · intro n hn
    rw [initial_state, List.mem_singleton.mp hn, if_pos hroot]
  · exact h.readyPending

theorem Guarded.readyNodup (h : Guarded scope successors predecessors root r) : r.ready.Nodup := by
  rcases h with rfl | h
  · exact List.nodup_singleton root
  · exact h.readyNodup

theorem bounded_start (hscope : scope.Nodup) (hroot : root ∈ scope)
    (hsub : ∀ p ∈ scope, ∀ n ∈ successors p, p ∈ predecessors n) :
    Bounded scope successors [] [] (initial scope predecessors root).start.2 := by
  have hguarded : Guarded scope successors predecessors root (initial scope predecessors root) := .inl rfl
  have hready := hguarded.readyPending hroot
  obtain ⟨hwaiting, -, hnone, -⟩ := (initial scope predecessors root).start_fields
  have hnot (n : String) : n ∉ (initial scope predecessors root).start.2.ready := by simp [hnone]
  exact
    { stateKeys := (start_stateKeys hready).trans hguarded.stateKeys
      bound := by
        intro n hn _
        have hin : n ∈ scope := by
          rw [start_state, initial_state] at hn
          split at hn
          · cases hn
          · by_contra hout
            rw [if_neg hout] at hn
            cases hn
        refine ⟨(before scope predecessors n).length, ?_, ?_⟩
        · rw [hwaiting, initial_waiting, if_pos hin]
        · rw [List.count_nil, Nat.add_zero, List.countP_eq_length_filter]
          refine ((hscope.filter _).subperm ?_).length_le
          intro p hp
          obtain ⟨hp, hmay⟩ := List.mem_filter.mp hp
          rw [mayRelease, Bool.and_eq_true, List.contains_iff_mem] at hmay
          exact List.mem_filter.mpr ⟨hsub p hp n hmay.2, by simpa using hp⟩
      readyPending := fun n hn => absurd hn (hnot n)
      readyLast := fun n hn => absurd hn (hnot n)
      readyNodup := by rw [hnone]; exact List.nodup_nil
      settled := by simp
      todoNodup := List.nodup_nil
      skipped_iff := skipped_iff_start hready hguarded.skipped_iff }

theorem Guarded.start (h : Guarded scope successors predecessors root r) (hscope : scope.Nodup) (hroot : root ∈ scope)
    (hsub : ∀ p ∈ scope, ∀ n ∈ successors p, p ∈ predecessors n) :
    Guarded scope successors predecessors root r.start.2 := by
  rcases h with rfl | h
  · exact .inr (bounded_start hscope hroot hsub)
  · exact .inr h.start

theorem Guarded.settle (h : Guarded scope successors predecessors root r) (hscope : scope.Nodup) {id : String}
    {t : NodeState} (hid : r.state.get? id = some .started) (ht : t = .succeeded ∨ t = .failed) (ids : List String) :
    Guarded scope successors predecessors root ((r.activate ids).settle successors id t) := by
  rcases h with rfl | h
  · rw [initial_state] at hid
    split at hid
    · cases hid
    · cases hid
  · exact .inr ((h.activate ids).settle hscope hid ht)

end

end

end Readiness

end FlowEngine
