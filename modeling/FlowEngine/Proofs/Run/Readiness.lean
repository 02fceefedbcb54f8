import Mathlib
import FlowEngine.Proofs.Entries
import FlowEngine.Proofs.Graph.Acyclic
import FlowEngine.Run.Readiness

/-!
# Readiness in balance

The count that a node waits for is that of its predecessors in scope which have
not settled, plus those settled ones that a cascade has yet to count off. Each
release keeps this balance (`Balanced.release`), so each cascade restores it in
full (`Balanced.settle`), and with an order of the scope no node is left pending
once nothing is ready or started (`Balanced.not_pending`).
-/

namespace FlowEngine

namespace Readiness

structure Links (scope : List String) (successors predecessors : String → List String) : Prop where
  once : scope.Nodup
  distinct : ∀ n, (predecessors n).Nodup
  agree : ∀ p ∈ scope, ∀ n, p ∈ predecessors n ↔ n ∈ successors p
  closed : ∀ p ∈ scope, successors p ⊆ scope

def before (scope : List String) (predecessors : String → List String) (n : String) : List String :=
  (predecessors n).filter scope.contains

/-- Whether a node has yet to be counted off by those that wait for it. -/
def isOwed (r : Readiness) (todo : List String) (p : String) : Bool := r.isOpen p || todo.contains p

/-- What holds while the nodes of `todo` have settled but not released their successors,
and those of `owed` have yet to be released by one more. -/
structure Balanced (scope : List String) (predecessors : String → List String) (todo owed : List String)
    (r : Readiness) : Prop where
  stateKeys : r.state.keys = scope
  waitingKeys : r.waiting.keys = scope
  count : ∀ n ∈ scope,
    r.waiting.get? n = some ((before scope predecessors n).countP (r.isOwed todo) + owed.count n)
  ready_iff : ∀ n, n ∈ r.ready ↔ r.state.get? n = some .pending ∧ r.waiting.get? n = some 0
  readyNodup : r.ready.Nodup
  idle : ∀ n ∈ scope, r.state.get? n ≠ some .pending → r.waiting.get? n = some 0
  settled : ∀ p ∈ todo, p ∈ scope ∧ r.isOpen p = false
  todoNodup : todo.Nodup
  skipped_iff : ∀ n, n ∈ r.skipped ↔ r.state.get? n = some .skipped
  skippedNodup : r.skipped.Nodup
  readyChosen : ∀ n ∈ r.ready, n ∈ r.activated
  chosen : ∀ n s, r.state.get? n = some s → s ≠ .pending → s ≠ .skipped → n ∈ r.activated
  unchosen : ∀ n ∈ r.skipped, n ∉ r.activated

/-! ## States of nodes -/

theorem isOpen_iff {r : Readiness} {n : String} :
    r.isOpen n = true ↔ r.state.get? n = some .pending ∨ r.state.get? n = some .started := by
  unfold isOpen
  cases h : r.state.get? n with
  | none => simp
  | some s => cases s <;> simp [NodeState.isTerminal]

theorem countP_update {p q : String → Bool} {x : String} (hp : p x = true) (hq : q x = false)
    (heq : ∀ y, y ≠ x → p y = q y) : ∀ {xs : List String}, xs.Nodup → x ∈ xs → xs.countP p = xs.countP q + 1
  | y :: ys, hn, hx => by
    obtain ⟨hy, hys⟩ := List.nodup_cons.mp hn
    by_cases he : y = x
    · subst he
      have hrest : ys.countP p = ys.countP q :=
        List.countP_congr fun z hz => by rw [heq z fun e => hy (e ▸ hz)]
      rw [List.countP_cons_of_pos hp, List.countP_cons_of_neg (by simp [hq]), hrest]
    · have ih := countP_update hp hq heq hys ((List.mem_cons.mp hx).resolve_left fun e => he e.symm)
      rw [List.countP_cons, List.countP_cons, ih, heq y he]
      omega

section
variable {scope : List String} {successors predecessors : String → List String}
  {todo owed : List String} {r : Readiness}

theorem mem_scope_of_state (h : Balanced scope predecessors todo owed r) {n : String} {s : NodeState}
    (hs : r.state.get? n = some s) : n ∈ scope := h.stateKeys ▸ Entries.mem_keys_of_get? hs

theorem exists_state (h : Balanced scope predecessors todo owed r) {n : String} (hn : n ∈ scope) :
    ∃ s, r.state.get? n = some s := Entries.exists_get? (h.stateKeys ▸ hn)

/-! ## One release -/

theorem Balanced.pending (h : Balanced scope predecessors todo owed r) {n : String} (hn : n ∈ scope) {k : Nat}
    (hk : r.waiting.get? n = some (k + 1)) : r.state.get? n = some .pending := by
  by_contra hs
  rw [h.idle n hn hs] at hk
  cases hk

omit r in
theorem isOwed_close {r r' : Readiness} {n : String} {s : NodeState} (hs : s.isTerminal = true)
    (hstate : ∀ m, r'.state.get? m = if n = m then some s else r.state.get? m) (hopen : r.isOpen n = true) :
    r'.isOpen n = false ∧ (∀ m, n ≠ m → r'.isOpen m = r.isOpen m) ∧
      ∀ todo, r'.isOwed (n :: todo) = r.isOwed todo := by
  have hshut : r'.isOpen n = false := by
    simp [isOpen, hstate, hs]
  have hother (m : String) (hm : n ≠ m) : r'.isOpen m = r.isOpen m := by
    simp only [isOpen, hstate, if_neg hm]
  refine ⟨hshut, hother, ?_⟩
  intro todo
  funext m
  by_cases hm : n = m
  · subst hm
    simp [isOwed, hopen]
  · simp [isOwed, hother m hm, Ne.symm hm]

theorem settled_cons {r' : Readiness} {n : String} (hn : n ∈ scope) (hopen : r.isOpen n = true)
    (hshut : r'.isOpen n = false) (hother : ∀ m, n ≠ m → r'.isOpen m = r.isOpen m)
    (h : ∀ p ∈ todo, p ∈ scope ∧ r.isOpen p = false) : n ∉ todo ∧ ∀ p ∈ n :: todo, p ∈ scope ∧ r'.isOpen p = false := by
  have htodo : n ∉ todo := by
    intro hm
    rw [(h n hm).2] at hopen
    cases hopen
  refine ⟨htodo, List.forall_mem_cons.mpr ⟨⟨hn, hshut⟩, fun p hp => ?_⟩⟩
  have hne : n ≠ p := by
    rintro rfl
    exact htodo hp
  exact ⟨(h p hp).1, (hother p hne).trans (h p hp).2⟩

section
variable (h : ∀ n, n ∈ r.skipped ↔ r.state.get? n = some .skipped)
include h

theorem skipped_iff_skip (n m : String) :
    m ∈ r.skipped ++ [n] ↔ (r.setState n .skipped).state.get? m = some .skipped := by
  rw [List.mem_append, List.mem_singleton, h m, setState, Entries.get?_insert]
  by_cases hnm : n = m
  · simp [hnm]
  · simp [hnm, Ne.symm hnm]

theorem skipped_iff_settle {id : String} {t : NodeState} (hid : r.state.get? id = some .started)
    (ht : t = .succeeded ∨ t = .failed) (m : String) :
    m ∈ r.skipped ↔ (r.setState id t).state.get? m = some .skipped := by
  rw [h m, setState, Entries.get?_insert]
  by_cases hm : id = m
  · subst hm
    rcases ht with rfl | rfl
    · simp [hid]
    · simp [hid]
  · rw [if_neg hm]

end

def skip (r : Readiness) (n : String) : Readiness :=
  { r with waiting := r.waiting.insert n 0, state := r.state.insert n .skipped, skipped := r.skipped ++ [n] }

/-- A release counts one predecessor off; the last one readies the node or skips it. -/
theorem release_cases {n : String} {k : Nat} (hk : r.waiting.get? n = some (k + 1))
    (hs : r.state.get? n = some .pending) :
    (k ≠ 0 ∧ release (r, todo) n = ({ r with waiting := r.waiting.insert n k }, todo)) ∨
    (k = 0 ∧ n ∈ r.activated ∧
      release (r, todo) n = ({ r with waiting := r.waiting.insert n 0, ready := r.ready ++ [n] }, todo)) ∨
    (k = 0 ∧ n ∉ r.activated ∧
      release (r, todo) n = (r.skip n, n :: todo)) := by
  simp only [release, hk, Nat.add_sub_cancel, hs, ne_eq, not_true_eq_false, or_false]
  by_cases h0 : k = 0
  · subst h0
    by_cases ha : n ∈ r.activated
    · right; left
      simp [ha]
    · right; right
      simp [ha, setState, skip]
  · left
    simp [h0, Nat.pos_of_ne_zero h0]

theorem nodup_append_singleton {xs : List String} {x : String} (h : xs.Nodup) (hx : x ∉ xs) : (xs ++ [x]).Nodup := by
  rw [List.nodup_append]
  refine ⟨h, List.nodup_singleton x, ?_⟩
  intro a ha b hb
  rw [List.mem_singleton.mp hb]
  exact fun he => hx (he ▸ ha)

theorem Balanced.count_insert {n m : String} (h : Balanced scope predecessors todo (n :: owed) r) (hm : m ∈ scope)
    {k : Nat} (hk : r.waiting.get? n = some (k + 1)) :
    (r.waiting.insert n k).get? m
      = some ((before scope predecessors m).countP (r.isOwed todo) + owed.count m) := by
  have hc := h.count m hm
  rw [Entries.get?_insert]
  split
  · rename_i he
    subst he
    rw [hk, List.count_cons_self] at hc
    have := Option.some.inj hc
    exact congrArg some (by omega)
  · rename_i he
    rw [hc, List.count_cons_of_ne he]

section
variable {n : String} (h : Balanced scope predecessors todo (n :: owed) r) (hn : n ∈ scope)
include h hn

theorem Balanced.waitingKeys_insert (k : Nat) : (r.waiting.insert n k).keys = scope := by
  rw [Entries.keys_insert_of_mem k (by rw [h.waitingKeys]; exact hn), h.waitingKeys]

theorem Balanced.idle_insert {k j : Nat} (hk : r.waiting.get? n = some (k + 1)) {m : String} (hm : m ∈ scope)
    (hp : r.state.get? m ≠ some .pending) : (r.waiting.insert n j).get? m = some 0 := by
  have hne : n ≠ m := by
    rintro rfl
    exact hp (h.pending hn hk)
  rw [Entries.get?_insert, if_neg hne]
  exact h.idle m hm hp

theorem Balanced.counted {k : Nat} (hk : r.waiting.get? n = some (k + 1)) (h0 : k ≠ 0) :
    Balanced scope predecessors todo owed { r with waiting := r.waiting.insert n k } := by
  refine { h with waitingKeys := h.waitingKeys_insert hn k, count := fun m hm => h.count_insert hm hk,
                  ready_iff := ?_, idle := fun m hm hp => h.idle_insert hn hk hm hp }
  intro m
  rw [h.ready_iff m, Entries.get?_insert]
  by_cases hnm : n = m
  · subst hnm
    simp [hk, h0]
  · rw [if_neg hnm]

theorem Balanced.readied (hk : r.waiting.get? n = some 1) (ha : n ∈ r.activated) :
    Balanced scope predecessors todo owed { r with waiting := r.waiting.insert n 0, ready := r.ready ++ [n] } := by
  have hready : n ∉ r.ready := by
    intro hr
    rw [((h.ready_iff n).mp hr).2] at hk
    cases hk
  refine { h with waitingKeys := h.waitingKeys_insert hn 0, count := fun m hm => h.count_insert hm hk,
                  ready_iff := ?_, readyNodup := nodup_append_singleton h.readyNodup hready,
                  idle := fun m hm hp => h.idle_insert hn hk hm hp, readyChosen := ?_ }
  · intro m
    rw [List.mem_append, List.mem_singleton, h.ready_iff m, Entries.get?_insert]
    by_cases hnm : n = m
    · subst hnm
      simp [h.pending hn hk]
    · simp [hnm, Ne.symm hnm]
  · intro m hm
    rcases List.mem_append.mp hm with hm | hm
    · exact h.readyChosen m hm
    · rw [List.mem_singleton.mp hm]
      exact ha

theorem Balanced.skip (hk : r.waiting.get? n = some 1) (ha : n ∉ r.activated) :
    Balanced scope predecessors (n :: todo) owed (r.skip n) := by
  have hs := h.pending hn hk
  have hopen : r.isOpen n = true := isOpen_iff.mpr (.inl hs)
  have hstate (m : String) : (r.skip n).state.get? m = if n = m then some .skipped else r.state.get? m :=
    Entries.get?_insert ..
  have hnew : n ∉ r.skipped := by
    intro hm
    rw [(h.skipped_iff n).mp hm] at hs
    cases hs
  obtain ⟨hshut, hisOpen, howed⟩ := isOwed_close rfl hstate hopen
  obtain ⟨htodo, hsettled⟩ := settled_cons hn hopen hshut hisOpen h.settled
  refine
    { stateKeys := (Entries.keys_insert_of_mem _ (by rw [h.stateKeys]; exact hn)).trans h.stateKeys
      waitingKeys := h.waitingKeys_insert hn 0
      count := ?_
      ready_iff := ?_
      readyNodup := h.readyNodup
      idle := ?_
      settled := hsettled
      todoNodup := List.nodup_cons.mpr ⟨htodo, h.todoNodup⟩
      skipped_iff := skipped_iff_skip h.skipped_iff n
      skippedNodup := nodup_append_singleton h.skippedNodup hnew
      readyChosen := h.readyChosen
      chosen := ?_
      unchosen := ?_ }
  · intro m hm
    rw [howed]
    exact h.count_insert hm hk
  · intro m
    show m ∈ r.ready ↔ _
    rw [h.ready_iff m, hstate, Readiness.skip, Entries.get?_insert]
    by_cases hnm : n = m
    · subst hnm
      simp [hk]
    · simp [hnm]
  · intro m hm hp
    rw [hstate] at hp
    by_cases hnm : n = m
    · rw [Readiness.skip, Entries.get?_insert, if_pos hnm]
    · rw [if_neg hnm] at hp
      exact h.idle_insert hn hk hm hp
  · intro m s hms h1 h2
    rw [hstate] at hms
    split at hms
    · cases hms
      exact absurd rfl h2
    · exact h.chosen m s hms h1 h2
  · intro m hm
    rcases List.mem_append.mp hm with hm | hm
    · exact h.unchosen m hm
    · rw [List.mem_singleton.mp hm]
      exact ha

theorem Balanced.release : Balanced scope predecessors (release (r, todo) n).2 owed (release (r, todo) n).1 := by
  obtain ⟨k, hk⟩ : ∃ k, r.waiting.get? n = some (k + 1) :=
    ⟨_, (h.count n hn).trans (by rw [List.count_cons_self]; rfl)⟩
  rcases release_cases hk (h.pending hn hk) with ⟨h0, he⟩ | ⟨rfl, ha, he⟩ | ⟨rfl, ha, he⟩
  · rw [he]
    exact h.counted hn hk h0
  · rw [he]
    exact h.readied hn hk ha
  · rw [he]
    exact h.skip hn hk ha

end

/-! ## What cascades leave alone -/

/-- A node keeps its state unless it was pending and is skipped, and none is activated. -/
structure Cascaded (r r' : Readiness) : Prop where
  state : ∀ n, r'.state.get? n = r.state.get? n ∨
    r.state.get? n = some .pending ∧ r'.state.get? n = some .skipped
  activated : r'.activated = r.activated

omit r in
theorem Cascaded.refl (r : Readiness) : Cascaded r r := ⟨fun _ => .inl rfl, rfl⟩

theorem Cascaded.state_iff {r' : Readiness} (h : Cascaded r r') (n : String) {s : NodeState} (hp : s ≠ .pending)
    (hs : s ≠ .skipped) : r'.state.get? n = some s ↔ r.state.get? n = some s := by
  rcases h.state n with he | ⟨h1, h2⟩
  · rw [he]
  · rw [h1, h2]
    simp [hp.symm, hs.symm]

theorem Cascaded.pending {r' : Readiness} (h : Cascaded r r') {n : String} (hn : r'.state.get? n = some .pending) :
    r.state.get? n = some .pending := by
  rcases h.state n with he | ⟨h1, -⟩
  · rw [← he]; exact hn
  · exact h1

theorem Cascaded.trans {r' r'' : Readiness} (h : Cascaded r r') (h' : Cascaded r' r'') : Cascaded r r'' where
  state := fun n => by
    rcases h.state n with he | ⟨h1, h2⟩
    · rw [← he]; exact h'.state n
    · rcases h'.state n with he | ⟨h3, -⟩
      · exact .inr ⟨h1, he.trans h2⟩
      · rw [h2] at h3; cases h3
  activated := h'.activated.trans h.activated

/-- A started node has come to a final state, and no other to one but skipping. -/
structure Turned (r r' : Readiness) (id : String) (t : NodeState) : Prop where
  own : r'.state.get? id = some t
  other : ∀ m, id ≠ m → ∀ u, u ≠ .pending → u ≠ .skipped → (r'.state.get? m = some u ↔ r.state.get? m = some u)
  started : ∀ m, r'.state.get? m = some .started ↔ id ≠ m ∧ r.state.get? m = some .started

theorem Cascaded.turned {r' : Readiness} {id : String} {t : NodeState} (h : Cascaded (r.setState id t) r')
    (ht : t = .succeeded ∨ t = .failed) : Turned r r' id t := by
  have hset (m : String) : (r.setState id t).state.get? m = if id = m then some t else r.state.get? m :=
    Entries.get?_insert ..
  have hpending : t ≠ .pending := by rcases ht with rfl | rfl <;> simp
  have hskipped : t ≠ .skipped := by rcases ht with rfl | rfl <;> simp
  have hstarted : t ≠ .started := by rcases ht with rfl | rfl <;> simp
  have hown : r'.state.get? id = some t := by
    rw [h.state_iff id hpending hskipped, hset, if_pos rfl]
  have hother (m : String) (hm : id ≠ m) (u : NodeState) (h1 : u ≠ .pending) (h2 : u ≠ .skipped) :
      r'.state.get? m = some u ↔ r.state.get? m = some u := by
    rw [h.state_iff m h1 h2, hset, if_neg hm]
  refine ⟨hown, hother, ?_⟩
  intro m
  by_cases hm : id = m
  · subst hm
    rw [hown]
    simp [hstarted]
  · rw [hother m hm .started (by simp) (by simp)]
    simp [hm]

omit r in
theorem release_cascaded (r : Readiness) (todo : List String) (n : String) :
    Cascaded r (Readiness.release (r, todo) n).1 := by
  simp only [Readiness.release]
  split
  · exact .refl r
  split
  · exact ⟨fun _ => .inl rfl, rfl⟩
  rename_i hstay
  split
  · exact ⟨fun _ => .inl rfl, rfl⟩
  · refine ⟨fun m => ?_, rfl⟩
    simp only [setState, Entries.get?_insert]
    split
    · rename_i hm
      subst hm
      exact .inr ⟨by by_contra hp; exact hstay (.inr hp), rfl⟩
    · exact .inl rfl

theorem cascade_keeps {P : Readiness → Prop} (hP : ∀ r todo n, P r → P (Readiness.release (r, todo) n).1) :
    ∀ (fuel : Nat) (todo : List String) {r : Readiness}, P r → P (Readiness.cascade successors fuel todo r)
  | 0, _, _, h => h
  | fuel + 1, [], _, h => h
  | fuel + 1, id :: todo, r, h => by
    have hfold : ∀ (ns : List String) (acc : Readiness × List String), P acc.1 →
        P (ns.foldl Readiness.release acc).1 := by
      intro ns
      induction ns with
      | nil => exact fun _ h => h
      | cons n ns ih => exact fun acc h => ih _ (hP acc.1 acc.2 n h)
    rw [Readiness.cascade]
    exact cascade_keeps hP fuel _ (hfold _ (r, todo) h)

omit r in
theorem settle_cascaded (successors : String → List String) (r : Readiness) (id : String) (s : NodeState) :
    Cascaded (r.setState id s) (Readiness.settle successors r id s) :=
  cascade_keeps (fun r' todo n h => h.trans (release_cascaded r' todo n)) _ _ (.refl _)

omit r in
theorem settle_activated (successors : String → List String) (r : Readiness) (id : String) (s : NodeState) :
    (Readiness.settle successors r id s).activated = r.activated := (settle_cascaded successors r id s).activated

omit r in
theorem settle_pending (successors : String → List String) {r : Readiness} {id m : String} {t : NodeState}
    (ht : t ≠ .pending) (h : (Readiness.settle successors r id t).state.get? m = some .pending) :
    id ≠ m ∧ r.state.get? m = some .pending := by
  have hset := (settle_cascaded successors r id t).pending h
  simp only [setState, Entries.get?_insert] at hset
  split at hset
  · exact absurd (Option.some.inj hset) ht
  · rename_i hne
    exact ⟨hne, hset⟩

/-! ## Cascades -/

def pendingCount (scope : List String) (r : Readiness) : Nat :=
  scope.countP fun n => decide (r.state.get? n = some .pending)

theorem Balanced.release_length {n : String} (h : Balanced scope predecessors todo (n :: owed) r) (hn : n ∈ scope)
    (hscope : scope.Nodup) :
    (Readiness.release (r, todo) n).2.length + pendingCount scope (Readiness.release (r, todo) n).1
      = todo.length + pendingCount scope r := by
  obtain ⟨k, hk⟩ : ∃ k, r.waiting.get? n = some (k + 1) :=
    ⟨_, (h.count n hn).trans (by rw [List.count_cons_self]; rfl)⟩
  have hs := h.pending hn hk
  rcases release_cases hk hs with ⟨-, he⟩ | ⟨-, -, he⟩ | ⟨-, -, he⟩
  · rw [he]
    rfl
  · rw [he]
    rfl
  · rw [he]
    have hstate (m : String) : (r.skip n).state.get? m = if n = m then some .skipped else r.state.get? m :=
      Entries.get?_insert ..
    have hcount : pendingCount scope r = pendingCount scope (r.skip n) + 1 := by
      refine countP_update (x := n) (by simp [hs]) (by simp [hstate]) ?_ hscope hn
      intro m hm
      rw [hstate, if_neg (Ne.symm hm)]
    show (n :: todo).length + pendingCount scope (r.skip n) = _
    rw [hcount, List.length_cons]
    omega

section
variable {P : Readiness → Prop} (hP : ∀ {todo owed : List String} {r : Readiness} {n : String}, n ∈ scope →
  Balanced scope predecessors todo (n :: owed) r → P r → P (Readiness.release (r, todo) n).1)
include hP

/-- What one release keeps in the balance, the releases owed keep too, and they restore it. -/
theorem Balanced.releases (hscope : scope.Nodup) : ∀ {owed todo : List String} {r : Readiness}, owed ⊆ scope →
    Balanced scope predecessors todo owed r → P r →
    Balanced scope predecessors (owed.foldl Readiness.release (r, todo)).2 []
      (owed.foldl Readiness.release (r, todo)).1 ∧
      P (owed.foldl Readiness.release (r, todo)).1 ∧
      (owed.foldl Readiness.release (r, todo)).2.length + pendingCount scope (owed.foldl Readiness.release (r, todo)).1
        = todo.length + pendingCount scope r
  | [], _, r, _, h, hp => ⟨h, hp, rfl⟩
  | n :: owed, todo, r, hsub, h, hp => by
    obtain ⟨hn, hrest⟩ := List.cons_subset.mp hsub
    have hlen := h.release_length hn hscope
    obtain ⟨h1, h2, h3⟩ := releases hscope hrest (h.release hn) (hP hn h hp)
    exact ⟨h1, h2, h3.trans hlen⟩

end

section
variable (hl : Links scope successors predecessors)
include hl

theorem Balanced.pop {id : String} (h : Balanced scope predecessors (id :: todo) [] r) :
    Balanced scope predecessors todo (successors id).eraseDups r := by
  obtain ⟨hid, htodo⟩ := List.nodup_cons.mp h.todoNodup
  obtain ⟨⟨hscope, hshut⟩, hrest⟩ := List.forall_mem_cons.mp h.settled
  refine { h with count := ?_, settled := hrest, todoNodup := htodo }
  intro n hn
  rw [h.count n hn, List.count_nil, Nat.add_zero]
  have heq : ∀ p, p ≠ id → r.isOwed (id :: todo) p = r.isOwed todo p := fun p hp => by simp [isOwed, hp]
  have hbefore : id ∈ before scope predecessors n ↔ n ∈ successors id := by
    rw [before, List.mem_filter, hl.agree id hscope]
    simp [hscope]
  by_cases hs : n ∈ successors id
  · have hcount : (successors id).eraseDups.count n = 1 :=
      List.count_eq_one_of_mem (Graph.nodup_eraseDups _) (List.mem_eraseDups.mpr hs)
    rw [hcount]
    refine congrArg some (countP_update (x := id) ?_ ?_ heq ((hl.distinct n).filter _) (hbefore.mpr hs))
    · simp [isOwed]
    · simp [isOwed, hshut, hid]
  · have hcount : (successors id).eraseDups.count n = 0 :=
      List.count_eq_zero.mpr fun hm => hs (List.mem_eraseDups.mp hm)
    rw [hcount, Nat.add_zero]
    refine congrArg some (List.countP_congr ?_)
    intro p hp
    rw [heq p fun he => hs (hbefore.mp (he ▸ hp))]

section
variable {P : Readiness → Prop} (hP : ∀ {todo owed : List String} {r : Readiness} {n : String}, n ∈ scope →
  Balanced scope predecessors todo (n :: owed) r → P r → P (Readiness.release (r, todo) n).1)
include hP

theorem Balanced.cascade : ∀ (fuel : Nat) {todo : List String} {r : Readiness},
    todo.length + pendingCount scope r ≤ fuel → Balanced scope predecessors todo [] r → P r →
    Balanced scope predecessors [] [] (Readiness.cascade successors fuel todo r) ∧
      P (Readiness.cascade successors fuel todo r)
  | 0, [], r, _, h, hp => ⟨h, hp⟩
  | 0, _ :: _, _, hf, _, _ => absurd hf (by rw [List.length_cons]; omega)
  | fuel + 1, [], r, _, h, hp => ⟨h, hp⟩
  | fuel + 1, id :: todo, r, hf, h, hp => by
    have hid := (h.settled id (by simp)).1
    have hsub : (successors id).eraseDups ⊆ scope := fun n hn => hl.closed id hid (List.mem_eraseDups.mp hn)
    obtain ⟨h1, h2, h3⟩ := Balanced.releases hP hl.once hsub (h.pop hl) hp
    rw [List.length_cons] at hf
    exact cascade fuel (by omega) h1 h2

end

/-! ## The steps of a run -/

omit hl in
theorem Balanced.closed {id : String} {s : NodeState} (h : Balanced scope predecessors [] [] r)
    (hid : r.state.get? id = some .started) (hs : s = .succeeded ∨ s = .failed) :
    Balanced scope predecessors [id] [] (r.setState id s) := by
  have hscope := mem_scope_of_state h hid
  have hopen : r.isOpen id = true := isOpen_iff.mpr (.inr hid)
  have hstate (m : String) : (r.setState id s).state.get? m = if id = m then some s else r.state.get? m :=
    Entries.get?_insert ..
  have hterminal : s.isTerminal = true := by
    rcases hs with rfl | rfl
    · rfl
    · rfl
  obtain ⟨hshut, -, howed⟩ := isOwed_close hterminal hstate hopen
  refine
    { stateKeys := (Entries.keys_insert_of_mem _ (by rw [h.stateKeys]; exact hscope)).trans h.stateKeys
      waitingKeys := h.waitingKeys
      count := ?_
      ready_iff := ?_
      readyNodup := h.readyNodup
      idle := ?_
      settled := ?_
      todoNodup := List.nodup_singleton id
      skipped_iff := skipped_iff_settle h.skipped_iff hid hs
      skippedNodup := h.skippedNodup
      readyChosen := h.readyChosen
      chosen := ?_
      unchosen := h.unchosen }
  · intro m hm
    rw [howed]
    exact h.count m hm
  · intro m
    show m ∈ r.ready ↔ _ ∧ r.waiting.get? m = some 0
    rw [h.ready_iff m, hstate]
    by_cases hm : id = m
    · subst hm
      rcases hs with rfl | rfl
      · simp [hid]
      · simp [hid]
    · simp [hm]
  · intro m hm hp
    apply h.idle m hm
    intro hp'
    rw [hstate] at hp
    split at hp
    · rename_i he
      rw [← he, hid] at hp'
      cases hp'
    · exact hp hp'
  · intro p hp
    rw [List.mem_singleton.mp hp]
    exact ⟨hscope, hshut⟩
  · intro m t hm h1 h2
    rw [hstate] at hm
    split at hm
    · rename_i he
      rw [← he]
      exact h.chosen id .started hid (by simp) (by simp)
    · exact h.chosen m t hm h1 h2

theorem Balanced.settle_keeps {P : Readiness → Prop} (hP : ∀ {todo owed : List String} {r : Readiness} {n : String},
    n ∈ scope → Balanced scope predecessors todo (n :: owed) r → P r → P (Readiness.release (r, todo) n).1)
    {id : String} {s : NodeState} (h : Balanced scope predecessors [] [] r) (hid : r.state.get? id = some .started)
    (hs : s = .succeeded ∨ s = .failed) (hp : P (r.setState id s)) :
    Balanced scope predecessors [] [] (Readiness.settle successors r id s) ∧
      P (Readiness.settle successors r id s) := by
  refine Balanced.cascade hl hP _ ?_ (h.closed hid hs) hp
  have hlen : r.state.length = scope.length := by
    rw [← h.stateKeys, Entries.keys, List.length_map]
  have hcount : pendingCount scope (r.setState id s) ≤ scope.length := List.countP_le_length
  rw [hlen, List.length_singleton]
  omega

theorem Balanced.settle {id : String} {s : NodeState} (h : Balanced scope predecessors [] [] r)
    (hid : r.state.get? id = some .started) (hs : s = .succeeded ∨ s = .failed) :
    Balanced scope predecessors [] [] (Readiness.settle successors r id s) :=
  (h.settle_keeps hl (P := fun _ => True) (fun _ _ h => h) hid hs trivial).1

theorem Balanced.successor_pending (h : Balanced scope predecessors [] [] r) {p n : String} (hp : p ∈ scope)
    (hopen : r.isOpen p = true) (hn : n ∈ successors p) : r.state.get? n = some .pending := by
  have hscope := hl.closed p hp hn
  have hmem : p ∈ before scope predecessors n :=
    List.mem_filter.mpr ⟨(hl.agree p hp n).mpr hn, by simpa using hp⟩
  have hpos : 0 < (before scope predecessors n).countP (r.isOwed []) :=
    List.countP_pos_iff.mpr ⟨p, hmem, by simp [isOwed, hopen]⟩
  have hcount := h.count n hscope
  rw [List.count_nil, Nat.add_zero, ← Nat.succ_pred_eq_of_pos hpos] at hcount
  exact h.pending hscope hcount

/-- With nothing ready or started, no node is pending: the first one of an order that
was would have no predecessor left to wait for. -/
theorem Balanced.not_pending (h : Balanced scope predecessors [] [] r) {g : Graph} {order : List String}
    (horder : Graph.Ordered g order) (hsub : scope ⊆ order)
    (hg : ∀ p ∈ scope, ∀ n, n ∈ g.successors p ↔ n ∈ successors p)
    (hready : r.ready = []) (hstarted : ∀ n, r.state.get? n ≠ some .started) (n : String) :
    r.state.get? n ≠ some .pending := by
  intro hn
  obtain ⟨m, -, hm, hfirst⟩ := horder.exists_first (p := fun n => r.state.get? n = some .pending)
    ⟨n, hsub (mem_scope_of_state h hn), hn⟩
  have hscope := mem_scope_of_state h hm
  have hzero : (before scope predecessors m).countP (r.isOwed []) = 0 := by
    rw [List.countP_eq_zero]
    intro p hp howed
    obtain ⟨hpred, hp⟩ := List.mem_filter.mp hp
    have hp : p ∈ scope := by simpa using hp
    have hopen : r.isOpen p = true := by simpa [isOwed] using howed
    rcases isOpen_iff.mp hopen with hs | hs
    · exact hfirst p (hsub hp) ((hg p hp m).mpr ((hl.agree p hp m).mp hpred)) hs
    · exact hstarted p hs
  have hcount := h.count m hscope
  rw [hzero, List.count_nil] at hcount
  have hmem := (h.ready_iff m).mpr ⟨hm, hcount⟩
  rw [hready] at hmem
  cases hmem

omit hl in
theorem initial_state {root : String} (n : String) :
    (initial scope predecessors root).state.get? n = if n ∈ scope then some .pending else none :=
  Entries.get?_map (fun _ => NodeState.pending)

omit hl in
theorem initial_waiting {root : String} (n : String) : (initial scope predecessors root).waiting.get? n
    = if n ∈ scope then some (before scope predecessors n).length else none :=
  Entries.get?_map (fun n => (before scope predecessors n).length)

theorem balanced_initial {root : String} (hroot : root ∈ scope) (hfree : ∀ p ∈ scope, root ∉ successors p)
    (hwait : ∀ n ∈ scope, n ≠ root → ∃ p ∈ scope, n ∈ successors p) :
    Balanced scope predecessors [] [] (.initial scope predecessors root) := by
  have hbefore (n : String) : (before scope predecessors n).length = 0 ↔ ∀ p ∈ scope, n ∉ successors p := by
    rw [List.length_eq_zero_iff, List.eq_nil_iff_forall_not_mem]
    simp only [before, List.mem_filter, List.contains_iff_mem]
    exact ⟨fun h p hp hn => h p ⟨(hl.agree p hp n).mpr hn, hp⟩, fun h p hp => h p hp.2 ((hl.agree p hp.2 n).mp hp.1)⟩
  refine
    { stateKeys := Entries.keys_map _ scope
      waitingKeys := Entries.keys_map _ scope
      count := ?_
      ready_iff := ?_
      readyNodup := List.nodup_singleton root
      idle := ?_
      settled := by simp
      todoNodup := List.nodup_nil
      skipped_iff := ?_
      skippedNodup := List.nodup_nil
      readyChosen := fun n hn => hn
      chosen := ?_
      unchosen := fun n hn => by cases hn }
  · intro n hn
    rw [initial_waiting, if_pos hn, List.count_nil, Nat.add_zero]
    refine congrArg some (List.countP_eq_length.mpr ?_).symm
    intro p hp
    have hp : p ∈ scope := by simpa using (List.mem_filter.mp hp).2
    simp [isOwed, isOpen, initial_state, hp, NodeState.isTerminal]
  · intro n
    show n ∈ [root] ↔ _
    rw [List.mem_singleton, initial_state, initial_waiting]
    constructor
    · rintro rfl
      rw [if_pos hroot, if_pos hroot, (hbefore n).mpr hfree]
      exact ⟨rfl, rfl⟩
    · rintro ⟨hs, hw⟩
      by_contra hne
      split at hw
      · rename_i hn
        obtain ⟨p, hp, hsp⟩ := hwait n hn hne
        exact (hbefore n).mp (Option.some.inj hw) p hp hsp
      · cases hw
  · intro n hn hs
    rw [initial_state, if_pos hn] at hs
    exact absurd rfl hs
  · intro n
    show n ∈ [] ↔ _
    rw [initial_state]
    split
    · simp
    · simp
  · intro n s hs h1 h2
    rw [initial_state] at hs
    split at hs
    · cases hs; exact absurd rfl h1
    · cases hs

end

theorem foldl_setState (s : NodeState) : ∀ (ids : List String) (r : Readiness),
    ids.foldl (fun r id => r.setState id s) r
      = { r with state := ids.foldl (fun (m : Entries NodeState) id => m.insert id s) r.state }
  | [], _ => rfl
  | id :: ids, r => by
    rw [List.foldl_cons, foldl_setState s ids]
    rfl

theorem start_eq (r : Readiness) : r.start = (r.ready, { r with
    ready := [], state := r.ready.foldl (fun (m : Entries NodeState) id => m.insert id .started) r.state }) := by
  rw [start, foldl_setState]

theorem start_state (r : Readiness) (n : String) :
    r.start.2.state.get? n = if n ∈ r.ready then some .started else r.state.get? n := by
  rw [start_eq]
  exact Entries.get?_foldl_insert _

theorem start_fields (r : Readiness) : r.start.2.waiting = r.waiting ∧ r.start.2.activated = r.activated ∧
    r.start.2.ready = [] ∧ r.start.2.skipped = r.skipped := by
  rw [start_eq]
  exact ⟨rfl, rfl, rfl, rfl⟩

theorem start_stateKeys (hready : ∀ n ∈ r.ready, r.state.get? n = some .pending) : r.start.2.state.keys = r.state.keys := by
  rw [start_eq]
  exact Entries.keys_foldl_insert _ fun n hn => Entries.mem_keys_of_get? (hready n hn)

theorem skipped_iff_start (hready : ∀ n ∈ r.ready, r.state.get? n = some .pending)
    (h : ∀ n, n ∈ r.skipped ↔ r.state.get? n = some .skipped) (n : String) :
    n ∈ r.start.2.skipped ↔ r.start.2.state.get? n = some .skipped := by
  rw [r.start_fields.2.2.2, h n, start_state]
  by_cases hn : n ∈ r.ready
  · simp [hn, hready n hn]
  · rw [if_neg hn]

theorem start_isOwed (hready : ∀ n ∈ r.ready, r.state.get? n = some .pending) : r.start.2.isOwed [] = r.isOwed [] := by
  funext n
  have hisOpen : r.start.2.isOpen n = r.isOpen n := by
    rw [isOpen, isOpen, start_state]
    by_cases hn : n ∈ r.ready
    · rw [if_pos hn, hready n hn]
      rfl
    · rw [if_neg hn]
  rw [isOwed, isOwed, hisOpen]

theorem Balanced.start (h : Balanced scope predecessors [] [] r) :
    Balanced scope predecessors [] [] r.start.2 := by
  have hstate := r.start_state
  have hready (n : String) (hn : n ∈ r.ready) : r.state.get? n = some .pending := ((h.ready_iff n).mp hn).1
  obtain ⟨hwaiting, hactivated, hnone, hskipped⟩ := r.start_fields
  refine
    { stateKeys := ?_
      waitingKeys := hwaiting ▸ h.waitingKeys
      count := ?_
      ready_iff := ?_
      readyNodup := by rw [hnone]; exact List.nodup_nil
      idle := ?_
      settled := by simp
      todoNodup := List.nodup_nil
      skipped_iff := skipped_iff_start hready h.skipped_iff
      skippedNodup := hskipped ▸ h.skippedNodup
      readyChosen := fun n hn => by rw [hnone] at hn; cases hn
      chosen := ?_
      unchosen := fun n hn => by rw [hskipped] at hn; rw [hactivated]; exact h.unchosen n hn }
  · exact (start_stateKeys hready).trans h.stateKeys
  · intro n hn
    rw [hwaiting, start_isOwed hready]
    exact h.count n hn
  · intro n
    rw [hnone, hstate, hwaiting]
    by_cases hn : n ∈ r.ready
    · simp [hn]
    · simpa [hn] using fun hs hw => hn ((h.ready_iff n).mpr ⟨hs, hw⟩)
  · intro n hn hs
    rw [hwaiting]
    by_cases hr : n ∈ r.ready
    · exact ((h.ready_iff n).mp hr).2
    · rw [hstate, if_neg hr] at hs
      exact h.idle n hn hs
  · intro n s hs h1 h2
    rw [hactivated]
    by_cases hn : n ∈ r.ready
    · exact h.readyChosen n hn
    · rw [hstate, if_neg hn] at hs
      exact h.chosen n s hs h1 h2

theorem activate_nil (r : Readiness) : r.activate [] = r := by
  simp [activate]

theorem Balanced.activate (h : Balanced scope predecessors todo owed r) {ids : List String}
    (hids : ∀ n ∈ ids, n ∉ r.skipped) : Balanced scope predecessors todo owed (r.activate ids) :=
  { h with
    readyChosen := fun n hn => List.mem_append_left _ (h.readyChosen n hn)
    chosen := fun n s hs h1 h2 => List.mem_append_left _ (h.chosen n s hs h1 h2)
    unchosen := fun n hn hm => (List.mem_append.mp hm).elim (h.unchosen n hn) fun hi => hids n hi hn }

theorem Balanced.activate_successors (hl : Links scope successors predecessors)
    (h : Balanced scope predecessors [] [] r) {id : String} (hid : r.state.get? id = some .started)
    {ids : List String} (hids : ids ⊆ successors id) : Balanced scope predecessors [] [] (r.activate ids) := by
  refine h.activate fun n hn hm => ?_
  have hp := h.successor_pending hl (mem_scope_of_state h hid) (isOpen_iff.mpr (.inr hid)) (hids hn)
  rw [(h.skipped_iff n).mp hm] at hp
  cases hp

end

end Readiness

end FlowEngine
