import Mathlib
import FlowEngine.Proofs.Run.Invariant
import FlowEngine.Run.Simulation

/-!
# Runs come to an end

The simulation is one choice of events, and its fuel is enough. Each node has a
load, twice the number of times that it can still get, end or wait for an
attempt or be taken into account; a round lowers the load of some node by two,
or lets time pass until a node is due, or sets off the time limit. So the
potential, which adds these up, falls with each round (`next_potential`), and
no node is under way when there is no event left (`isDone_of_next`).
-/

namespace FlowEngine

def Phase.load (retries : Nat) : Phase → Nat
  | attempting k _ _ => 4 * (retries + 1 - k) + 4
  | backingOff k _ _ => 4 * (retries - k) + 6
  | broken => 4

namespace RunState

def load (p : Plan) (s : RunState) (id : String) : Nat :=
  match s.active.get? id with
  | some phase => phase.load (p.retries id)
  | none =>
    if id ∈ s.line ∨ s.readiness.state.get? id = some .pending then 4 * p.retries id + 6
    else if id ∈ s.finished.keys then 2
    else 0

def potential (p : Plan) (scope : List String) (s : RunState) : Nat :=
  (scope.map (s.load p)).sum + (if s.timedOut then 0 else 2) + if s.active.any (fun a => s.isDue a.2) then 0 else 1

/-- No node is ready but not in the line, unless the run is cancelled. -/
def Queued (s : RunState) : Prop := s.isCancelled = true ∨ s.readiness.ready = []

/-! ## The load of a node -/

section
variable {inv : Readiness → Prop} {p : Plan} {s s' : RunState} {id m : String}

theorem load_le (ha : s'.active.get? m = s.active.get? m)
    (hw : m ∈ s'.line ∨ s'.readiness.state.get? m = some .pending →
      m ∈ s.line ∨ s.readiness.state.get? m = some .pending)
    (hf : m ∈ s'.finished.keys → m ∈ s.finished.keys) : s'.load p m ≤ s.load p m := by
  unfold load
  rw [ha]
  cases s.active.get? m with
  | some phase => exact le_rfl
  | none =>
    simp only
    by_cases hw' : m ∈ s'.line ∨ s'.readiness.state.get? m = some .pending
    · rw [if_pos hw', if_pos (hw hw')]
    · rw [if_neg hw']
      by_cases hf' : m ∈ s'.finished.keys
      · rw [if_pos hf', if_pos (hf hf')]
        split
        · omega
        · exact le_rfl
      · rw [if_neg hf']
        exact Nat.zero_le _

theorem Served.load_le (h : Served s id s') (hm : id ≠ m) : s'.load p m ≤ s.load p m := by
  cases h with
  | waits store hphase =>
    refine RunState.load_le ?_ (fun h => h) (fun h => h)
    rw [Entries.get?_insert, if_neg hm]
  | @ends r f hf =>
    refine RunState.load_le (Entries.get?_erase_of_ne _ hm) (fun h => h) (fun h => ?_)
    have h : m ∈ Entries.keys (s.finished ++ [(id, f)]) := h
    rw [Entries.keys_append, List.mem_append] at h
    exact h.resolve_right fun hm' => hm (List.mem_singleton.mp hm').symm

theorem load_insert (store : Store) (phase : Phase) :
    load p { s with store, active := s.active.insert id phase } id = phase.load (p.retries id) := by
  unfold load
  simp only [Entries.get?_insert, if_true]

theorem Without.load_finish (h : Without inv p id s) (r : NodeResult) (f : Finished) :
    (s.finish id r f).load p id = 2 := by
  have hstate := h.started id (by simp)
  have honce := (List.nodup_cons.mp h.once).1
  rw [List.mem_append, List.mem_append, not_or, not_or] at honce
  have hactive : (s.active.erase id).get? id = none := Entries.get?_eq_none.mpr honce.1.2
  have hwait : ¬(id ∈ s.line ∨ s.readiness.state.get? id = some .pending) := by
    rw [hstate]
    simp [honce.1.1]
  unfold load finish
  simp only [hactive, if_neg hwait]
  rw [if_pos (by simp [Entries.keys])]

theorem Without.load_attempted (h : Without inv p id s) {k : Nat} (ha : Attempted s id k s') :
    s'.load p id ≤ 4 * (p.retries id + 1 - k) + 4 := by
  cases ha with
  | waits store r due => exact (load_insert store _).le
  | breaks => exact (load_insert s.store .broken).le.trans (Nat.le_add_left _ _)
  | aborts e =>
    rw [abort, h.load_finish]
    omega

theorem Without.load_concluded (h : Without inv p id s) {k due : Nat} {r : NodeResult}
    (hc : Concluded p s id k r s') : s'.load p id + 2 ≤ (Phase.attempting k r due).load (p.retries id) := by
  simp only [Phase.load]
  cases hc with
  | ends hf =>
    rw [h.load_finish]
    omega
  | retries hk ha =>
    have := h.load_attempted ha
    omega
  | backsOff hk hr d =>
    rw [load_insert s.store]
    simp only [Phase.load]
    omega

theorem Without.load_wake (h : Without inv p id s) (hn : (p.node? id).isSome = true) {phase : Phase}
    (ha : s.active.get? id = some phase) : (s.wake p id).load p id + 2 ≤ s.load p id := by
  have hload : s.load p id = phase.load (p.retries id) := by rw [load, ha]
  rw [hload, wake, ha]
  cases phase with
  | attempting k r due => exact h.load_concluded (concluded_conclude hn k r)
  | backingOff k r due =>
    simp only [Phase.load]
    split
    · rw [giveUp, h.load_finish]
      omega
    · have := h.load_attempted (attempted_attemptNode hn (k + 1))
      omega
  | broken => exact (congrArg (· + 2) (h.load_finish _ _)).le

end

/-! ## Rounds -/

theorem sum_map_le {f g : String → Nat} : ∀ {xs : List String}, (∀ x ∈ xs, f x ≤ g x) → (xs.map f).sum ≤ (xs.map g).sum
  | [], _ => le_rfl
  | x :: xs, h => by
    obtain ⟨hx, hxs⟩ := List.forall_mem_cons.mp h
    have ih := sum_map_le hxs
    rw [List.map_cons, List.map_cons, List.sum_cons, List.sum_cons]
    omega

theorem sum_map_add_le {f g : String → Nat} {x : String} (hlt : f x + 2 ≤ g x) : ∀ {xs : List String}, x ∈ xs →
    (∀ y ∈ xs, f y ≤ g y) → (xs.map f).sum + 2 ≤ (xs.map g).sum
  | y :: ys, hx, h => by
    obtain ⟨hy, hys⟩ := List.forall_mem_cons.mp h
    rw [List.map_cons, List.map_cons, List.sum_cons, List.sum_cons]
    rcases List.mem_cons.mp hx with rfl | hx
    · have := sum_map_le hys
      omega
    · have := sum_map_add_le hlt hx hys
      omega

section
variable {inv : Readiness → Prop} {p : Plan} {scope : List String} {s s' : RunState} {id : String}

/-- The potential falls when the load of a node falls by two and no other rises. -/
theorem potential_lt_of_load (hid : id ∈ scope) (hlt : s'.load p id + 2 ≤ s.load p id)
    (hle : ∀ m, id ≠ m → s'.load p m ≤ s.load p m) (ht : s'.timedOut = s.timedOut) :
    s'.potential p scope < s.potential p scope := by
  have hsum : (scope.map (s'.load p)).sum + 2 ≤ (scope.map (s.load p)).sum := by
    apply sum_map_add_le hlt hid
    intro m _
    by_cases hm : id = m
    · subst hm
      omega
    · exact hle m hm
  have hflag : (if s'.active.any (fun a => s'.isDue a.2) then 0 else 1) ≤ 1 := by split <;> omega
  unfold potential
  rw [ht]
  omega

theorem Served.timedOut (h : Served s id s') : s'.timedOut = s.timedOut := by cases h <;> rfl

theorem Served.fatal (h : Served s id s') : s'.fatal = s.fatal := by cases h <;> rfl

theorem Served.failure (h : Served s id s') : s'.failure = s.failure := by cases h <;> rfl

theorem Served.readiness (h : Served s id s') : s'.readiness = s.readiness := by cases h <;> rfl

theorem Served.line (h : Served s id s') : s'.line = s.line := by cases h <;> rfl

theorem Served.isCancelled (h : Served s id s') : s'.isCancelled = s.isCancelled := by cases h <;> rfl

theorem Served.queued (h : Served s id s') (hq : s.Queued) : s'.Queued := by
  unfold Queued
  rw [h.isCancelled, h.readiness]
  exact hq

theorem Settled.line {f : Finished} (h : Settled p s id f s') : s'.line = s.line := by cases h <;> rfl

theorem Settled.context {f : Finished} (h : Settled p s id f s') : s'.context = s.context := by cases h <;> rfl

theorem Settled.store {f : Finished} (h : Settled p s id f s') : s'.store = s.store := by cases h <;> rfl

theorem Settled.active {f : Finished} (h : Settled p s id f s') : s'.active = s.active := by cases h <;> rfl

theorem Settled.finished {f : Finished} (h : Settled p s id f s') : s'.finished = s.finished := by cases h <;> rfl

theorem Settled.timedOut {f : Finished} (h : Settled p s id f s') : s'.timedOut = s.timedOut := by cases h <;> rfl

theorem Sound.queue_load (hc : p.Maintains scope inv) (h : Sound inv p s) (m : String) : s.queue.load p m ≤ s.load p m := by
  unfold RunState.queue
  split
  · exact le_rfl
  · refine RunState.load_le rfl ?_ (fun h => h)
    intro hw
    have hready := hc.ready _ h.balanced m
    rcases hw with hw | hw
    · exact (List.mem_append.mp hw).imp_right hready
    · have hw : s.readiness.start.2.state.get? m = some .pending := hw
      rw [Readiness.start_state] at hw
      split at hw
      · cases hw
      · exact .inr hw

theorem Sound.queue_potential (hc : p.Maintains scope inv) (h : Sound inv p s) :
    s.queue.potential p scope ≤ s.potential p scope := by
  have hsum : (scope.map (s.queue.load p)).sum ≤ (scope.map (s.load p)).sum := sum_map_le fun m _ => h.queue_load hc m
  have hrest : s.queue.timedOut = s.timedOut ∧
      (s.queue.active.any fun a => s.queue.isDue a.2) = s.active.any fun a => s.isDue a.2 := by
    unfold RunState.queue
    split
    · exact ⟨rfl, rfl⟩
    · exact ⟨rfl, rfl⟩
  unfold potential
  rw [hrest.1, hrest.2]
  omega

theorem queue_queued (s : RunState) : s.queue.Queued := by
  unfold RunState.queue
  split
  · exact .inl ‹_›
  · exact .inr (by simp only [Readiness.start_eq])

theorem Settled.pending {f : Finished} (h : Settled p s id f s') {m : String}
    (hm : s'.readiness.state.get? m = some .pending) : id ≠ m ∧ s.readiness.state.get? m = some .pending := by
  cases h with
  | failed e => exact Readiness.settle_pending _ (by simp) hm
  | routed hn hr => exact Readiness.settle_pending _ (r := s.readiness.activate _) (by simp) hm
  | misrouted hn hr => exact Readiness.settle_pending _ (by simp) hm
  | unknown hn => exact Readiness.settle_pending _ (by simp) hm

theorem Sound.handle_potential (hc : p.Maintains scope inv) (h : Sound inv p s) (hf : id ∈ s.finished.keys) :
    (s.handle p id).potential p scope < s.potential p scope := by
  rcases handle_cases p s id with ⟨hnone, -⟩ | ⟨f, -, hsettled⟩
  · exact absurd hf (Entries.get?_eq_none.mp hnone)
  · have hperm := underWay_perm hf
    have hstate := h.started id (hperm.mem_iff.mpr (by simp))
    have honce := (List.nodup_cons.mp (hperm.nodup_iff.mp h.once)).1
    rw [List.mem_append, List.mem_append, not_or, not_or] at honce
    have hactive : s.active.get? id = none := Entries.get?_eq_none.mpr honce.1.2
    generalize s.handle p id = s' at hsettled
    have hline : s'.line = s.line := hsettled.line
    have hslots : s'.active = s.active := hsettled.active
    have hrest : s'.finished = s.finished.erase id := hsettled.finished
    refine potential_lt_of_load (hc.states _ h.balanced id _ hstate) ?_ ?_ hsettled.timedOut
    · have hwait : ¬(id ∈ s'.line ∨ s'.readiness.state.get? id = some .pending) := by
        rw [hline, not_or]
        exact ⟨honce.1.1, fun hp => (hsettled.pending hp).1 rfl⟩
      have hbefore : 2 ≤ s.load p id := by
        unfold load
        simp only [hactive, if_pos hf]
        split
        · omega
        · exact le_rfl
      have hafter : s'.load p id = 0 := by
        unfold load
        simp only [hslots, hactive, if_neg hwait, hrest]
        exact if_neg honce.2
      omega
    · intro m hm
      refine RunState.load_le (by rw [hslots]) ?_ ?_
      · intro hw
        rw [hline] at hw
        exact hw.imp_right fun hp => (hsettled.pending hp).2
      · intro hm'
        rw [hrest] at hm'
        exact (Entries.keys_erase_sublist s.finished id).subset hm'

theorem timely_potential (hdue : (s.active.any fun a => s.isDue a.2) = false) (ht : s.timely p ≠ []) :
    (s.run p (s.timely p)).potential p scope < s.potential p scope ∧ (s.Queued → (s.run p (s.timely p)).Queued) := by
  unfold timely at ht ⊢
  cases hnext : s.nextDue? with
  | none => rw [hnext] at ht; exact absurd rfl ht
  | some due =>
    obtain ⟨a, ha, hadue⟩ := List.mem_map.mp (List.min?_mem hnext)
    have hpass : potential p scope { s with clock := s.clock + (due - s.clock) } < s.potential p scope := by
      have hnow : (s.active.any fun a => isDue { s with clock := s.clock + (due - s.clock) } a.2) = true := by
        refine List.any_eq_true.mpr ⟨a, ha, ?_⟩
        unfold isDue
        rw [hadue, Bool.or_eq_true, decide_eq_true_eq]
        left
        show due ≤ s.clock + (due - s.clock)
        omega
      unfold potential
      rw [hdue, hnow]
      show _ + _ + _ < _ + _ + _
      exact Nat.lt_succ_self _
    cases hlimit : s.deadline? p with
    | none => exact ⟨hpass, fun h => h⟩
    | some limit =>
      simp only
      split
      · have htime : s.timedOut = false := by
          unfold deadline? at hlimit
          split at hlimit
          · cases hlimit
          · rename_i ht
            simpa using ht
        refine ⟨?_, fun _ => .inl (by simp [RunState.run, RunState.step, RunState.expire, isCancelled])⟩
        unfold potential
        rw [hdue, htime]
        show (scope.map (s.load p)).sum + 0 + (if _ then 0 else 1) < (scope.map (s.load p)).sum + 2 + 1
        split <;> omega
      · exact ⟨hpass, fun h => h⟩

theorem unblocked_eq_nil (h : s.unblocked p = []) : s.finished = [] ∧ s.active = [] := by
  unfold unblocked at h
  split at h
  · rename_i hf
    refine ⟨List.isEmpty_iff.mp hf, ?_⟩
    unfold timely nextDue? at h
    cases hmin : (s.active.map fun a => a.2.due).min? with
    | none => simpa using List.min?_eq_none_iff.mp hmin
    | some due =>
      rw [hmin] at h
      cases hlimit : s.deadline? p with
      | none => rw [hlimit] at h; cases h
      | some limit =>
        rw [hlimit] at h
        simp only at h
        split at h <;> cases h
  · rename_i hf
    cases hfs : s.finished with
    | nil => rw [hfs] at hf; exact absurd rfl hf
    | cons f fs => rw [hfs] at h; cases h

theorem isDone_of_next (hq : s.Queued) {slots : Nat} (hslots : 0 < slots) (hn : s.next p slots = []) :
    s.isDone = true := by
  have hready : (s.isCancelled || s.readiness.ready.isEmpty) = true := by
    rw [Bool.or_eq_true, List.isEmpty_iff]
    exact hq
  unfold next at hn
  split at hn
  · cases hn
  split at hn
  · split at hn
    · cases hn
    · rename_i hcond
      have hactive := (unblocked_eq_nil hn).2
      rw [hactive] at hcond
      simp [hslots] at hcond
  · rename_i hline
    obtain ⟨hfinished, hactive⟩ := unblocked_eq_nil hn
    simp only [isDone, hline, hactive, hfinished, hready, List.isEmpty_nil, Bool.and_self]

variable (hc : p.Maintains scope inv)
include hc

theorem Sound.wake_potential (h : Sound inv p s) {phase : Phase} (ha : s.active.get? id = some phase) :
    (s.wake p id).potential p scope < s.potential p scope ∧ (s.Queued → (s.wake p id).Queued) := by
  rcases h.wake_cases hc id with ⟨hnone, -⟩ | ⟨_, -, hw, hscope, hserved⟩
  · rw [ha] at hnone
    cases hnone
  · exact ⟨potential_lt_of_load hscope (hw.load_wake (hc.nodes id hscope) ha) (fun m hm => hserved.load_le hm)
      hserved.timedOut, hserved.queued⟩

theorem Sound.grant_potential (h : Sound inv p s) (hid : id ∈ s.line) :
    (s.grant p id).potential p scope < s.potential p scope := by
  have hactive : s.active.get? id = none := Entries.get?_eq_none.mpr (h.not_active hid)
  have hload : s.load p id = 4 * p.retries id + 6 := by
    rw [load, hactive]
    exact if_pos (.inl hid)
  have herase (m : String) (hm : id ≠ m) : load p { s with line := s.line.erase id } m ≤ s.load p m :=
    RunState.load_le rfl (Or.imp_left (List.mem_of_mem_erase ·)) (fun h => h)
  rcases h.grant_cases hc id with ⟨hnot, -⟩ | ⟨-, hw, hscope, ⟨-, he⟩ | ⟨-, hattempted⟩⟩
  · exact absurd hid hnot
  · have hstate := hw.started id (by simp)
    have honce := (List.nodup_cons.mp hw.once).1
    rw [List.mem_append, List.mem_append, not_or, not_or] at honce
    have hzero : load p { s with line := s.line.erase id } id = 0 := by
      have hwait : ¬(id ∈ s.line.erase id ∨ s.readiness.state.get? id = some .pending) := by
        rw [show s.readiness.state.get? id = some .started from hstate]
        simp [honce.1.1]
      unfold load
      simp only [hactive, if_neg hwait]
      exact if_neg honce.2
    rw [he]
    exact potential_lt_of_load hscope (by omega) herase rfl
  · have := hw.load_attempted hattempted
    exact potential_lt_of_load hscope (by omega)
      (fun m hm => (hattempted.served.load_le hm).trans (herase m hm)) hattempted.served.timedOut

theorem Sound.grant_queued (h : Sound inv p s) (id : String) (hq : s.Queued) : (s.grant p id).Queued := by
  rcases h.grant_cases hc id with ⟨-, he⟩ | ⟨-, -, -, ⟨-, he⟩ | ⟨-, hattempted⟩⟩
  · rw [he]
    exact hq
  · rw [he]
    exact hq
  · exact hattempted.served.queued hq

theorem handled : ∀ (fs : Entries Finished) {s : RunState}, Sound inv p s →
    (s.run p (fs.flatMap fun c => [.handle c.1, .queue])).potential p scope ≤ s.potential p scope ∧
      (s.Queued → (s.run p (fs.flatMap fun c => [.handle c.1, .queue])).Queued)
  | [], _, _ => ⟨le_rfl, fun h => h⟩
  | (id, f) :: fs, s, h => by
    have hh := h.handle hc id
    obtain ⟨hle, hq⟩ := handled fs (hh.queue hc)
    have hpair : (s.handle p id).queue.potential p scope ≤ s.potential p scope := by
      apply (hh.queue_potential hc).trans
      by_cases hf : id ∈ s.finished.keys
      · exact (h.handle_potential hc hf).le
      · rw [RunState.handle, Entries.get?_eq_none.mpr hf]
    exact ⟨hle.trans hpair, fun _ => hq (queue_queued _)⟩

theorem Sound.handled_lt (h : Sound inv p s) (hf : s.finished ≠ []) :
    (s.run p (s.finished.flatMap fun c => [.handle c.1, .queue])).potential p scope < s.potential p scope := by
  obtain ⟨⟨id, f⟩, fs, he⟩ := List.exists_cons_of_ne_nil hf
  have hmem : id ∈ s.finished.keys := by
    rw [he]
    exact List.mem_cons_self
  have hh := h.handle hc id
  rw [he]
  have hle := (handled hc fs (hh.queue hc)).1
  exact (hle.trans (hh.queue_potential hc)).trans_lt (h.handle_potential hc hmem)

theorem Sound.next_potential (h : Sound inv p s) (hq : s.Queued) {slots : Nat} (hn : s.next p slots ≠ []) :
    (s.run p (s.next p slots)).potential p scope < s.potential p scope ∧ (s.run p (s.next p slots)).Queued := by
  have hblocked (hnone : s.active.find? (fun a => s.isDue a.2) = none) (hu : s.unblocked p ≠ []) :
      (s.run p (s.unblocked p)).potential p scope < s.potential p scope ∧ (s.run p (s.unblocked p)).Queued := by
    have hdue : (s.active.any fun a => s.isDue a.2) = false := by
      rw [List.any_eq_false]
      exact fun a ha => by simpa using List.find?_eq_none.mp hnone a ha
    unfold unblocked at hu ⊢
    split
    · rename_i hf
      rw [if_pos hf] at hu
      obtain ⟨hlt, hq'⟩ := timely_potential hdue hu
      exact ⟨hlt, hq' hq⟩
    · rename_i hf
      exact ⟨h.handled_lt hc (by simpa using hf), (handled hc s.finished h).2 hq⟩
  unfold next at hn ⊢
  cases hfind : s.active.find? fun a => s.isDue a.2 with
  | some a =>
    obtain ⟨id, phase⟩ := a
    have ha := Entries.get?_of_mem h.nodup_active (List.mem_of_find?_eq_some hfind)
    obtain ⟨hlt, hq'⟩ := h.wake_potential hc ha
    exact ⟨hlt, hq' hq⟩
  | none =>
    rw [hfind] at hn
    cases hline : s.line with
    | nil =>
      rw [hline] at hn
      exact hblocked hfind hn
    | cons id rest =>
      simp only [hline] at hn ⊢
      split
      · exact ⟨h.grant_potential hc (by simp [hline]), h.grant_queued hc id hq⟩
      · rename_i hslots
        rw [if_neg hslots] at hn
        exact hblocked hfind hn

omit hc in
theorem simulate_step {slots fuel : Nat} (hn : s.next p slots ≠ []) :
    s.simulate p slots (fuel + 1) = (s.run p (s.next p slots)).simulate p slots fuel := by
  rw [simulate]
  split
  · exact absurd ‹_› hn
  · rfl

omit hc in
theorem simulate_run (slots fuel : Nat) : ∃ events, s.simulate p slots fuel = s.run p events := by
  induction fuel generalizing s with
  | zero => exact ⟨[], rfl⟩
  | succ fuel ih =>
    by_cases hn : s.next p slots = []
    · exact ⟨[], by simp only [simulate, hn]; rfl⟩
    · obtain ⟨more, hrun⟩ := ih (s := s.run p (s.next p slots))
      exact ⟨s.next p slots ++ more, by rw [simulate_step hn, hrun, run_append]⟩

/-- The fuel is enough when it is more than the potential. -/
theorem simulate_done {slots : Nat} (hslots : 0 < slots) (fuel : Nat) {s : RunState} (h : Sound inv p s)
    (hq : s.Queued)
    (hf : s.potential p scope < fuel) :
    ∃ events, s.simulate p slots fuel = s.run p events ∧ (s.run p events).isDone = true := by
  induction fuel generalizing s with
  | zero => omega
  | succ fuel ih =>
    by_cases hn : s.next p slots = []
    · exact ⟨[], by simp only [simulate, hn]; rfl, isDone_of_next hq hslots hn⟩
    · obtain ⟨hlt, hq'⟩ := h.next_potential hc hq hn
      obtain ⟨more, hrun, hdone⟩ := ih (h.run hc _) hq' (by omega)
      refine ⟨s.next p slots ++ more, ?_, ?_⟩
      · rw [simulate_step hn, hrun, run_append]
      · rw [run_append]
        exact hdone

end

/-! ## The fuel -/

section
variable {p : Plan} {scope : List String}

theorem foldl_rounds (f : Node → Nat) : ∀ (ns : List Node) (k : Nat),
    ns.foldl (fun sum n => sum + 4 * (f n + 1) + 2) k = k + (ns.map fun n => 4 * f n + 6).sum
  | [], _ => rfl
  | n :: ns, k => by
    rw [List.foldl_cons, foldl_rounds f ns, List.map_cons, List.sum_cons]
    omega

theorem sum_le_rounds (hids : (p.nodes.map Node.id).Nodup) (hscope : scope.Nodup) (hsub : scope ⊆ p.nodes.map Node.id) :
    (scope.map fun id => 4 * p.retries id + 6).sum + 4 ≤ p.rounds := by
  have hretries : ∀ n ∈ p.nodes, p.retries n.id = p.maxRetries n := by
    intro n hn
    cases hfind : p.node? n.id with
    | none => exact absurd (List.find?_eq_none.mp hfind n hn) (by simp)
    | some m =>
      have hm : m.id = n.id := by simpa using List.find?_some hfind
      rw [Plan.retries, hfind, Option.elim, List.inj_on_of_nodup_map hids (List.mem_of_find?_eq_some hfind) hn hm]
  have hnodes : (p.nodes.map fun n => 4 * p.maxRetries n + 6) =
      (p.nodes.map Node.id).map fun id => 4 * p.retries id + 6 := by
    rw [List.map_map]
    exact List.map_congr_left fun n hn => by rw [Function.comp_apply, hretries n hn]
  obtain ⟨ids, hperm, hids⟩ := hscope.subperm hsub
  have hle : (ids.map fun id => 4 * p.retries id + 6).sum ≤
      ((p.nodes.map Node.id).map fun id => 4 * p.retries id + 6).sum :=
    (hids.map _).sum_le_sum fun _ _ => Nat.zero_le _
  rw [(hperm.map _).sum_eq] at hle
  rw [Plan.rounds, foldl_rounds, hnodes]
  omega

theorem potential_le {s : RunState} (ha : s.active = []) (hf : s.finished = []) :
    s.potential p scope ≤ (scope.map fun id => 4 * p.retries id + 6).sum + 3 := by
  have hload : (scope.map (s.load p)).sum ≤ (scope.map fun id => 4 * p.retries id + 6).sum := by
    apply sum_map_le
    intro id _
    have hactive : s.active.get? id = none := by rw [ha]; rfl
    unfold load
    simp only [hactive, hf, Entries.keys_nil, List.not_mem_nil, if_false]
    split <;> omega
  have htime : (if s.timedOut then 0 else 2) ≤ 2 := by split <;> omega
  have hflag : (if s.active.any (fun a => s.isDue a.2) then 0 else 1) ≤ 1 := by split <;> omega
  unfold potential
  omega

end

end RunState

end FlowEngine
