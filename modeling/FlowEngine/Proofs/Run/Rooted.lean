import Mathlib
import FlowEngine.Proofs.Run.Readiness

/-!
# Readiness from any root

A root starts at once, however many nodes lead back to it. So it is taken to wait
for nothing: counted like that (`unwait`), a run along all edges is in balance as
one along the edges that do not lead to the root (`settle_unwait`). A set of nodes
in which each waits for another never gets ready (`Knotted`), and these are the
nodes that are pending when nothing is ready or started (`Rooted.pending_iff`).
-/

namespace FlowEngine

namespace Readiness

def onward (root : String) (successors : String → List String) (n : String) : List String :=
  (successors n).filter (· != root)

def awaited (root : String) (predecessors : String → List String) (n : String) : List String :=
  if n = root then [] else predecessors n

def unwait (root : String) (r : Readiness) : Readiness := { r with waiting := r.waiting.insert root 0 }

/-- Each of the nodes comes after another of them, and the root is none of them. -/
def Knotted (scope : List String) (successors : String → List String) (root : String) (ids : Set String) : Prop :=
  ∀ id ∈ ids, id ∈ scope ∧ id ≠ root ∧ ∃ p ∈ ids, id ∈ successors p

theorem filter_eraseDups (p : String → Bool) (xs : List String) : xs.eraseDups.filter p = (xs.filter p).eraseDups := by
  match xs with
  | [] => rfl
  | x :: xs =>
    have hlen := List.length_filter_le (fun y => !(y == x)) xs
    have ih := filter_eraseDups p (xs.filter fun y => !(y == x))
    rw [List.filter_comm] at ih
    rw [List.eraseDups_cons]
    by_cases hx : p x = true
    · rw [List.filter_cons_of_pos hx, List.filter_cons_of_pos hx, List.eraseDups_cons, ih]
    · have hrest : (xs.filter p).filter (fun y => !(y == x)) = xs.filter p := by
        apply List.filter_eq_self.mpr
        intro y hy
        have hne : y ≠ x := fun he => hx (he ▸ (List.mem_filter.mp hy).2)
        simpa using hne
      rw [List.filter_cons_of_neg hx, List.filter_cons_of_neg hx, ih, hrest]
termination_by xs.length
decreasing_by simp only [List.length_cons]; omega

section
variable {scope : List String} {successors predecessors : String → List String} {root : String} {r : Readiness}
  {todo owed : List String}

theorem Links.onward (h : Links scope successors predecessors) :
    Links scope (onward root successors) (awaited root predecessors) where
  once := h.once
  distinct := by
    intro n
    unfold awaited
    split
    · exact List.nodup_nil
    · exact h.distinct n
  agree := by
    intro p hp n
    rw [awaited, Readiness.onward, List.mem_filter, ← h.agree p hp n]
    split
    · rename_i hn
      simp [hn]
    · rename_i hn
      simp [hn]
  closed := fun p hp n hn => h.closed p hp (List.mem_filter.mp hn).1

/-! ## The root waits for nothing -/

section
variable (hwaits : root ∈ r.waiting.keys) (hroot : r.state.get? root ≠ some .pending)
include hwaits hroot

omit hroot in
theorem release_waits (n : String) : root ∈ (release (r, todo) n).1.waiting.keys := by
  simp only [release]
  split
  · exact hwaits
  split
  · exact Entries.mem_keys_insert _ hwaits
  split
  · exact Entries.mem_keys_insert _ hwaits
  · exact Entries.mem_keys_insert _ hwaits

omit hwaits in
theorem release_root : (unwait root (release (r, todo) root).1, (release (r, todo) root).2) = (unwait root r, todo) := by
  unfold release
  cases hk : r.waiting.get? root with
  | none => simp only [hk]
  | some k =>
    have hstay : 0 < k - 1 ∨ r.state.get? root ≠ some .pending := .inr hroot
    simp only [hk, if_pos hstay, unwait, Entries.insert_insert]

omit hroot in
theorem release_unwait {n : String} (hn : root ≠ n) :
    release (unwait root r, todo) n = (unwait root (release (r, todo) n).1, (release (r, todo) n).2) := by
  have hget : (unwait root r).waiting.get? n = r.waiting.get? n := by
    rw [unwait, Entries.get?_insert, if_neg hn]
  simp only [release, hget]
  cases hk : r.waiting.get? n with
  | none => rfl
  | some k =>
    have hcomm := Entries.insert_comm hn 0 (k - 1) hwaits
    simp only [unwait, hcomm]
    split
    · rfl
    split
    · rfl
    · rfl

end

theorem foldl_release_unwait : ∀ (ns : List String) {r : Readiness} {todo : List String}, root ∈ r.waiting.keys →
    r.state.get? root ≠ some .pending → (ns.filter (· != root)).foldl release (unwait root r, todo)
      = (unwait root (ns.foldl release (r, todo)).1, (ns.foldl release (r, todo)).2)
  | [], _, _, _, _ => rfl
  | n :: ns, r, todo, hwaits, hroot => by
    have hroot' : (release (r, todo) n).1.state.get? root ≠ some .pending := fun hp =>
      hroot ((release_cascaded r todo n).pending hp)
    have ih := @foldl_release_unwait ns (release (r, todo) n).1 (release (r, todo) n).2 (release_waits hwaits n) hroot'
    rw [List.foldl_cons]
    by_cases hn : root = n
    · subst hn
      rw [List.filter_cons_of_neg (by simp), ← ih, release_root hroot]
    · rw [List.filter_cons_of_pos (by simpa using Ne.symm hn), List.foldl_cons, release_unwait hwaits hn, ih]

theorem foldl_release_waits : ∀ (ns : List String) {r : Readiness} {todo : List String}, root ∈ r.waiting.keys →
    r.state.get? root ≠ some .pending → root ∈ (ns.foldl release (r, todo)).1.waiting.keys ∧
      (ns.foldl release (r, todo)).1.state.get? root ≠ some .pending
  | [], _, _, hwaits, hroot => ⟨hwaits, hroot⟩
  | n :: ns, r, todo, hwaits, hroot =>
    foldl_release_waits ns (release_waits hwaits n) fun hp => hroot ((release_cascaded r todo n).pending hp)

theorem cascade_unwait : ∀ (fuel : Nat) (todo : List String) {r : Readiness}, root ∈ r.waiting.keys →
    r.state.get? root ≠ some .pending →
    unwait root (cascade successors fuel todo r) = cascade (onward root successors) fuel todo (unwait root r)
  | 0, _, _, _, _ => rfl
  | fuel + 1, [], _, _, _ => rfl
  | fuel + 1, id :: todo, r, hwaits, hroot => by
    obtain ⟨hwaits', hroot'⟩ := @foldl_release_waits root (successors id).eraseDups r todo hwaits hroot
    rw [cascade, cascade, onward, ← filter_eraseDups, foldl_release_unwait _ hwaits hroot]
    exact cascade_unwait fuel _ hwaits' hroot'

/-! ## Nodes that wait for each other -/

theorem Knotted.waits {ids : Set String} (hl : Links scope successors predecessors)
    (hk : Knotted scope successors root ids) (h : Balanced scope (awaited root predecessors) todo owed r)
    (hp : ∀ id ∈ ids, r.state.get? id = some .pending) {id : String} (hid : id ∈ ids) :
    ∃ k, r.waiting.get? id = some (k + 1 + owed.count id) := by
  obtain ⟨hscope, hne, p, hpids, hsucc⟩ := hk id hid
  have hpscope := (hk p hpids).1
  have hmem : p ∈ before scope (awaited root predecessors) id := by
    rw [before, List.mem_filter, awaited, if_neg hne, hl.agree p hpscope]
    exact ⟨hsucc, by simpa using hpscope⟩
  have hopen : r.isOpen p = true := isOpen_iff.mpr (.inl (hp p hpids))
  have hpos : 0 < (before scope (awaited root predecessors) id).countP (r.isOwed todo) :=
    List.countP_pos_iff.mpr ⟨p, hmem, by simp [isOwed, hopen]⟩
  exact ⟨_, by rw [h.count id hscope, Nat.sub_add_cancel hpos]⟩

theorem Knotted.release {ids : Set String} (hl : Links scope successors predecessors)
    (hk : Knotted scope successors root ids) {n : String} (hn : n ∈ scope)
    (h : Balanced scope (awaited root predecessors) todo (n :: owed) r)
    (hp : ∀ id ∈ ids, r.state.get? id = some .pending) :
    ∀ id ∈ ids, (Readiness.release (r, todo) n).1.state.get? id = some .pending := by
  intro id hid
  obtain ⟨k, hw⟩ : ∃ k, r.waiting.get? n = some (k + 1) :=
    ⟨_, (h.count n hn).trans (by rw [List.count_cons_self]; rfl)⟩
  rcases release_cases hw (h.pending hn hw) with ⟨-, he⟩ | ⟨-, -, he⟩ | ⟨rfl, -, he⟩
  · rw [he]
    exact hp id hid
  · rw [he]
    exact hp id hid
  · have hne : n ≠ id := by
      rintro rfl
      obtain ⟨j, hj⟩ := hk.waits hl h hp hid
      rw [hw, List.count_cons_self] at hj
      have := Option.some.inj hj
      omega
    rw [he]
    show (r.state.insert n .skipped).get? id = _
    rw [Entries.get?_insert, if_neg hne]
    exact hp id hid

/-! ## Runs from a root -/

/-- What holds all through a run from a root that may have nodes before it. -/
structure Rooted (scope : List String) (successors predecessors : String → List String) (root : String)
    (r : Readiness) : Prop where
  balanced : Balanced scope (awaited root predecessors) [] [] (r.unwait root)
  waits : root ∈ r.waiting.keys
  activated : root ∈ r.activated
  first : r.state.get? root = some .pending → ∀ id, r.state.get? id ≠ some .started
  knotted : ∀ ids, Knotted scope successors root ids → ∀ id ∈ ids, r.state.get? id = some .pending

theorem Rooted.root_ready (h : Rooted scope successors predecessors root r)
    (hroot : r.state.get? root = some .pending) : root ∈ r.ready :=
  (h.balanced.ready_iff root).mpr ⟨hroot, by rw [unwait, Entries.get?_insert, if_pos rfl]⟩

section
variable (hl : Links scope successors predecessors)
include hl

theorem rooted_initial (hroot : root ∈ scope) (hwait : ∀ n ∈ scope, n ≠ root → ∃ p ∈ scope, n ∈ successors p) :
    Rooted scope successors predecessors root (.initial scope predecessors root) := by
  have hunwait : unwait root (.initial scope predecessors root) = .initial scope (awaited root predecessors) root := by
    simp only [unwait, initial, Entries.insert_map _ root 0 hl.once hroot, awaited]
    congr
    funext n
    split
    · rfl
    · rfl
  refine ⟨?_, ?_, List.mem_singleton_self root, ?_, ?_⟩
  · rw [hunwait]
    refine balanced_initial hl.onward hroot ?_ ?_
    · intro p _
      simp [onward]
    · intro n hn hne
      obtain ⟨p, hp, hpn⟩ := hwait n hn hne
      exact ⟨p, hp, List.mem_filter.mpr ⟨hpn, by simpa using hne⟩⟩
  · show root ∈ Entries.keys (scope.map fun id => (id, _))
    rw [Entries.keys_map]
    exact hroot
  · intro _ id hid
    have hstate : (initial scope predecessors root).state.get? id = if id ∈ scope then some .pending else none :=
      Entries.get?_map (fun _ => NodeState.pending)
    rw [hstate] at hid
    split at hid <;> cases hid
  · intro ids hk id hid
    exact (Entries.get?_map (fun _ => NodeState.pending)).trans (if_pos (hk id hid).1)

theorem Rooted.start (h : Rooted scope successors predecessors root r) :
    Rooted scope successors predecessors root r.start.2 := by
  have hunwait : r.start.2.unwait root = (r.unwait root).start.2 := by
    simp only [start_eq]
    rfl
  have hfields : r.start.2.waiting = r.waiting ∧ r.start.2.activated = r.activated := by
    rw [start_eq]
    exact ⟨rfl, rfl⟩
  obtain ⟨hwaiting, hactivated⟩ := hfields
  refine ⟨?_, hwaiting ▸ h.waits, hactivated ▸ h.activated, ?_, ?_⟩
  · rw [hunwait]
    exact h.balanced.start
  · intro hroot
    rw [start_state] at hroot
    split at hroot
    · cases hroot
    · exact absurd (h.root_ready hroot) ‹_›
  · intro ids hk id hid
    have hready : id ∉ r.ready := by
      intro hr
      obtain ⟨k, hw⟩ := hk.waits hl h.balanced (h.knotted ids hk) hid
      rw [((h.balanced.ready_iff id).mp hr).2] at hw
      cases hw
    rw [start_state, if_neg hready]
    exact h.knotted ids hk id hid

/-- No successor of a started node was skipped: it waits for that node, unless it is the root. -/
theorem Rooted.unskipped (h : Rooted scope successors predecessors root r) {id : String}
    (hid : r.state.get? id = some .started) {n : String} (hn : n ∈ successors id) : n ∉ r.skipped := by
  by_cases hne : n = root
  · subst hne
    exact fun hm => h.balanced.unchosen n hm h.activated
  · intro hm
    have hscope := mem_scope_of_state h.balanced hid
    have hp := h.balanced.successor_pending hl.onward hscope (isOpen_iff.mpr (.inr hid))
      (List.mem_filter.mpr ⟨hn, by simpa using hne⟩)
    rw [(h.balanced.skipped_iff n).mp hm] at hp
    cases hp

theorem Rooted.settle (h : Rooted scope successors predecessors root r) {id : String}
    (hid : r.state.get? id = some .started) {ids : List String} (hids : ids ⊆ successors id) {t : NodeState}
    (ht : t = .succeeded ∨ t = .failed) :
    Rooted scope successors predecessors root ((r.activate ids).settle successors id t) := by
  have hpending : t ≠ .pending := by rcases ht with rfl | rfl <;> simp
  have hset (m : String) : ((r.activate ids).setState id t).state.get? m = if id = m then some t else r.state.get? m :=
    Entries.get?_insert ..
  have hroot : ((r.activate ids).setState id t).state.get? root ≠ some .pending := by
    rw [hset]
    split
    · simpa using hpending
    · exact fun hp => h.first hp id hid
  have hcascaded := settle_cascaded successors (r.activate ids) id t
  have hunwait : ((r.activate ids).settle successors id t).unwait root
      = ((r.unwait root).activate ids).settle (onward root successors) id t :=
    cascade_unwait _ [id] (r := (r.activate ids).setState id t) h.waits hroot
  have hbalanced : Balanced scope (awaited root predecessors) [] [] ((r.unwait root).activate ids) :=
    h.balanced.activate fun n hn => h.unskipped hl hid (hids hn)
  refine ⟨?_, ?_, ?_, ?_, ?_⟩
  · rw [hunwait]
    exact hbalanced.settle hl.onward hid ht
  · exact cascade_keeps (P := fun r => root ∈ r.waiting.keys) (fun r todo n hr => release_waits hr n) _ _ h.waits
  · rw [hcascaded.activated]
    exact List.mem_append_left _ h.activated
  · exact fun hp => absurd (hcascaded.pending hp) hroot
  · intro ns hk
    have hstate : ∀ m, ((r.activate ids).settle successors id t).state.get? m
        = (((r.unwait root).activate ids).settle (onward root successors) id t).state.get? m := by
      rw [← hunwait]
      exact fun m => rfl
    simp only [hstate]
    refine (hbalanced.settle_keeps hl.onward (P := fun r => ∀ n ∈ ns, r.state.get? n = some .pending)
      (fun hn hb hp => hk.release hl hn hb hp) hid ht ?_).2
    intro m hm
    have hne : id ≠ m := by
      rintro rfl
      rw [h.knotted ns hk id hm] at hid
      cases hid
    exact (hset m).trans ((if_neg hne).trans (h.knotted ns hk m hm))

omit hl in
theorem Rooted.states (h : Rooted scope successors predecessors root r) {id : String} {t : NodeState}
    (ht : r.state.get? id = some t) : id ∈ scope := mem_scope_of_state h.balanced (r := r.unwait root) ht

/-- When nothing is ready or started, the pending nodes are those that wait for each other. -/
theorem Rooted.pending_iff (h : Rooted scope successors predecessors root r) (hready : r.ready = [])
    (hstarted : ∀ id, r.state.get? id ≠ some .started) {id : String} :
    r.state.get? id = some .pending ↔ ∃ ids, Knotted scope successors root ids ∧ id ∈ ids := by
  constructor
  · intro hid
    refine ⟨fun n => r.state.get? n = some .pending, ?_, hid⟩
    intro n hn
    have hn : r.state.get? n = some .pending := hn
    have hscope := h.states hn
    have hne : n ≠ root := by
      rintro rfl
      have := h.root_ready hn
      rw [hready] at this
      cases this
    have hpos : (before scope (awaited root predecessors) n).countP ((r.unwait root).isOwed []) ≠ 0 := by
      intro hzero
      have hcount := h.balanced.count n hscope
      rw [hzero, List.count_nil] at hcount
      have hmem : n ∈ r.ready := (h.balanced.ready_iff n).mpr ⟨hn, hcount⟩
      rw [hready] at hmem
      cases hmem
    obtain ⟨p, hp, howed⟩ := List.countP_pos_iff.mp (Nat.pos_of_ne_zero hpos)
    rw [before, List.mem_filter, awaited, if_neg hne] at hp
    have hpscope : p ∈ scope := by simpa using hp.2
    have hopen : (r.unwait root).isOpen p = true := by simpa [isOwed] using howed
    exact ⟨hscope, hne, p, (isOpen_iff.mp hopen).resolve_right (hstarted p), (hl.agree p hpscope n).mp hp.1⟩
  · rintro ⟨ids, hk, hid⟩
    exact h.knotted ids hk id hid

end

end

end Readiness

end FlowEngine
