import Mathlib
import FlowEngine.Proofs.Run.Verdict

/-!
# Retries

What an event means for a node is one of a few things (`Turn`): it calls for an attempt,
and the executor is asked, or it makes the node wait, or the node ends. By induction over
the events the attempts of a node are numbered from one, all of them failed but perhaps
the last (`Standing`), and a node that ended was tried until an attempt succeeded or its
retries were used up (`Accounted`). Attempts are counted in 32 bits, though, so the task of a
node that may be tried more often than that breaks down when the count does (`Uncounted`).
-/

namespace FlowEngine

/-! ## How a node that is tried may end -/

/-- A node was tried until an attempt succeeded or its retries were used up: the results of its
attempts, the one recorded, and how it ended. -/
inductive Accounted (id : String) (retries : Nat) : List NodeResult → NodeResult → Finished → Prop
  | succeeds {past : List NodeResult} {r : NodeResult} (hpast : ∀ r ∈ past, r.status.isOk = false)
    (hr : r.status.isOk = true) (hcount : past.length ≤ retries) : Accounted id retries (past ++ [r]) r (.succeeded r)
  | fails {past : List NodeResult} {r : NodeResult} (hpast : ∀ r' ∈ past ++ [r], r'.status.isOk = false)
    (hcount : past.length = retries) : Accounted id retries (past ++ [r]) r
      (.failed (.nodeExecution id (retries + 1) (r.message.getD NodeResult.defaultMessage)))

/-- A node was tried until its attempts could not be counted further, although it had a retry left. -/
structure Uncounted (p : Plan) (id : String) (retries : Nat) (rs : List NodeResult) (r : NodeResult) (f : Finished) :
    Prop where
  failed : ∀ r ∈ rs, r.status.isOk = false
  last : rs.length = RunState.lastAttempt
  left : RunState.lastAttempt ≤ retries
  result : r = .failure (p.breakdown id).message
  finished : f = .failed (p.breakdown id)

theorem accounted_iff {p : Plan} {id : String} {retries : Nat} {rs : List NodeResult} {r : NodeResult} {f : Finished}
    (h : Accounted id retries rs r f ∨ Uncounted p id retries rs r f) (hlast : rs.length ≤ RunState.lastAttempt) :
    Accounted id retries rs r f ↔ retries < RunState.lastAttempt ∨ ∃ r ∈ rs, r.status.isOk = true := by
  constructor
  · intro ha
    cases ha with
    | succeeds hpast hr hcount => exact .inr ⟨_, by simp, hr⟩
    | fails hpast hcount =>
      rw [List.length_append, List.length_singleton] at hlast
      exact .inl (hcount ▸ hlast)
  · rintro (hlt | ⟨r', hmem, hr'⟩)
    · exact h.resolve_right fun hu => absurd hu.left (Nat.not_le.mpr hlt)
    · exact h.resolve_right fun hu => by simp [hu.failed r' hmem] at hr'

namespace RunState

/-! ## Attempts -/

/-- The attempt of a node that an event calls for: the first when the node gets a slot, and the
next one when an attempt failed, a retry is left and the wait for it is over. -/
inductive CallsFor (p : Plan) (s : RunState) (id : String) : Event → Nat → Prop
  | first (hline : id ∈ s.line) (hrun : s.isCancelled = false) : CallsFor p s id (.grant id) 1
  | next {k : Nat} {r : NodeResult} {due : Nat} (hphase : s.active.get? id = some (.attempting k r due))
    (hr : r.status.isOk = false) (hk : k ≤ p.retries id) (hrun : s.isCancelled = false)
    (hdelay : backoff p.backoffMs k = 0) : CallsFor p s id (.wake id) (k + 1)
  | later {k : Nat} {r : NodeResult} {due : Nat} (hphase : s.active.get? id = some (.backingOff k r due))
    (hrun : s.isCancelled = false) : CallsFor p s id (.wake id) (k + 1)

def Event.Serves (id : String) (event : Event) : Prop := event = .grant id ∨ event = .wake id

/-- What the executor of a node answers to an attempt. -/
def answer (p : Plan) (s : RunState) (n : Node) (execute : Executor) (k : Nat) (config : Entries Json) : NodeResult :=
  (underLimit n.attemptTimeout? (execute config (nodeContext p n k) s.store)).2

end RunState

def Phase.attempt? : Phase → Option Nat
  | attempting k _ _ => some k
  | backingOff _ _ _ => none
  | broken => none

/-- The attempt that begins when the phase of a node changes: its result and its number. -/
def Phase.tried (before after : Option Phase) : List (NodeResult × Nat) :=
  match after with
  | some (.attempting k r _) => if before.bind attempt? = some k then [] else [(r, k)]
  | _ => []

theorem Phase.tried_self (phase : Option Phase) : tried phase phase = [] := by
  unfold tried
  split
  · exact if_pos rfl
  · rfl

/-- How the attempts of a node agree with its phase: all that were made failed but perhaps the one
under way. -/
inductive Phase.Counts (retries : Nat) : Phase → List NodeResult → Prop
  | attempting {past : List NodeResult} {r : NodeResult} {due : Nat} (hpast : ∀ r ∈ past, r.status.isOk = false)
    (hcount : past.length ≤ retries) (hlast : past.length < RunState.lastAttempt) :
    Counts retries (.attempting (past.length + 1) r due) (past ++ [r])
  | backingOff {past : List NodeResult} {r : NodeResult} {due : Nat} (hpast : ∀ r' ∈ past ++ [r], r'.status.isOk = false)
    (hcount : past.length < retries) (hlast : past.length < RunState.lastAttempt) :
    Counts retries (.backingOff (past.length + 1) r due) (past ++ [r])
  | broken {rs : List NodeResult} (hpast : ∀ r ∈ rs, r.status.isOk = false) (hlast : rs.length = RunState.lastAttempt)
    (hleft : RunState.lastAttempt ≤ retries) : Counts retries .broken rs

theorem forall_failed_concat {past : List NodeResult} {r : NodeResult} (hpast : ∀ r ∈ past, r.status.isOk = false)
    (hr : r.status.isOk = false) : ∀ r' ∈ past ++ [r], r'.status.isOk = false := by
  simpa [or_imp, forall_and, hr] using hpast

namespace RunState

/-- The attempts of a node over a row of events, each with its result. -/
def tries (p : Plan) (id : String) (s : RunState) : List Event → List (NodeResult × Nat)
  | [] => []
  | event :: events =>
    Phase.tried (s.active.get? id) ((s.step p event).active.get? id) ++ tries p id (s.step p event) events

/-! ## What an event means for a node -/

structure Ends (before : List (String × Finished)) (s' : RunState) (id : String) (r : NodeResult) (f : Finished) : Prop where
  active : s'.active.get? id = none
  result : s'.context.results.get? id = some r
  finished : s'.finished = before ++ [(id, f)]

/-- What an event means for a node of which the executor is known. -/
inductive Turn (p : Plan) (s : RunState) (id : String) (n : Node) (execute : Executor) (event : Event) (s' : RunState) : Prop
  | rests (hactive : s'.active.get? id = s.active.get? id)
    (hresult : s'.context.results.get? id = s.context.results.get? id)
  | tries {k : Nat} {config : Entries Json} {due : Nat} (hcalls : CallsFor p s id event k) (hk : k ≤ lastAttempt)
    (hconfig : s.resolveConfig p n = .ok config)
    (hactive : s'.active.get? id = some (.attempting k (s.answer p n execute k config) due))
  | unresolved {k : Nat} {e : FlowError} (hcalls : CallsFor p s id event k) (hconfig : s.resolveConfig p n = .error e)
    (hends : Ends s.finished s' id (.failure e.message) (.failed e))
  | breaks {k : Nat} (hcalls : CallsFor p s id event k) (hk : lastAttempt < k) (hactive : s'.active.get? id = some .broken)
  | backsOff {k : Nat} {r : NodeResult} {due due' : Nat} (hphase : s.active.get? id = some (.attempting k r due))
    (hr : r.status.isOk = false) (hk : k ≤ p.retries id) (hactive : s'.active.get? id = some (.backingOff k r due'))
  | succeeds {k : Nat} {r : NodeResult} {due : Nat} (hphase : s.active.get? id = some (.attempting k r due))
    (hr : r.status.isOk = true) (hends : Ends s.finished s' id r (.succeeded r))
  | givesUp {k : Nat} {r : NodeResult} {due : Nat} (hphase : s.active.get? id = some (.attempting k r due))
    (hr : r.status.isOk = false) (hk : p.retries id < k)
    (hends : Ends s.finished s' id r (.failed (.nodeExecution id k (r.message.getD NodeResult.defaultMessage))))
  | broke (hphase : s.active.get? id = some .broken)
    (hends : Ends s.finished s' id (.failure (p.breakdown id).message) (.failed (p.breakdown id)))

section
variable {inv : Readiness → Prop} {p : Plan} {scope : List String} {s s' : RunState} {id : String} {n : Node}
  {execute : Executor}

theorem Without.ends_finish (h : Without inv p id s) (r : NodeResult) (f : Finished) : Ends s.finished (s.finish id r f) id r f := by
  have honce := (List.nodup_cons.mp h.once).1
  rw [List.mem_append, List.mem_append, not_or, not_or] at honce
  exact ⟨Entries.get?_eq_none.mpr honce.1.2, ((record_spec h.unrecorded).2 id).trans (if_pos rfl), rfl⟩

/-- An attempt that is called for is made, unless the configuration does not resolve or the count
is at its end. -/
theorem Without.turn_attemptNode (line : List String) (h : Without inv p id { s with line }) (hn : p.node? id = some n)
    (hexec : p.registry.get? n.kind = some execute) {event : Event} {k : Nat} (hcalls : CallsFor p s id event k) :
    Turn p s id n execute event (attemptNode p { s with line } id k) := by
  have hid : n.id = id := by simpa using List.find?_some hn
  unfold attemptNode
  simp only [hn, hexec]
  split
  · rename_i hk
    unfold attempt
    rw [hid]
    split
    · rename_i e hconfig
      exact .unresolved hcalls hconfig (h.ends_finish _ _)
    · rename_i config hconfig
      exact .tries hcalls hk hconfig ((Entries.get?_insert ..).trans (if_pos rfl))
  · rename_i hk
    exact .breaks hcalls (Nat.not_le.mp hk) ((Entries.get?_insert ..).trans (if_pos rfl))

theorem Without.turn_wake (h : Without inv p id s) (hrun : s.isCancelled = false) (hn : p.node? id = some n)
    (hexec : p.registry.get? n.kind = some execute) : Turn p s id n execute (.wake id) (s.wake p id) := by
  unfold wake
  cases hphase : s.active.get? id with
  | none => exact .rests rfl rfl
  | some phase =>
    cases phase with
    | backingOff k r due =>
      simp only [hrun, Bool.false_eq_true, if_false]
      exact h.turn_attemptNode s.line hn hexec (.later hphase hrun)
    | attempting k r due =>
      simp only [conclude]
      split
      · exact .succeeds hphase ‹_› (h.ends_finish _ _)
      · rename_i hr
        have hr : r.status.isOk = false := by simpa using hr
        split
        · rename_i hk
          split
          · exact h.turn_attemptNode s.line hn hexec (.next hphase hr hk.1 hrun ‹_›)
          · exact .backsOff hphase hr hk.1 ((Entries.get?_insert ..).trans (if_pos rfl))
        · rename_i hk
          refine .givesUp hphase hr ?_ (h.ends_finish _ _)
          exact Nat.not_le.mp fun hle => hk ⟨hle, hrun⟩
    | broken => exact .broke hphase (h.ends_finish _ _)

theorem Without.served_other {m : String} (h : Without inv p m s) (hs : Served s m s') (hne : m ≠ id) :
    s'.active.get? id = s.active.get? id ∧ s'.context.results.get? id = s.context.results.get? id := by
  cases hs with
  | waits store hphase => exact ⟨(Entries.get?_insert ..).trans (if_neg hne), rfl⟩
  | ends hf => exact ⟨Entries.get?_erase_of_ne s.active hne, ((record_spec h.unrecorded).2 id).trans (if_neg hne)⟩

theorem grant_eq_attemptNode (hline : id ∈ s.line) (hrun : s.isCancelled = false) :
    s.grant p id = attemptNode p { s with line := s.line.erase id } id 1 := by
  have hrun' : isCancelled { s with line := s.line.erase id } = false := hrun
  simp only [RunState.grant, List.contains_iff_mem.mpr hline, if_true, hrun', Bool.false_eq_true, if_false]

variable (hc : p.Maintains scope inv)
include hc

theorem Sound.step_other (h : Sound inv p s) {event : Event} (hother : ¬event.Serves id) :
    (s.step p event).active.get? id = s.active.get? id ∧
      (s.step p event).context.results.get? id = s.context.results.get? id := by
  obtain ⟨hgrant, hwake⟩ := not_or.mp hother
  have hstep := h.stepped hc event
  generalize s.step p event = s' at hstep ⊢
  cases hstep with
  | begins hline hrun hw hattempted => exact hw.served_other hattempted.served fun hm => hgrant (congrArg _ hm)
  | wakes hphase hw hserved => exact hw.served_other hserved fun hm => hwake (congrArg _ hm)
  | settles hget hsettled => exact ⟨by rw [hsettled.active], by rw [hsettled.context]⟩
  | _ => exact ⟨rfl, rfl⟩

theorem Sound.turn (h : Sound inv p s) (hrun : s.isCancelled = false) (hn : p.node? id = some n)
    (hexec : p.registry.get? n.kind = some execute) (event : Event) : Turn p s id n execute event (s.step p event) := by
  by_cases hserves : event.Serves id
  · rcases hserves with rfl | rfl
    · rw [RunState.step]
      rcases h.grant_cases hc id with ⟨-, he⟩ | ⟨hline, hw, -, ⟨hcancel, -⟩ | -⟩
      · rw [he]
        exact .rests rfl rfl
      · exact absurd (hcancel.symm.trans hrun) (by simp)
      · rw [grant_eq_attemptNode hline hrun]
        exact hw.turn_attemptNode _ hn hexec (.first hline hrun)
    · rw [RunState.step]
      rcases h.wake_cases hc id with ⟨-, he⟩ | ⟨phase, -, hw, -, -⟩
      · rw [he]
        exact .rests rfl rfl
      · exact hw.turn_wake hrun hn hexec
  · obtain ⟨hactive, hresult⟩ := h.step_other hc hserves
    exact .rests hactive hresult

/-! ## The attempts so far -/

omit hc in
theorem Turn.tried_answer (ht : Turn p s id n execute event s') {t : NodeResult × Nat}
    (hmem : t ∈ Phase.tried (s.active.get? id) (s'.active.get? id)) : CallsFor p s id event t.2 ∧
      ∃ config, s.resolveConfig p n = .ok config ∧ t.1 = s.answer p n execute t.2 config := by
  cases ht with
  | rests hactive hresult =>
    rw [hactive, Phase.tried_self] at hmem
    cases hmem
  | tries hcalls hk hconfig hactive =>
    rw [hactive, Phase.tried] at hmem
    split at hmem
    · cases hmem
    · cases List.mem_singleton.mp hmem
      exact ⟨hcalls, _, hconfig, rfl⟩
  | unresolved hcalls hconfig hends => rw [hends.active] at hmem; cases hmem
  | breaks hcalls hk hactive => rw [hactive] at hmem; cases hmem
  | backsOff hphase hr hk hactive => rw [hactive] at hmem; cases hmem
  | succeeds hphase hr hends => rw [hends.active] at hmem; cases hmem
  | givesUp hphase hr hk hends => rw [hends.active] at hmem; cases hmem
  | broke hphase hends => rw [hends.active] at hmem; cases hmem

theorem Sound.finished_subset (h : Sound inv p s) (event : Event) :
    s.finished ⊆ s.completes event ++ (s.step p event).finished :=
  List.Subset.trans (List.subset_append_left _ _) (h.step_perm hc event).subset

end

/-- How the attempts of a node stand: none was made, it has a slot, or it ended. -/
inductive Standing (p : Plan) (id : String) (s : RunState) (done : List (String × Finished)) : List NodeResult → Prop
  | waiting (hactive : s.active.get? id = none) (hresult : s.context.results.get? id = none) : Standing p id s done []
  | active {phase : Phase} {rs : List NodeResult} (hactive : s.active.get? id = some phase)
    (hcounts : phase.Counts (p.retries id) rs) : Standing p id s done rs
  | ended {rs : List NodeResult} {r : NodeResult} {f : Finished} (hresult : s.context.results.get? id = some r)
    (hdone : (id, f) ∈ done ++ s.finished) (hlast : rs.length ≤ lastAttempt)
    (hends : Accounted id (p.retries id) rs r f ∨ Uncounted p id (p.retries id) rs r f) : Standing p id s done rs

section
variable {inv : Readiness → Prop} {p : Plan} {scope : List String} {s s' : RunState} {id : String} {n : Node}
  {execute : Executor} {done : List (String × Finished)} {rs : List NodeResult}

theorem Sound.unrecorded_active (h : Sound inv p s) {phase : Phase} (hphase : s.active.get? id = some phase) :
    s.context.results.get? id = none :=
  Entries.get?_eq_none.mpr (h.without_active (Entries.mem_keys_of_get? hphase)).unrecorded

theorem Standing.counts (hs : Standing p id s done rs) (h : Sound inv p s) {phase : Phase}
    (hphase : s.active.get? id = some phase) : phase.Counts (p.retries id) rs := by
  cases hs with
  | waiting hactive hresult => rw [hactive] at hphase; cases hphase
  | active hactive hcounts =>
    rw [hactive] at hphase
    cases hphase
    exact hcounts
  | ended hresult hdone hlast hends => rw [h.unrecorded_active hphase] at hresult; cases hresult

theorem Standing.called (hs : Standing p id s done rs) (h : Sound inv p s) {event : Event} {k : Nat}
    (hcalls : CallsFor p s id event k) : k = rs.length + 1 ∧ (∀ r ∈ rs, r.status.isOk = false) ∧
      rs.length ≤ p.retries id ∧ rs.length ≤ lastAttempt ∧ (s.active.get? id).bind Phase.attempt? ≠ some k := by
  cases hcalls with
  | first hline hrun =>
    have hidle : s.active.get? id = none := Entries.get?_eq_none.mpr (h.not_active hline)
    cases hs with
    | waiting hactive hresult => exact ⟨rfl, by simp, Nat.zero_le _, Nat.zero_le _, by simp [hidle]⟩
    | active hactive hcounts => rw [hidle] at hactive; cases hactive
    | ended hresult hdone hlast hends =>
      have hnew : s.context.results.get? id = none := Entries.get?_eq_none.mpr (h.without_line hline).unrecorded
      rw [hnew] at hresult
      cases hresult
  | next hphase hr hk hrun hdelay =>
    cases hs.counts h hphase with
    | attempting hpast hcount hlast =>
      exact ⟨by simp, forall_failed_concat hpast hr, by simpa using hk, by simpa using hlast, by simp [hphase, Phase.attempt?]⟩
  | later hphase hrun =>
    cases hs.counts h hphase with
    | backingOff hpast hcount hlast =>
      exact ⟨by simp, hpast, by simpa using hcount, by simpa using hlast, by simp [hphase, Phase.attempt?]⟩

theorem Standing.rests (hs : Standing p id s done rs) {event : Event} (hactive : s'.active.get? id = s.active.get? id)
    (hresult : s'.context.results.get? id = s.context.results.get? id)
    (hfinished : s.finished ⊆ s.completes event ++ s'.finished) : Standing p id s' (done ++ s.completes event) rs := by
  cases hs with
  | waiting ha hr => exact .waiting (hactive.trans ha) (hresult.trans hr)
  | active ha hcounts => exact .active (hactive.trans ha) hcounts
  | ended hr hdone hlast hends =>
    refine .ended (hresult.trans hr) ?_ hlast hends
    rw [List.append_assoc]
    exact (List.mem_append.mp hdone).elim (List.mem_append_left _) fun hf => List.mem_append_right _ (hfinished hf)

theorem Standing.of_ends {r : NodeResult} {f : Finished} (hends : Ends s.finished s' id r f) (hlast : rs.length ≤ lastAttempt)
    (h : Accounted id (p.retries id) rs r f ∨ Uncounted p id (p.retries id) rs r f) : Standing p id s' done rs :=
  .ended hends.result (by simp [hends.finished]) hlast h

theorem Standing.exists_end (hs : Standing p id s done rs) (hactive : s.active = [])
    (hrecorded : id ∈ s.context.results.order) : ∃ r f, s.context.results.get? id = some r ∧ (id, f) ∈ done ++ s.finished ∧
      rs.length ≤ lastAttempt ∧ (Accounted id (p.retries id) rs r f ∨ Uncounted p id (p.retries id) rs r f) := by
  cases hs with
  | waiting ha hresult => exact absurd hrecorded (Entries.get?_eq_none.mp hresult)
  | active ha hcounts => rw [hactive] at ha; cases ha
  | ended hresult hdone hlast hends => exact ⟨_, _, hresult, hdone, hlast, hends⟩

/-- One event lets a node stand as it did, or with one attempt more. -/
theorem Standing.turn (hs : Standing p id s done rs) (h : Sound inv p s) {event : Event}
    (ht : Turn p s id n execute event s') (hfinished : s.finished ⊆ s.completes event ++ s'.finished)
    (hconfig : ∀ k, CallsFor p s id event k → ∃ config, s.resolveConfig p n = .ok config) :
    ∃ more, Phase.tried (s.active.get? id) (s'.active.get? id) = more.zipIdx (1 + rs.length) ∧
      Standing p id s' (done ++ s.completes event) (rs ++ more) := by
  have hnone {s' : RunState} (htried : Phase.tried (s.active.get? id) (s'.active.get? id) = [])
      (hs' : Standing p id s' (done ++ s.completes event) rs) :
      ∃ more, Phase.tried (s.active.get? id) (s'.active.get? id) = more.zipIdx (1 + rs.length) ∧
        Standing p id s' (done ++ s.completes event) (rs ++ more) := ⟨[], htried, by rwa [List.append_nil]⟩
  cases ht with
  | rests hactive hresult => exact hnone (hactive ▸ Phase.tried_self _) (hs.rests hactive hresult hfinished)
  | @tries k config due hcalls hk _ hactive =>
    obtain ⟨rfl, hfailed, hcount, -, hnew⟩ := hs.called h hcalls
    refine ⟨[_], ?_, .active hactive (.attempting hfailed hcount hk)⟩
    rw [hactive, Phase.tried, if_neg hnew, Nat.add_comm 1]
    rfl
  | unresolved hcalls herror hends =>
    obtain ⟨config, hok⟩ := hconfig _ hcalls
    rw [herror] at hok
    cases hok
  | breaks hcalls hk hactive =>
    obtain ⟨rfl, hfailed, hcount, hlast, -⟩ := hs.called h hcalls
    have hend : rs.length = lastAttempt := Nat.le_antisymm hlast (Nat.lt_succ_iff.mp hk)
    exact hnone (by rw [hactive]; rfl) (.active hactive (.broken hfailed hend (hend ▸ hcount)))
  | backsOff hphase hr hk hactive =>
    cases hs.counts h hphase with
    | attempting hpast _ hlast =>
      exact hnone (by rw [hactive]; rfl) (.active hactive (.backingOff (forall_failed_concat hpast hr) hk hlast))
  | succeeds hphase hr hends =>
    cases hs.counts h hphase with
    | attempting hpast hcount hlast =>
      exact hnone (by rw [hends.active]; rfl) (.of_ends hends (by simpa using hlast) (.inl (.succeeds hpast hr hcount)))
  | givesUp hphase hr hk hends =>
    cases hs.counts h hphase with
    | attempting hpast hcount hlast =>
      have hused := Nat.le_antisymm hcount (Nat.lt_succ_iff.mp hk)
      rw [hused] at hends
      exact hnone (by rw [hends.active]; rfl)
        (.of_ends hends (by simpa using hlast) (.inl (.fails (forall_failed_concat hpast hr) hused)))
  | broke hphase hends =>
    cases hs.counts h hphase with
    | broken hpast hlast hleft =>
      exact hnone (by rw [hends.active]; rfl) (.of_ends hends hlast.le (.inr ⟨hpast, hlast, hleft, rfl, rfl⟩))

end

/-! ## All attempts of a run -/

/-- The configuration of a node resolves whenever an attempt is called for. -/
def Resolves (p : Plan) (id : String) (n : Node) (s : RunState) (events : List Event) : Prop :=
  ∀ before event after k, events = before ++ event :: after → CallsFor p (s.run p before) id event k →
    ∃ config, (s.run p before).resolveConfig p n = .ok config

section
variable {inv : Readiness → Prop} {p : Plan} {scope : List String} {id : String} {n : Node} {execute : Executor}
  (hc : p.Maintains scope inv) (hn : p.node? id = some n) (hexec : p.registry.get? n.kind = some execute)
include hc

theorem Sound.not_cancelled {s : RunState} (h : Sound inv p s) (events : List Event)
    (hrun : (s.run p events).isCancelled = false) : s.isCancelled = false := by
  by_contra hcancel
  have := (run_windsDown hc events h ((Bool.not_eq_false _).mp hcancel)).cancelled
  rw [hrun] at this
  cases this

include hn hexec

theorem Sound.run_standing : ∀ (events : List Event) {s : RunState} {done : List (String × Finished)} {rs : List NodeResult},
    Sound inv p s → Standing p id s done rs → (s.run p events).isCancelled = false → Resolves p id n s events →
    ∃ more, s.tries p id events = more.zipIdx (1 + rs.length) ∧
      Standing p id (s.run p events) (done ++ s.completions p events) (rs ++ more)
  | [], s, done, rs, _, hs, _, _ => ⟨[], rfl, by rwa [completions, log, List.append_nil, List.append_nil]⟩
  | event :: events, s, done, rs, h, hs, hrun, hresolves => by
    have hactive := h.not_cancelled hc (event :: events) hrun
    obtain ⟨more, htried, hs'⟩ := hs.turn h (h.turn hc hactive hn hexec event) (h.finished_subset hc event)
      fun k => hresolves [] event events k rfl
    obtain ⟨later, htries, hend⟩ := run_standing events (h.step hc event) hs' hrun fun before event' after k he =>
      hresolves (event :: before) event' after k (congrArg _ he)
    refine ⟨more ++ later, ?_, ?_⟩
    · rw [tries, htried, htries, List.zipIdx_append, List.length_append, Nat.add_assoc]
    · rwa [List.append_assoc, List.append_assoc] at hend

theorem Sound.tries_answer : ∀ (events : List Event) {s : RunState}, Sound inv p s →
    (s.run p events).isCancelled = false → ∀ t ∈ s.tries p id events, ∃ before event after config,
      events = before ++ event :: after ∧ CallsFor p (s.run p before) id event t.2 ∧
      (s.run p before).resolveConfig p n = .ok config ∧ t.1 = (s.run p before).answer p n execute t.2 config
  | [], _, _, _, _, hmem => by cases hmem
  | event :: events, s, h, hrun, t, hmem => by
    rcases List.mem_append.mp hmem with hmem | hmem
    · have hactive := h.not_cancelled hc (event :: events) hrun
      obtain ⟨hcalls, config, hconfig, hanswer⟩ := (h.turn hc hactive hn hexec event).tried_answer hmem
      exact ⟨[], event, events, config, rfl, hcalls, hconfig, hanswer⟩
    · obtain ⟨before, event', after, config, rfl, hall⟩ := tries_answer events (h.step hc event) hrun t hmem
      exact ⟨event :: before, event', after, config, rfl, hall⟩

end

end RunState

namespace Engine.Launched

variable {e : Engine} {flow : CompiledWorkflow} {root : String} {p : Plan} {s : RunState} {events : List RunState.Event}

theorem start_idle (h : e.Launched flow root p s) (id : String) :
    s.active.get? id = none ∧ s.context.results.get? id = none := by
  obtain ⟨horder, hactive⟩ := h.start_empty
  refine ⟨by rw [hactive]; rfl, Entries.get?_eq_none.mpr ?_⟩
  rw [show Entries.keys s.context.results.entries = [] from horder]
  exact List.not_mem_nil

theorem start_standing (h : e.Launched flow root p s) (id : String) : RunState.Standing p id s [] [] :=
  .waiting (h.start_idle id).1 (h.start_idle id).2

theorem completions_keys (h : e.Launched flow root p s) (hdone : (s.run p events).isDone = true) :
    (respond p (s.run p events)).results.order.Perm (Entries.keys (s.completions p events)) := by
  have hkeys := List.forall₂_map_right_iff.mpr (List.forall₂_map_left_iff.mpr ((h.tallied events).imp fun _ _ => And.left))
  rw [List.forall₂_eq_eq_eq] at hkeys
  have hperm := h.completed_perm events
  rw [(RunState.isDone_iff.mp hdone).2.2.1, List.append_nil] at hperm
  rw [Results.order, Entries.keys, hkeys]
  exact hperm.map _

theorem exists_end (h : e.Launched flow root p s) (hdone : (s.run p events).isDone = true)
    (hrun : (s.run p events).isCancelled = false) {id : String} (hrecorded : id ∈ (s.run p events).context.results.order)
    {n : Node} (hn : p.node? id = some n) {execute : Executor} (hexec : p.registry.get? n.kind = some execute)
    (hresolves : s.Resolves p id n events) : ∃ rs r f, s.tries p id events = rs.zipIdx 1 ∧
      (respond p (s.run p events)).results.get? id = some r ∧ (id, f) ∈ s.completions p events ∧
      rs.length ≤ RunState.lastAttempt ∧ (Accounted id (p.maxRetries n) rs r f ∨ Uncounted p id (p.maxRetries n) rs r f) := by
  obtain ⟨rs, htries, hstanding⟩ :=
    h.sound.run_standing h.maintains hn hexec events (h.start_standing id) hrun hresolves
  obtain ⟨-, hactive, hfinished, -⟩ := RunState.isDone_iff.mp hdone
  obtain ⟨r, f, hresult, hf, hlast, hends⟩ := hstanding.exists_end hactive hrecorded
  rw [hfinished, List.append_nil] at hf
  have hretries : p.retries id = p.maxRetries n := by rw [Plan.retries, hn, Option.elim_some]
  rw [hretries] at hends
  exact ⟨rs, r, f, htries, hresult, hf, hlast, hends⟩

theorem begun_recorded (h : e.Launched flow root p s) (hdone : (s.run p events).isDone = true) {id : String}
    (hid : id ∈ s.log RunState.begins p events) : id ∈ (s.run p events).context.results.order := by
  have hperm := h.begun_perm events
  rw [(RunState.isDone_iff.mp hdone).2.1, show Entries.keys ([] : Entries Phase) = [] from rfl, List.append_nil] at hperm
  exact hperm.mem_iff.mpr hid

theorem completes_iff (h : e.Launched flow root p s) (hdone : (s.run p events).isDone = true) {id : String} {f : Finished}
    (hf : (id, f) ∈ s.completions p events) (f' : Finished) : (id, f') ∈ s.completions p events ↔ f' = f := by
  have honce : (Entries.keys (s.completions p events)).Nodup :=
    (h.completions_keys hdone).nodup_iff.mp (h.sound.run h.maintains events).orderOnce
  have hget := Entries.get?_of_mem honce hf
  refine ⟨fun hf' => ?_, fun he => he ▸ hf⟩
  exact Option.some.inj ((Entries.get?_of_mem honce hf').symm.trans hget)

end Engine.Launched

/-- A node that begins in a run that is not cancelled is tried with attempts numbered from one,
each of them the executor's answer to the configuration that is there then. One result is recorded
and the node completes once. It is tried until an attempt succeeds or its retries are used up just
if it may be tried less often than can be counted or an attempt succeeds; else it is given up at the
last attempt that can be counted, as its task breaks down. -/
theorem Engine.Launched.retried {e : Engine} {flow : CompiledWorkflow} {root : String} {p : Plan} {s : RunState}
    {events : List RunState.Event} (h : e.Launched flow root p s) (hdone : (s.run p events).isDone = true)
    (hrun : (s.run p events).isCancelled = false) {id : String} (hid : id ∈ s.log RunState.begins p events) {n : Node}
    (hn : p.node? id = some n) {execute : Executor} (hexec : p.registry.get? n.kind = some execute)
    (hresolves : s.Resolves p id n events) :
    ∃ rs r f, s.tries p id events = rs.zipIdx 1 ∧
      (∀ t ∈ s.tries p id events, ∃ before event after config, events = before ++ event :: after ∧
        (s.run p before).CallsFor p id event t.2 ∧ (s.run p before).resolveConfig p n = .ok config ∧
        t.1 = (s.run p before).answer p n execute t.2 config) ∧
      (respond p (s.run p events)).results.get? id = some r ∧
      (respond p (s.run p events)).results.order.count id = 1 ∧
      (∀ f', (id, f') ∈ s.completions p events ↔ f' = f) ∧
      (Accounted id (p.maxRetries n) rs r f ↔
        p.maxRetries n < RunState.lastAttempt ∨ ∃ r ∈ rs, r.status.isOk = true) ∧
      (Accounted id (p.maxRetries n) rs r f ∨ Uncounted p id (p.maxRetries n) rs r f) := by
  have hrecorded := h.begun_recorded hdone hid
  obtain ⟨rs, r, f, htries, hresult, hf, hlast, hends⟩ := h.exists_end hdone hrun hrecorded hn hexec hresolves
  have honce := (h.sound.run h.maintains events).orderOnce
  exact ⟨rs, r, f, htries, h.sound.tries_answer h.maintains hn hexec events hrun, hresult,
    List.count_eq_one_of_mem honce hrecorded, h.completes_iff hdone hf, accounted_iff hends hlast, hends⟩

/-! ## A node that always fails -/

namespace RunState

section
variable {p : Plan}

theorem expire_not_mem_next (hlimit : p.settings.timeoutSeconds = none) (slots : Nat) (s : RunState) :
    .expire ∉ s.next p slots := by
  have hdeadline : s.deadline? p = none := by simp [deadline?, hlimit]
  have htimely : .expire ∉ s.timely p := by
    unfold timely
    rw [hdeadline]
    cases s.nextDue? <;> simp
  have hunblocked : .expire ∉ s.unblocked p := by
    unfold unblocked
    split
    · exact htimely
    · simp
  unfold next
  split
  · simp
  · split
    · split
      · simp
      · exact hunblocked
    · exact hunblocked

theorem Sound.simulate_timedOut {inv : Readiness → Prop} {scope : List String} (hc : p.Maintains scope inv)
    (hlimit : p.settings.timeoutSeconds = none) (slots : Nat) : ∀ (fuel : Nat) {s : RunState}, Sound inv p s →
    (s.simulate p slots fuel).timedOut = s.timedOut
  | 0, _, _ => rfl
  | fuel + 1, s, h => by
    by_cases hn : s.next p slots = []
    · simp only [simulate, hn]
    · rw [simulate_step hn, simulate_timedOut hc hlimit slots fuel (h.run hc _), (h.run_errors hc _).2.2]
      simp [expire_not_mem_next hlimit]

end

end RunState

namespace Stubborn

def node (retries : Nat) : Node := ⟨"call", "fail", "call", [("max_retries", .int retries)], none⟩

def workflow (retries : Nat) : Workflow := { Workflow.empty "flow" "call" with nodes := [node retries] }

theorem validate_workflow (retries : Nat) : (workflow retries).validate .standard = .ok () := rfl

def flow (retries : Nat) : CompiledWorkflow := ⟨workflow retries, _, validate_workflow retries⟩

def engine : Engine := ⟨Builtin.registry, .standalone, []⟩

def context : Context := ⟨"", [], .null, [], .empty⟩

def plan (retries : Nat) : Plan := engine.plan (workflow retries) [node retries] .blank

def start (retries : Nat) : RunState := Engine.start (flow retries) ["call"] "call" context .empty

def first : List RunState.Event := [.queue, .grant "call"]

section
variable (retries : Nat)

theorem scope_eq : (flow retries).graph.reachableFrom "call" = ["call"] := rfl

theorem launched : engine.Launched (flow retries) "call" (plan retries) (start retries) := by
  refine ⟨List.mem_singleton_self "call", .empty, [], context, context, [node retries], .blank, rfl, ?_, rfl, ?_⟩
  · rw [scope_eq]
    rfl
  · rw [scope_eq]
    rfl

theorem maxRetries_eq (h : retries ≤ Settings.retryLimit) : (plan retries).maxRetries (node retries) = retries := by
  have hlimit : (plan retries).maxRetries (node retries) = min retries Settings.retryLimit := rfl
  rw [hlimit, Nat.min_eq_left h]

theorem node?_eq : (plan retries).node? "call" = some (node retries) := rfl

theorem executor_eq : (plan retries).registry.get? (node retries).kind = some (.pure Builtin.failNode) := rfl

theorem resolves (events : List RunState.Event) : (start retries).Resolves (plan retries) "call" (node retries) events :=
  fun _ _ _ _ _ _ => ⟨[("max_retries", .number (.int retries))], rfl⟩

theorem misroute?_eq (c : String × Finished) : (plan retries).misroute? c = none := by
  rw [Option.eq_none_iff_forall_ne_some]
  intro err herr
  obtain ⟨r, n, -, -, hroute⟩ := Plan.misroute?_eq_some.mp herr
  cases hroute

theorem ended : ∃ events, ((start retries).run (plan retries) events).isDone = true ∧
    ((start retries).run (plan retries) events).isCancelled = false ∧
    "call" ∈ (start retries).log RunState.begins (plan retries) events := by
  have h := launched retries
  have hlimit : (plan retries).settings.timeoutSeconds = none := rfl
  have hfirst := h.sound.run h.maintains first
  have hqueued : ((start retries).run (plan retries) first).Queued := .inr rfl
  obtain ⟨events, hrun, hdone⟩ :=
    RunState.simulate_done h.maintains Nat.one_pos _ hfirst hqueued (Nat.lt_succ_self _)
  rw [← RunState.run_append] at hrun hdone
  have htime : ((start retries).run (plan retries) (first ++ events)).timedOut = false := by
    rw [← hrun, hfirst.simulate_timedOut h.maintains hlimit]
    rfl
  have hfatal : ((start retries).run (plan retries) (first ++ events)).fatal = none := by
    rw [(h.sound.run_errors h.maintains _).1, List.findSome?_eq_none_iff.mpr fun c _ => misroute?_eq retries c]
    rfl
  refine ⟨first ++ events, hdone, by simp [RunState.isCancelled, hfatal, htime], ?_⟩
  exact List.mem_append_right [] (List.mem_append_left _ (List.mem_singleton_self "call"))

theorem results_fail {events : List RunState.Event} (hrun : ((start retries).run (plan retries) events).isCancelled = false)
    {rs : List NodeResult} (htries : (start retries).tries (plan retries) "call" events = rs.zipIdx 1) :
    ∀ r ∈ rs, r.status.isOk = false := by
  intro r hr
  rw [← List.zipIdx_map_fst 1 rs, ← htries] at hr
  obtain ⟨t, hmem, rfl⟩ := List.mem_map.mp hr
  have h := launched retries
  obtain ⟨_, _, _, config, -, -, -, hanswer⟩ := h.sound.tries_answer h.maintains (node?_eq retries) (executor_eq retries)
    events hrun t hmem
  rw [hanswer]
  rfl

end

end Stubborn

theorem Engine.Launched.retried_stubborn : ∃ events,
    ((Stubborn.start 2).run (Stubborn.plan 2) events).isDone = true ∧
    ((Stubborn.start 2).run (Stubborn.plan 2) events).isCancelled = false ∧
    ((Stubborn.start 2).tries (Stubborn.plan 2) "call" events).map Prod.snd = [1, 2, 3] ∧
    ∃ message, ("call", .failed (.nodeExecution "call" 3 message)) ∈ (Stubborn.start 2).completions (Stubborn.plan 2) events := by
  obtain ⟨events, hdone, hrun, hid⟩ := Stubborn.ended 2
  obtain ⟨rs, r, f, htries, -, -, -, hf, haccounted, -⟩ := (Stubborn.launched 2).retried hdone hrun hid
    (Stubborn.node?_eq 2) (Stubborn.executor_eq 2) (Stubborn.resolves 2 events)
  rw [Stubborn.maxRetries_eq 2 (by decide)] at haccounted
  have hfails := Stubborn.results_fail 2 hrun htries
  refine ⟨events, hdone, hrun, ?_⟩
  cases haccounted.mpr (.inl (by decide)) with
  | succeeds hpast hr hcount =>
    rw [hfails r (by simp)] at hr
    cases hr
  | fails hpast hcount =>
    refine ⟨?_, _, (hf _).mpr rfl⟩
    rw [htries, List.zipIdx_map_snd, List.length_append, hcount]
    rfl

/-- With as many retries as 32 bits can say, the node is given up before they are used up. -/
theorem Stubborn.not_accounted : ¬∀ (e : Engine) (flow : CompiledWorkflow) (root : String) (p : Plan) (s : RunState)
    (events : List RunState.Event) (id : String) (n : Node) (execute : Executor), e.Launched flow root p s →
    (s.run p events).isDone = true → (s.run p events).isCancelled = false → id ∈ s.log RunState.begins p events →
    p.node? id = some n → p.registry.get? n.kind = some execute → s.Resolves p id n events →
    ∀ rs r f, s.tries p id events = rs.zipIdx 1 → (Engine.respond p (s.run p events)).results.get? id = some r →
      (id, f) ∈ s.completions p events → Accounted id (p.maxRetries n) rs r f := by
  intro hall
  obtain ⟨events, hdone, hrun, hid⟩ := ended Settings.retryLimit
  have h := launched Settings.retryLimit
  have hn := node?_eq Settings.retryLimit
  have hexec := executor_eq Settings.retryLimit
  have hresolves := resolves Settings.retryLimit events
  obtain ⟨rs, r, f, htries, hresult, hf, hlast, hends⟩ :=
    h.exists_end hdone hrun (h.begun_recorded hdone hid) hn hexec hresolves
  have haccounted := hall _ _ _ _ _ events "call" _ _ h hdone hrun hid hn hexec hresolves rs r f htries hresult hf
  rcases (accounted_iff hends hlast).mp haccounted with hlt | ⟨r', hmem, hr'⟩
  · rw [maxRetries_eq _ le_rfl] at hlt
    exact Nat.lt_irrefl _ hlt
  · rw [results_fail _ hrun htries r' hmem] at hr'
    cases hr'

end FlowEngine
