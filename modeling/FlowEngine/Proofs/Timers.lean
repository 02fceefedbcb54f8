import Mathlib
import FlowEngine.Proofs.Entries
import FlowEngine.Proofs.Except
import FlowEngine.Timers

/-!
# Registered timers

What a table of timers should hold is said by its calls alone (`Call.records`). It
does hold that, with one key and one live job for each timer (`Separate`), as long
as no call for a workflow meets a timer of another one whose key starts as the
keys of the former do, and no workflow has two timers of one id (`separate_iff`).
Names without a colon always keep apart (`apart_of_no_colon`).
-/

namespace FlowEngine

/-- What is relied on of a scheduler, given its live jobs with their ids. -/
structure Scheduler.Lawful (S : Scheduler) (live : S.State → List (S.Id × Job)) : Prop where
  empty : live S.empty = []
  fresh : ∀ s job, (S.add s job).1 ∉ (live s).map (·.1)
  add : ∀ s job, (live (S.add s job).2).Perm (((S.add s job).1, job) :: live s)
  remove : ∀ s id job rest, ((live s).map (·.1)).Nodup → (live s).Perm ((id, job) :: rest) →
    (live (S.remove s id)).Perm rest

theorem Scheduler.lt_nextNumber : ∀ {jobs : List (Nat × Job)} {job : Nat × Job}, job ∈ jobs → job.1 < nextNumber jobs
  | j :: jobs, job, h => by
    rw [nextNumber, List.foldr_cons]
    rcases List.mem_cons.mp h with rfl | h
    · exact Nat.lt_of_lt_of_le (Nat.lt_succ_self _) (Nat.le_max_left _ _)
    · exact Nat.lt_of_lt_of_le (lt_nextNumber h) (Nat.le_max_right _ _)

theorem Scheduler.filter_number {jobs rest : List (Nat × Job)} {id : Nat} {job : Job} (hnodup : (jobs.map (·.1)).Nodup)
    (hperm : jobs.Perm ((id, job) :: rest)) : (jobs.filter (·.1 != id)).Perm rest := by
  have hrest : id ∉ rest.map (·.1) := (List.nodup_cons.mp ((hperm.map (·.1)).nodup_iff.mp hnodup)).1
  have hfilter : ((id, job) :: rest).filter (·.1 != id) = rest := by
    rw [List.filter_cons_of_neg (by simp), List.filter_eq_self]
    intro j hj
    have hne : j.1 ≠ id := fun he => hrest (List.mem_map.mpr ⟨j, hj, he⟩)
    simpa using hne
  have hfiltered := hperm.filter (·.1 != id)
  rwa [hfilter] at hfiltered

theorem Scheduler.numbered_lawful : numbered.Lawful fun jobs => jobs where
  empty := rfl
  fresh := by
    intro jobs job h
    obtain ⟨j, hj, he⟩ := List.mem_map.mp h
    exact absurd he (Nat.ne_of_lt (lt_nextNumber hj))
  add := fun _ _ => .refl _
  remove := fun _ _ _ _ => filter_number

/-! ## Keys -/

namespace Job

theorem toList_key (job : Job) : job.key.toList = keyStart job.workflow ++ job.timer.toList := String.toList_ofList

theorem isKeyOf_iff {workflow key : String} : isKeyOf workflow key = true ↔ keyStart workflow <+: key.toList := by
  rw [isKeyOf, List.isPrefixOf_iff_prefix]

theorem isKeyOf_key (job : Job) : isKeyOf job.workflow job.key = true := by
  rw [isKeyOf_iff, toList_key]
  exact List.prefix_append _ _

theorem key_inj {workflow timer timer' : String} (h : key ⟨workflow, timer⟩ = key ⟨workflow, timer'⟩) :
    timer = timer' := by
  have htext := congrArg String.toList h
  rw [toList_key, toList_key] at htext
  exact String.toList_inj.mp (List.append_cancel_left htext)

/-- The name before the first colon is the only one that a key belongs to. -/
theorem workflow_eq_of_isKeyOf {workflow : String} {job : Job} (h : isKeyOf workflow job.key = true)
    (hworkflow : ':' ∉ workflow.toList) (hjob : ':' ∉ job.workflow.toList) : job.workflow = workflow := by
  obtain ⟨rest, hrest⟩ := isKeyOf_iff.mp h
  rw [toList_key, keyStart, keyStart, List.append_assoc, List.append_assoc] at hrest
  have hspan (name tail : List Char) (hname : ':' ∉ name) :
      (name ++ ([':'] ++ tail)).takeWhile (· != ':') = name := by
    rw [List.takeWhile_append_of_pos fun c hc => by simpa using fun he : c = ':' => hname (he ▸ hc)]
    simp
  have htake := congrArg (List.takeWhile (· != ':')) hrest
  rw [hspan _ _ hworkflow, hspan _ _ hjob] at htake
  exact (String.toList_inj.mp htake).symm

end Job

/-! ## Calls -/

namespace TimerTable

inductive Call where
  | update (flow : CompiledWorkflow)
  | remove (workflow : String)

namespace Call

def workflow : Call → String
  | update flow => flow.name
  | remove workflow => workflow

def jobs : Call → List Job
  | update flow => flow.timerIds.map (Job.mk flow.name)
  | remove _ => []

def record (records : List Job) (call : Call) : List Job :=
  records.filter (fun job => job.workflow != call.workflow) ++ call.jobs

/-- The timers that are registered after some calls, each with its workflow. -/
def records (calls : List Call) : List Job := calls.foldl record []

/-- No call is for a workflow to which the key of another's timer belongs. -/
def Apart (calls : List Call) : Prop :=
  ∀ before call after, calls = before ++ call :: after →
    ∀ job ∈ records before, Job.isKeyOf call.workflow job.key = true → job.workflow = call.workflow

theorem jobs_workflow {call : Call} {job : Job} (h : job ∈ call.jobs) : job.workflow = call.workflow := by
  cases call with
  | update flow =>
    obtain ⟨timer, -, rfl⟩ := List.mem_map.mp h
    rfl
  | remove workflow => cases h

theorem records_append (before : List Call) (call : Call) :
    records (before ++ [call]) = record (records before) call := List.foldl_concat ..

theorem exists_call_of_record {job : Job} {calls : List Call} (h : job ∈ records calls) :
    ∃ call ∈ calls, call.workflow = job.workflow := by
  induction calls using List.reverseRecOn with
  | nil => cases h
  | append_singleton calls call ih =>
    rw [records_append, record] at h
    rcases List.mem_append.mp h with h | h
    · obtain ⟨c, hc, he⟩ := ih (List.mem_filter.mp h).1
      exact ⟨c, List.mem_append_left _ hc, he⟩
    · exact ⟨call, by simp, (jobs_workflow h).symm⟩

theorem apart_of_no_colon {calls : List Call} (h : ∀ call ∈ calls, ':' ∉ call.workflow.toList) : Apart calls := by
  rintro before call after rfl job hjob hkey
  obtain ⟨c, hc, he⟩ := exists_call_of_record hjob
  exact Job.workflow_eq_of_isKeyOf hkey (h call (by simp)) (he ▸ h c (by simp [hc]))

end Call

variable {S : Scheduler}

def call (t : TimerTable S) : Call → TimerTable S
  | .update flow => (t.register flow).2
  | .remove workflow => (t.unregister workflow).2

def calls (t : TimerTable S) (calls : List Call) : TimerTable S := calls.foldl call t

theorem call_eq (t : TimerTable S) (c : Call) : t.call c = c.jobs.foldl add (t.unregister c.workflow).2 := by
  cases c <;> rfl

/-! ## Faithful tables -/

section
variable (live : S.State → List (S.Id × Job))

/-- The keys are those of the given timers, no two share one, and for each timer there is one
live job, which its key leads to. -/
structure Faithful (jobs : List Job) (t : TimerTable S) : Prop where
  keys : t.ids.keys.Perm (jobs.map Job.key)
  once : t.ids.keys.Nodup
  each : ((live t.scheduler).map (·.2)).Perm jobs
  ids : ((live t.scheduler).map (·.1)).Nodup
  owned : ∀ job ∈ jobs, ∃ id, t.ids.get? job.key = some id ∧ (id, job) ∈ live t.scheduler

/-- The timers keep their keys and their jobs. -/
def Undisturbed (jobs : List Job) (t t' : TimerTable S) : Prop :=
  ∀ job ∈ jobs, t'.ids.get? job.key = t.ids.get? job.key ∧
    ∀ id, (id, job) ∈ live t'.scheduler ↔ (id, job) ∈ live t.scheduler

end

section
variable {live : S.State → List (S.Id × Job)} (hS : S.Lawful live) {t t' t'' : TimerTable S} {jobs : List Job}

theorem Undisturbed.trans {kept : List Job} (h : Undisturbed live jobs t t') (h' : Undisturbed live kept t' t'')
    (hsub : kept ⊆ jobs) : Undisturbed live kept t t'' := by
  intro job hjob
  obtain ⟨hget, hlive⟩ := h job (hsub hjob)
  obtain ⟨hget', hlive'⟩ := h' job hjob
  exact ⟨hget'.trans hget, fun id => (hlive' id).trans (hlive id)⟩

theorem Faithful.nodup (h : Faithful live jobs t) : (jobs.map Job.key).Nodup := h.keys.nodup_iff.mp h.once

theorem Faithful.split (h : Faithful live jobs t) {job : Job} (hjob : job ∈ jobs) :
    ∃ id rest, t.ids.get? job.key = some id ∧ (live t.scheduler).Perm ((id, job) :: rest) ∧
      jobs.Perm (job :: rest.map (·.2)) ∧ (rest.map (·.2)).Perm (jobs.filter fun j => j.key != job.key) := by
  obtain ⟨id, hid, hlive⟩ := h.owned job hjob
  obtain ⟨front, back, hsplit⟩ := List.append_of_mem hlive
  have hperm : (live t.scheduler).Perm ((id, job) :: (front ++ back)) := hsplit ▸ List.perm_middle
  have hjobs : jobs.Perm (job :: (front ++ back).map (·.2)) := h.each.symm.trans (hperm.map _)
  refine ⟨id, front ++ back, hid, hperm, hjobs, ?_⟩
  generalize (front ++ back).map (·.2) = others at hjobs
  have hnodup : job.key ∉ others.map Job.key :=
    (List.nodup_cons.mp ((hjobs.map Job.key).nodup_iff.mp h.nodup)).1
  have hfilter : (job :: others).filter (fun j => j.key != job.key) = others := by
    rw [List.filter_cons_of_neg (by simp), List.filter_eq_self]
    intro j hj
    have hne : j.key ≠ job.key := fun he => hnodup (List.mem_map.mpr ⟨j, hj, he⟩)
    simpa using hne
  exact hfilter ▸ (hjobs.filter _).symm

include hS

theorem faithful_empty : Faithful live [] (empty : TimerTable S) where
  keys := .refl _
  once := List.nodup_nil
  each := by rw [empty, hS.empty]; exact .refl _
  ids := by rw [empty, hS.empty]; exact List.nodup_nil
  owned := fun job hjob => by cases hjob

theorem Faithful.drop (h : Faithful live jobs t) {key : String} (hkey : key ∈ t.ids.keys) :
    Faithful live (jobs.filter fun job => job.key != key) (t.drop key) ∧
      Undisturbed live (jobs.filter fun job => job.key != key) t (t.drop key) := by
  obtain ⟨job, hjob, rfl⟩ := List.mem_map.mp (h.keys.mem_iff.mp hkey)
  obtain ⟨id, rest, hid, hperm, hjobs, hleft⟩ := h.split hjob
  have hdrop : t.drop job.key = { t with ids := t.ids.erase job.key, scheduler := S.remove t.scheduler id } := by
    rw [TimerTable.drop, Entries.take_eq, hid]
  have hrest := hS.remove t.scheduler id job rest h.ids hperm
  have hkept : ∀ j ∈ jobs.filter (fun j => j.key != job.key), job.key ≠ j.key ∧
      ∀ i, (i, j) ∈ live t.scheduler ↔ (i, j) ∈ rest := by
    intro j hj
    have hne : j.key ≠ job.key := by simpa using (List.mem_filter.mp hj).2
    refine ⟨hne.symm, fun i => hperm.mem_iff.trans ?_⟩
    rw [List.mem_cons, or_iff_right]
    intro he
    cases he
    exact hne rfl
  rw [hdrop]
  constructor
  · refine
      { keys := ?_
        once := h.once.sublist (Entries.keys_erase_sublist t.ids job.key)
        each := (hrest.map _).trans hleft
        ids := (hrest.map _).nodup_iff.mpr (List.nodup_cons.mp ((hperm.map _).nodup_iff.mp h.ids)).2
        owned := ?_ }
    · show (t.ids.erase job.key).keys.Perm _
      rw [Entries.keys_erase]
      refine ((h.keys.trans (hjobs.map Job.key)).erase job.key).trans ?_
      rw [List.map_cons, List.erase_cons_head]
      exact hleft.map Job.key
    · intro j hj
      obtain ⟨i, hget, hmem⟩ := h.owned j (List.mem_filter.mp hj).1
      obtain ⟨hne, hiff⟩ := hkept j hj
      exact ⟨i, (Entries.get?_erase_of_ne t.ids hne).trans hget, hrest.mem_iff.mpr ((hiff i).mp hmem)⟩
  · intro j hj
    obtain ⟨hne, hiff⟩ := hkept j hj
    exact ⟨Entries.get?_erase_of_ne t.ids hne, fun i => hrest.mem_iff.trans (hiff i).symm⟩

theorem Faithful.drops : ∀ {keys : List String} {jobs : List Job} {t : TimerTable S}, Faithful live jobs t → keys.Nodup →
    keys ⊆ t.ids.keys → Faithful live (jobs.filter fun job => !keys.contains job.key) (keys.foldl TimerTable.drop t) ∧
      Undisturbed live (jobs.filter fun job => !keys.contains job.key) t (keys.foldl TimerTable.drop t)
  | [], jobs, t, h, _, _ => by
    have hall : jobs.filter (fun job => !([] : List String).contains job.key) = jobs := by simp
    rw [hall]
    exact ⟨h, fun _ _ => ⟨rfl, fun _ => Iff.rfl⟩⟩
  | key :: keys, jobs, t, h, hnodup, hsub => by
    obtain ⟨hkey, hkeys⟩ := List.nodup_cons.mp hnodup
    obtain ⟨hmem, hrest⟩ := List.cons_subset.mp hsub
    obtain ⟨h1, h2⟩ := h.drop hS hmem
    have hleft : keys ⊆ (t.drop key).ids.keys := by
      intro k hk
      rw [h1.keys.mem_iff]
      obtain ⟨job, hjob, rfl⟩ := List.mem_map.mp (h.keys.mem_iff.mp (hrest hk))
      have hne : job.key ≠ key := fun he => hkey (he ▸ hk)
      exact List.mem_map.mpr ⟨job, List.mem_filter.mpr ⟨hjob, by simpa using hne⟩, rfl⟩
    obtain ⟨h3, h4⟩ := drops h1 hkeys hleft
    have hfilter : (jobs.filter fun job => job.key != key).filter (fun job => !keys.contains job.key)
        = jobs.filter fun job => !(key :: keys).contains job.key := by
      rw [List.filter_filter]
      congr 1
      funext job
      rw [List.contains_cons, Bool.not_or, Bool.and_comm]
      rfl
    rw [hfilter] at h3 h4
    refine ⟨h3, h2.trans h4 ?_⟩
    rw [← hfilter]
    exact List.filter_subset_self _

theorem Faithful.unregister (h : Faithful live jobs t) (workflow : String) :
    Faithful live (jobs.filter fun job => !Job.isKeyOf workflow job.key) (t.unregister workflow).2 ∧
      Undisturbed live (jobs.filter fun job => !Job.isKeyOf workflow job.key) t (t.unregister workflow).2 := by
  have hdrops := h.drops hS (h.once.filter (Job.isKeyOf workflow)) (List.filter_subset_self _)
  have hfilter : (jobs.filter fun job => !(t.ids.keys.filter (Job.isKeyOf workflow)).contains job.key)
      = jobs.filter fun job => !Job.isKeyOf workflow job.key := by
    apply List.filter_congr
    intro job hjob
    have hkey : job.key ∈ t.ids.keys := h.keys.mem_iff.mpr (List.mem_map.mpr ⟨job, hjob, rfl⟩)
    rw [Bool.not_inj_iff, Bool.eq_iff_iff, List.contains_iff_mem, List.mem_filter]
    exact and_iff_right hkey
  rw [hfilter] at hdrops
  exact hdrops

theorem Faithful.add (h : Faithful live jobs t) {job : Job} (hkey : job.key ∉ t.ids.keys) :
    Faithful live (jobs ++ [job]) (t.add job) ∧ Undisturbed live jobs t (t.add job) := by
  have hfresh := hS.fresh t.scheduler job
  have hperm := hS.add t.scheduler job
  have hne : ∀ j ∈ jobs, job.key ≠ j.key := fun j hj he =>
    hkey (h.keys.mem_iff.mpr (List.mem_map.mpr ⟨j, hj, he.symm⟩))
  have hget : ∀ j ∈ jobs, (t.add job).ids.get? j.key = t.ids.get? j.key := by
    intro j hj
    rw [TimerTable.add, Entries.get?_insert, if_neg (hne j hj)]
  constructor
  · refine
      { keys := ?_
        once := ?_
        each := ?_
        ids := (hperm.map _).nodup_iff.mpr (List.nodup_cons.mpr ⟨hfresh, h.ids⟩)
        owned := ?_ }
    · show (t.ids.insert job.key _).keys.Perm _
      rw [Entries.insert_of_not_mem _ hkey, Entries.keys, List.map_append, List.map_append]
      exact h.keys.append_right _
    · show (t.ids.insert job.key _).keys.Nodup
      rw [Entries.insert_of_not_mem _ hkey, Entries.keys, List.map_append]
      exact (List.perm_append_singleton _ _).nodup_iff.mpr (List.nodup_cons.mpr ⟨hkey, h.once⟩)
    · have hjobs : ((live (S.add t.scheduler job).2).map (·.2)).Perm (job :: (live t.scheduler).map (·.2)) :=
        hperm.map _
      exact (hjobs.trans (h.each.cons job)).trans (List.perm_append_singleton _ _).symm
    · intro j hj
      rcases List.mem_append.mp hj with hj | hj
      · obtain ⟨id, hid, hmem⟩ := h.owned j hj
        exact ⟨id, (hget j hj).trans hid, hperm.mem_iff.mpr (List.mem_cons_of_mem _ hmem)⟩
      · rw [List.mem_singleton.mp hj]
        refine ⟨(S.add t.scheduler job).1, ?_, hperm.mem_iff.mpr (by simp)⟩
        rw [TimerTable.add, Entries.get?_insert, if_pos rfl]
  · intro j hj
    refine ⟨hget j hj, fun id => hperm.mem_iff.trans ?_⟩
    rw [List.mem_cons, or_iff_right]
    intro he
    cases he
    exact hne job hj rfl

theorem Faithful.adds : ∀ {new jobs : List Job} {t : TimerTable S}, Faithful live jobs t → (new.map Job.key).Nodup →
    (∀ job ∈ new, job.key ∉ t.ids.keys) →
    Faithful live (jobs ++ new) (new.foldl TimerTable.add t) ∧ Undisturbed live jobs t (new.foldl TimerTable.add t)
  | [], jobs, t, h, _, _ => by
    rw [List.append_nil]
    exact ⟨h, fun _ _ => ⟨rfl, fun _ => Iff.rfl⟩⟩
  | job :: new, jobs, t, h, hnodup, hnew => by
    obtain ⟨hjob, hrest⟩ := List.nodup_cons.mp hnodup
    obtain ⟨hkey, hkeys⟩ := List.forall_mem_cons.mp hnew
    obtain ⟨h1, h2⟩ := h.add hS hkey
    have hleft : ∀ j ∈ new, j.key ∉ (t.add job).ids.keys := by
      intro j hj hm
      rw [h1.keys.mem_iff, List.map_append] at hm
      rcases List.mem_append.mp hm with hm | hm
      · exact hkeys j hj (h.keys.mem_iff.mpr hm)
      · rw [List.map_singleton, List.mem_singleton] at hm
        exact hjob (hm ▸ List.mem_map.mpr ⟨j, hj, rfl⟩)
    obtain ⟨h3, h4⟩ := adds h1 hrest hleft
    rw [List.append_assoc, List.singleton_append] at h3
    exact ⟨h3, fun j hj => (h2.trans (fun j hj => h4 j (List.mem_append_left _ hj)) (List.Subset.refl _)) j hj⟩

theorem live_adds : ∀ (new : List Job) (t : TimerTable S),
    ((live (new.foldl TimerTable.add t).scheduler).map (·.2)).Perm (new ++ (live t.scheduler).map (·.2))
  | [], _ => .refl _
  | job :: new, t => by
    rw [List.foldl_cons]
    refine (live_adds new (t.add job)).trans ?_
    exact (((hS.add t.scheduler job).map (·.2)).append_left new).trans List.perm_middle

/-! ## After each call -/

theorem Faithful.call (h : Faithful live jobs t) {c : Call} (hc : c.jobs.Nodup)
    (hapart : ∀ job ∈ jobs, Job.isKeyOf c.workflow job.key = true → job.workflow = c.workflow) :
    Faithful live (c.record jobs) (t.call c) ∧
      Undisturbed live (jobs.filter fun job => job.workflow != c.workflow) t (t.call c) := by
  obtain ⟨h1, h2⟩ := h.unregister hS c.workflow
  have hkeys : (c.jobs.map Job.key).Nodup := by
    refine hc.map_on fun j hj j' hj' he => ?_
    obtain ⟨w, timer⟩ := j
    obtain ⟨w', timer'⟩ := j'
    have hw : w = c.workflow := Call.jobs_workflow hj
    have hw' : w' = c.workflow := Call.jobs_workflow hj'
    subst hw hw'
    rw [Job.key_inj he]
  have hnew : ∀ job ∈ c.jobs, job.key ∉ (t.unregister c.workflow).2.ids.keys := by
    intro job hjob hm
    obtain ⟨j, hj, he⟩ := List.mem_map.mp (h1.keys.mem_iff.mp hm)
    have hnot := (List.mem_filter.mp hj).2
    have hown := Job.isKeyOf_key job
    rw [Call.jobs_workflow hjob, ← he] at hown
    rw [hown] at hnot
    cases hnot
  obtain ⟨h3, h4⟩ := h1.adds hS hkeys hnew
  have hfilter : (jobs.filter fun job => !Job.isKeyOf c.workflow job.key)
      = jobs.filter fun job => job.workflow != c.workflow := by
    apply List.filter_congr
    intro job hjob
    rw [bne, Bool.not_inj_iff, Bool.eq_iff_iff, beq_iff_eq]
    exact ⟨hapart job hjob, fun he => he ▸ Job.isKeyOf_key job⟩
  rw [hfilter] at h2 h3 h4
  rw [call_eq]
  exact ⟨h3, h2.trans h4 (List.Subset.refl _)⟩

omit hS in
theorem calls_append (t : TimerTable S) (before : List Call) (c : Call) :
    t.calls (before ++ [c]) = (t.calls before).call c := List.foldl_concat ..

theorem faithful_of_apart : ∀ {calls : List Call}, (∀ c ∈ calls, c.jobs.Nodup) → Call.Apart calls →
    Faithful live (Call.records calls) ((empty : TimerTable S).calls calls) := by
  intro calls hjobs hapart
  induction calls using List.reverseRecOn with
  | nil => exact faithful_empty hS
  | append_singleton before c ih =>
    have hbefore : Call.Apart before := by
      rintro front call back rfl
      exact hapart front call (back ++ [c]) (by simp)
    have h := ih (fun c hc => hjobs c (List.mem_append_left _ hc)) hbefore
    rw [calls_append, Call.records_append]
    exact (h.call hS (hjobs c (by simp)) (hapart before c [] rfl)).1

theorem Faithful.lost (h : Faithful live jobs t) {c : Call} {job : Job}
    (hkey : Job.isKeyOf c.workflow job.key = true) (hother : job.workflow ≠ c.workflow) :
    job ∉ (live (t.call c).scheduler).map (·.2) := by
  rw [call_eq]
  intro hm
  rcases List.mem_append.mp ((live_adds hS c.jobs _).mem_iff.mp hm) with hm | hm
  · exact hother (Call.jobs_workflow hm)
  · have hleft := (List.mem_filter.mp ((h.unregister hS c.workflow).1.each.mem_iff.mp hm)).2
    rw [hkey] at hleft
    cases hleft

end

/-- After each call the table is faithful to what the calls say, and the timers of other
workflows are as they were. -/
def Separate (live : S.State → List (S.Id × Job)) (calls : List Call) : Prop :=
  ∀ before call after, calls = before ++ call :: after →
    Faithful live (Call.records (before ++ [call])) ((empty : TimerTable S).calls (before ++ [call])) ∧
    Undisturbed live ((Call.records before).filter fun job => job.workflow != call.workflow)
      ((empty : TimerTable S).calls before) ((empty : TimerTable S).calls (before ++ [call]))

theorem Call.nodup_jobs {c : Call} (h : ∀ flow, c = .update flow → flow.workflow.nodeIds.Nodup) : c.jobs.Nodup := by
  cases c with
  | update flow =>
    have htimers : flow.timerIds.Nodup := (h flow rfl).sublist (List.filter_sublist.map _)
    exact htimers.map fun a b he => (Job.mk.inj he).2
  | remove workflow => exact List.nodup_nil

/-- The timers of different workflows do not interfere exactly as long as no call is for a
workflow to which the key of another's timer belongs, and no workflow has two timers of one id. -/
theorem separate_iff {live : S.State → List (S.Id × Job)} (hS : S.Lawful live) {calls : List Call} :
    Separate live calls ↔ Call.Apart calls ∧ ∀ c ∈ calls, c.jobs.Nodup := by
  constructor
  · intro h
    refine ⟨?_, fun c hc => ?_⟩
    · rintro before call after rfl job hjob hkey
      by_contra hother
      have hbefore : Faithful live (Call.records before) ((empty : TimerTable S).calls before) := by
        rcases List.eq_nil_or_concat before with rfl | ⟨front, last, rfl⟩
        · exact faithful_empty hS
        · rw [List.concat_eq_append] at h ⊢
          exact (h front last (call :: after) (by simp)).1
      have hafter := (h before call after rfl).1
      rw [calls_append, Call.records_append] at hafter
      refine hbefore.lost hS hkey hother (hafter.each.mem_iff.mpr ?_)
      exact List.mem_append_left _ (List.mem_filter.mpr ⟨hjob, by simpa using hother⟩)
    · obtain ⟨before, after, hcalls⟩ := List.append_of_mem hc
      have hnodup := (h before c after hcalls).1.nodup
      rw [Call.records_append, Call.record, List.map_append] at hnodup
      exact (List.nodup_append.mp hnodup).2.1.of_map
  · rintro ⟨h, hjobs⟩ before call after rfl
    have hbefore : Call.Apart before := by
      rintro front c back rfl
      exact h front c (back ++ call :: after) (by simp)
    have hfaithful := faithful_of_apart hS (fun c hc => hjobs c (List.mem_append_left _ hc)) hbefore
    rw [calls_append, Call.records_append]
    exact hfaithful.call hS (hjobs call (by simp)) (h before call after rfl)

/-! ## Clocks -/

namespace Clock

def workflow (name : String) : Workflow :=
  { Workflow.empty name "work" with
    nodes := [⟨"tick", "timer", "tick", [("schedule", .string "0 0 * * * *")], some "work"⟩,
      ⟨"work", "set", "work", [], none⟩] }

set_option maxRecDepth 20000 in
theorem validate_workflow (name : String) : (workflow name).validate .standard = .ok () := by
  have hvalid : ((workflow name).validate .standard).toOption = some () := rfl
  exact eq_ok_of_toOption hvalid

def flow (name : String) : CompiledWorkflow := ⟨workflow name, _, validate_workflow name⟩

theorem nodup_nodeIds (name : String) : (flow name).workflow.nodeIds.Nodup := by
  show ["tick", "work"].Nodup
  decide

def apart : List Call := [.update (flow "a"), .update (flow "b"), .update (flow "a"), .remove "b"]

/-- The name of one workflow is how the keys of the other start. -/
def mixed : List Call := [.update (flow "a"), .update (flow "a:b"), .remove "a"]

end Clock

theorem separate_iff_clock : Scheduler.numbered.Lawful (fun jobs => jobs) ∧ Call.Apart Clock.apart ∧
    (∀ c ∈ Clock.apart, c.jobs.Nodup) ∧ Separate (S := .numbered) (fun jobs => jobs) Clock.apart := by
  have hjobs : ∀ c ∈ Clock.apart, c.jobs.Nodup := by
    intro c hc
    refine Call.nodup_jobs fun flow he => ?_
    subst he
    simp only [Clock.apart, List.mem_cons, Call.update.injEq, reduceCtorEq, List.not_mem_nil, or_false] at hc
    rcases hc with rfl | rfl | rfl <;> exact Clock.nodup_nodeIds _
  have hapart : Call.Apart Clock.apart := by
    refine Call.apart_of_no_colon fun c hc => ?_
    simp only [Clock.apart, List.mem_cons, List.not_mem_nil, or_false] at hc
    rcases hc with rfl | rfl | rfl | rfl <;> decide
  exact ⟨Scheduler.numbered_lawful, hapart, hjobs, (separate_iff Scheduler.numbered_lawful).mpr ⟨hapart, hjobs⟩⟩

theorem Clock.not_separate : (∀ c ∈ mixed, c.jobs.Nodup) ∧ ¬Separate (S := .numbered) (fun jobs => jobs) mixed := by
  constructor
  · intro c hc
    refine Call.nodup_jobs fun flow he => ?_
    subst he
    simp only [mixed, List.mem_cons, Call.update.injEq, reduceCtorEq, List.not_mem_nil, or_false] at hc
    rcases hc with rfl | rfl <;> exact nodup_nodeIds _
  · intro h
    have htable : ((empty : Timers).calls mixed).ids.keys = [] := by decide +kernel
    have hrecords : (Call.records mixed).map Job.key = ["a:b:tick"] := by decide +kernel
    have hkeys : ((empty : Timers).calls mixed).ids.keys.Perm ((Call.records mixed).map Job.key) :=
      (h [.update (flow "a"), .update (flow "a:b")] (.remove "a") [] rfl).1.keys
    rw [htable, hrecords] at hkeys
    exact absurd hkeys.length_eq (by decide)

end TimerTable

end FlowEngine
