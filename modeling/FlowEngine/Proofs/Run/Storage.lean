import Mathlib
import FlowEngine.Proofs.Run.Retry
import FlowEngine.Run.Builtin

/-!
# Storage nodes

One execution of a storage node fails and leaves the store as it was, or applies
one operation to the entry under its key and to no other (`executes_storageNode`).
A node whose attempt succeeded makes no other attempt, so of all the events of a
run that serve a storage node at most one changes the store (`storage_atomic`).
-/

namespace FlowEngine

/-! ## The store -/

namespace Store

/-- What a value counts as when it is incremented: a key that is missing or null counts
as 0, and an integer of 64 bits as itself. -/
inductive CountsAs : Option Json → Int → Prop
  | missing : CountsAs none 0
  | null : CountsAs (some .null) 0
  | int {i : Int} (h : isInt64 i = true) : CountsAs (some (.int i)) i

section
variable (s : Store) (key : String)

theorem set_fst (value : Json) : (s.set key value).1 = s.get? key := Entries.put_fst s.entries key value

theorem get?_set (value : Json) (other : String) :
    (s.set key value).2.get? other = if key = other then some value else s.get? other :=
  Entries.get?_insert s.entries key value other

theorem get?_delete (other : String) : (s.delete key).2.get? other = if key = other then none else s.get? other :=
  Entries.get?_filter_ne key s.entries other

theorem counter_eq_ok_iff (i : Int) : s.counter key = .ok i ↔ CountsAs (s.get? key) i := by
  unfold counter
  split
  · rename_i hv
    rw [hv, Except.ok.injEq]
    exact ⟨fun h => h ▸ .missing, fun h => by cases h; rfl⟩
  · rename_i hv
    rw [hv, Except.ok.injEq]
    exact ⟨fun h => h ▸ .null, fun h => by cases h; rfl⟩
  · rename_i n hv
    rw [hv]
    cases n with
    | float x => exact ⟨nofun, nofun⟩
    | int j =>
      simp only [Json.Number.toInt64?]
      split_ifs with hj
      · rw [Except.ok.injEq]
        exact ⟨fun h => h ▸ .int hj, fun h => by cases h; rfl⟩
      · refine ⟨nofun, fun h => ?_⟩
        cases h
        exact absurd ‹_› hj
  · rename_i v hnone hnull hnumber hv
    rw [hv]
    refine ⟨nofun, fun h => ?_⟩
    cases h with
    | null => exact absurd rfl hnull
    | int _ => exact absurd rfl (hnumber _)

theorem increment_eq_ok_iff (amount value : Int) (s' : Store) : s.increment key amount = .ok (value, s') ↔
    ∃ i, CountsAs (s.get? key) i ∧ value = i + amount ∧ isInt64 value = true ∧ s' = (s.set key (.int value)).2 := by
  unfold increment
  rw [bind_eq_ok]
  constructor
  · rintro ⟨i, hi, h⟩
    simp only at h
    split_ifs at h with hr
    cases h
    exact ⟨i, (counter_eq_ok_iff s key i).mp hi, rfl, hr, rfl⟩
  · rintro ⟨i, hi, rfl, hr, rfl⟩
    refine ⟨i, (counter_eq_ok_iff s key i).mpr hi, ?_⟩
    simp only [hr, if_true]

end

end Store

/-! ## One execution -/

namespace Builtin

open Store (CountsAs)

/-- What an operation makes of the value under its key, and what it answers. -/
inductive Operation.Makes (key : String) : Operation → Option Json → Option Json → NodeResult → Prop
  | set (value : Json) (old : Option Json) : Makes key (.set value) old (some value)
      (.success (.object [("key", .string key), ("value", value), ("previous", .ofOption id old)]))
  | found (value : Json) : Makes key .get (some value) (some value)
      (.success (.object [("key", .string key), ("value", value), ("found", .bool true)]))
  | notFound : Makes key .get none none (.warning ("key '" ++ key ++ "' not found")
      (.object [("key", .string key), ("value", .null), ("found", .bool false)]))
  | delete (old : Option Json) : Makes key .delete old none
      (.success (.object [("key", .string key), ("deleted", .bool old.isSome)]))
  | increment {old : Option Json} {i amount : Int} (hold : CountsAs old i) (hsum : isInt64 (i + amount) = true) :
      Makes key (.increment amount) old (some (.int (i + amount)))
        (.success (.object [("key", .string key), ("value", .int (i + amount))]))

/-- An operation is applied to the entry under a key and to no other. -/
structure Operation.Applies (key : String) (op : Operation) (s s' : Store) (r : NodeResult) : Prop where
  makes : op.Makes key (s.get? key) (s'.get? key) r
  others : ∀ other, other ≠ key → s'.get? other = s.get? other

/-- One execution fails and leaves the store as it was, or applies the operation of its
configuration. -/
inductive Executes (config : Entries Json) (s : Store) : Outcome → Store → Prop
  | fails (causes : List String) : Executes config s (.failure causes) s
  | applies {key : String} {op : Operation} {r : NodeResult} {s' : Store} (hkey : config.text? "key" = some key)
      (hop : operation? config = .ok op) (h : op.Applies key s s' r) : Executes config s (.result r) s'

theorem Operation.Makes.isOk {key : String} {op : Operation} {old new : Option Json} {r : NodeResult}
    (h : op.Makes key old new r) : r.status.isOk = true := by
  cases h <;> rfl

section
variable {config : Entries Json} {key : String} {s : Store}

theorem applies_insert {op : Operation} {value : Json} {r : NodeResult} (h : op.Makes key (s.get? key) (some value) r) :
    op.Applies key s (s.set key value).2 r where
  makes := by rwa [s.get?_set, if_pos rfl]
  others := fun other ho => by rw [s.get?_set, if_neg ho.symm]

theorem applies_delete : Operation.delete.Applies key s (s.delete key).2
    (.success (.object [("key", .string key), ("deleted", .bool (s.get? key).isSome)])) where
  makes := by
    rw [s.get?_delete, if_pos rfl]
    exact .delete _
  others := fun other ho => by rw [s.get?_delete, if_neg ho.symm]

theorem Operation.run_set (value : Json) : (Operation.set value).run key s =
    (.result (.success (.object [("key", .string key), ("value", value), ("previous", .ofOption id (s.get? key))])),
      (s.set key value).2) := by
  rw [← s.set_fst key value]
  rfl

theorem Operation.run_executes {op : Operation} (hkey : config.text? "key" = some key)
    (hop : operation? config = .ok op) : Executes config s (op.run key s).1 (op.run key s).2 := by
  cases op with
  | set value =>
    rw [run_set]
    exact .applies hkey hop (applies_insert (.set value _))
  | get =>
    rw [run]
    split
    · rename_i value hv
      exact .applies hkey hop ⟨by rw [hv]; exact .found value, fun _ _ => rfl⟩
    · rename_i hv
      exact .applies hkey hop ⟨by rw [hv]; exact .notFound, fun _ _ => rfl⟩
  | delete => exact .applies hkey hop applies_delete
  | increment amount =>
    rw [run]
    split
    · rename_i value s' hinc
      obtain ⟨i, hi, rfl, hsum, rfl⟩ := (s.increment_eq_ok_iff key amount _ _).mp hinc
      exact .applies hkey hop (applies_insert (.increment hi hsum))
    · exact .fails _

theorem Operation.run_increment_iff (amount : Int) : (∃ r, ((Operation.increment amount).run key s).1 = .result r) ↔
    ∃ i, CountsAs (s.get? key) i ∧ isInt64 (i + amount) = true := by
  constructor
  · rintro ⟨r, hr⟩
    rw [run] at hr
    split at hr
    · rename_i value s' hinc
      obtain ⟨i, hi, rfl, hsum, -⟩ := (s.increment_eq_ok_iff key amount _ _).mp hinc
      exact ⟨i, hi, hsum⟩
    · cases hr
  · rintro ⟨i, hi, hsum⟩
    have hinc := (s.increment_eq_ok_iff key amount _ _).mpr ⟨i, hi, rfl, hsum, rfl⟩
    simp only [run, hinc]
    exact ⟨_, rfl⟩

end

section
variable (config : Entries Json) (context : NodeContext) (s : Store)

theorem executes_storageNode :
    Executes config s (storageNode config context s).outcome (storageNode config context s).store := by
  unfold storageNode
  split
  · exact .fails _
  · rename_i key hkey
    split
    · exact .fails _
    · exact Operation.run_executes hkey ‹_›

theorem storageNode_delay : (storageNode config context s).delay = 0 := by
  unfold storageNode
  split
  · rfl
  · split <;> rfl

theorem storageNode_increment_iff {key : String} {amount : Int} (hkey : config.text? "key" = some key)
    (hop : operation? config = .ok (.increment amount)) :
    (∃ r, (storageNode config context s).outcome = .result r) ↔
      ∃ i, CountsAs (s.get? key) i ∧ isInt64 (i + amount) = true := by
  have hrun : (storageNode config context s).outcome = ((Operation.increment amount).run key s).1 := by
    simp only [storageNode, hkey, hop]
    rfl
  rw [hrun, Operation.run_increment_iff]

end

end Builtin

/-! ## The attempts of a node -/

theorem Node.attemptTimeout?_pos {n : Node} {limit : Nat} (h : n.attemptTimeout? = some limit) : 0 < limit := by
  unfold Node.attemptTimeout? at h
  simpa using (Option.filter_eq_some_iff.mp h).2

theorem underLimit_now (n : Node) {a : Action} (h : a.delay = 0) :
    underLimit n.attemptTimeout? a = (0, a.outcome.toResult) := by
  unfold underLimit
  cases hl : n.attemptTimeout? with
  | none => simp only [h]
  | some limit =>
    have := Node.attemptTimeout?_pos hl
    simp only [h]
    rw [if_neg (by omega)]

namespace RunState

structure Unspent (s : RunState) (id : String) : Prop where
  attempting : ∀ k r due, s.active.get? id = some (.attempting k r due) → r.status.isOk = false
  recorded : ∀ r, s.context.results.get? id = some r → r.status.isOk = false

/-- An attempt of a node succeeded, and its result is recorded as soon as it is due. -/
structure Spent (s : RunState) (id : String) (r : NodeResult) : Prop where
  ok : r.status.isOk = true
  stands : (∃ k due, s.active.get? id = some (.attempting k r due)) ∨ s.context.results.get? id = some r

/-- The operation that the configuration of a node asks for in one state is applied in the next. -/
def Operates (p : Plan) (n : Node) (s s' : RunState) (r : NodeResult) : Prop :=
  ∃ config key op, s.resolveConfig p n = .ok config ∧ config.text? "key" = some key ∧
    Builtin.operation? config = .ok op ∧ op.Applies key s.store s'.store r

/-- What an event comes to that serves a storage node: it leaves the store and the node may be
tried again, or it applies an operation and the node is not. -/
def Transacts (p : Plan) (id : String) (n : Node) (s s' : RunState) : Prop :=
  s'.store = s.store ∧ s'.Unspent id ∨ ∃ r, Operates p n s s' r ∧ s'.Spent id r

section
variable {inv : Readiness → Prop} {p : Plan} {scope : List String} {s s' : RunState} {id : String} {n : Node}
  {event : Event} {r : NodeResult}

theorem Without.unspent_finish (h : Without inv p id s) (hr : r.status.isOk = false) (f : Finished) :
    (s.finish id r f).Unspent id := by
  have hends := h.ends_finish r f
  refine ⟨fun k r' due ha => ?_, fun r' hr' => ?_⟩
  · rw [hends.active] at ha
    cases ha
  · rw [hends.result] at hr'
    exact Option.some.inj hr' ▸ hr

theorem Without.transacts_attemptNode (h : Without inv p id s) (hn : p.node? id = some n)
    (hkind : p.registry.get? n.kind = some Builtin.storageNode) (k : Nat) :
    Transacts p id n s (attemptNode p s id k) := by
  have hid : n.id = id := by simpa using List.find?_some hn
  have hresult : s.context.results.get? id = none := Entries.get?_eq_none.mpr h.unrecorded
  unfold attemptNode
  simp only [hn, hkind]
  split
  · unfold attempt
    rw [hid]
    split
    · exact .inl ⟨rfl, h.unspent_finish (status_failure _) _⟩
    · rename_i config hconfig
      have hexec := Builtin.executes_storageNode config (nodeContext p n k) s.store
      simp only [underLimit_now n (Builtin.storageNode_delay config (nodeContext p n k) s.store)]
      generalize (Builtin.storageNode config (nodeContext p n k) s.store).outcome = outcome at hexec
      generalize (Builtin.storageNode config (nodeContext p n k) s.store).store = store at hexec
      have hactive : (s.active.insert id (.attempting k outcome.toResult (s.clock + 0))).get? id =
        some (.attempting k outcome.toResult (s.clock + 0)) := (Entries.get?_insert ..).trans (if_pos rfl)
      cases hexec with
      | fails causes =>
        refine .inl ⟨rfl, fun k' r due ha => ?_, fun r hr => ?_⟩
        · cases hactive.symm.trans ha
          exact status_failure _
        · cases hresult.symm.trans hr
      | applies hkey hop happ =>
        exact .inr ⟨_, ⟨config, _, _, hconfig, hkey, hop, happ⟩, happ.makes.isOk, .inl ⟨k, _, hactive⟩⟩
  · refine .inl ⟨rfl, fun k' r due ha => ?_, fun r hr => ?_⟩
    · cases ha.symm.trans ((Entries.get?_insert ..).trans (if_pos rfl))
    · cases hresult.symm.trans hr

variable (hc : p.Maintains scope inv) (h : Sound inv p s)
include hc h

theorem Sound.transacts_grant (hu : s.Unspent id) (hn : p.node? id = some n)
    (hkind : p.registry.get? n.kind = some Builtin.storageNode) : Transacts p id n s (s.grant p id) := by
  rcases h.grant_cases hc id with ⟨-, he⟩ | ⟨hline, hw, -, ⟨-, he⟩ | ⟨hrun, -⟩⟩
  · rw [he]
    exact .inl ⟨rfl, hu⟩
  · rw [he]
    exact .inl ⟨rfl, hu.attempting, hu.recorded⟩
  · rw [grant_eq_attemptNode hline hrun]
    exact hw.transacts_attemptNode hn hkind 1

theorem Sound.transacts_wake (hu : s.Unspent id) (hn : p.node? id = some n)
    (hkind : p.registry.get? n.kind = some Builtin.storageNode) : Transacts p id n s (s.wake p id) := by
  rcases h.wake_cases hc id with ⟨-, he⟩ | ⟨phase, hphase, hw, -, -⟩
  · rw [he]
    exact .inl ⟨rfl, hu⟩
  unfold RunState.wake
  rw [hphase]
  cases phase with
  | backingOff k r due =>
    have hr : r.status.isOk = false := h.retryable id _ (Entries.mem_of_get? hphase)
    simp only
    split
    · exact .inl ⟨rfl, hw.unspent_finish hr _⟩
    · exact hw.transacts_attemptNode hn hkind (k + 1)
  | attempting k r due =>
    have hr := hu.attempting k r due hphase
    simp only [conclude, hr, Bool.false_eq_true, if_false]
    split
    · split
      · exact hw.transacts_attemptNode hn hkind (k + 1)
      · refine .inl ⟨rfl, fun k' r' due' ha => ?_, hu.recorded⟩
        cases ha.symm.trans ((Entries.get?_insert ..).trans (if_pos rfl))
    · exact .inl ⟨rfl, hw.unspent_finish hr _⟩
  | broken => exact .inl ⟨rfl, hw.unspent_finish (status_failure _) _⟩

theorem Sound.spent_served (hs : s.Spent id r) (hserves : event.Serves id) :
    (s.step p event).store = s.store ∧ (s.step p event).Spent id r := by
  rcases hserves with rfl | rfl
  · rcases h.grant_cases hc id with ⟨-, he⟩ | ⟨hline, hw, -, -⟩
    · rw [RunState.step, he]
      exact ⟨rfl, hs⟩
    · rcases hs.stands with ⟨k, due, hactive⟩ | hrecorded
      · exact absurd (Entries.mem_keys_of_get? hactive) (h.not_active hline)
      · cases hrecorded.symm.trans (Entries.get?_eq_none.mpr hw.unrecorded)
  · rcases h.wake_cases hc id with ⟨-, he⟩ | ⟨phase, hphase, hw, -, -⟩
    · rw [RunState.step, he]
      exact ⟨rfl, hs⟩
    · rcases hs.stands with ⟨k, due, hactive⟩ | hrecorded
      · have hwake : s.step p (.wake id) = s.finish id r (.succeeded r) := by
          simp only [RunState.step, RunState.wake, hactive, conclude, hs.ok, if_true]
        rw [hwake]
        exact ⟨rfl, hs.ok, .inr (hw.ends_finish r _).result⟩
      · cases hrecorded.symm.trans (h.unrecorded_active hphase)

theorem Sound.spent_step (hs : s.Spent id r) (event : Event) :
    (event.Serves id → (s.step p event).store = s.store) ∧ (s.step p event).Spent id r := by
  by_cases hserves : event.Serves id
  · exact (h.spent_served hc hs hserves).imp_left fun he _ => he
  · obtain ⟨hactive, hresult⟩ := h.step_other hc hserves
    refine ⟨fun hserves' => absurd hserves' hserves, hs.ok, ?_⟩
    rw [hactive, hresult]
    exact hs.stands

theorem Sound.transacts_step (hu : s.Unspent id) (hn : p.node? id = some n)
    (hkind : p.registry.get? n.kind = some Builtin.storageNode) (event : Event) :
    (event.Serves id → (s.step p event).store = s.store) ∧ (s.step p event).Unspent id ∨
      event.Serves id ∧ ∃ r, Operates p n s (s.step p event) r ∧ (s.step p event).Spent id r := by
  by_cases hserves : event.Serves id
  · have htransacts : Transacts p id n s (s.step p event) := by
      rcases hserves with rfl | rfl
      · exact h.transacts_grant hc hu hn hkind
      · exact h.transacts_wake hc hu hn hkind
    exact htransacts.imp (And.imp_left fun he _ => he) fun hr => ⟨hserves, hr⟩
  · obtain ⟨hactive, hresult⟩ := h.step_other hc hserves
    refine .inl ⟨fun hserves' => absurd hserves' hserves, ?_, ?_⟩
    · rw [hactive]
      exact hu.attempting
    · rw [hresult]
      exact hu.recorded

omit h

/-! ## The events of a run -/

omit hc in
/-- No event of a row that serves a node changes the store. -/
def LeavesStore (p : Plan) (id : String) (s : RunState) (events : List Event) : Prop :=
  ∀ before event after, events = before ++ event :: after → event.Serves id →
    (s.run p (before ++ [event])).store = (s.run p before).store

omit hc in
theorem leavesStore_nil : LeavesStore p id s [] := fun before event after he => by simp at he

omit hc in
theorem leavesStore_cons {events : List Event} : LeavesStore p id s (event :: events) ↔
    (event.Serves id → (s.step p event).store = s.store) ∧ LeavesStore p id (s.step p event) events := by
  constructor
  · intro hl
    exact ⟨hl [] event events rfl, fun before event' after he => hl (event :: before) event' after (congrArg _ he)⟩
  · rintro ⟨hfirst, hrest⟩ before event' after he
    cases before with
    | nil =>
      cases he
      exact hfirst
    | cons _ before =>
      cases he
      exact hrest before event' after rfl

theorem Sound.spent_run : ∀ (events : List Event) {s : RunState}, Sound inv p s → s.Spent id r →
    LeavesStore p id s events ∧ (s.run p events).Spent id r
  | [], _, _, hs => ⟨leavesStore_nil, hs⟩
  | event :: events, s, h, hs => by
    obtain ⟨hstore, hs⟩ := h.spent_step hc hs event
    obtain ⟨hleaves, hend⟩ := Sound.spent_run events (h.step hc event) hs
    exact ⟨leavesStore_cons.mpr ⟨hstore, hleaves⟩, hend⟩

theorem Sound.transacts_run (hn : p.node? id = some n) (hkind : p.registry.get? n.kind = some Builtin.storageNode) :
    ∀ (events : List Event) {s : RunState}, Sound inv p s → s.Unspent id →
      (LeavesStore p id s events ∧ (s.run p events).Unspent id) ∨
      ∃ before event after r, events = before ++ event :: after ∧ event.Serves id ∧ LeavesStore p id s before ∧
        Operates p n (s.run p before) (s.run p (before ++ [event])) r ∧
        LeavesStore p id (s.run p (before ++ [event])) after ∧ (s.run p events).Spent id r
  | [], _, _, hu => .inl ⟨leavesStore_nil, hu⟩
  | event :: events, s, h, hu => by
    rcases h.transacts_step hc hu hn hkind event with ⟨hstore, hu⟩ | ⟨hserves, r, hoperates, hspent⟩
    · rcases Sound.transacts_run hn hkind events (h.step hc event) hu with
        ⟨hleaves, hend⟩ | ⟨before, event', after, r, rfl, hserves, hbefore, hoperates, hafter, hend⟩
      · exact .inl ⟨leavesStore_cons.mpr ⟨hstore, hleaves⟩, hend⟩
      · exact .inr ⟨event :: before, event', after, r, rfl, hserves, leavesStore_cons.mpr ⟨hstore, hbefore⟩,
          hoperates, hafter, hend⟩
    · obtain ⟨hleaves, hend⟩ := Sound.spent_run hc events (h.step hc event) hspent
      exact .inr ⟨[], event, events, r, rfl, hserves, leavesStore_nil, hoperates, hleaves, hend⟩

end

end RunState

open RunState (LeavesStore Operates)

/-- One execution of a storage node fails and leaves the store as it was, or applies the operation
of its configuration to the entry under its key and to no other, and an increment succeeds just when
the value there counts as an integer and the sum is one of 64 bits. In a run, whatever its retries
and the order of its events, the events that serve a storage node leave the store and it does not
succeed, or exactly one of them applies its operation, whose answer is its result. -/
theorem Engine.Launched.storage_atomic {e : Engine} {flow : CompiledWorkflow} {root : String} {p : Plan} {s : RunState}
    (h : e.Launched flow root p s) {id : String} {n : Node} (hn : p.node? id = some n)
    (hkind : p.registry.get? n.kind = some Builtin.storageNode) (events : List RunState.Event) :
    (∀ config context store,
      Builtin.Executes config store (Builtin.storageNode config context store).outcome
        (Builtin.storageNode config context store).store ∧
      ∀ key amount, config.text? "key" = some key → Builtin.operation? config = .ok (.increment amount) →
        ((∃ r, (Builtin.storageNode config context store).outcome = .result r) ↔
          ∃ i, Store.CountsAs (store.get? key) i ∧ isInt64 (i + amount) = true)) ∧
    ((LeavesStore p id s events ∧ ∀ r, (s.run p events).context.results.get? id = some r → r.status.isOk = false) ∨
      ∃ before event after r, events = before ++ event :: after ∧ event.Serves id ∧ LeavesStore p id s before ∧
        Operates p n (s.run p before) (s.run p (before ++ [event])) r ∧
        LeavesStore p id (s.run p (before ++ [event])) after ∧ r.status.isOk = true ∧
        ∀ r', (s.run p events).context.results.get? id = some r' → r' = r) := by
  refine ⟨fun config context store => ⟨Builtin.executes_storageNode config context store, fun _ _ hkey hop =>
    Builtin.storageNode_increment_iff config context store hkey hop⟩, ?_⟩
  obtain ⟨hactive, hresult⟩ := h.start_idle id
  have hfresh : s.Unspent id := ⟨by rw [hactive]; exact nofun, by rw [hresult]; exact nofun⟩
  refine (h.sound.transacts_run h.maintains hn hkind events hfresh).imp (And.imp_right fun hu => hu.recorded) ?_
  rintro ⟨before, event, after, r, he, hserves, hbefore, hoperates, hafter, hspent⟩
  refine ⟨before, event, after, r, he, hserves, hbefore, hoperates, hafter, hspent.ok, fun r' hr' => ?_⟩
  rcases hspent.stands with ⟨k, due, hphase⟩ | hresult
  · cases hr'.symm.trans ((h.sound.run h.maintains events).unrecorded_active hphase)
  · exact Option.some.inj (hr'.symm.trans hresult)

namespace Counter

def node : Node :=
  ⟨"count", "storage", "count", [("operation", .string "increment"), ("key", .string "visits"), ("max_retries", .int 2)], none⟩

def workflow : Workflow := { Workflow.empty "flow" "count" with nodes := [node] }

def flow : CompiledWorkflow := ⟨workflow, .standard, rfl⟩

def engine : Engine := ⟨Builtin.registry, .standalone, []⟩

def context : Context := ⟨"", [], .null, [], .empty⟩

def store : Store := ⟨[("visits", .int 41), ("other", .bool true)]⟩

def plan : Plan := engine.plan workflow [node] .blank

def start : RunState := Engine.start flow ["count"] "count" context store

def events : List RunState.Event := [.queue, .grant "count", .wake "count", .handle "count"]

theorem launched : engine.Launched flow "count" plan start :=
  ⟨List.mem_singleton_self "count", store, [], context, context, [node], .blank, rfl, rfl, rfl, rfl⟩

end Counter

theorem Engine.Launched.storage_atomic_counter :
    ∃ before event after r, Counter.events = before ++ event :: after ∧ event.Serves "count" ∧
      Operates Counter.plan Counter.node (Counter.start.run Counter.plan before)
        (Counter.start.run Counter.plan (before ++ [event])) r ∧ r.status.isOk = true := by
  have hn : Counter.plan.node? "count" = some Counter.node := rfl
  rcases (Counter.launched.storage_atomic hn rfl Counter.events).2 with
    ⟨-, hfails⟩ | ⟨before, event, after, r, he, hserves, -, hoperates, -, hok, -⟩
  · cases hfails _ rfl
  · exact ⟨before, event, after, r, he, hserves, hoperates, hok⟩

end FlowEngine
