/-!
# Ordered entries

Keys with values in the order in which the keys were first put in. Putting a
key that is there already replaces its value where it stands.
-/

namespace FlowEngine

abbrev Entries (α : Type) := List (String × α)

namespace Entries

variable {α : Type}

def keys (m : Entries α) : List String := m.map (·.1)

def get? : Entries α → String → Option α
  | [], _ => none
  | (k, v) :: m, key => if k = key then some v else get? m key

def contains (m : Entries α) (key : String) : Bool := (m.get? key).isSome

/-- The entries with `key` set to `value`, and the value it had before. -/
def put : Entries α → String → α → Option α × Entries α
  | [], key, value => (none, [(key, value)])
  | (k, v) :: m, key, value =>
    if k = key then (some v, (k, value) :: m)
    else
      let (old, m') := put m key value
      (old, (k, v) :: m')

/-- The entries without `key`, and the value it had. -/
def take : Entries α → String → Option α × Entries α
  | [], _ => (none, [])
  | (k, v) :: m, key =>
    if k = key then (some v, m)
    else
      let (old, m') := take m key
      (old, (k, v) :: m')

def insert (m : Entries α) (key : String) (value : α) : Entries α := (m.put key value).2

def erase (m : Entries α) (key : String) : Entries α := (m.take key).2

/-- Put a list of entries in, one after the other. -/
def insertAll (m : Entries α) (new : List (String × α)) : Entries α :=
  new.foldl (fun m kv => m.insert kv.1 kv.2) m

def ofList (entries : List (String × α)) : Entries α := insertAll [] entries

/-! ## What the operations answer -/

@[simp] theorem keys_nil : keys ([] : Entries α) = [] := rfl

theorem keys_append (m n : Entries α) : keys (m ++ n) = m.keys ++ n.keys := List.map_append

theorem put_fst (m : Entries α) (key : String) (value : α) :
    (m.put key value).1 = m.get? key := by
  induction m with
  | nil => rfl
  | cons kv m ih => obtain ⟨k, v⟩ := kv; by_cases h : k = key <;> simp [put, get?, h, ih]

theorem take_fst (m : Entries α) (key : String) : (m.take key).1 = m.get? key := by
  induction m with
  | nil => rfl
  | cons kv m ih => obtain ⟨k, v⟩ := kv; by_cases h : k = key <;> simp [take, get?, h, ih]

@[simp] theorem insert_nil (key : String) (value : α) :
    insert ([] : Entries α) key value = [(key, value)] := rfl

theorem insert_cons (k : String) (v : α) (m : Entries α) (key : String) (value : α) :
    insert ((k, v) :: m) key value
      = if k = key then (k, value) :: m else (k, v) :: insert m key value := by
  by_cases h : k = key <;> simp [insert, put, h]

@[simp] theorem erase_nil (key : String) : erase ([] : Entries α) key = [] := rfl

theorem erase_cons (k : String) (v : α) (m : Entries α) (key : String) :
    erase ((k, v) :: m) key = if k = key then m else (k, v) :: erase m key := by
  by_cases h : k = key <;> simp [erase, take, h]

theorem get?_insert (m : Entries α) (key : String) (value : α) (other : String) :
    (m.insert key value).get? other = if key = other then some value else m.get? other := by
  induction m with
  | nil => rfl
  | cons kv m ih =>
    obtain ⟨k, v⟩ := kv
    rw [insert_cons]
    by_cases h : k = key
    · subst h; by_cases ho : k = other <;> simp [get?, ho]
    · rw [if_neg h, get?, get?, ih]
      by_cases ho : k = other
      · have : ¬key = other := fun e => h (ho.trans e.symm)
        simp [ho, this]
      · simp [ho]

end Entries

end FlowEngine
