import Mathlib
import FlowEngine.Text.Basic

/-!
# Spans of characters

A reader takes the longest run of characters of a class. `Stops p r` says that
such a run ends where `r` begins, so the run before it is read in full
(`takeWhile_span`, `dropWhile_span`). Trimming does nothing to a trimmed text
(`trim_of_trimmed`), and trimming leaves one (`trimmed_trim`).
-/

namespace FlowEngine.Text

/-- No character of the class `p` stands at the front of `r`. -/
def Stops (p : Char → Bool) (r : List Char) : Prop := ∀ c ∈ r.head?, p c = false

section
variable {p : Char → Bool}

instance (r : List Char) : Decidable (Stops p r) := decidable_of_iff (r.head?.any p = false) (by cases r <;> simp [Stops])

@[simp] theorem stops_nil : Stops p [] := by simp [Stops]

@[simp] theorem stops_cons {c : Char} {r : List Char} : Stops p (c :: r) ↔ p c = false := by simp [Stops]

theorem takeWhile_span {w r : List Char} (hw : ∀ c ∈ w, p c = true) (hr : Stops p r) :
    (w ++ r).takeWhile p = w := by
  rw [List.takeWhile_append_of_pos hw]
  cases r with
  | nil => simp
  | cons c r => simp [stops_cons.mp hr]

theorem dropWhile_span {w r : List Char} (hw : ∀ c ∈ w, p c = true) (hr : Stops p r) :
    (w ++ r).dropWhile p = r := by
  rw [List.dropWhile_append_of_pos hw]
  cases r with
  | nil => simp
  | cons c r => simp [stops_cons.mp hr]

theorem dropWhile_of_stops {r : List Char} (hr : Stops p r) : r.dropWhile p = r :=
  dropWhile_span (w := []) (by simp) hr

theorem stops_dropWhile (r : List Char) : Stops p (r.dropWhile p) := by
  induction r with
  | nil => simp
  | cons c r ih =>
    by_cases h : p c = true
    · rwa [List.dropWhile_cons_of_pos h]
    · rw [List.dropWhile_cons_of_neg h]; simpa using h

end

/-! ## Trimming -/

def Trimmed (cs : List Char) : Prop := Stops isBlank cs ∧ Stops isBlank cs.reverse

instance (cs : List Char) : Decidable (Trimmed cs) :=
  inferInstanceAs (Decidable (Stops isBlank cs ∧ Stops isBlank cs.reverse))

theorem trim_of_trimmed {cs : List Char} (h : Trimmed cs) : trim cs = cs := by
  unfold trim trimRight trimLeft
  rw [dropWhile_of_stops h.1, dropWhile_of_stops h.2, List.reverse_reverse]

theorem stops_trimRight {cs : List Char} (h : Stops isBlank cs) : Stops isBlank (trimRight cs) := by
  unfold trimRight trimLeft
  obtain ⟨bs, hb⟩ := List.dropWhile_suffix isBlank (l := cs.reverse)
  have hcs : cs = (cs.reverse.dropWhile isBlank).reverse ++ bs.reverse := by
    rw [← List.reverse_append, hb, List.reverse_reverse]
  cases hd : (cs.reverse.dropWhile isBlank).reverse with
  | nil => simp
  | cons c r =>
    rw [hd] at hcs
    rw [hcs] at h
    simpa using h

theorem trimmed_trim (cs : List Char) : Trimmed (trim cs) := by
  refine ⟨stops_trimRight (stops_dropWhile cs), ?_⟩
  unfold trim trimRight trimLeft
  rw [List.reverse_reverse]
  exact stops_dropWhile _

theorem mem_of_mem_trim {c : Char} {cs : List Char} (h : c ∈ trim cs) : c ∈ cs := by
  unfold trim trimRight trimLeft at h
  rw [List.mem_reverse] at h
  have h1 := (List.dropWhile_suffix _).subset h
  rw [List.mem_reverse] at h1
  exact (List.dropWhile_suffix _).subset h1

end FlowEngine.Text
