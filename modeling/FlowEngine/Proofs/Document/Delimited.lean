import Mathlib
import FlowEngine.Proofs.Document.Words

/-!
# Delimited rows

Items between brackets, separated by commas: what their reader answers is what
the reader of one item answered, and a written row is read back when each of its
items is (`readDelimited_written`).
-/

namespace FlowEngine.Document

open Text (Stops stops_nil stops_cons)
open Cursor

variable {α : Type}

/-- A reader takes back what `wr` writes for `x`, and stops right after it. -/
def Reads (item : Read α) (wr : α → List Char) (x : α) : Prop :=
  ∀ (r : List Char) (line : Nat), Stops isInner r → item ⟨wr x ++ r, line⟩ = .ok (x, ⟨r, line⟩)

def writeMore (wr : α → List Char) (tail : List Char) : List α → List Char
  | [] => tail
  | x :: xs => ',' :: ' ' :: (wr x ++ writeMore wr tail xs)

/-- What closes a row: its closing character, after a blank or not. -/
inductive Closes : Char → List Char → Prop
  | bracket : Closes ']' [']']
  | brace : Closes '}' [' ', '}']

/-! ## What a reader of items answers -/

theorem readItems_all {close : Char} {item : Read α} {start : Nat} {P : α → Prop}
    (hitem : ∀ c x c', item c = .ok (x, c') → P x) : ∀ {fuel : Nat} {c c' : Cursor} {xs : List α},
    readItems close item start fuel c = .ok (xs, c') → ∀ x ∈ xs, P x
  | 0, _, _, _, h => by cases h
  | fuel + 1, c, c', xs, h => by
    rw [readItems] at h
    simp only at h
    split at h
    · cases h
    split at h
    · cases h; simp
    obtain ⟨⟨x, c1⟩, hx, h⟩ := bind_eq_ok.mp h
    simp only at h
    split at h
    · cases h
    split at h
    · obtain ⟨⟨ys, c2⟩, hys, h⟩ := bind_eq_ok.mp h
      cases h
      intro y hy
      rcases List.mem_cons.mp hy with rfl | hy
      · exact hitem _ _ _ hx
      · exact readItems_all hitem hys y hy
    split at h
    · cases h
      simpa using hitem _ _ _ hx
    · cases h

/-! ## Written rows -/

theorem length_le_writeMore (wr : α → List Char) (tail : List Char) : ∀ xs : List α,
    xs.length + tail.length ≤ (writeMore wr tail xs).length
  | [] => by simp [writeMore]
  | x :: xs => by
    have := length_le_writeMore wr tail xs
    simp only [writeMore, List.length_cons, List.length_append]
    omega

theorem length_item_le_writeMore (wr : α → List Char) (tail : List Char) {x : α} : ∀ {xs : List α},
    x ∈ xs → (wr x).length ≤ (writeMore wr tail xs).length
  | y :: ys, h => by
    simp only [writeMore, List.length_cons, List.length_append]
    rcases List.mem_cons.mp h with rfl | h
    · omega
    · have := length_item_le_writeMore wr tail h
      omega

theorem writeMore_append (wr : α → List Char) (tail r : List Char) : ∀ xs : List α,
    writeMore wr tail xs ++ r = writeMore wr (tail ++ r) xs
  | [] => rfl
  | x :: xs => by simp only [writeMore, List.cons_append, List.append_assoc, writeMore_append wr tail r xs]

theorem stops_writeMore (wr : α → List Char) {tail : List Char} (h : Stops isInner tail) : ∀ xs : List α,
    Stops isInner (writeMore wr tail xs)
  | [] => h
  | _ :: _ => by simp only [writeMore, stops_cons]; decide

theorem intercalate_writeMore (wr : α → List Char) (x : α) (xs : List α) :
    [',', ' '].intercalate ((x :: xs).map wr) = wr x ++ writeMore wr [] xs := by
  induction xs generalizing x with
  | nil => simp [writeMore, List.intercalate]
  | cons y ys ih =>
    rw [List.map_cons, List.map_cons, List.intercalate_cons_cons, ← List.map_cons, ih y, List.append_assoc]
    rfl

section
variable {close : Char} {tail : List Char} (hc : Closes close tail)
include hc

theorem Closes.skipAll (r : List Char) (line : Nat) : Cursor.skipAll ⟨tail ++ r, line⟩ = ⟨close :: r, line⟩ := by
  cases hc <;> rfl

theorem Closes.stops (r : List Char) : Stops isInner (tail ++ r) := by
  cases hc <;> exact stops_cons.mpr (by decide)

theorem Closes.isOuter : isOuter close = true := by
  cases hc <;> decide

theorem Closes.ne_comma : close ≠ ',' := by
  cases hc <;> decide

theorem readItems_written {item : Read α} {wr : α → List Char} (start : Nat) (r : List Char) (line : Nat) :
    ∀ (fuel : Nat) (x : α) (xs : List α), xs.length < fuel →
      (∀ y ∈ x :: xs, Starts (wr y) ∧ Reads item wr y) →
      readItems close item start fuel ⟨wr x ++ (writeMore wr tail xs ++ r), line⟩ = .ok (x :: xs, ⟨r, line⟩)
  | fuel + 1, x, xs, hf, hi => by
    obtain ⟨hstart, hread⟩ := hi x (by simp)
    have hskip := skipAll_starts (hstart.append (writeMore wr tail xs ++ r)) line
    have hstop : Stops isInner (writeMore wr tail xs ++ r) := by
      rw [writeMore_append]; exact stops_writeMore wr (hc.stops r) xs
    have hitem := hread _ line hstop
    obtain ⟨ch, w, hw, hch⟩ := hstart
    have hne : ch ≠ close := by
      rintro rfl
      rw [hc.isOuter] at hch
      cases hch
    rw [readItems]
    simp only [hskip]
    split
    · rename_i he; simp [hw] at he
    · rename_i ch' r' he
      have hch' : ch' = ch := by rw [hw] at he; exact (List.cons.inj he).1.symm
      rw [if_neg (by rw [hch']; exact hne), hitem]
      simp only [ok_bind]
      cases xs with
      | nil =>
        simp only [writeMore, hc.skipAll, if_neg hc.ne_comma, if_true]
        rfl
      | cons y ys =>
        have hrest := readItems_written start r line fuel y ys (by simpa using hf)
          (fun z hz => hi z (List.mem_cons_of_mem _ hz))
        have hcomma : Cursor.skipAll ⟨writeMore wr tail (y :: ys) ++ r, line⟩
            = ⟨',' :: ' ' :: (wr y ++ (writeMore wr tail ys ++ r)), line⟩ := by
          simp only [writeMore, List.cons_append, List.append_assoc]
          exact skipAll_of_visible (by decide) _ line
        have hblank : readItems close item start fuel ⟨' ' :: (wr y ++ (writeMore wr tail ys ++ r)), line⟩
            = readItems close item start fuel ⟨wr y ++ (writeMore wr tail ys ++ r), line⟩ := by
          cases fuel <;> rfl
        simp only [hcomma, if_true, Cursor.moveTo, hblank, hrest, ok_bind]

theorem readDelimited_written {item : Read α} {wr : α → List Char} (opening : Char) {pad : List Char}
    (hpad : pad = [] ∨ pad = [' ']) (x : α) (xs : List α) (hi : ∀ y ∈ x :: xs, Starts (wr y) ∧ Reads item wr y)
    (r : List Char) (line : Nat) :
    readDelimited close item ⟨opening :: (pad ++ (wr x ++ (writeMore wr tail xs ++ r))), line⟩
      = .ok (x :: xs, ⟨r, line⟩) := by
  have hlen := length_le_writeMore wr tail xs
  have hread := readItems_written hc line r line
    (opening :: (pad ++ (wr x ++ (writeMore wr tail xs ++ r)))).length x xs
    (by simp only [List.length_cons, List.length_append]; omega) hi
  rcases hpad with rfl | rfl
  · exact hread
  · exact hread

end

end FlowEngine.Document
