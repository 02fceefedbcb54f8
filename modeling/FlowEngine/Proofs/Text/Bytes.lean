import Mathlib
import FlowEngine.Text.Basic

/-!
# Bytes and characters

A text is cut at a byte offset exactly where two parts of it meet
(`cut?_eq_some_iff`). A byte below 128 is a character of its own, so there the text
can be cut on either side (`exists_of_getElem?`): a scan for such bytes does not
have to know of characters.
-/

namespace FlowEngine.Text

/-! ## Single characters -/

theorem utf8Size_eq_one_iff {c : Char} : c.utf8Size = 1 ↔ c.toNat < 128 := by
  rw [Char.utf8Size_eq_one_iff, UInt32.le_iff_toNat_le]
  exact Nat.lt_succ_iff.symm

theorem encode_narrow {c : Char} (hc : c.utf8Size = 1) : String.utf8EncodeChar c = [c.toUInt8] :=
  String.utf8EncodeChar_eq_singleton hc

theorem toNat_narrow {c : Char} (hc : c.utf8Size = 1) : c.toUInt8.toNat = c.toNat := by
  have hlt := utf8Size_eq_one_iff.mp hc
  show c.toNat % 256 = c.toNat
  omega

theorem narrow_inj {c d : Char} (hc : c.utf8Size = 1) (hd : d.utf8Size = 1) : c.toUInt8 = d.toUInt8 ↔ c = d := by
  rw [← UInt8.toNat_inj, toNat_narrow hc, toNat_narrow hd]
  exact Char.toNat_inj

theorem forall_encode_wide {c : Char} (hc : c.utf8Size ≠ 1) : ∀ b ∈ String.utf8EncodeChar c, 128 ≤ b.toNat := by
  have hwide : ¬c.val.toNat ≤ 127 := fun h => hc (utf8Size_eq_one_iff.mpr (Nat.lt_succ_of_le h))
  simp only [String.utf8EncodeChar, if_neg hwide]
  -- each byte is a remainder on top of 128 or more
  split
  · simp
    omega
  split
  · simp
    omega
  · simp
    omega

theorem ne_of_mem_encode {c d : Char} (hc : c.utf8Size ≠ 1) (hd : d.utf8Size = 1) {b : UInt8}
    (hb : b ∈ String.utf8EncodeChar c) : b ≠ d.toUInt8 := by
  rintro rfl
  have hwide := forall_encode_wide hc _ hb
  rw [toNat_narrow hd] at hwide
  exact absurd (utf8Size_eq_one_iff.mp hd) (by omega)

theorem encode_eq_cons (c : Char) : ∃ b bs, String.utf8EncodeChar c = b :: bs :=
  List.exists_cons_of_length_pos (by rw [String.length_utf8EncodeChar]; exact c.utf8Size_pos)

/-! ## Texts -/

@[simp] theorem bytes_nil : bytes [] = [] := rfl

theorem bytes_cons (c : Char) (cs : List Char) : bytes (c :: cs) = String.utf8EncodeChar c ++ bytes cs :=
  List.flatMap_cons

theorem bytes_narrow {c : Char} (hc : c.utf8Size = 1) (cs : List Char) : bytes (c :: cs) = c.toUInt8 :: bytes cs := by
  rw [bytes_cons, encode_narrow hc, List.singleton_append]

theorem bytes_append (a b : List Char) : bytes (a ++ b) = bytes a ++ bytes b := List.flatMap_append

theorem length_bytes_cons (c : Char) (cs : List Char) : (bytes (c :: cs)).length = c.utf8Size + (bytes cs).length := by
  rw [bytes_cons, List.length_append, String.length_utf8EncodeChar]

theorem length_bytes_append (a b : List Char) : (bytes (a ++ b)).length = (bytes a).length + (bytes b).length := by
  rw [bytes_append, List.length_append]

theorem bytes_toByteArray (s : String) : (bytes s.toList).toByteArray = s.toByteArray := by
  conv_rhs => rw [← String.ofList_toList (s := s), String.toByteArray_ofList]
  rfl

theorem head?_bytes {d : Char} (hd : d.utf8Size = 1) (cs : List Char) :
    (bytes cs).head? = some d.toUInt8 ↔ cs.head? = some d := by
  cases cs with
  | nil => simp
  | cons c cs =>
    by_cases hc : c.utf8Size = 1
    · simp [bytes_narrow hc, narrow_inj hc hd]
    · obtain ⟨b, bs, hb⟩ := encode_eq_cons c
      have hne := ne_of_mem_encode hc hd (b := b) (by simp [hb])
      refine iff_of_false ?_ ?_
      · simpa [bytes_cons, hb] using hne
      · intro he
        cases he
        exact hc hd

/-! ## Cuts -/

theorem cut?_eq_some_iff {cs : List Char} {n : Nat} {s r : List Char} :
    cut? cs n = some (s, r) ↔ cs = s ++ r ∧ (bytes s).length = n := by
  fun_induction cut? cs n generalizing s r with
  | case1 cs =>
    constructor
    · rintro ⟨⟩
      exact ⟨rfl, rfl⟩
    · rintro ⟨rfl, hs⟩
      cases s with
      | nil => rfl
      | cons c s =>
        have := c.utf8Size_pos
        rw [length_bytes_cons] at hs
        omega
  | case2 n =>
    refine iff_of_false (by simp) ?_
    rintro ⟨he, hs⟩
    obtain ⟨rfl, -⟩ := List.append_eq_nil_iff.mp he.symm
    cases hs
  | case3 c cs n hle ih =>
    rw [Option.map_eq_some_iff]
    constructor
    · rintro ⟨⟨t, r'⟩, ht, he⟩
      cases he
      obtain ⟨rfl, hlen⟩ := ih.mp ht
      exact ⟨rfl, by rw [length_bytes_cons]; omega⟩
    · rintro ⟨he, hs⟩
      cases s with
      | nil => cases hs
      | cons d s =>
        rw [length_bytes_cons] at hs
        cases he
        exact ⟨(s, r), ih.mpr ⟨rfl, by omega⟩, rfl⟩
  | case4 c cs n hle =>
    refine iff_of_false (by simp) ?_
    rintro ⟨he, hs⟩
    cases s with
    | nil => cases hs
    | cons d s =>
      rw [length_bytes_cons] at hs
      cases he
      omega

theorem cut?_append (a b : List Char) : cut? (a ++ b) (bytes a).length = some (a, b) :=
  cut?_eq_some_iff.mpr ⟨rfl, rfl⟩

/-- A slice is there just if both of its ends are where characters meet. -/
theorem slice?_eq_some_iff {cs : List Char} {start stop : Nat} {t : List Char} :
    slice? cs start stop = some t ↔
      ∃ a b, cs = a ++ t ++ b ∧ (bytes a).length = start ∧ (bytes (a ++ t)).length = stop := by
  simp only [slice?, Option.bind_eq_some_iff, Option.map_eq_some_iff, Prod.exists, cut?_eq_some_iff]
  constructor
  · rintro ⟨s, b, ⟨rfl, hstop⟩, a, t', ⟨rfl, hstart⟩, rfl⟩
    exact ⟨a, b, rfl, hstart, hstop⟩
  · rintro ⟨a, b, rfl, hstart, hstop⟩
    exact ⟨a ++ t, b, ⟨rfl, hstop⟩, a, t, ⟨rfl, hstart⟩, rfl⟩

theorem slice?_append (a t b : List Char) : slice? (a ++ t ++ b) (bytes a).length (bytes (a ++ t)).length = some t :=
  slice?_eq_some_iff.mpr ⟨a, b, rfl, rfl, rfl⟩

theorem exists_of_getElem? {d : Char} (hd : d.utf8Size = 1) : ∀ {cs : List Char} {k : Nat},
    (bytes cs)[k]? = some d.toUInt8 → ∃ a b, cs = a ++ d :: b ∧ (bytes a).length = k
  | [], k, h => by simp at h
  | c :: cs, k, h => by
    by_cases hk : k < c.utf8Size
    · by_cases hc : c.utf8Size = 1
      · obtain rfl : k = 0 := by omega
        rw [bytes_narrow hc, List.getElem?_cons_zero, Option.some.injEq, narrow_inj hc hd] at h
        exact ⟨[], cs, by rw [h, List.nil_append], rfl⟩
      · rw [bytes_cons, List.getElem?_append_left (by rw [String.length_utf8EncodeChar]; exact hk)] at h
        exact absurd rfl (ne_of_mem_encode hc hd (List.mem_of_getElem? h))
    · rw [bytes_cons, List.getElem?_append_right (by rw [String.length_utf8EncodeChar]; omega),
        String.length_utf8EncodeChar] at h
      obtain ⟨a, b, rfl, ha⟩ := exists_of_getElem? hd h
      exact ⟨c :: a, b, rfl, by rw [length_bytes_cons]; omega⟩

theorem length_bytes_toList (s : String) : (bytes s.toList).length = s.utf8ByteSize := by
  rw [← String.size_toByteArray, ← bytes_toByteArray, List.size_toByteArray]

theorem isValid_iff {s : String} {k : Nat} :
    (⟨k⟩ : String.Pos.Raw).IsValid s ↔ ∃ a b, s.toList = a ++ b ∧ (bytes a).length = k := by
  rw [String.Pos.Raw.isValid_iff_exists_append]
  constructor
  · rintro ⟨a, b, rfl, hk⟩
    refine ⟨a.toList, b.toList, String.toList_append, ?_⟩
    rw [length_bytes_toList]
    exact (congrArg String.Pos.Raw.byteIdx hk).symm
  · rintro ⟨a, b, hs, rfl⟩
    refine ⟨String.ofList a, String.ofList b, ?_, ?_⟩
    · rw [← String.ofList_append, ← hs, String.ofList_toList]
    · rw [← String.toList_ofList (l := a), length_bytes_toList, String.ofList_toList]
      rfl

end FlowEngine.Text
