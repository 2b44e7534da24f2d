import JobConsole.Uuid

/-!
# Reading written identifiers

The text of an identifier is read as this identifier: it is no bare run of digits and
nothing is around it, its groups make up the digits, and the digits stand for the bits.
-/

namespace JobConsole

open JobConsole.Json.Raw

namespace Uuid

theorem hexValue?_digitChar {d : Nat} (small : d < 16) : hexValue? d.digitChar = some d := by
  have all : ∀ d < 16, hexValue? d.digitChar = some d := by decide
  exact all d small

theorem hexNumber?_concat {shown : List Char} {n d : Nat} (isNumber : hexNumber? shown = some n)
    (small : d < 16) : hexNumber? (shown ++ [d.digitChar]) = some (16 * n + d) := by
  unfold hexNumber? at isNumber ⊢
  rw [List.foldlM_append, isNumber]
  simp [hexValue?_digitChar small]

theorem hexNumber?_toDigits (n : Nat) : hexNumber? (Nat.toDigits 16 n) = some n := by
  induction n using Nat.strongRecOn with
  | _ n ih =>
      by_cases small : n < 16
      · rw [Nat.toDigits_of_lt_base small]
        have start : hexNumber? [] = some 0 := rfl
        simpa using hexNumber?_concat start small
      · rw [Nat.toDigits_of_base_le (by decide) (by omega),
          hexNumber?_concat (ih (n / 16) (by omega)) (Nat.mod_lt n (by decide))]
        congr 1
        omega

theorem hexNumber?_zeros_append (count : Nat) (shown : List Char) :
    hexNumber? (List.replicate count '0' ++ shown) = hexNumber? shown := by
  induction count with
  | zero => rfl
  | succ count ih => exact ih

theorem hexNumber?_digits (id : Uuid) : hexNumber? id.digits = some id.bits.toNat := by
  rw [digits, hexNumber?_zeros_append, hexNumber?_toDigits]

theorem ungrouped?_groups {a b c d e : List Char} (eight : a.length = 8) (four : b.length = 4)
    (four' : c.length = 4) (four'' : d.length = 4) (twelve : e.length = 12) :
    ungrouped? (a ++ '-' :: b ++ '-' :: c ++ '-' :: d ++ '-' :: e) =
      some (a ++ b ++ c ++ d ++ e) := by
  unfold ungrouped?
  simp [List.drop_append, List.drop_of_length_le, eight, four, four', four'', twelve]

theorem exists_digitChar_of_mem_toDigits {n : Nat} {c : Char} (member : c ∈ Nat.toDigits 16 n) :
    ∃ d < 16, c = d.digitChar := by
  induction n using Nat.strongRecOn with
  | _ n ih =>
      by_cases small : n < 16
      · rw [Nat.toDigits_of_lt_base small, List.mem_singleton] at member
        exact ⟨n, small, member⟩
      · rw [Nat.toDigits_of_base_le (by decide) (by omega)] at member
        rcases List.mem_append.mp member with earlier | last
        · exact ih (n / 16) (by omega) earlier
        · exact ⟨n % 16, Nat.mod_lt n (by decide), List.mem_singleton.mp last⟩

/-- An identifier is written with digits in base sixteen. -/
theorem exists_digitChar_of_mem_digits {id : Uuid} {c : Char} (member : c ∈ id.digits) :
    ∃ d < 16, c = d.digitChar := by
  rcases List.mem_append.mp member with zero | digit
  · exact ⟨0, by decide, List.eq_of_mem_replicate zero⟩
  · exact exists_digitChar_of_mem_toDigits digit

/-- Nothing is around a digit at the start of a text. -/
theorem wrapped?_digit_cons {d : Nat} (small : d < 16) (rest : List Char) :
    wrapped? (d.digitChar :: rest) = none := by
  have plain : ∀ d < 16, d.digitChar ≠ '\x7b' ∧ d.digitChar.toLower ≠ 'u' := by decide
  obtain ⟨noBrace, noMark⟩ := plain d small
  have mark : "urn:uuid:".toList = ['u', 'r', 'n', ':', 'u', 'u', 'i', 'd', ':'] := by decide
  simp [wrapped?, noBrace, mark, noMark]

theorem append_groups (shown : List Char) :
    shown.take 8 ++ (shown.drop 8).take 4 ++ (shown.drop 12).take 4 ++ (shown.drop 16).take 4 ++
      shown.drop 20 = shown := by
  have four (start : Nat) :
      (shown.drop start).take 4 ++ shown.drop (start + 4) = shown.drop start := by
    rw [← List.drop_drop, List.take_append_drop]
  simp only [List.append_assoc]
  rw [four 16, four 12, four 8, List.take_append_drop]

/-- The text of an identifier shows its digits. -/
theorem shownDigits?_text (id : Uuid) : shownDigits? id.text.toList = some id.digits := by
  have size := length_digits id
  have groups := ungrouped?_groups (a := id.digits.take 8) (b := (id.digits.drop 8).take 4)
    (c := (id.digits.drop 12).take 4) (d := (id.digits.drop 16).take 4) (e := id.digits.drop 20)
    (by simp [size]) (by simp [size]) (by simp [size]) (by simp [size]) (by simp [size])
  have bare : wrapped? id.text.toList = none := by
    obtain ⟨first, others, shown⟩ : ∃ first others, id.digits = first :: others :=
      List.exists_cons_of_length_pos (by omega)
    obtain ⟨d, small, rfl⟩ := exists_digitChar_of_mem_digits (shown ▸ List.mem_cons_self)
    rw [text, shown, String.toList_ofList]
    exact wrapped?_digit_cons small _
  have long : ¬ id.text.toList.length = 32 := by
    simp [text, size]
  rw [shownDigits?, if_neg long, bare, text, String.toList_ofList, groups, append_groups]

/-- The text of an identifier is read as this identifier. -/
theorem ofText?_text (id : Uuid) : ofText? id.text = some id := by
  simp only [ofText?, read?, shownDigits?_text, hexNumber?_digits, Option.bind_eq_bind,
    Option.bind_some, BitVec.ofNat_toNat, BitVec.setWidth_eq]

end Uuid

end JobConsole
