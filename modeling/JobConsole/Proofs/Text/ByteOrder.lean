import JobConsole.Proofs.Http.PercentDecoding

/-!
# The order of texts by their bytes

Texts are ordered by their characters, and characters by their numbers.  A character
with a greater number has greater bytes, whatever follows: with more bytes its first
byte is greater, and with as many the first byte that differs is.  So the order of
texts is that of their bytes.
-/

namespace JobConsole.Text

theorem toNat_lt (c : Char) : c.toNat < 0x110000 := by
  rcases c.valid with below | ⟨_, below⟩
  · exact Nat.lt_trans below (by decide)
  · exact below

theorem utf8Bytes_cases (c : Char) :
    (c.toNat < 0x80 ∧ utf8Bytes c = [c.toNat.toUInt8]) ∨
      (0x80 ≤ c.toNat ∧ c.toNat < 0x800 ∧
        utf8Bytes c = [(0xc0 + c.toNat / 0x40).toUInt8, (0x80 + c.toNat % 0x40).toUInt8]) ∨
      (0x800 ≤ c.toNat ∧ c.toNat < 0x10000 ∧
        utf8Bytes c = [(0xe0 + c.toNat / 0x1000).toUInt8, (0x80 + c.toNat / 0x40 % 0x40).toUInt8,
          (0x80 + c.toNat % 0x40).toUInt8]) ∨
      (0x10000 ≤ c.toNat ∧
        utf8Bytes c = [(0xf0 + c.toNat / 0x40000).toUInt8,
          (0x80 + c.toNat / 0x1000 % 0x40).toUInt8, (0x80 + c.toNat / 0x40 % 0x40).toUInt8,
          (0x80 + c.toNat % 0x40).toUInt8]) := by
  by_cases one : c.toNat < 0x80
  · exact .inl ⟨one, if_pos one⟩
  by_cases two : c.toNat < 0x800
  · exact .inr (.inl ⟨Nat.le_of_not_lt one, two, by rw [utf8Bytes, if_neg one, if_pos two]⟩)
  by_cases three : c.toNat < 0x10000
  · refine .inr (.inr (.inl ⟨Nat.le_of_not_lt two, three, ?_⟩))
    rw [utf8Bytes, if_neg one, if_neg two, if_pos three]
  · refine .inr (.inr (.inr ⟨Nat.le_of_not_lt three, ?_⟩))
    rw [utf8Bytes, if_neg one, if_neg two, if_neg three]

theorem toUInt8_cons_lt_iff {m n : Nat} (first : m < 0x100) (second : n < 0x100)
    (rest other : List UInt8) :
    m.toUInt8 :: rest < n.toUInt8 :: other ↔ m < n ∨ m = n ∧ rest < other := by
  rw [List.cons_lt_cons_iff, UInt8.lt_iff_toNat_lt, ← UInt8.toNat_inj, Nat.toUInt8_eq,
    Nat.toUInt8_eq, UInt8.toNat_ofNat', UInt8.toNat_ofNat', Nat.mod_eq_of_lt first,
    Nat.mod_eq_of_lt second]

/-- A character with a greater number has greater bytes, whatever follows. -/
theorem utf8Bytes_append_lt {c d : Char} (before : c < d) (rest other : List UInt8) :
    utf8Bytes c ++ rest < utf8Bytes d ++ other := by
  have less : c.toNat < d.toNat := before
  have bound := toNat_lt d
  rcases utf8Bytes_cases c with ⟨_, first⟩ | ⟨_, _, first⟩ | ⟨_, _, first⟩ | ⟨_, first⟩ <;>
    rcases utf8Bytes_cases d with ⟨_, second⟩ | ⟨_, _, second⟩ | ⟨_, _, second⟩ | ⟨_, second⟩ <;>
    rw [first, second] <;>
    simp (disch := omega) only [List.cons_append, List.nil_append, toUInt8_cons_lt_iff] <;>
    omega

/-- The order of texts is that of their bytes. -/
theorem encodeUtf8_lt {text other : List Char} (before : text < other) :
    encodeUtf8 text < encodeUtf8 other := by
  induction text generalizing other with
  | nil =>
      cases other with
      | nil => exact absurd before (List.lt_irrefl _)
      | cons d other =>
          rcases List.exists_cons_of_length_pos (length_utf8Bytes_pos d) with ⟨byte, bytes, split⟩
          rw [encodeUtf8_cons, split]
          exact List.nil_lt_cons byte _
  | cons c text ih =>
      cases other with
      | nil => exact absurd before (List.not_lt_nil _)
      | cons d other =>
          rw [encodeUtf8_cons, encodeUtf8_cons]
          rcases List.cons_lt_cons_iff.mp before with less | ⟨rfl, less⟩
          · exact utf8Bytes_append_lt less _ _
          · exact List.append_left_lt (ih less)

end JobConsole.Text
