import JobConsole.Http.Host

/-!
# Percent-decoding

An escape is a percent sign before two digits of base sixteen.  It is written with
three bytes and stands for one; every other character stands for its own bytes.  So
decoding never lengthens a text, it leaves the bytes of a text as they are exactly if
there is no escape in it, and a text can be cut before any character that is no such
digit and decoded part by part.

The bytes of a text are those that the core library writes for it, from which they
inherit that different texts have different bytes.
-/

namespace JobConsole.Text

/-- The bytes of a character are those that the core library writes for it, which also masks
the first one. -/
theorem utf8Bytes_eq_utf8EncodeChar (c : Char) : utf8Bytes c = String.utf8EncodeChar c := by
  have bound : c.toNat < 0x110000 := by
    rcases c.valid with below | ⟨_, below⟩
    · exact Nat.lt_trans below (by decide)
    · exact below
  have value : c.val.toNat = c.toNat := rfl
  simp only [utf8Bytes, String.utf8EncodeChar, Nat.toUInt8_eq, value]
  by_cases one : c.toNat < 0x80
  · rw [if_pos one, if_pos (Nat.le_of_lt_succ one)]
  rw [if_neg one, if_neg (show ¬c.toNat ≤ 0x7f from mt Nat.lt_succ_of_le one)]
  by_cases two : c.toNat < 0x800
  · have lead : c.toNat / 0x40 % 0x20 = c.toNat / 0x40 := Nat.mod_eq_of_lt (by omega)
    rw [if_pos two, if_pos (Nat.le_of_lt_succ two), lead, Nat.add_comm 0xc0, Nat.add_comm 0x80]
  rw [if_neg two, if_neg (show ¬c.toNat ≤ 0x7ff from mt Nat.lt_succ_of_le two)]
  by_cases three : c.toNat < 0x10000
  · have lead : c.toNat / 0x1000 % 0x10 = c.toNat / 0x1000 := Nat.mod_eq_of_lt (by omega)
    rw [if_pos three, if_pos (Nat.le_of_lt_succ three), lead, Nat.add_comm 0xe0,
      Nat.add_comm 0x80, Nat.add_comm 0x80]
  · have lead : c.toNat / 0x40000 % 0x08 = c.toNat / 0x40000 := Nat.mod_eq_of_lt (by omega)
    rw [if_neg three, if_neg (show ¬c.toNat ≤ 0xffff from mt Nat.lt_succ_of_le three), lead,
      Nat.add_comm 0xf0, Nat.add_comm 0x80, Nat.add_comm 0x80, Nat.add_comm 0x80]

/-- Different texts have different bytes. -/
theorem encodeUtf8_injective {text other : List Char} (same : encodeUtf8 text = encodeUtf8 other) :
    text = other := by
  have bytes : utf8Bytes = String.utf8EncodeChar := funext utf8Bytes_eq_utf8EncodeChar
  rw [encodeUtf8, encodeUtf8, bytes] at same
  have encoded : text.utf8Encode = other.utf8Encode := congrArg List.toByteArray same
  rw [← String.toByteArray_ofList, ← String.toByteArray_ofList,
    String.toByteArray_inj] at encoded
  exact String.ofList_injective encoded

theorem encodeUtf8_cons (c : Char) (text : List Char) :
    encodeUtf8 (c :: text) = utf8Bytes c ++ encodeUtf8 text :=
  rfl

theorem encodeUtf8_append (text rest : List Char) :
    encodeUtf8 (text ++ rest) = encodeUtf8 text ++ encodeUtf8 rest :=
  List.flatMap_append

theorem length_utf8Bytes_pos (c : Char) : 0 < (utf8Bytes c).length := by
  rw [utf8Bytes_eq_utf8EncodeChar, String.length_utf8EncodeChar]
  exact c.utf8Size_pos

theorem length_encodeUtf8_lt {start text : List Char} (begins : start <+: text)
    (proper : start ≠ text) : (encodeUtf8 start).length < (encodeUtf8 text).length := by
  rcases begins with ⟨rest, rfl⟩
  cases rest with
  | nil => exact absurd (List.append_nil start).symm proper
  | cons c rest =>
      have positive := length_utf8Bytes_pos c
      rw [encodeUtf8_append, encodeUtf8_cons, List.length_append, List.length_append]
      omega

end JobConsole.Text

namespace JobConsole.Http.Host

open JobConsole.Text

/-- Whether a text begins with an escape. -/
def beginsEscape : List Char → Bool
  | c :: high :: low :: _ => c == '%' && ((hexDigit? high).isSome && (hexDigit? low).isSome)
  | _ => false

theorem beginsEscape_of_ne {c : Char} {rest : List Char} (noPercent : c ≠ '%') :
    beginsEscape (c :: rest) = false := by
  match rest with
  | [] => rfl
  | [_] => rfl
  | _ :: _ :: _ => rw [beginsEscape, beq_eq_false_iff_ne.mpr noPercent, Bool.false_and]

/-- Whether there is an escape in a text. -/
def hasEscape : List Char → Bool
  | [] => false
  | c :: rest => beginsEscape (c :: rest) || hasEscape rest

/-- The byte that an escape with the given digits stands for. -/
def escapedByte (high low : Char) : UInt8 :=
  UInt8.ofNat (16 * (hexDigit? high).getD 0 + (hexDigit? low).getD 0)

/-- An escape stands for one byte. -/
theorem decodedBytes_escape {high low : Char} {rest : List Char}
    (begins : beginsEscape ('%' :: high :: low :: rest) = true) :
    decodedBytes ('%' :: high :: low :: rest) = escapedByte high low :: decodedBytes rest := by
  rw [beginsEscape, Bool.and_eq_true, Bool.and_eq_true, Option.isSome_iff_exists,
    Option.isSome_iff_exists] at begins
  rcases begins with ⟨_, ⟨big, isBig⟩, small, isSmall⟩
  rw [decodedBytes, escapedByte, isBig, isSmall]
  rfl

/-- A character that begins no escape stands for its own bytes. -/
theorem decodedBytes_cons {c : Char} {rest : List Char} (plain : beginsEscape (c :: rest) = false) :
    decodedBytes (c :: rest) = utf8Bytes c ++ decodedBytes rest := by
  rw [decodedBytes.eq_def]
  split
  · rename_i high low rest same
    rcases List.cons.inj same with ⟨rfl, rfl⟩
    split
    · rename_i isBig isSmall
      rw [beginsEscape, isBig, isSmall] at plain
      exact absurd plain.symm Bool.false_ne_true
    · rfl
  · rename_i same
    rcases List.cons.inj same with ⟨rfl, rfl⟩
    rfl
  · rename_i same
    exact absurd same (List.cons_ne_nil _ _)

/-- A text is read escape by escape, and character by character between them. -/
@[elab_as_elim]
theorem escapeInduction {motive : List Char → Prop} (nil : motive [])
    (escape : ∀ high low rest, beginsEscape ('%' :: high :: low :: rest) = true →
      motive rest → motive ('%' :: high :: low :: rest))
    (plain : ∀ c rest, beginsEscape (c :: rest) = false → motive rest → motive (c :: rest))
    (text : List Char) : motive text := by
  induction text using decodedBytes.induct with
  | case1 high low rest _ _ isSmall isBig ih =>
      apply escape high low rest _ ih
      rw [beginsEscape, isBig, isSmall]
      rfl
  | case2 high low rest notBoth ih =>
      apply plain '%' _ _ ih
      rw [beginsEscape]
      cases isBig : hexDigit? high with
      | none => rfl
      | some big =>
          cases isSmall : hexDigit? low with
          | none => rfl
          | some small => exact (notBoth big small isBig isSmall).elim
  | case3 c rest other ih =>
      apply plain c rest _ ih
      match rest with
      | [] => rfl
      | [_] => rfl
      | high :: low :: after =>
          exact beginsEscape_of_ne fun isPercent => other high low after isPercent rfl
  | case4 => exact nil

theorem decodedBytes_of_not_hasEscape {text : List Char} (plain : hasEscape text = false) :
    decodedBytes text = encodeUtf8 text := by
  induction text with
  | nil => rfl
  | cons c rest ih =>
      rw [hasEscape, Bool.or_eq_false_iff] at plain
      rw [decodedBytes_cons plain.1, ih plain.2, encodeUtf8_cons]

theorem length_escape_lt (high low : Char) (rest : List Char) :
    (encodeUtf8 rest).length + 1 < (encodeUtf8 ('%' :: high :: low :: rest)).length := by
  have first := length_utf8Bytes_pos '%'
  have second := length_utf8Bytes_pos high
  have third := length_utf8Bytes_pos low
  rw [encodeUtf8_cons, encodeUtf8_cons, encodeUtf8_cons, List.length_append, List.length_append,
    List.length_append]
  omega

theorem length_decodedBytes_le (text : List Char) :
    (decodedBytes text).length ≤ (encodeUtf8 text).length := by
  induction text using escapeInduction with
  | nil => exact Nat.le_refl _
  | escape high low rest begins ih =>
      have shorter := length_escape_lt high low rest
      rw [decodedBytes_escape begins, List.length_cons]
      omega
  | plain c rest plain ih =>
      rw [decodedBytes_cons plain, encodeUtf8_cons, List.length_append, List.length_append]
      exact Nat.add_le_add_left ih _

/-- Decoding shortens a text that has an escape. -/
theorem length_decodedBytes_lt {text : List Char} (escaped : hasEscape text = true) :
    (decodedBytes text).length < (encodeUtf8 text).length := by
  induction text using escapeInduction with
  | nil => exact absurd escaped Bool.false_ne_true
  | escape high low rest begins _ =>
      have shorter := length_escape_lt high low rest
      have bounded := length_decodedBytes_le rest
      rw [decodedBytes_escape begins, List.length_cons]
      omega
  | plain c rest plain ih =>
      rw [hasEscape, plain, Bool.false_or] at escaped
      rw [decodedBytes_cons plain, encodeUtf8_cons, List.length_append, List.length_append]
      exact Nat.add_lt_add_left (ih escaped) _

/-- Decoding leaves the bytes of a text as they are exactly if it has no escape. -/
theorem decodedBytes_eq_encodeUtf8_iff {text : List Char} :
    decodedBytes text = encodeUtf8 text ↔ hasEscape text = false := by
  constructor
  · intro same
    cases escaped : hasEscape text with
    | false => rfl
    | true =>
        have shorter := length_decodedBytes_lt escaped
        rw [same] at shorter
        exact absurd shorter (Nat.lt_irrefl _)
  · exact decodedBytes_of_not_hasEscape

/-- A character that is no digit in base sixteen ends every escape before it. -/
theorem beginsEscape_append {c mark : Char} {text rest : List Char}
    (noDigit : hexDigit? mark = none) :
    beginsEscape (c :: text ++ mark :: rest) = beginsEscape (c :: text) := by
  match text with
  | [] =>
      cases rest with
      | nil => rfl
      | cons second rest =>
          rw [List.cons_append, List.nil_append, beginsEscape, noDigit, Option.isSome_none,
            Bool.false_and, Bool.and_false]
          rfl
  | [second] =>
      rw [List.cons_append, List.cons_append, List.nil_append, beginsEscape, noDigit,
        Option.isSome_none, Bool.and_false, Bool.and_false]
      rfl
  | second :: third :: text => rfl

/-- A text can be cut before a character that is no digit in base sixteen. -/
theorem decodedBytes_append {text rest : List Char} {mark : Char}
    (noDigit : hexDigit? mark = none) :
    decodedBytes (text ++ mark :: rest) = decodedBytes text ++ decodedBytes (mark :: rest) := by
  induction text using escapeInduction with
  | nil => rfl
  | escape high low text begins ih =>
      have appended : decodedBytes ('%' :: high :: low :: (text ++ mark :: rest)) =
          escapedByte high low :: decodedBytes (text ++ mark :: rest) :=
        decodedBytes_escape begins
      rw [decodedBytes_escape begins]
      change decodedBytes ('%' :: high :: low :: (text ++ mark :: rest)) =
        escapedByte high low :: (decodedBytes text ++ decodedBytes (mark :: rest))
      rw [← ih]
      exact appended
  | plain c text plain ih =>
      have still : beginsEscape (c :: text ++ mark :: rest) = false :=
        (beginsEscape_append noDigit).trans plain
      rw [decodedBytes_cons plain, List.append_assoc, ← ih]
      exact decodedBytes_cons still

end JobConsole.Http.Host
