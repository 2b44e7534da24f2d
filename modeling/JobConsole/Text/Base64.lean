/-!
# Base 64

Three bytes are written as four characters, each of which stands for six bits.  What is
missing at the end is filled with zeros, and a character that stands for nothing but
them is an equals sign.
-/

namespace JobConsole.Text.Base64

/-- The character for a number below sixty-four. -/
def digit (n : Nat) : Char :=
  if n < 26 then Char.ofNat ('A'.toNat + n)
  else if n < 52 then Char.ofNat ('a'.toNat + (n - 26))
  else if n < 62 then Char.ofNat ('0'.toNat + (n - 52))
  else if n = 62 then '+'
  else '/'

/-- The characters for the three bytes of a number. -/
def digits (n : Nat) : List Char :=
  [digit (n / 262144 % 64), digit (n / 4096 % 64), digit (n / 64 % 64), digit (n % 64)]

/-- The characters for bytes. -/
def encode : List UInt8 → List Char
  | [] => []
  | [a] => (digits (65536 * a.toNat)).take 2 ++ ['=', '=']
  | [a, b] => (digits (65536 * a.toNat + 256 * b.toNat)).take 3 ++ ['=']
  | a :: b :: c :: rest => digits (65536 * a.toNat + 256 * b.toNat + c.toNat) ++ encode rest

/-- There are four characters for every three bytes, the last ones of which may be
missing. -/
theorem length_encode (bytes : List UInt8) :
    (encode bytes).length = 4 * ((bytes.length + 2) / 3) := by
  fun_induction encode bytes with
  | case1 => rfl
  | case2 => simp [digits]
  | case3 => simp [digits]
  | case4 a b c rest ih =>
      simp only [List.length_append, ih, digits, List.length_cons, List.length_nil]
      omega

end JobConsole.Text.Base64
