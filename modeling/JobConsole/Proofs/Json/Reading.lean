import JobConsole.Json.Printer
import JobConsole.Json.Reader
import JobConsole.Proofs.Json.Shown
import JobConsole.Proofs.Text.Digits

/-!
# Reading what was written

The compact text of a value without binary64 numbers is read as a tree that shows the
value.  The reader is taken along the printer: an escape, a string and a run of digits
are each read whole, whatever follows them, and the induction on the value joins them.
Its invariant is that the fuel is twice the length of what is still to be read.
-/

namespace JobConsole.Json

open JobConsole.Number
open JobConsole.Text

namespace Raw

/-! ## Strings -/

theorem unit?_control {n : Nat} (control : n < 32) :
    unit? '0' '0' (hexDigit (n / 16)) (hexDigit (n % 16)) = some n := by
  have all : ∀ n < 32, unit? '0' '0' (hexDigit (n / 16)) (hexDigit (n % 16)) = some n := by decide
  exact all n control

theorem readString_stringChar (c : Char) (found more : List Char) :
    readString none ⟨found, none, true⟩ (stringChar c ++ more) =
      readString none ⟨c :: found, none, true⟩ more := by
  unfold stringChar
  split
  · next quote => rw [eq_of_beq quote]; rfl
  split
  · next backslash => rw [eq_of_beq backslash]; rfl
  split
  · next backspace => rw [eq_of_beq backspace]; rfl
  split
  · next formFeed => rw [eq_of_beq formFeed]; rfl
  split
  · next newline => rw [eq_of_beq newline]; rfl
  split
  · next carriageReturn => rw [eq_of_beq carriageReturn]; rfl
  split
  · next tab => rw [eq_of_beq tab]; rfl
  split
  · next control =>
      simp only [List.cons_append, List.nil_append, readString, unit?_control control,
        PartialString.pushUnit]
      rw [if_neg (by omega), if_neg (by omega), Char.ofNat_toNat]
      rfl
  · next noQuote noBackslash _ _ _ _ _ plain =>
      have isPlain : (c == '\\') = false := by simpa using noBackslash
      rw [List.singleton_append, readString]
      · simp [plain, isPlain, PartialString.push]
      · rintro rfl
        exact absurd rfl noQuote
      · intros
        simp_all
      · intros
        simp_all

/-- The characters of a string are read up to the closing quote. -/
theorem readString_flatMap (content found rest : List Char) :
    readString none ⟨found, none, true⟩ (content.flatMap stringChar ++ '\"' :: rest) =
      some (some (String.ofList (found.reverse ++ content)), rest) := by
  induction content generalizing found with
  | nil => simp [readString, PartialString.content]
  | cons c content ih =>
      rw [List.flatMap_cons, List.append_assoc, readString_stringChar, ih]
      simp

/-- A string is read back from behind its opening quote. -/
theorem readString_stringChars (s : String) (rest : List Char) :
    readString none .empty (s.toList.flatMap stringChar ++ '\"' :: rest) =
      some (some s, rest) := by
  rw [PartialString.empty, readString_flatMap, List.reverse_nil, List.nil_append,
    String.ofList_toList]

theorem stringChars_append (s : String) (rest : List Char) :
    stringChars s ++ rest = '\"' :: (s.toList.flatMap stringChar ++ '\"' :: rest) := by
  simp [stringChars]

/-! ## Numbers -/

/-- A text does not continue a number that ends before it. -/
def EndsNumber (text : List Char) : Prop :=
  ∀ c ∈ text.head?, isDigit c = false ∧ c ≠ '.' ∧ c ≠ 'e' ∧ c ≠ 'E'

theorem readDigitRun?_digits (n : Nat) {rest : List Char} (ends : EndsNumber rest) :
    readDigitRun? (digits n ++ rest) = some (digits n, rest) := by
  have run := span_isDigit_append (fun _ => isDigit_of_mem_digits (n := n))
    fun c first => (ends c first).1
  unfold readDigitRun?
  rw [run]
  split
  · next nothing => exact absurd (congrArg Prod.fst nothing) (digits_ne_nil n)
  · next same => rw [same]

theorem readWhole?_digits (n : Nat) {rest : List Char} (ends : EndsNumber rest) :
    readWhole? (digits n ++ rest) = some (digits n, rest) := by
  unfold readWhole?
  rw [readDigitRun?_digits n ends]
  split
  · next leading =>
      have leads : digits n = '0' :: _ :: _ := congrArg Prod.fst (Option.some.inj leading)
      rcases Nat.eq_zero_or_pos n with rfl | positive
      · cases leads
      · obtain ⟨first, others, shown, nonzero⟩ := digits_eq_cons positive
        exact absurd (List.cons.inj (shown.symm.trans leads)).1 nonzero
  · rfl

theorem readFraction?_of_endsNumber {rest : List Char} (ends : EndsNumber rest) :
    readFraction? rest = some (none, rest) := by
  unfold readFraction?
  split
  · exact absurd rfl (ends '.' rfl).2.1
  · rfl

theorem readExponent?_of_endsNumber {rest : List Char} (ends : EndsNumber rest) :
    readExponent? rest = some (none, rest) := by
  unfold readExponent?
  split
  · exact absurd rfl (ends 'e' rfl).2.2.1
  · exact absurd rfl (ends 'E' rfl).2.2.2
  · rfl

theorem readNumeral?_digits (negative : Bool) (n : Nat) {rest : List Char}
    (ends : EndsNumber rest) :
    readNumeral? negative (digits n ++ rest) = some (⟨negative, digits n, none, none⟩, rest) := by
  unfold readNumeral?
  simp only [readWhole?_digits n ends, readFraction?_of_endsNumber ends,
    readExponent?_of_endsNumber ends, Option.bind_eq_bind, Option.bind_some]

/-- A digit starts nothing else than a number. -/
theorem ne_of_isDigit {c : Char} (digit : isDigit c = true) :
    isSpace c = false ∧ c ≠ 'n' ∧ c ≠ 't' ∧ c ≠ 'f' ∧ c ≠ '\"' ∧ c ≠ '[' ∧ c ≠ ']' ∧
      c ≠ '\x7b' ∧ c ≠ '-' := by
  have solid : isSpace c = false := by
    cases space : isSpace c with
    | false => rfl
    | true =>
        simp only [isSpace, Bool.or_eq_true, beq_iff_eq] at space
        rcases space with ((rfl | rfl) | rfl) | rfl <;> cases digit
  refine ⟨solid, ?_, ?_, ?_, ?_, ?_, ?_, ?_, ?_⟩
  all_goals
    rintro rfl
    cases digit

/-- The text of an integer is read as a number. -/
theorem readValue_intDigits (i : Int) (fuel : Nat) {rest : List Char} (ends : EndsNumber rest) :
    readValue none (fuel + 1) (intDigits i ++ rest) =
      some (.number ⟨decide (i < 0), digits i.natAbs, none, none⟩, rest) := by
  unfold intDigits
  split
  · next negative =>
      simp only [List.cons_append, readValue, readNumeral?_digits true _ ends, Option.map_some,
        negative, decide_true]
  · next natural =>
      have read := readNumeral?_digits false i.natAbs ends
      obtain ⟨first, others, shown, digit⟩ := digits_eq_digit_cons i.natAbs
      obtain ⟨-, noNull, noTrue, noFalse, noQuote, noArray, -, noObject, noMinus⟩ :=
        ne_of_isDigit digit
      rw [shown, List.cons_append] at read ⊢
      rw [readValue.eq_def]
      simp only
      split <;> simp_all

/-- The number that the text of an integer stands for is this integer. -/
theorem number?_intDigits {i : Int} (isExact : (Number.whole i).IsExact) :
    Numeral.number? ⟨decide (i < 0), digits i.natAbs, none, none⟩ = some (.whole i) := by
  obtain ⟨-, low, high⟩ := isExact
  have bound : leastSigned64.natAbs = 9223372036854775808 := rfl
  simp only [leastSigned64] at low
  unfold Numeral.number?
  simp only [readDigits_digits]
  rcases Int.lt_or_le i 0 with negative | natural
  · rw [if_neg (by simp [negative]), if_pos]
    · congr 2
      omega
    · simp only [negative, decide_true, Option.isNone_none, Bool.and_self, Bool.true_and,
        Bool.and_eq_true, decide_eq_true_eq]
      omega
  · have small : i.natAbs < Numeral.unsignedBound :=
      show i.natAbs < 18446744073709551616 by omega
    rw [if_pos]
    · congr 2
      omega
    · simp [Int.not_lt.mpr natural, small]

/-! ## Values -/

/-- A text goes on with what may stand behind a value. -/
def Closes (text : List Char) : Prop :=
  ∀ c ∈ text.head?, c = ',' ∨ c = ']' ∨ c = '\x7d'

theorem Closes.endsNumber {text : List Char} (closes : Closes text) : EndsNumber text := by
  intro c first
  rcases closes c first with rfl | rfl | rfl <;> decide

theorem skipSpace_cons {c : Char} (solid : isSpace c = false) (text : List Char) :
    skipSpace (c :: text) = c :: text :=
  List.dropWhile_cons_of_neg (by simp [solid])

theorem Closes.skipSpace_eq {text : List Char} (closes : Closes text) :
    skipSpace text = text := by
  cases text with
  | nil => rfl
  | cons c text =>
      rcases closes c rfl with rfl | rfl | rfl <;> rfl

theorem closes_restChars (items : List Value) (more : List Char) :
    Closes (Value.restChars items ++ more) := by
  cases items with
  | nil =>
      rintro c ⟨⟩
      exact .inr (.inl rfl)
  | cons item items =>
      rintro c ⟨⟩
      exact .inl rfl

theorem closes_restMemberChars (members : List (String × Value)) (more : List Char) :
    Closes (Value.restMemberChars members ++ more) := by
  cases members with
  | nil =>
      rintro c ⟨⟩
      exact .inr (.inr rfl)
  | cons member members =>
      rintro c ⟨⟩
      exact .inl rfl

theorem length_restChars_pos (items : List Value) : 0 < (Value.restChars items).length := by
  cases items <;> exact Nat.succ_pos _

/-- The text of a value starts with a character that is no blank and closes no array. -/
theorem chars_eq_cons : ∀ {value : Value}, value.IsExact →
    ∃ first rest, value.chars = first :: rest ∧ isSpace first = false ∧ first ≠ ']'
  | .null, _ => ⟨_, _, rfl, rfl, by decide⟩
  | .bool true, _ => ⟨_, _, rfl, rfl, by decide⟩
  | .bool false, _ => ⟨_, _, rfl, rfl, by decide⟩
  | .number (.whole i), _ => by
      simp only [Value.chars, Number.chars, intDigits]
      split
      · exact ⟨_, _, rfl, rfl, by decide⟩
      · obtain ⟨first, rest, shown, digit⟩ := digits_eq_digit_cons i.natAbs
        obtain ⟨solid, -, -, -, -, -, noBracket, -⟩ := ne_of_isDigit digit
        exact ⟨first, rest, shown, solid, noBracket⟩
  | .number (.real x), isExact => isExact.1.elim
  | .string s, _ => ⟨_, _, rfl, rfl, by decide⟩
  | .array [], _ => ⟨_, _, rfl, rfl, by decide⟩
  | .array (item :: rest), _ => ⟨_, _, rfl, rfl, by decide⟩
  | .object [], _ => ⟨_, _, rfl, rfl, by decide⟩
  | .object ((key, value) :: rest), _ => ⟨_, _, rfl, rfl, by decide⟩

theorem skipSpace_chars {value : Value} (isExact : value.IsExact) (more : List Char) :
    skipSpace (value.chars ++ more) = value.chars ++ more := by
  obtain ⟨first, rest, shown, solid, -⟩ := chars_eq_cons isExact
  rw [shown, List.cons_append, skipSpace_cons solid]

/-- An array whose first character closes no array has items. -/
theorem readValue_array {text rest : List Char} {c : Char} (fuel : Nat)
    (solid : skipSpace text = c :: rest) (isOpen : c ≠ ']') :
    readValue none (fuel + 1) ('[' :: text) = readItems none fuel [] (c :: rest) := by
  simp only [readValue, solid]
  split
  · next closing => exact absurd (List.cons.inj closing).1 isOpen
  · rfl

mutual

/-- The text of a value is read as a tree that shows it. -/
theorem readValue_chars : ∀ {value : Value}, value.IsExact → ∀ (fuel : Nat) {more : List Char},
    Closes more → 2 * value.chars.length ≤ fuel + 1 →
      ∃ raw : Raw, raw.Shows value ∧ readValue none fuel (value.chars ++ more) = some (raw, more)
  | .null, _, fuel + 1, more, _, _ => ⟨.null, trivial, rfl⟩
  | .bool true, _, fuel + 1, more, _, _ => ⟨.bool true, rfl, rfl⟩
  | .bool false, _, fuel + 1, more, _, _ => ⟨.bool false, rfl, rfl⟩
  | .number (.whole i), isExact, fuel + 1, more, closes, _ =>
      ⟨.number _, number?_intDigits isExact, readValue_intDigits i fuel closes.endsNumber⟩
  | .number (.real x), isExact, _, _, _, _ => isExact.1.elim
  | .string s, _, fuel + 1, more, _, _ => by
      refine ⟨.string (some s), rfl, ?_⟩
      rw [Value.chars, stringChars_append]
      simp only [readValue, readString_stringChars, Option.map_some]
  | .array [], _, fuel + 1, more, _, _ => ⟨.array [], trivial, rfl⟩
  | .array (item :: rest), isExact, fuel + 1, more, closes, enough => by
      obtain ⟨-, exactItem, exactRest⟩ := isExact
      obtain ⟨c, tail, shown, -, isOpen⟩ := chars_eq_cons exactItem
      have closing := length_restChars_pos rest
      simp only [Value.chars, List.cons_append, List.length_cons, List.length_append] at enough
      obtain ⟨fuel, rfl⟩ : ∃ less, fuel = less + 1 := ⟨fuel - 1, by omega⟩
      obtain ⟨raw, shows, readItem⟩ := readValue_chars exactItem fuel
        (closes_restChars rest more) (by omega)
      obtain ⟨raws, areShown, readRest⟩ := readItems_restChars exactRest [] readItem
        (by omega)
      refine ⟨.array (raw :: raws), ⟨shows, areShown⟩, ?_⟩
      have solid := skipSpace_chars exactItem (Value.restChars rest ++ more)
      simp only [Value.chars, List.cons_append, List.append_assoc]
      rw [shown] at solid readRest ⊢
      rw [readValue_array _ solid isOpen]
      exact readRest
  | .object [], _, fuel + 1, more, _, _ => ⟨.object [], trivial, rfl⟩
  | .object ((key, value) :: rest), isExact, fuel + 1, more, closes, enough => by
      obtain ⟨-, exactValue, exactRest⟩ := isExact
      simp only [Value.chars, List.cons_append, List.length_cons, List.length_append] at enough
      obtain ⟨fuel, rfl⟩ : ∃ less, fuel = less + 1 := ⟨fuel - 1, by omega⟩
      obtain ⟨raw, shows, readItem⟩ := readValue_chars exactValue fuel
        (closes_restMemberChars rest more) (by omega)
      obtain ⟨raws, areShown, readRest⟩ := readMembers_restMemberChars exactRest []
        key (skipSpace_chars exactValue _) readItem (by omega)
      refine ⟨.object ((some key, raw) :: raws), ⟨rfl, shows, areShown⟩, ?_⟩
      simp only [Value.chars, List.cons_append, List.append_assoc]
      rw [stringChars_append] at readRest ⊢
      exact readRest
  | value, isExact, 0, _, _, enough => by
      obtain ⟨first, rest, shown, -⟩ := chars_eq_cons isExact
      rw [shown, List.length_cons] at enough
      omega

/-- Once the first item of an array is read, so are the others. -/
theorem readItems_restChars : ∀ {items : List Value},
    Value.ItemsEvery (Value.NumberIs Number.IsExact) items →
      ∀ {fuel : Nat} (found : List Raw) {text : List Char} {first : Raw} {more : List Char},
        readValue none fuel text = some (first, Value.restChars items ++ more) →
        2 * (Value.restChars items).length ≤ fuel + 1 →
          ∃ raws, ItemsShow raws items ∧
            readItems none (fuel + 1) found text =
              some (.array (found.reverse ++ first :: raws), more)
  | [], _, fuel, found, text, first, more, read, _ => by
      refine ⟨[], trivial, ?_⟩
      rw [readItems, read]
      simp only [Closes.skipSpace_eq (closes_restChars [] more)]
      simp only [Value.restChars, List.singleton_append, List.reverse_cons]
  | item :: items, isExact, fuel, found, text, first, more, read, enough => by
      simp only [Value.restChars, List.cons_append, List.length_append, List.length_cons] at enough
      obtain ⟨fuel, rfl⟩ : ∃ less, fuel = less + 1 := ⟨fuel - 1, by omega⟩
      obtain ⟨raw, shows, readItem⟩ := readValue_chars isExact.1 fuel
        (closes_restChars items more) (by omega)
      obtain ⟨raws, areShown, readRest⟩ := readItems_restChars isExact.2
        (first :: found) readItem (by omega)
      refine ⟨raw :: raws, ⟨shows, areShown⟩, ?_⟩
      rw [readItems, read]
      simp only [Closes.skipSpace_eq (closes_restChars (item :: items) more)]
      simp only [Value.restChars, List.cons_append, List.append_assoc]
      rw [skipSpace_chars isExact.1, readRest, List.reverse_cons, List.append_assoc,
        List.singleton_append]

/-- Once the first member of an object is read, so are the others. -/
theorem readMembers_restMemberChars : ∀ {members : List (String × Value)},
    Value.MembersEvery (Value.NumberIs Number.IsExact) members →
      ∀ {fuel : Nat} (found : List (Option String × Raw)) (key : String) {text : List Char}
        {first : Raw} {more : List Char}, skipSpace text = text →
        readValue none fuel text = some (first, Value.restMemberChars members ++ more) →
        2 * (Value.restMemberChars members).length ≤ fuel + 1 →
          ∃ raws, MembersShow raws members ∧
            readMembers none (fuel + 1) found (stringChars key ++ ':' :: text) =
              some (.object (found.reverse ++ (some key, first) :: raws), more)
  | [], _, fuel, found, key, text, first, more, solid, read, _ => by
      refine ⟨[], trivial, ?_⟩
      rw [stringChars_append, readMembers]
      simp only [readString_stringChars, skipSpace_cons (c := ':') rfl, solid, read]
      simp only [Closes.skipSpace_eq (closes_restMemberChars [] more)]
      simp only [Value.restMemberChars, List.singleton_append, List.reverse_cons]
  | (name, value) :: members, isExact, fuel, found, key, text, first, more, solid, read,
      enough => by
      simp only [Value.restMemberChars, List.cons_append, List.length_append,
        List.length_cons] at enough
      obtain ⟨fuel, rfl⟩ : ∃ less, fuel = less + 1 := ⟨fuel - 1, by omega⟩
      obtain ⟨raw, shows, readItem⟩ := readValue_chars isExact.1 fuel
        (closes_restMemberChars members more) (by omega)
      obtain ⟨raws, areShown, readRest⟩ := readMembers_restMemberChars isExact.2
        ((some key, first) :: found) name (skipSpace_chars isExact.1 _) readItem (by omega)
      refine ⟨(some name, raw) :: raws, ⟨rfl, shows, areShown⟩, ?_⟩
      rw [stringChars_append, readMembers]
      simp only [readString_stringChars, skipSpace_cons (c := ':') rfl, solid, read]
      simp only [Closes.skipSpace_eq (closes_restMemberChars ((name, value) :: members) more)]
      simp only [Value.restMemberChars, List.cons_append, List.append_assoc]
      rw [stringChars_append, skipSpace_cons rfl, ← stringChars_append, readRest,
        List.reverse_cons, List.append_assoc, List.singleton_append]

end

/-- The compact text of a value is read as a tree that shows it. -/
theorem exists_shows_ofString?_compact {value : Value} (isExact : value.IsExact) :
    ∃ raw, ofString? value.compact = some raw ∧ raw.Shows value := by
  have ends : Closes [] := by rintro c ⟨⟩
  obtain ⟨raw, shows, read⟩ := readValue_chars isExact (2 * value.chars.length + 2) ends (by omega)
  have solid := skipSpace_chars isExact []
  rw [List.append_nil] at read solid
  refine ⟨raw, ?_, shows⟩
  rw [ofString?, Value.compact, String.toList_ofList, read?, readDamaged?, solid, read]
  rfl

end Raw

end JobConsole.Json
