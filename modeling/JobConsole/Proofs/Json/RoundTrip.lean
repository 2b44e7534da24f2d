import JobConsole.Json.Decode
import JobConsole.Proofs.Json.Reading

/-!
# Values that restore data

A value restores a datum when every tree that shows it decodes to the datum.  A decoder
and an encoder make a round trip when every datum that decodes is restored by its value.
Round trips compose: through optional data, lists and the fields of records.
-/

namespace JobConsole.Json

variable {α β : Type}

/-- A value restores a datum: every tree that shows the value decodes to the datum, and
the numbers in the value are such as are read. -/
structure Value.Restores (value : Value) (decode : Raw → Option α) (a : α) : Prop where
  fits : value.Every (Value.NumberIs Number.Fits)
  decode_eq : ∀ raw : Raw, raw.Shows value → decode raw = some a

/-- What decodes is restored by its value. -/
structure RoundTrips (decode : Raw → Option α) (encode : α → Value) : Prop where
  restores : ∀ {raw : Raw} {a : α}, decode raw = some a → (encode a).Restores decode a

/-- The text of a value without binary64 numbers decodes to the datum that the value
restores. -/
theorem Value.Restores.decode?_compact {value : Value} {decode : Raw → Option α} {a : α}
    (restores : value.Restores decode a) (noReal : value.HasNoReal) :
    decode? decode value.compact = some a := by
  obtain ⟨raw, read, shows⟩ := Raw.exists_shows_ofString?_compact (noReal.isExact restores.fits)
  rw [decode?, read, Option.bind_some, restores.decode_eq raw shows]

theorem Value.hasNoReal_ofOption {encode : α → Value} {o : Option α}
    (noReal : ∀ a ∈ o, (encode a).HasNoReal) : (Value.ofOption encode o).HasNoReal := by
  cases o with
  | none => trivial
  | some a => exact noReal a rfl

theorem Value.hasNoReal_array {encode : α → Value} {data : List α}
    (noReal : ∀ a ∈ data, (encode a).HasNoReal) : (Value.array (data.map encode)).HasNoReal := by
  refine ⟨trivial, Value.itemsEvery_iff.mpr fun item member => ?_⟩
  obtain ⟨a, found, rfl⟩ := List.mem_map.mp member
  exact noReal a found

/-! ## Plain data -/

theorem restores_string {decode : Raw → Option α} {s : String} {a : α}
    (decodes : decode (.string (some s)) = some a) : (Value.string s).Restores decode a where
  fits := trivial
  decode_eq raw shows := by rw [Raw.shows_string_iff.mp shows, decodes]

theorem restores_text (s : String) : (Value.string s).Restores Raw.text? s :=
  restores_string rfl

theorem roundTrips_text : RoundTrips Raw.text? .string where
  restores _ := restores_text _

theorem restores_bool (b : Bool) : (Value.bool b).Restores Raw.bool? b where
  fits := trivial
  decode_eq raw shows := by rw [Raw.shows_bool_iff.mp shows, Raw.bool?]

theorem roundTrips_bool : RoundTrips Raw.bool? .bool where
  restores _ := restores_bool _

/-- A text with a meaning of its own is restored when the meaning of its text is. -/
theorem roundTrips_ofText {ofText? : String → Option α} {text : α → String}
    (ofText?_text : ∀ a, ofText? (text a) = some a) :
    RoundTrips (fun raw => raw.text?.bind ofText?) (fun a => .string (text a)) where
  restores _ := restores_string (ofText?_text _)

/-- An integer between bounds that fit is restored. -/
theorem restores_whole {low high i : Int} (least : Number.leastSigned64 ≤ low)
    (greatest : high < 18446744073709551616) (within : low ≤ i ∧ i ≤ high) :
    (Value.whole i).Restores (Raw.whole? low high) i where
  fits := ⟨Int.le_trans least within.1, Int.lt_of_le_of_lt within.2 greatest⟩
  decode_eq raw shows := by
    obtain ⟨numeral, rfl, isNumber⟩ := Raw.shows_number_iff.mp shows
    simp only [Raw.whole?, isNumber, if_pos within]

theorem Raw.within_of_whole? {low high i : Int} {raw : Raw}
    (decoded : raw.whole? low high = some i) : low ≤ i ∧ i ≤ high := by
  unfold whole? at decoded
  split at decoded
  · split at decoded
    · split at decoded
      · next within =>
          cases decoded
          exact within
      · cases decoded
    · cases decoded
  · cases decoded

theorem roundTrips_signed : RoundTrips Raw.signed? .whole where
  restores decoded := restores_whole (Int.le_refl _) (by decide) (Raw.within_of_whole? decoded)

theorem roundTrips_unsigned {bits : Nat} (small : bits ≤ 64) :
    RoundTrips (Raw.unsigned? bits) .natural := by
  refine ⟨fun decoded => ?_⟩
  obtain ⟨i, isWhole, rfl⟩ := Option.map_eq_some_iff.mp decoded
  have within := Raw.within_of_whole? isWhole
  have bound : Nat.pow 2 bits ≤ 18446744073709551616 := Nat.pow_le_pow_right (by decide) small
  have restores : (Value.whole i).Restores (Raw.whole? 0 (Nat.pow 2 bits - 1)) i :=
    restores_whole (by decide) (by omega) within
  have same : (i.toNat : Int) = i := Int.toNat_of_nonneg within.1
  refine ⟨?_, fun raw shows => ?_⟩
  · rw [Value.natural, same]
    exact restores.fits
  · rw [Value.natural, same] at shows
    rw [Raw.unsigned?, restores.decode_eq raw shows, Option.map_some]

/-! ## Optional data and lists -/

theorem restores_option_none (decode : Raw → Option α) :
    Value.null.Restores (Raw.option? decode) none where
  fits := trivial
  decode_eq raw shows := by rw [Raw.shows_null_iff.mp shows, Raw.option?]

/-- A datum that `null` does not decode to is restored when it is optional, too. -/
theorem Value.Restores.option {decode : Raw → Option α} {value : Value} {a : α}
    (restores : value.Restores decode a) (noNull : decode .null = none) :
    value.Restores (Raw.option? decode) (some a) where
  fits := restores.fits
  decode_eq raw shows := by
    have decoded := restores.decode_eq raw shows
    cases raw with
    | null => exact absurd (noNull.symm.trans decoded) nofun
    | bool | number | string | array | object => simp only [Raw.option?, decoded, Option.map_some]

theorem RoundTrips.option {decode : Raw → Option α} {encode : α → Value}
    (roundTrips : RoundTrips decode encode) (noNull : decode .null = none) :
    RoundTrips (Raw.option? decode) (.ofOption encode) := by
  refine ⟨fun {raw o} decoded => ?_⟩
  cases o with
  | none => exact restores_option_none decode
  | some a =>
      unfold Raw.option? at decoded
      split at decoded
      · cases decoded
      · obtain ⟨_, isDatum, same⟩ := Option.map_eq_some_iff.mp decoded
        cases same
        exact (roundTrips.restores isDatum).option noNull

/-- Every datum of a list comes from an item. -/
theorem Raw.exists_mem_of_all? {decode : Raw → Option α} {items : List Raw} {data : List α}
    (decoded : all? decode items = some data) :
    ∀ a ∈ data, ∃ item ∈ items, decode item = some a := by
  induction items generalizing data with
  | nil =>
      cases decoded
      exact fun a member => absurd member List.not_mem_nil
  | cons item rest ih =>
      simp only [all?] at decoded
      split at decoded
      · next first others isFirst areOthers =>
          cases decoded
          intro a member
          rcases List.mem_cons.mp member with rfl | later
          · exact ⟨item, List.mem_cons_self, isFirst⟩
          · obtain ⟨other, found, isDatum⟩ := ih areOthers a later
            exact ⟨other, List.mem_cons_of_mem _ found, isDatum⟩
      · cases decoded

theorem Raw.all?_of_show {decode : Raw → Option α} {encode : α → Value} {data : List α}
    (restores : ∀ a ∈ data, (encode a).Restores decode a) {items : List Raw}
    (shows : ItemsShow items (data.map encode)) : all? decode items = some data := by
  induction data generalizing items with
  | nil =>
      cases items with
      | nil => rfl
      | cons item rest => exact shows.elim
  | cons a rest ih =>
      cases items with
      | nil => exact shows.elim
      | cons item items =>
          have first := (restores a List.mem_cons_self).decode_eq item shows.1
          have others := ih (fun b member => restores b (List.mem_cons_of_mem _ member)) shows.2
          simp only [all?, first, others]

/-- A list is restored when all its data are. -/
theorem restores_list {decode : Raw → Option α} {encode : α → Value} {data : List α}
    (restores : ∀ a ∈ data, (encode a).Restores decode a) :
    (Value.array (data.map encode)).Restores (Raw.list? decode) data where
  fits := ⟨trivial, Value.itemsEvery_iff.mpr fun item member => by
    obtain ⟨a, found, rfl⟩ := List.mem_map.mp member
    exact (restores a found).fits⟩
  decode_eq raw shows := by
    obtain ⟨items, rfl, areShown⟩ := Raw.shows_array_iff.mp shows
    exact Raw.all?_of_show restores areShown

theorem RoundTrips.list {decode : Raw → Option α} {encode : α → Value}
    (roundTrips : RoundTrips decode encode) :
    RoundTrips (Raw.list? decode) (fun data => .array (data.map encode)) := by
  refine ⟨fun {raw data} decoded => ?_⟩
  cases raw with
  | array items =>
      refine restores_list fun a member => ?_
      obtain ⟨item, -, isDatum⟩ := Raw.exists_mem_of_all? decoded a member
      exact roundTrips.restores isDatum
  | null | bool | number | string | object => cases decoded

/-! ## Bounded depth -/

theorem Raw.depth_le_itemsDepth {items : List Raw} {item : Raw} (member : item ∈ items) :
    item.depth ≤ itemsDepth items := by
  induction items with
  | nil => exact absurd member List.not_mem_nil
  | cons first rest ih =>
      rcases List.mem_cons.mp member with rfl | later
      · exact Nat.le_max_left _ _
      · exact Nat.le_trans (ih later) (Nat.le_max_right _ _)

/-- A value that is not too deep is restored by a decoder that bounds the depth. -/
theorem Value.Restores.within {value : Value} {decode : Raw → Option α} {a : α} {bound : Nat}
    (restores : value.Restores decode a) (within : value.depth ≤ bound) :
    value.Restores (fun raw => if raw.depth ≤ bound then decode raw else none) a where
  fits := restores.fits
  decode_eq raw shows := by
    rw [if_pos (Raw.depth_eq_of_shows shows ▸ within), restores.decode_eq raw shows]

/-! ## Records -/

/-- Fields show members: under the name of each of them stands a tree that shows its
value. -/
def Fields.Show (fields : Fields) (values : List (String × Value)) : Prop :=
  ∀ member ∈ values, ∃ raw, fields.lookup member.1 = some raw ∧ raw.Shows member.2

/-- In members that show members with distinct keys all known ones are found, and
nothing else. -/
theorem Raw.exists_knownMembers? {members : List (Option String × Raw)}
    {values : List (String × Value)} (shows : MembersShow members values)
    (distinct : (values.map Prod.fst).Nodup) (names : List String) :
    ∃ fields, knownMembers? names members = some fields ∧
      (∀ member ∈ values, member.1 ∈ names →
        ∃ raw, fields.lookup member.1 = some raw ∧ raw.Shows member.2) ∧
      ∀ name, name ∉ values.map Prod.fst → fields.lookup name = none := by
  induction values generalizing members with
  | nil =>
      cases members with
      | nil => exact ⟨[], rfl, fun _ found => absurd found List.not_mem_nil, fun _ _ => rfl⟩
      | cons member rest => exact shows.elim
  | cons value values ih =>
      cases members with
      | nil => exact shows.elim
      | cons member members =>
          obtain ⟨key, item⟩ := member
          obtain ⟨name, value⟩ := value
          obtain ⟨rfl, itemShows, restShows⟩ := shows
          obtain ⟨isNew, restDistinct⟩ := List.nodup_cons.mp distinct
          obtain ⟨fields, known, areShown, nothing⟩ := ih restShows restDistinct
          by_cases isKnown : name ∈ names
          · refine ⟨(name, item) :: fields, ?_, ?_, ?_⟩
            · simp [knownMembers?, known, isKnown, nothing name isNew]
            · intro member found isField
              rcases List.mem_cons.mp found with rfl | later
              · exact ⟨item, List.lookup_cons_self, itemShows⟩
              · obtain ⟨raw, isRaw, rawShows⟩ := areShown member later isField
                have other : (member.1 == name) = false :=
                  beq_false_of_ne fun same => isNew (List.mem_map.mpr ⟨member, later, same⟩)
                exact ⟨raw, by rw [List.lookup_cons, other]; exact isRaw, rawShows⟩
            · intro other absent
              rw [List.map_cons, List.mem_cons, not_or] at absent
              rw [List.lookup_cons, beq_false_of_ne absent.1]
              exact nothing other absent.2
          · refine ⟨fields, ?_, ?_, ?_⟩
            · simp [knownMembers?, known, isKnown]
            · intro member found isField
              rcases List.mem_cons.mp found with rfl | later
              · exact absurd isField isKnown
              · exact areShown member later isField
            · intro other absent
              exact nothing other fun later => absent (List.mem_cons_of_mem _ later)

namespace Fields

variable {fields : Fields} {values : List (String × Value)} {name : String} {value : Value}
  {decode : Raw → Option α} {a : α}

theorem Show.required?_eq (shown : fields.Show values) (member : (name, value) ∈ values)
    (restores : value.Restores decode a) : fields.required? name decode = some a := by
  obtain ⟨raw, found, shows⟩ := shown (name, value) member
  simp only [required?, found, restores.decode_eq raw shows]

theorem Show.given?_eq (shown : fields.Show values) (member : (name, value) ∈ values)
    (restores : value.Restores decode a) (standard : α) :
    fields.given? name standard decode = some a := by
  obtain ⟨raw, found, shows⟩ := shown (name, value) member
  simp only [given?, found, restores.decode_eq raw shows]

end Fields

/-! A record is decoded field by field.  What comes after a field is decoded with its
datum, which is restored. -/

section FieldRoundTrips

variable {decode : Raw → Option α} {encode : α → Value} {fields : Fields} {name : String} {b : β}

theorem RoundTrips.exists_of_required (roundTrips : RoundTrips decode encode)
    {more : α → Option β} (decoded : (fields.required? name decode).bind more = some b) :
    ∃ a, (encode a).Restores decode a ∧ more a = some b := by
  obtain ⟨a, read, decoded⟩ := Option.bind_eq_some_iff.mp decoded
  refine ⟨a, ?_, decoded⟩
  unfold Fields.required? at read
  split at read
  · exact roundTrips.restores read
  · cases read

/-- A field with a value for when it is not given is restored when this value is. -/
theorem RoundTrips.exists_of_given (roundTrips : RoundTrips decode encode) {standard : α}
    (restores : (encode standard).Restores decode standard) {more : α → Option β}
    (decoded : (fields.given? name standard decode).bind more = some b) :
    ∃ a, (encode a).Restores decode a ∧ more a = some b := by
  obtain ⟨a, read, decoded⟩ := Option.bind_eq_some_iff.mp decoded
  refine ⟨a, ?_, decoded⟩
  unfold Fields.given? at read
  split at read
  · exact roundTrips.restores read
  · cases read
    exact restores

/-- A field that may be left out is restored as `null` when it was. -/
theorem RoundTrips.exists_of_optional (roundTrips : RoundTrips decode encode)
    (noNull : decode .null = none) {more : Option α → Option β}
    (decoded : (fields.optional? name decode).bind more = some b) :
    ∃ o, (Value.ofOption encode o).Restores (Raw.option? decode) o ∧ more o = some b := by
  have absent : (Value.ofOption encode none).Restores (Raw.option? decode) none :=
    restores_option_none decode
  exact (roundTrips.option noNull).exists_of_given absent decoded

end FieldRoundTrips

/-- An object restores a record when its members are distinct fields of the record and
fields that show them decode to the record. -/
theorem restores_record {names : List String} {values : List (String × Value)}
    {decodeFields : Fields → Option α} {a : α} (areFields : values.map Prod.fst = names)
    (distinct : names.Nodup)
    (fits : Value.MembersEvery (Value.NumberIs Number.Fits) values)
    (decodes : ∀ fields : Fields, fields.Show values → decodeFields fields = some a) :
    (Value.object values).Restores (fun raw => (raw.fields? names).bind decodeFields) a where
  fits := ⟨trivial, fits⟩
  decode_eq raw shows := by
    obtain ⟨members, rfl, areShown⟩ := Raw.shows_object_iff.mp shows
    obtain ⟨fields, known, shown, -⟩ :=
      Raw.exists_knownMembers? areShown (areFields ▸ distinct) names
    have all : fields.Show values := fun member found =>
      shown member found (areFields ▸ List.mem_map_of_mem found)
    simp only [Raw.fields?, known, Option.bind_some, decodes fields all]

end JobConsole.Json
