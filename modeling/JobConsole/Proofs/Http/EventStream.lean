import JobConsole.Api

/-!
# Streams in chunks

A stream of events is read anew after each chunk, so a chunk may end anywhere: inside
a character, between a carriage return and its line feed, or between the two line
feeds behind an event.  What has been read of a part of the stream differs from the
start of the whole in at most its last character, and that one never ends an event.
So an event that is complete in a part is the same event in the whole, and the first
data of a stream do not depend on how the stream is cut.
-/

namespace JobConsole

namespace Text

/-! ## Characters -/

/-- More bytes behind a sequence change nothing, unless its bytes run out. -/
theorem utf8Continue_append (value count : Nat) (low high : UInt8) (bytes more : List UInt8) :
    utf8Continue value count low high (bytes ++ more) =
        ((utf8Continue value count low high bytes).1,
          (utf8Continue value count low high bytes).2 ++ more) ∨
      utf8Continue value count low high bytes = (.damage, []) := by
  induction count generalizing value low high bytes with
  | zero => exact .inl rfl
  | succ count ih =>
      cases bytes with
      | nil => exact .inr rfl
      | cons byte rest =>
          simp only [List.cons_append, utf8Continue]
          split
          · exact ih _ _ _ rest
          · exact .inl rfl

/-- More bytes behind a unit change nothing, unless its bytes run out. -/
theorem utf8Next_append (byte : UInt8) (rest more : List UInt8) :
    utf8Next byte (rest ++ more) =
        ((utf8Next byte rest).1, (utf8Next byte rest).2 ++ more) ∨
      utf8Next byte rest = (.damage, []) := by
  unfold utf8Next
  split
  · exact .inl rfl
  · split
    · exact .inl rfl
    · exact utf8Continue_append _ _ _ _ rest more

/-- The units of a part are the first ones of the whole, but for damage where the part
ends inside a character. -/
theorem utf8Units_append (bytes more : List UInt8) :
    utf8Units bytes <+: utf8Units (bytes ++ more) ∨
      ∃ whole, utf8Units bytes = whole ++ [.damage] ∧ whole <+: utf8Units (bytes ++ more) := by
  fun_induction utf8Units bytes with
  | case1 => exact .inl List.nil_prefix
  | case2 byte rest ih =>
      rw [List.cons_append, utf8Units]
      rcases utf8Next_append byte rest more with same | ranOut
      · rw [same]
        rcases ih with whole | ⟨whole, split, isPrefix⟩
        · exact .inl (List.cons_prefix_cons.mpr ⟨rfl, whole⟩)
        · refine .inr ⟨(utf8Next byte rest).1 :: whole, ?_, ?_⟩
          · rw [split, List.cons_append]
          · exact List.cons_prefix_cons.mpr ⟨rfl, isPrefix⟩
      · rw [ranOut]
        exact .inr ⟨[], by rw [utf8Units, List.nil_append], List.nil_prefix⟩

theorem decodeLossy_eq_map (bytes : List UInt8) :
    decodeLossy bytes = (utf8Units bytes).map (Utf8Unit.show replacement) := by
  rw [decodeLossy, decodeMarked, utf8UnitsOnto_eq, List.append_nil, List.map_reverse,
    List.reverse_reverse]

/-- The text of a part is the first part of the text of the whole, but for a
replacement character where the part ends inside a character. -/
theorem decodeLossy_append (bytes more : List UInt8) :
    decodeLossy bytes <+: decodeLossy (bytes ++ more) ∨
      ∃ whole, decodeLossy bytes = whole ++ [replacement] ∧
        whole <+: decodeLossy (bytes ++ more) := by
  simp only [decodeLossy_eq_map]
  rcases utf8Units_append bytes more with whole | ⟨whole, split, isPrefix⟩
  · exact .inl (whole.map _)
  · refine .inr ⟨whole.map (Utf8Unit.show replacement), ?_, isPrefix.map _⟩
    rw [split, List.map_append]
    rfl

end Text

namespace Http.EventStream

open JobConsole.Text

/-! ## Line breaks and blocks -/

theorem normalizeBreaks_cons {c : Char} {rest : List Char}
    (single : c = '\r' → rest.head? ≠ some '\n') :
    normalizeBreaks (c :: rest) = c :: normalizeBreaks rest := by
  rw [normalizeBreaks]
  rintro _ rfl rfl
  exact single rfl rfl

theorem blocksAfter_cons (block : List Char) {c : Char} {rest : List Char}
    (inside : c = '\n' → rest.head? ≠ some '\n') :
    blocksAfter block (c :: rest) = blocksAfter (c :: block) rest := by
  rw [blocksAfter]
  rintro _ rfl rfl
  exact inside rfl rfl

theorem normalizeBreaks_concat (text : List Char) {c : Char} (apart : c ≠ '\n') :
    normalizeBreaks (text ++ [c]) = normalizeBreaks text ++ [c] := by
  fun_induction normalizeBreaks text with
  | case1 rest ih => rw [List.cons_append, List.cons_append, normalizeBreaks, ih, List.cons_append]
  | case2 d rest single ih =>
      rw [List.cons_append, normalizeBreaks_cons, ih, List.cons_append]
      rintro rfl
      cases rest with
      | nil => simpa using apart
      | cons e rest => exact fun same => single rest rfl (by simpa using same)
  | case3 => exact normalizeBreaks_cons (by simp)

/-- The text of a part with its line breaks normalized is the first part of that of the
whole, but for a carriage return where the part ends inside a line break. -/
theorem normalizeBreaks_append (text more : List Char) :
    normalizeBreaks text <+: normalizeBreaks (text ++ more) ∨
      ∃ whole, normalizeBreaks text = whole ++ ['\r'] ∧
        whole <+: normalizeBreaks (text ++ more) := by
  fun_induction normalizeBreaks text with
  | case1 rest ih =>
      rw [List.cons_append, List.cons_append, normalizeBreaks]
      rcases ih with whole | ⟨whole, split, isPrefix⟩
      · exact .inl (List.cons_prefix_cons.mpr ⟨rfl, whole⟩)
      · refine .inr ⟨'\n' :: whole, ?_, List.cons_prefix_cons.mpr ⟨rfl, isPrefix⟩⟩
        rw [split, List.cons_append]
  | case2 d rest single ih =>
      by_cases dangling : d = '\r' ∧ rest = []
      · obtain ⟨rfl, rfl⟩ := dangling
        exact .inr ⟨[], rfl, List.nil_prefix⟩
      · rw [List.cons_append, normalizeBreaks_cons]
        · rcases ih with whole | ⟨whole, split, isPrefix⟩
          · exact .inl (List.cons_prefix_cons.mpr ⟨rfl, whole⟩)
          · refine .inr ⟨d :: whole, ?_, List.cons_prefix_cons.mpr ⟨rfl, isPrefix⟩⟩
            rw [split, List.cons_append]
        · rintro rfl
          cases rest with
          | nil => exact absurd ⟨rfl, rfl⟩ dangling
          | cons e rest => exact fun same => single rest rfl (by simpa using same)
  | case3 => exact .inl List.nil_prefix

theorem blocksAfter_concat (block text : List Char) {c : Char} (apart : c ≠ '\n') :
    blocksAfter block (text ++ [c]) = blocksAfter block text := by
  fun_induction blocksAfter block text with
  | case1 block rest ih => rw [List.cons_append, List.cons_append, blocksAfter, ih]
  | case2 block d rest inside ih =>
      rw [List.cons_append, blocksAfter_cons, ih]
      rintro rfl
      cases rest with
      | nil => simpa using apart
      | cons e rest => exact fun same => inside rest rfl (by simpa using same)
  | case3 block => rw [List.nil_append, blocksAfter_cons _ (by simp), blocksAfter]

/-- The complete blocks of a part are the first ones of the whole. -/
theorem blocksAfter_append (block text more : List Char) :
    blocksAfter block text <+: blocksAfter block (text ++ more) := by
  fun_induction blocksAfter block text with
  | case1 block rest ih =>
      rw [List.cons_append, List.cons_append, blocksAfter]
      exact List.cons_prefix_cons.mpr ⟨rfl, ih⟩
  | case2 block d rest inside ih =>
      by_cases halfEnd : d = '\n' ∧ rest = []
      · obtain ⟨rfl, rfl⟩ := halfEnd
        rw [blocksAfter]
        exact List.nil_prefix
      · rw [List.cons_append, blocksAfter_cons]
        · exact ih
        · rintro rfl
          cases rest with
          | nil => exact absurd ⟨rfl, rfl⟩ halfEnd
          | cons e rest => exact fun same => inside rest rfl (by simpa using same)
  | case3 block => exact List.nil_prefix

/-- Line breaks that are cut in two end no block, so the complete blocks of a text are
the first ones of every text that it begins. -/
theorem blocks_normalizeBreaks_append (text more : List Char) :
    blocks (normalizeBreaks text) <+: blocks (normalizeBreaks (text ++ more)) := by
  rcases normalizeBreaks_append text more with ⟨rest, whole⟩ | ⟨whole, split, rest, isPrefix⟩
  · rw [← whole]
    exact blocksAfter_append [] _ rest
  · rw [split, ← isPrefix, blocks, blocksAfter_concat [] whole (by decide)]
    exact blocksAfter_append [] whole rest

/-- The complete blocks of a part of a stream are the first ones of the stream. -/
theorem blocks_decodeLossy_append (bytes more : List UInt8) :
    blocks (normalizeBreaks (decodeLossy bytes)) <+:
      blocks (normalizeBreaks (decodeLossy (bytes ++ more))) := by
  rcases decodeLossy_append bytes more with ⟨rest, whole⟩ | ⟨whole, split, rest, isPrefix⟩
  · rw [← whole]
    exact blocks_normalizeBreaks_append _ rest
  · have apart : replacement ≠ '\n' := by decide
    rw [split, ← isPrefix, normalizeBreaks_concat whole apart, blocks,
      blocksAfter_concat [] _ apart]
    exact blocks_normalizeBreaks_append whole rest

/-! ## Events -/

/-- What is found in a part of a stream is found in the stream. -/
theorem firstData?_append {bytes : List UInt8} {data : List Char}
    (found : firstData? (decodeLossy bytes) = some data) (more : List UInt8) :
    firstData? (decodeLossy (bytes ++ more)) = some data := by
  obtain ⟨later, whole⟩ := blocks_decodeLossy_append bytes more
  rw [firstData?] at found ⊢
  rw [← whole, List.findSome?_append, found]
  rfl

/-- Reading a stream anew after each chunk finds what is in the whole. -/
theorem receive_eq_of_none {arrived : List UInt8} (chunks : List (List UInt8))
    (nothing : firstData? (decodeLossy arrived) = none) :
    receive arrived chunks = firstData? (decodeLossy (arrived ++ chunks.flatten)) := by
  induction chunks generalizing arrived with
  | nil =>
      rw [List.flatten_nil, List.append_nil, nothing]
      rfl
  | cons chunk rest ih =>
      rw [List.flatten_cons, ← List.append_assoc, receive]
      cases found : firstData? (decodeLossy (arrived ++ chunk)) with
      | none => exact ih found
      | some data => exact (firstData?_append found rest.flatten).symm

theorem firstData?_nil : firstData? (decodeLossy []) = none := by
  rw [decodeLossy_eq_map, utf8Units]
  rfl

/-- However a stream is cut, its first data are those of the whole. -/
theorem receive_eq (chunks : List (List UInt8)) :
    receive [] chunks = firstData? (decodeLossy chunks.flatten) :=
  receive_eq_of_none chunks firstData?_nil

end Http.EventStream

namespace Api

open JobConsole.Http
open JobConsole.Http.EventStream
open JobConsole.Json
open JobConsole.Text

/-- The statistics in the data of an event. -/
def statsOf (data : List Char) : Except FetchError JobStats :=
  match (Raw.read? data).bind JobStats.decode? with
  | some stats => .ok stats
  | none => .error .undecodableEvent

/-- The statistics of a response are those in the first data of its whole body, and
without such data the stream was closed too early.  How the body is cut into chunks
does not matter. -/
theorem jobStats_of_whole_body (base : String) (url : Url) {response : Response}
    (usable : isErrorStatus response.status = false) :
    (∀ data, firstData? (decodeLossy response.body) = some data →
        (jobStats base).read (.ok (url, .answered response)) = statsOf data) ∧
      (firstData? (decodeLossy response.body) = none →
        (jobStats base).read (.ok (url, .answered response)) = .error .streamClosed) ∧
      ∀ chunks : List (List UInt8), chunks.flatten = response.chunks.flatten →
        (jobStats base).read (.ok (url, .answered { response with chunks })) =
          (jobStats base).read (.ok (url, .answered response)) := by
  have reads (response : Response) (usable : isErrorStatus response.status = false) :
      (jobStats base).read (.ok (url, .answered response)) =
        (firstData? (decodeLossy response.body)).elim (.error .streamClosed) statsOf := by
    simp only [jobStats, usableResponse, usable, Bool.false_eq_true, if_false]
    change readFirstEvent response = _
    rw [readFirstEvent, receive_eq, Response.body]
    cases firstData? (decodeLossy response.bodyChunks.flatten) <;> rfl
  rw [reads response usable]
  refine ⟨fun data found => by rw [found, Option.elim_some],
    fun nothing => by rw [nothing, Option.elim_none], ?_⟩
  intro chunks same
  rw [reads { response with chunks } usable]
  have sameBody : Response.body { response with chunks } = response.body := by
    simp only [Response.body, Response.bodyChunks]
    split
    · rfl
    · exact same
  rw [sameBody]

/-- A stream that is cut inside a character, inside a line break, and between the two
line breaks behind its first event. -/
def cutStream : Response where
  status := 200
  chunks := [[0x3a, 0xc3], [0xa9, 0x0a, 0x0a, 0x64, 0x61, 0x74, 0x61, 0x3a],
    encodeUtf8 "\x7b\"total\":1\x7d\r".toList, [0x0a, 0x0d], [0x0a]]

/-- The address that the stream comes from. -/
def cutStreamUrl : Url :=
  ⟨"http".toList, none, "/sse/jobstats".toList, none, none⟩

theorem jobStats_of_cutStream :
    isErrorStatus cutStream.status = false ∧
      firstData? (decodeLossy cutStream.body) = some "\x7b\"total\":1\x7d".toList ∧
      (jobStats "http://h").read (.ok (cutStreamUrl, .answered cutStream)) =
        .ok ⟨none, 1, 0, 0, 0, 0, 0, 0, 0, 0, 0⟩ := by
  have usable : isErrorStatus cutStream.status = false := by decide
  have found : firstData? (decodeLossy cutStream.body) = some "\x7b\"total\":1\x7d".toList := by
    decide +kernel
  have decoded : (Raw.read? "\x7b\"total\":1\x7d".toList).bind JobStats.decode? =
      some ⟨none, 1, 0, 0, 0, 0, 0, 0, 0, 0, 0⟩ := by
    decide +kernel
  obtain ⟨reads, -, -⟩ := jobStats_of_whole_body "http://h" cutStreamUrl usable
  refine ⟨usable, found, (reads _ found).trans ?_⟩
  rw [statsOf, decoded]

end Api

end JobConsole
