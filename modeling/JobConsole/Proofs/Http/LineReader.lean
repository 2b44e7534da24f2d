import Mathlib.Data.List.Basic
import JobConsole.Proofs.Http.EventStream

/-!
# Streams read line by line

An event stream can be read one line after the other: a line with a `data:` field adds its
value to the event, any other line is passed over, and an empty line hands over the event
if it has values.  What stands behind the last line break is no line yet.

The blocks of a stream are found in another way, by cutting the text at every two line
feeds, so that of an odd number of them the last one begins the next block.  Both ways come
to the same first event.  The induction follows the cuts; what has been read of a block is
known by the values of its lines and by the line that is still going on.
-/

namespace JobConsole.Http.EventStream

/-! ## The reader of lines -/

/-- The complete lines of a text that continues the given line, whose characters stand in
reverse.  A line ends with a line feed, perhaps with a carriage return in front of it. -/
def completeLinesAfter (line : List Char) : List Char → List (List Char)
  | '\r' :: '\n' :: rest => line.reverse :: completeLinesAfter [] rest
  | '\n' :: rest => line.reverse :: completeLinesAfter [] rest
  | c :: rest => completeLinesAfter (c :: line) rest
  | [] => []

/-- The complete lines of a text. -/
def completeLines (text : List Char) : List (List Char) :=
  completeLinesAfter [] text

/-- The value of a line that starts with `data:`, without one space in front. -/
def dataField? (line : List Char) : Option (List Char) :=
  (line.dropPrefix? ['d', 'a', 't', 'a', ':']).map fun value =>
    (value.dropPrefix? [' ']).getD value

/-- The data of the first event of the given lines, behind values that its first lines
have added. -/
def readEvent? (collected : List (List Char)) : List (List Char) → Option (List Char)
  | [] => none
  | [] :: rest => if collected = [] then readEvent? [] rest else some (['\n'].intercalate collected)
  | line :: rest => readEvent? (collected ++ (dataField? line).toList) rest

/-- Every carriage return of a text stands directly in front of a line feed. -/
def ReturnsAreBreaks (text : List Char) : Prop :=
  ∀ before after, text = before ++ '\r' :: after → after.head? = some '\n'

theorem ReturnsAreBreaks.of_append (front : List Char) {rest : List Char}
    (breaks : ReturnsAreBreaks (front ++ rest)) : ReturnsAreBreaks rest := by
  rintro before after rfl
  exact breaks (front ++ before) after (by rw [List.append_assoc])

theorem returnsAreBreaks_cons_iff {c : Char} {rest : List Char} :
    ReturnsAreBreaks (c :: rest) ↔
      (c = '\r' → rest.head? = some '\n') ∧ ReturnsAreBreaks rest := by
  constructor
  · intro breaks
    refine ⟨?_, breaks.of_append [c]⟩
    rintro rfl
    exact breaks [] rest rfl
  · rintro ⟨first, later⟩ before after split
    cases before with
    | nil =>
        obtain ⟨rfl, rfl⟩ := List.cons.inj split
        exact first rfl
    | cons d before => exact later before after (List.cons.inj split).2

instance decidableReturnsAreBreaks : DecidablePred ReturnsAreBreaks
  | [] => isTrue fun before after split => by simp at split
  | _ :: rest =>
      have := decidableReturnsAreBreaks rest
      decidable_of_iff' _ returnsAreBreaks_cons_iff

/-- A line break closes the part in front of it. -/
theorem ReturnsAreBreaks.closed {front rest : List Char}
    (breaks : ReturnsAreBreaks (front ++ '\n' :: rest)) : ReturnsAreBreaks (front ++ ['\n']) := by
  intro before after split
  have follows := breaks before (after ++ rest) (by
    rw [List.append_cons front '\n' rest, split, List.append_assoc, List.cons_append])
  cases after with
  | nil =>
      have last := congrArg List.getLast? split
      simp at last
  | cons c after => exact follows

/-! ## Lines of a text with line feeds only -/

theorem completeLinesAfter_cons (line : List Char) {c : Char} {rest : List Char}
    (inside : c ≠ '\n') (single : c = '\r' → rest.head? ≠ some '\n') :
    completeLinesAfter line (c :: rest) = completeLinesAfter (c :: line) rest := by
  rw [completeLinesAfter]
  · rintro _ rfl rfl
    exact single rfl rfl
  · exact inside

/-- Normalizing line breaks keeps the lines and leaves no carriage return. -/
theorem normalized_of_returnsAreBreaks {text : List Char} (breaks : ReturnsAreBreaks text) :
    '\r' ∉ normalizeBreaks text ∧ ∀ line,
      completeLinesAfter line (normalizeBreaks text) = completeLinesAfter line text := by
  fun_induction normalizeBreaks text with
  | case1 rest ih =>
      have later : ReturnsAreBreaks rest := breaks.of_append ['\r', '\n']
      obtain ⟨noReturn, same⟩ := ih later
      refine ⟨by simpa using noReturn, fun line => ?_⟩
      rw [completeLinesAfter, completeLinesAfter, same]
  | case2 c rest single ih =>
      have later : ReturnsAreBreaks rest := breaks.of_append [c]
      obtain ⟨noReturn, same⟩ := ih later
      have noBreak : c ≠ '\r' := by
        rintro rfl
        obtain ⟨others, rfl⟩ := List.head?_eq_some_iff.mp (breaks [] rest rfl)
        exact single others rfl rfl
      refine ⟨by simpa [noBreak.symm] using noReturn, fun line => ?_⟩
      by_cases feed : c = '\n'
      · subst feed
        rw [completeLinesAfter, completeLinesAfter, same]
      · rw [completeLinesAfter_cons line feed (absurd · noBreak),
          completeLinesAfter_cons line feed (absurd · noBreak), same]
  | case3 => exact ⟨List.not_mem_nil, fun line => rfl⟩

/-! ## Values of lines -/

theorem lineData?_eq_dataField? (line : List Char) : lineData? line = dataField? line := by
  fun_cases lineData? line with
  | case1 rest => simp [dataField?, List.dropPrefix?]
  | case2 rest noSpace =>
      cases rest with
      | nil => rfl
      | cons c rest =>
          have apart : c ≠ ' ' := by
            rintro rfl
            exact noSpace rest rfl
          simp [dataField?, List.dropPrefix?, apart]
  | case3 _ noSpace noData =>
      cases field : line.dropPrefix? ['d', 'a', 't', 'a', ':'] with
      | none => rw [dataField?, field, Option.map_none]
      | some value =>
          obtain ⟨name, rfl, same⟩ := List.dropPrefix?_eq_some_iff.mp field
          rw [eq_of_beq same] at noData
          exact (noData value rfl).elim

theorem joinLines_eq_intercalate (found : List (List Char)) :
    joinLines found = ['\n'].intercalate found := by
  fun_induction joinLines found with
  | case1 => rfl
  | case2 line => simp
  | case3 line rest more ih =>
      cases rest with
      | nil => exact absurd rfl more
      | cons next rest => rw [ih, List.intercalate_cons_cons, List.append_assoc]; rfl

/-! ## Blocks and lines -/

/-- What has been read of a block, whose characters stand in reverse: the values of its
complete lines, and the line that is still going on.  A line is new at the start of the
block and behind a line feed. -/
structure HasRead (block : List Char) (collected : List (List Char)) (line : List Char) :
    Prop where
  values : ∀ rest, (lines (block.reverse ++ rest)).filterMap lineData? =
    collected ++ (linesAfter line rest).filterMap lineData?
  fresh : line = [] → block = [] ∧ collected = [] ∨ block.head? = some '\n'
  noReturn : '\r' ∉ line

theorem hasRead_nil : HasRead [] [] [] where
  values _ := rfl
  fresh _ := .inl ⟨rfl, rfl⟩
  noReturn := List.not_mem_nil

theorem linesAfter_cons (line : List Char) {c : Char} (inside : c ≠ '\n') (rest : List Char) :
    linesAfter line (c :: rest) = linesAfter (c :: line) rest := by
  rw [linesAfter]
  exact inside

theorem finishLine_eq_reverse {line : List Char} (noReturn : '\r' ∉ line) :
    finishLine line = line.reverse := by
  cases line with
  | nil => rfl
  | cons c line =>
      rw [finishLine]
      exact fun _ same => List.ne_of_not_mem_cons noReturn (List.cons.inj same).1.symm

namespace HasRead

variable {block line : List Char} {collected : List (List Char)}

theorem extend (hasRead : HasRead block collected line) {c : Char} (inside : c ≠ '\n')
    (noReturn : c ≠ '\r') : HasRead (c :: block) collected (c :: line) where
  values rest := by
    rw [List.reverse_cons, List.append_assoc, List.singleton_append, hasRead.values,
      linesAfter_cons line inside]
  fresh nothing := nomatch nothing
  noReturn := by simpa [noReturn.symm] using hasRead.noReturn

theorem endLine (hasRead : HasRead block collected line) :
    HasRead ('\n' :: block) (collected ++ (dataField? line.reverse).toList) [] where
  values rest := by
    rw [List.reverse_cons, List.append_assoc, List.singleton_append, hasRead.values, linesAfter,
      List.filterMap_cons, finishLine_eq_reverse hasRead.noReturn, lineData?_eq_dataField?,
      List.append_assoc]
    cases dataField? line.reverse <;> rfl
  fresh _ := .inr rfl
  noReturn := List.not_mem_nil

/-- The data of a block that ends here are the values that have been read, and that of the
line that is still going on. -/
theorem blockData?_eq (hasRead : HasRead block collected line) :
    blockData? block.reverse =
      if collected ++ (dataField? line.reverse).toList = [] then none
      else some (['\n'].intercalate (collected ++ (dataField? line.reverse).toList)) := by
  have found : (lines block.reverse).filterMap lineData? =
      collected ++ (dataField? line.reverse).toList := by
    have values := hasRead.values []
    rw [List.append_nil] at values
    rw [values, linesAfter]
    cases line with
    | nil => rfl
    | cons c line =>
        rw [List.isEmpty_cons, if_neg Bool.false_ne_true, List.filterMap_cons, List.filterMap_nil,
          lineData?_eq_dataField?]
        cases dataField? (c :: line).reverse <;> rfl
  rw [blockData?, found]
  split
  · next nothing => rw [if_pos nothing]
  · next some => rw [if_neg some, joinLines_eq_intercalate]

/-- Reading on at the end of a line collects its value.  An empty line has nothing to hand
over here, since it is the first one of its block. -/
theorem readEvent?_cons (hasRead : HasRead block collected line)
    (first : block.head? ≠ some '\n') (others : List (List Char)) :
    readEvent? collected (line.reverse :: others) =
      readEvent? (collected ++ (dataField? line.reverse).toList) others := by
  by_cases new : line = []
  · obtain ⟨-, rfl⟩ := (hasRead.fresh new).resolve_right first
    subst new
    rfl
  · rw [readEvent?]
    simpa using new

end HasRead

/-- The first data of the blocks are those that the reader of lines finds.  The next
character is no line feed when the last one was, for two of them end a block. -/
theorem findSome?_blocksAfter {block text line : List Char} {collected : List (List Char)}
    (noReturn : '\r' ∉ text) (hasRead : HasRead block collected line)
    (between : block.head? = some '\n' → text.head? ≠ some '\n') :
    (blocksAfter block text).findSome? blockData? =
      readEvent? collected (completeLinesAfter line text) := by
  fun_induction blocksAfter block text generalizing collected line with
  | case1 block rest ih =>
      have later := ih (by simpa using noReturn) hasRead_nil (by simp)
      have first : block.head? ≠ some '\n' := fun feed => between feed rfl
      rw [completeLinesAfter, completeLinesAfter, hasRead.readEvent?_cons first,
        List.findSome?_cons, hasRead.blockData?_eq, List.reverse_nil, readEvent?]
      by_cases nothing : collected ++ (dataField? line.reverse).toList = []
      · rw [if_pos nothing, if_pos nothing]
        exact later
      · rw [if_neg nothing, if_neg nothing]
  | case2 block c rest inside ih =>
      obtain ⟨isOther, noReturnLater⟩ := List.ne_and_not_mem_of_not_mem_cons noReturn
      have noReturnHere : c ≠ '\r' := isOther.symm
      by_cases feed : c = '\n'
      · subst feed
        have first : block.head? ≠ some '\n' := fun feed => between feed rfl
        rw [completeLinesAfter, hasRead.readEvent?_cons first]
        refine ih noReturnLater hasRead.endLine fun _ next => ?_
        obtain ⟨others, rfl⟩ := List.head?_eq_some_iff.mp next
        exact inside others rfl rfl
      · rw [completeLinesAfter_cons line feed (absurd · noReturnHere)]
        refine ih noReturnLater (hasRead.extend feed noReturnHere) fun same => ?_
        exact absurd (Option.some.inj same) feed
  | case3 block => rfl

/-- The first data of a stream are those of its complete lines. -/
theorem firstData?_eq_readEvent? {text : List Char} (breaks : ReturnsAreBreaks text) :
    firstData? text = readEvent? [] (completeLines text) := by
  obtain ⟨noReturn, same⟩ := normalized_of_returnsAreBreaks breaks
  rw [completeLines, ← same]
  exact findSome?_blocksAfter noReturn hasRead_nil (by simp)

/-! ## What is passed over -/

/-- A line break separates the lines in front of it from those behind it. -/
theorem completeLinesAfter_append (line front rest : List Char) :
    completeLinesAfter line (front ++ '\n' :: rest) =
      completeLinesAfter line (front ++ ['\n']) ++ completeLines rest := by
  fun_induction completeLinesAfter line front with
  | case1 line front ih =>
      rw [List.cons_append, List.cons_append, completeLinesAfter, ih, List.cons_append,
        List.cons_append, completeLinesAfter, List.cons_append]
  | case2 line front ih =>
      rw [List.cons_append, completeLinesAfter, ih, List.cons_append, completeLinesAfter,
        List.cons_append]
  | case3 line c front single inside ih =>
      by_cases cut : c = '\r' ∧ front = []
      · obtain ⟨rfl, rfl⟩ := cut
        rfl
      · have apart (more : List Char) : c = '\r' → (front ++ '\n' :: more).head? ≠ some '\n' := by
          rintro rfl
          cases front with
          | nil => exact absurd ⟨rfl, rfl⟩ cut
          | cons d front => exact fun same => single front rfl (by simpa using same)
        rw [List.cons_append, List.cons_append, completeLinesAfter_cons line inside (apart rest),
          completeLinesAfter_cons line inside (apart []), ih]
  | case4 line => rfl

/-- Lines without values in front of an empty one add nothing. -/
theorem readEvent?_of_dataless {skipped : List (List Char)}
    (dataless : ∀ line ∈ skipped, dataField? line = none) (rest : List (List Char)) :
    readEvent? [] (skipped ++ [] :: rest) = readEvent? [] rest := by
  induction skipped with
  | nil => rfl
  | cons line skipped ih =>
      obtain ⟨noValue, later⟩ := List.forall_mem_cons.mp dataless
      cases line with
      | nil => exact ih later
      | cons c line =>
          rw [List.cons_append, readEvent?, noValue]
          · exact ih later
          · simp

/-- Lines behind the last empty one add nothing. -/
theorem readEvent?_append_of_not_mem {unfinished : List (List Char)}
    (noEmpty : [] ∉ unfinished) (collected front : List (List Char)) :
    readEvent? collected (front ++ unfinished) = readEvent? collected front := by
  have nothing (collected : List (List Char)) : readEvent? collected unfinished = none := by
    induction unfinished generalizing collected with
    | nil => rfl
    | cons line unfinished ih =>
        obtain ⟨filled, later⟩ := List.ne_and_not_mem_of_not_mem_cons noEmpty
        rw [readEvent?]
        · exact ih later _
        · exact filled.symm
  fun_induction readEvent? collected front with
  | case1 collected => exact nothing collected
  | case2 rest ih => exact ih
  | case3 collected rest filled => rw [List.cons_append, readEvent?, if_neg filled]
  | case4 collected line rest filled ih =>
      rw [List.cons_append, readEvent?, ih]
      exact filled

/-- The first data of a stream whose carriage returns all belong to line breaks are those
that a reader of its complete lines finds.  Lines without values up to an empty one change
nothing, and neither do lines behind the last empty one; without an empty line there are
no data. -/
theorem firstData?_line_by_line {text : List Char} (breaks : ReturnsAreBreaks text) :
    firstData? text = readEvent? [] (completeLines text) ∧
      (∀ skipped rest, text = skipped ++ '\n' :: rest →
        (completeLines (skipped ++ ['\n'])).getLast? = some [] →
          (∀ line ∈ completeLines (skipped ++ ['\n']), dataField? line = none) →
            firstData? text = firstData? rest) ∧
      (∀ front tail, text = front ++ '\n' :: tail → [] ∉ completeLines tail →
        firstData? text = firstData? (front ++ ['\n'])) ∧
      ([] ∉ completeLines text → firstData? text = none) := by
  refine ⟨firstData?_eq_readEvent? breaks, ?_, ?_, ?_⟩
  · rintro skipped rest rfl endsEmpty dataless
    have later : ReturnsAreBreaks rest := by
      rw [List.append_cons] at breaks
      exact breaks.of_append _
    obtain ⟨lines, split⟩ := List.getLast?_eq_some_iff.mp endsEmpty
    rw [split] at dataless
    rw [firstData?_eq_readEvent? breaks, firstData?_eq_readEvent? later, completeLines,
      completeLinesAfter_append, ← completeLines, split, List.append_assoc, List.singleton_append]
    exact readEvent?_of_dataless (fun line member => dataless line (by simp [member])) _
  · rintro front tail rfl noEmpty
    rw [firstData?_eq_readEvent? breaks, firstData?_eq_readEvent? breaks.closed, completeLines,
      completeLinesAfter_append]
    exact readEvent?_append_of_not_mem noEmpty _ _
  · intro noEmpty
    rw [firstData?_eq_readEvent? breaks]
    exact readEvent?_append_of_not_mem noEmpty [] []

/-- A stream with an odd number of empty lines at its front, a block of a comment only, an
event of mixed line breaks with an empty value in it, and an event that is not finished. -/
def mixedStream : List Char :=
  "\n\r\n\n: keep\r\n\ndata: a\r\nevent: b\ndata:\ndata:  c\n\r\ndata: d\n".toList

theorem firstData?_of_mixedStream :
    ReturnsAreBreaks mixedStream ∧
      completeLines mixedStream = ["", "", "", ": keep", "", "data: a", "event: b", "data:",
        "data:  c", "", "data: d"].map String.toList ∧
      firstData? mixedStream = some "a\n\n c".toList ∧
      firstData? mixedStream = firstData? (mixedStream.drop 13) ∧
      firstData? mixedStream = firstData? (mixedStream.take 47 ++ ['\n']) ∧
      firstData? (mixedStream.drop 48) = none := by
  have breaks : ReturnsAreBreaks mixedStream := by decide
  have lines : completeLines mixedStream = ["", "", "", ": keep", "", "data: a", "event: b",
      "data:", "data:  c", "", "data: d"].map String.toList := by
    decide +kernel
  have unfinished : [] ∉ completeLines (mixedStream.drop 48) := by decide +kernel
  obtain ⟨reads, skips, ends, -⟩ := firstData?_line_by_line breaks
  refine ⟨breaks, lines, ?_, ?_, ?_, ?_⟩
  · rw [reads, lines]
    decide +kernel
  · exact skips (mixedStream.take 12) _ (by decide) (by decide +kernel) (by decide +kernel)
  · exact ends _ (mixedStream.drop 48) (by decide) unfinished
  · exact (firstData?_line_by_line (by decide)).2.2.2 unfinished

end JobConsole.Http.EventStream
