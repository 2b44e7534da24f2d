import JobConsole.Http.HostName.Direction
import JobConsole.Http.HostName.Image
import JobConsole.Http.HostName.Joining
import JobConsole.Text.Composed
import JobConsole.Text.Punycode

/-!
# Names of hosts

A name is written in any script and sent in ASCII.  Its characters have their images,
and the text of the images is composed.  Between dots there are labels.  A label may be an
ASCII form, which begins with `xn--`; the text that it stands for must be its own image.
All other labels stand for themselves.  A label has no mark at its start and no joiner
where that changes nothing, and all labels run as they may.  Then every label is
written in its ASCII form.

`ascii?_of_plain` says that names of the ASCII range without ASCII forms only lose
their case.
-/

namespace JobConsole.Http.HostName

open JobConsole.Text

/-- What an ASCII form begins with. -/
def formStart : List Char := ['x', 'n', '-', '-']

/-- Whether a text consists of characters of the ASCII range. -/
def isAscii (text : List Char) : Bool :=
  text.all Punycode.isBasic

/-- The greatest length of an ASCII form that is read, without its start. -/
def greatestFormLength : Nat := 2000

/-- The greatest length of a label that is written in ASCII form. -/
def greatestLabelLength : Nat := 1000

/-- A name with the images of its characters. -/
def imaged? (name : List Char) : Option (List Char) :=
  (imageOfText? name).map composed

/-- Whether a text is the text of an ASCII form: it needs one, it is its own image, and
it does not look like an ASCII form itself. -/
def isFormText (text : List Char) : Bool :=
  !isAscii text && imaged? text == some text && !formStart.isPrefixOf text

/-- The text with an ASCII form, of which the start is left out. -/
def formText? (form : List Char) : Option (List Char) :=
  if form.getLast? = some '-' || greatestFormLength < form.length || !isAscii form then none
  else (Punycode.decode? form).filter isFormText

/-- A label, and its ASCII form. -/
structure Label where
  text : List Char
  form : List Char

namespace Label

/-- The label that a part of a name stands for. -/
def read? (part : List Char) : Option Label :=
  if formStart.isPrefixOf part then
    (formText? (part.drop formStart.length)).map fun text => ⟨text, part⟩
  else if isAscii part then some ⟨part, part⟩
  else if greatestLabelLength < part.length then none
  else some ⟨part, formStart ++ Punycode.encode part⟩

/-- Whether no mark is at the start of a label, and all joiners may be where they
are. -/
def isSound (label : Label) : Bool :=
  !(label.text.head?.any isMark) && joinWell [] label.text

end Label

/-- The labels of a name in which every character has its image. -/
def labels? (name : List Char) : Option (List Label) :=
  match (name.splitOn '.').mapM Label.read? with
  | none => none
  | some labels =>
      if labels.all Label.isSound && runWell (labels.map Label.text) then some labels else none

/-- The ASCII form of a name, in which no character has the given property when it
stands for its image. -/
def ascii? (isForbidden : Char → Bool) (name : List Char) : Option (List Char) :=
  match imaged? name with
  | none => none
  | some name =>
      if name.any isForbidden then none
      else (labels? name).map fun labels => ['.'].intercalate (labels.map Label.form)

theorem ascii_toLower {c : Char} (ascii : c.toNat < 0x80) : c.toLower.toNat < 0x80 := by
  have all : ∀ n < 0x80, (Char.ofNat n).toLower.toNat < 0x80 := by decide
  simpa using all c.toNat ascii

/-- The characters of the parts of a text are characters of the text. -/
theorem mem_of_mem_splitOn {text part : List Char} {mark c : Char}
    (isPart : part ∈ text.splitOn mark) (member : c ∈ part) : c ∈ text := by
  induction text generalizing part with
  | nil =>
      simp only [List.splitOn_nil, List.mem_singleton] at isPart
      subst isPart
      exact member
  | cons d rest ih =>
      rw [List.splitOn, List.splitOnP_cons_eq_if_modifyHead] at isPart
      split at isPart
      · rcases List.mem_cons.mp isPart with rfl | inRest
        · contradiction
        · exact List.mem_cons_of_mem d (ih inRest member)
      · cases parts : rest.splitOnP (· == mark) with
        | nil => simp [parts] at isPart
        | cons first others =>
            rw [parts, List.modifyHead_cons] at isPart
            have inSplit : ∀ p ∈ first :: others, p ∈ rest.splitOn mark := by
              intro p isFound
              rw [List.splitOn, parts]
              exact isFound
            rcases List.mem_cons.mp isPart with rfl | inOthers
            · rcases List.mem_cons.mp member with rfl | inFirst
              · exact List.mem_cons_self
              · exact List.mem_cons_of_mem d (ih (inSplit first List.mem_cons_self) inFirst)
            · exact List.mem_cons_of_mem d
                (ih (inSplit part (List.mem_cons_of_mem first inOthers)) member)

theorem joinWell_of_ascii {before text : List Char} (all : ∀ c ∈ text, c.toNat < 0x80) :
    joinWell before text = true := by
  induction text generalizing before with
  | nil => rfl
  | cons c rest ih =>
      have ascii := all c List.mem_cons_self
      have noJoiner : c ≠ joiner ∧ c ≠ nonJoiner := by
        constructor <;> (rintro rfl; revert ascii; decide)
      have others : ∀ d ∈ rest, d.toNat < 0x80 :=
        fun d member => all d (List.mem_cons_of_mem c member)
      simp [joinWell, mayJoin, noJoiner, ih others]

theorem runsFromRight_of_ascii {c : Char} (ascii : c.toNat < 0x80) :
    (Direction.of c).runsFromRight = false := by
  have noRight : inRanges Direction.rightRanges c.toNat = false :=
    inRanges_eq_false_of_below (by decide +kernel) ascii
  have noArabic : inRanges Direction.arabicRanges c.toNat = false :=
    inRanges_eq_false_of_below (by decide +kernel) ascii
  simp only [Direction.of, noRight, noArabic]
  repeat' split
  all_goals simp_all [Direction.runsFromRight]

/-- A label of the ASCII range is sound. -/
theorem isSound_of_ascii {part : List Char} (all : ∀ c ∈ part, c.toNat < 0x80) :
    Label.isSound ⟨part, part⟩ = true := by
  have noMark : part.head?.any isMark = false := by
    cases part with
    | nil => rfl
    | cons c rest => exact isMark_eq_false_of_ascii (all c List.mem_cons_self)
  simp [Label.isSound, noMark, joinWell_of_ascii all]

theorem runWell_of_ascii {parts : List (List Char)}
    (all : ∀ part ∈ parts, ∀ c ∈ part, c.toNat < 0x80) : runWell parts = true := by
  have none : (parts.map (·.map Direction.of)).any (·.any Direction.runsFromRight) = false := by
    rw [List.any_map, List.any_eq_false]
    intro part isPart
    simp only [Function.comp_def, List.any_map, Bool.not_eq_true, List.any_eq_false]
    intro c member
    simp [runsFromRight_of_ascii (all part isPart c member)]
  simp [runWell, none]

theorem labels?_of_plain {name : List Char} (ascii : ∀ c ∈ name, c.toNat < 0x80)
    (plain : ∀ part ∈ name.splitOn '.', formStart.isPrefixOf part = false) :
    labels? name = some ((name.splitOn '.').map fun part => ⟨part, part⟩) := by
  have ofParts : ∀ part ∈ name.splitOn '.', ∀ c ∈ part, c.toNat < 0x80 :=
    fun part isPart c member => ascii c (mem_of_mem_splitOn isPart member)
  have well := runWell_of_ascii ofParts
  have reads : (name.splitOn '.').mapM Label.read? =
      some ((name.splitOn '.').map fun part => ⟨part, part⟩) := by
    clear well
    generalize name.splitOn '.' = parts at plain ofParts
    induction parts with
    | nil => rfl
    | cons part rest ih =>
        have others := ih (fun p member => plain p (List.mem_cons_of_mem part member))
          (fun p member => ofParts p (List.mem_cons_of_mem part member))
        have isPlain := plain part List.mem_cons_self
        have isBasic : isAscii part = true := by
          rw [isAscii, List.all_eq_true]
          exact fun c member => decide_eq_true (ofParts part List.mem_cons_self c member)
        have first : Label.read? part = some ⟨part, part⟩ := by
          simp [Label.read?, isPlain, isBasic]
        simp [List.mapM_cons, first, others]
  have sound : ((name.splitOn '.').map fun part => (⟨part, part⟩ : Label)).all Label.isSound := by
    simpa [List.all_map, Function.comp_def, List.all_eq_true] using
      fun part isPart => isSound_of_ascii (ofParts part isPart)
  simp [labels?, reads, sound, Function.comp_def, well]

/-- A name of the ASCII range in which nothing looks like an ASCII form only loses its
case. -/
theorem ascii?_of_plain {isForbidden : Char → Bool} {name : List Char}
    (ascii : ∀ c ∈ name, c.toNat < 0x80)
    (allowed : ∀ c ∈ name, isForbidden c.toLower = false)
    (plain : ∀ part ∈ (name.map Char.toLower).splitOn '.', formStart.isPrefixOf part = false) :
    ascii? isForbidden name = some (name.map Char.toLower) := by
  have lower : ∀ c ∈ name.map Char.toLower, c.toNat < 0x80 := by
    intro c member
    obtain ⟨d, inName, rfl⟩ := List.mem_map.mp member
    exact ascii_toLower (ascii d inName)
  have image : imaged? name = some (name.map Char.toLower) := by
    simp [imaged?, imageOfText?_of_ascii ascii, composed_eq_self lower]
  have noneForbidden : (name.map Char.toLower).any isForbidden = false := by
    simpa [List.any_eq_false] using allowed
  rw [ascii?, image]
  simp [noneForbidden, labels?_of_plain lower plain, Function.comp_def,
    List.intercalate_splitOn]

end JobConsole.Http.HostName
