import Mathlib.Data.List.DropRight
import FizzRs.PemText

namespace PemText

/-!
# Concatenating PEM texts

Reading blocks is almost a homomorphism from concatenation of texts to
concatenation of lists of blocks.  It can only fail at the seam: the last line
of the first text and the first line of the second one may become one line, and
a block that the first text leaves open swallows lines of the second.

Blocks are compared without line terminators, so the reader here works on rows,
which are lines without the blanks at their end.
-/

/-- The lines of a text, without the blanks at their end. -/
def rows (text : String) : List (List Char) :=
  (lines text.toList).map strip

/-- The blocks of a text, without line terminators. -/
def contents (text : String) : List Block :=
  scan none (rows text)

/-- The block that a scan is inside of after some lines. -/
def openBlock : Option Block → List (List Char) → Option Block
  | state, [] => state
  | none, line :: rest =>
      match beginLabel? line with
      | none => openBlock none rest
      | some label =>
          openBlock (some { label := label, lines := [line] }) rest
  | some begun, line :: rest =>
      if isEnd begun.label line then
        openBlock none rest
      else
        openBlock (some { begun with lines := begun.lines ++ [line] }) rest

/-- The line is a `BEGIN` or an `END` line of some label. -/
def isMarker (line : List Char) : Bool :=
  (beginLabel? line).isSome ||
    ("-----END ".toList.isPrefixOf (strip line) &&
      "-----".toList.isSuffixOf (strip line))

/--
Rows that are blocks one after the other, with nothing but blank rows between
them.  A block has no marker between its `BEGIN` and its `END`.
-/
def isBlockSequence : Option (List Char) → List (List Char) → Bool
  | none, [] => true
  | some _, [] => false
  | none, row :: rest =>
      if row = [] then
        isBlockSequence none rest
      else
        match beginLabel? row with
        | none => false
        | some label => isBlockSequence (some label) rest
  | some label, row :: rest =>
      if isEnd label row then
        isBlockSequence none rest
      else
        !isMarker row && isBlockSequence (some label) rest

/-- A text that is a sequence of blocks. -/
def WellFormed (text : String) : Prop :=
  isBlockSequence none (rows text) = true

instance (text : String) : Decidable (WellFormed text) :=
  inferInstanceAs (Decidable (isBlockSequence none (rows text) = true))

/-- The text is empty or its last line is terminated. -/
def endsLine (text : List Char) : Bool :=
  match text.getLast? with
  | none => true
  | some letter => letter = '\n'

/-- The first line of a text is blank. -/
def startsBlank (text : String) : Bool :=
  (rows text).head? = some []

/-- A text with a letter has a line. -/
theorem lines_ne_nil
    {text : List Char}
    (notEmpty : text ≠ []) :
    lines text ≠ [] := by
  intro noLines
  apply notEmpty
  rw [← flatten_lines text, noLines]
  rfl

/-- Behind a terminated line, the lines of both texts follow each other. -/
theorem lines_append_of_endsLine
    {first : List Char}
    (ends : endsLine first = true)
    (second : List Char) :
    lines (first ++ second) = lines first ++ lines second := by
  induction first with
  | nil =>
      rfl
  | cons letter rest inductionHypothesis =>
      by_cases isLast : rest = []
      · subst rest
        have isNewline : letter = '\n' := by
          simpa [endsLine] using ends
        simp [lines, isNewline]
      · have restEnds : endsLine rest = true := by
          obtain ⟨other, others, rfl⟩ := List.exists_cons_of_ne_nil isLast
          simpa [endsLine, List.getLast?_cons_cons] using ends
        have continues := inductionHypothesis restEnds
        obtain ⟨line, following, shape⟩ :=
          List.exists_cons_of_ne_nil (lines_ne_nil isLast)
        rw [List.cons_append, lines, lines, continues, shape]
        split
        · rfl
        · rfl

/-- An unterminated last line continues with the first line of the next text. -/
theorem lines_append_of_not_endsLine
    {first second : List Char}
    (unterminated : endsLine first = false)
    (notEmpty : second ≠ []) :
    ∃ before last joined after,
      lines first = before ++ [last] ∧
        last ≠ [] ∧
        lines second = joined :: after ∧
        lines (first ++ second) =
          before ++ (last ++ joined) :: after := by
  obtain ⟨joined, after, secondShape⟩ :=
    List.exists_cons_of_ne_nil (lines_ne_nil notEmpty)
  induction first with
  | nil =>
      cases unterminated
  | cons letter rest inductionHypothesis =>
      by_cases isLast : rest = []
      · subst rest
        have notNewline : letter ≠ '\n' := by
          simpa [endsLine] using unterminated
        refine ⟨[], [letter], joined, after, ?_, by simp, secondShape, ?_⟩
        · simp [lines, notNewline]
        · simp [lines, notNewline, secondShape]
      · have restUnterminated : endsLine rest = false := by
          obtain ⟨other, others, rfl⟩ := List.exists_cons_of_ne_nil isLast
          simpa [endsLine, List.getLast?_cons_cons] using unterminated
        obtain ⟨before, last, _, _, restShape, lastShape, sameSecond,
            joinedShape⟩ :=
          inductionHypothesis restUnterminated
        rw [secondShape] at sameSecond
        cases sameSecond
        by_cases isNewline : letter = '\n'
        · refine
            ⟨[letter] :: before, last, joined, after, ?_, lastShape,
              secondShape, ?_⟩
          · simp [lines, isNewline, restShape]
          · simp [lines, isNewline, joinedShape]
        · cases before with
          | nil =>
              refine
                ⟨[], letter :: last, joined, after, ?_, by simp,
                  secondShape, ?_⟩
              · simp [lines, isNewline, restShape]
              · simp [lines, isNewline, joinedShape]
          | cons line others =>
              refine
                ⟨(letter :: line) :: others, last, joined, after, ?_,
                  lastShape, secondShape, ?_⟩
              · simp [lines, isNewline, restShape]
              · simp [lines, isNewline, joinedShape]

/-- Stripping twice is stripping once. -/
theorem strip_strip
    (line : List Char) :
    strip (strip line) = strip line :=
  List.rdropWhile_idempotent _ line

/-- A blank piece at the end of a line is stripped with it. -/
theorem strip_append_of_blank
    {joined : List Char}
    (blank : strip joined = [])
    (last : List Char) :
    strip (last ++ joined) = strip last := by
  simp only [strip, List.reverse_eq_nil_iff] at blank
  simp [strip, List.reverse_append, List.dropWhile_append, blank]

/-- What stands in front of a piece that is not blank is kept. -/
theorem strip_append_of_not_blank
    {joined : List Char}
    (notBlank : strip joined ≠ [])
    (last : List Char) :
    strip (last ++ joined) = last ++ strip joined := by
  simp only [strip, ne_eq, List.reverse_eq_nil_iff] at notBlank
  simp [strip, List.reverse_append, List.dropWhile_append, notBlank]

/-- Stripping makes no line longer. -/
theorem length_strip_le
    (line : List Char) :
    (strip line).length ≤ line.length :=
  (List.rdropWhile_prefix _ line).length_le

/-- A `BEGIN` line is its label between the two fixed texts. -/
theorem strip_of_beginLabel?
    {line label : List Char}
    (begins : beginLabel? line = some label) :
    strip line = "-----BEGIN ".toList ++ label ++ "-----".toList := by
  simp only [beginLabel?] at begins
  split at begins
  · next guard =>
      obtain ⟨startsSo, stopsSo⟩ := guard
      obtain ⟨tail, shape⟩ := List.isPrefixOf_iff_prefix.mp startsSo
      rw [← shape, List.drop_left] at stopsSo begins
      obtain ⟨middle, tailShape⟩ := List.isSuffixOf_iff_suffix.mp stopsSo
      have size :
          ("-----BEGIN ".toList ++ tail).length -
              "-----BEGIN ".toList.length - "-----".toList.length =
            middle.length := by
        rw [← tailShape]
        simp only [List.length_append]
        omega
      rw [size, ← tailShape, List.take_left, Option.some.injEq] at begins
      rw [← shape, ← tailShape, begins, List.append_assoc]
  · cases begins

/-- A `BEGIN` line ends no block. -/
theorem isEnd_of_beginLabel?
    {line label : List Char}
    (begins : beginLabel? line = some label)
    (other : List Char) :
    isEnd other line = false := by
  rw [isEnd, strip_of_beginLabel? begins, decide_eq_false_iff_not]
  intro same
  cases same

/-- An `END` line begins no block. -/
theorem beginLabel?_of_isEnd
    {line label : List Char}
    (ends : isEnd label line = true) :
    beginLabel? line = none := by
  cases begins : beginLabel? line with
  | none =>
      rfl
  | some other =>
      rw [isEnd_of_beginLabel? begins] at ends
      cases ends

/-- A line that is no marker neither begins nor ends a block. -/
theorem of_isMarker_eq_false
    {line : List Char}
    (plain : isMarker line = false) :
    beginLabel? line = none ∧ ∀ label, isEnd label line = false := by
  simp only [isMarker, Bool.or_eq_false_iff, Option.isSome_eq_false_iff,
    Option.isNone_iff_eq_none] at plain
  refine ⟨plain.1, ?_⟩
  intro label
  by_contra isEndLine
  rw [Bool.not_eq_false] at isEndLine
  have shape :
      strip line = "-----END ".toList ++ label ++ "-----".toList :=
    of_decide_eq_true isEndLine
  have notBoth := plain.2
  rw [shape, List.isSuffixOf_iff_suffix.mpr (List.suffix_append _ _),
    List.append_assoc,
    List.isPrefixOf_iff_prefix.mpr (List.prefix_append _ _)] at notBoth
  cases notBoth

/-- A blank row neither begins nor ends a block. -/
theorem blank_plain :
    beginLabel? [] = none ∧ ∀ label, isEnd label [] = false := by
  refine ⟨by decide, ?_⟩
  intro label
  rw [isEnd, decide_eq_false_iff_not]
  intro same
  cases same

/-- Scanning two groups of lines is scanning them one after the other. -/
theorem scan_append
    (state : Option Block)
    (first second : List (List Char)) :
    scan state (first ++ second) =
      scan state first ++ scan (openBlock state first) second := by
  induction first generalizing state with
  | nil =>
      cases state <;> rfl
  | cons line rest inductionHypothesis =>
      cases state with
      | none =>
          simp only [List.cons_append, scan, openBlock]
          cases beginLabel? line with
          | none =>
              exact inductionHypothesis none
          | some label =>
              exact inductionHypothesis _
      | some begun =>
          simp only [List.cons_append, scan, openBlock]
          split
          · rw [inductionHypothesis, List.cons_append]
          · exact inductionHypothesis _

/-- Lines that begin no block are skipped outside of blocks. -/
theorem scan_none_append
    {plain : List (List Char)}
    (noBegin : ∀ line ∈ plain, beginLabel? line = none)
    (rest : List (List Char)) :
    scan none (plain ++ rest) = scan none rest := by
  induction plain with
  | nil =>
      rfl
  | cons line others inductionHypothesis =>
      rw [List.cons_append, scan, noBegin line List.mem_cons_self]
      apply inductionHypothesis
      intro other member
      exact noBegin other (List.mem_cons_of_mem _ member)

/-- Lines that do not end the block are taken into it. -/
theorem scan_some_append
    (begun : Block)
    {inner : List (List Char)}
    (noEnd : ∀ line ∈ inner, isEnd begun.label line = false)
    (rest : List (List Char)) :
    scan (some begun) (inner ++ rest) =
      scan (some { begun with lines := begun.lines ++ inner }) rest := by
  induction inner generalizing begun with
  | nil =>
      simp
  | cons line others inductionHypothesis =>
      rw [List.cons_append, scan, noEnd line List.mem_cons_self]
      rw [if_neg Bool.false_ne_true, inductionHypothesis]
      · simp
      · intro other member
        exact noEnd other (List.mem_cons_of_mem _ member)

/-- The block that is finished first extends the one that was begun. -/
theorem of_scan_some_eq_cons
    {begun first : Block}
    {rest : List (List Char)}
    {others : List Block}
    (finishes : scan (some begun) rest = first :: others) :
    ∃ added,
      added ≠ [] ∧ first.lines = begun.lines ++ added ∧
        first.label = begun.label := by
  induction rest generalizing begun with
  | nil =>
      cases finishes
  | cons line rest inductionHypothesis =>
      rw [scan] at finishes
      split at finishes
      · cases finishes
        exact ⟨[line], by simp, rfl, rfl⟩
      · obtain ⟨added, _, extended, sameLabel⟩ :=
          inductionHypothesis finishes
        refine ⟨line :: added, by simp, ?_, sameLabel⟩
        rw [extended]
        simp

/-- A block that is open has a line. -/
theorem lines_ne_nil_of_openBlock
    {state : Option Block}
    {scanned : List (List Char)}
    {begun : Block}
    (nonempty : ∀ earlier, state = some earlier → earlier.lines ≠ [])
    (isOpen : openBlock state scanned = some begun) :
    begun.lines ≠ [] := by
  induction scanned generalizing state with
  | nil =>
      exact nonempty begun isOpen
  | cons line rest inductionHypothesis =>
      cases state with
      | none =>
          rw [openBlock] at isOpen
          cases begins : beginLabel? line with
          | none =>
              rw [begins] at isOpen
              exact inductionHypothesis (by simp) isOpen
          | some label =>
              rw [begins] at isOpen
              exact inductionHypothesis (by simp) isOpen
      | some earlier =>
          rw [openBlock] at isOpen
          split at isOpen
          · exact inductionHypothesis (by simp) isOpen
          · exact inductionHypothesis (by simp) isOpen

/-- A block without the blanks at the end of its lines. -/
def Block.stripped (block : Block) : Block :=
  { block with lines := block.lines.map strip }

/-- Scanning rows is scanning lines and stripping the blocks. -/
theorem scan_map_strip
    (state : Option Block)
    (scanned : List (List Char)) :
    scan (state.map Block.stripped) (scanned.map strip) =
      (scan state scanned).map Block.stripped := by
  induction scanned generalizing state with
  | nil =>
      cases state <;> rfl
  | cons line rest inductionHypothesis =>
      cases state with
      | none =>
          have sameBegin : beginLabel? (strip line) = beginLabel? line := by
            simp only [beginLabel?, strip_strip]
          rw [List.map_cons, Option.map_none, scan, scan, sameBegin]
          cases beginLabel? line with
          | none =>
              exact inductionHypothesis none
          | some label =>
              exact inductionHypothesis
                (some { label := label, lines := [line] })
      | some begun =>
          have sameEnd :
              isEnd begun.stripped.label (strip line) =
                isEnd begun.label line := by
            simp only [isEnd, strip_strip, Block.stripped]
          have extended :
              { begun.stripped with
                lines := begun.stripped.lines ++ [strip line] } =
                Block.stripped
                  { begun with lines := begun.lines ++ [line] } := by
            simp [Block.stripped]
          rw [List.map_cons, Option.map_some, scan, scan, sameEnd, extended]
          split
          · rw [List.map_cons]
            exact congrArg (List.cons _) (inductionHypothesis none)
          · exact inductionHypothesis
              (some { begun with lines := begun.lines ++ [line] })

/-- Apart from blanks at the end of lines, these are the blocks of the text. -/
theorem contents_eq_map_blocks
    (text : String) :
    contents text = (blocks text).map Block.stripped :=
  scan_map_strip none (lines text.toList)

/-- Rows that start with a block, up to rows that are blank. -/
structure FirstBlock where
  blanks : List (List Char)
  label : List Char
  opening : List Char
  body : List (List Char)
  closing : List Char
  rest : List (List Char)
  allBlank : ∀ row ∈ blanks, row = []
  opens : beginLabel? opening = some label
  plain : ∀ row ∈ body, isMarker row = false
  closes : isEnd label closing = true

namespace FirstBlock

/-- All of the rows. -/
def all (first : FirstBlock) : List (List Char) :=
  first.blanks ++ first.opening :: (first.body ++ first.closing :: first.rest)

/-- The block itself. -/
def block (first : FirstBlock) : Block where
  label := first.label
  lines := first.opening :: (first.body ++ [first.closing])

/-- Outside of blocks, the first block is read and the scan goes on behind it. -/
theorem scan_eq
    (first : FirstBlock) :
    scan none first.all = first.block :: scan none first.rest := by
  have noEnd :
      ∀ row ∈ first.body, isEnd first.label row = false := by
    intro row member
    exact (of_isMarker_eq_false (first.plain row member)).2 first.label
  have skipsBlanks :
      ∀ row ∈ first.blanks, beginLabel? row = none := by
    intro row member
    rw [first.allBlank row member]
    exact blank_plain.1
  rw [all, scan_none_append skipsBlanks, scan, first.opens]
  simp only
  rw [scan_some_append _ noEnd, scan, if_pos first.closes]
  rfl

/-- No row of the first block but its last one ends a block. -/
theorem noEnd_before_closing
    (first : FirstBlock)
    (label : List Char) :
    ∀ row ∈ first.blanks ++ first.opening :: first.body,
      isEnd label row = false := by
  intro row member
  rw [List.mem_append, List.mem_cons] at member
  rcases member with inBlanks | isOpening | inBody
  · rw [first.allBlank row inBlanks]
    exact blank_plain.2 label
  · rw [isOpening]
    exact isEnd_of_beginLabel? first.opens label
  · exact (of_isMarker_eq_false (first.plain row inBody)).2 label

/-- A block that is already open swallows the first block. -/
theorem swallowed
    (first : FirstBlock)
    {begun : Block}
    (nonempty : begun.lines ≠ []) :
    scan (some begun) first.all ≠ scan none first.all := by
  intro same
  have regrouped :
      first.all =
        (first.blanks ++ first.opening :: first.body) ++
          first.closing :: first.rest := by
    simp [all]
  rw [first.scan_eq, regrouped,
    scan_some_append _ (first.noEnd_before_closing begun.label)] at same
  obtain ⟨added, _, extended, _⟩ := of_scan_some_eq_cons same
  have sameLength := congrArg List.length extended
  have someLines := List.length_pos_of_ne_nil nonempty
  have someAdded : 0 < added.length :=
    List.length_pos_of_ne_nil ‹added ≠ []›
  simp only [block, List.length_cons, List.length_append,
    List.length_nil] at sameLength
  omega

end FirstBlock

/-- Inside a block there is a body without markers and then the `END` row. -/
theorem exists_closing
    {label : List Char}
    {found : List (List Char)}
    (isSequence : isBlockSequence (some label) found = true) :
    ∃ body closing rest,
      (∀ row ∈ body, isMarker row = false) ∧
        isEnd label closing = true ∧
        found = body ++ closing :: rest := by
  induction found with
  | nil =>
      cases isSequence
  | cons row rest inductionHypothesis =>
      rw [isBlockSequence] at isSequence
      split at isSequence
      · next closes =>
          exact ⟨[], row, rest, by simp, closes, rfl⟩
      · rw [Bool.and_eq_true, Bool.not_eq_true'] at isSequence
        obtain ⟨body, closing, later, plain, closes, shape⟩ :=
          inductionHypothesis isSequence.2
        refine ⟨row :: body, closing, later, ?_, closes, ?_⟩
        · rw [List.forall_mem_cons]
          exact ⟨isSequence.1, plain⟩
        · rw [shape, List.cons_append]

/-- A sequence of blocks has only blank rows or a first block. -/
theorem blank_or_firstBlock
    {found : List (List Char)}
    (isSequence : isBlockSequence none found = true) :
    (∀ row ∈ found, row = []) ∨
      ∃ first : FirstBlock, found = first.all := by
  induction found with
  | nil =>
      left
      simp
  | cons row rest inductionHypothesis =>
      rw [isBlockSequence] at isSequence
      split at isSequence
      · next isBlank =>
          subst row
          rcases inductionHypothesis isSequence with
            allBlank | ⟨first, shape⟩
          · left
            rw [List.forall_mem_cons]
            exact ⟨rfl, allBlank⟩
          · right
            have allBlank : ∀ row ∈ [] :: first.blanks, row = [] := by
              rw [List.forall_mem_cons]
              exact ⟨rfl, first.allBlank⟩
            refine
              ⟨{ first with
                  blanks := [] :: first.blanks
                  allBlank := allBlank }, ?_⟩
            rw [shape]
            rfl
      · split at isSequence
        · cases isSequence
        · next label opens =>
            right
            obtain ⟨body, closing, later, plain, closes, shape⟩ :=
              exists_closing isSequence
            exact
              ⟨{ blanks := []
                 label := label
                 opening := row
                 body := body
                 closing := closing
                 rest := later
                 allBlank := by simp
                 opens := opens
                 plain := plain
                 closes := closes },
                by rw [shape]; rfl⟩

namespace FirstBlock

/-- The first line of a block is not blank. -/
theorem opening_ne_nil
    (first : FirstBlock) :
    first.opening ≠ [] := by
  intro isBlank
  have opens := first.opens
  rw [isBlank, blank_plain.1] at opens
  cases opens

/-- The row that an unterminated line and the first row of a block make. -/
theorem strip_joined
    (first : FirstBlock)
    (isRow : strip first.opening = first.opening)
    (last : List Char) :
    strip (last ++ first.opening) = last ++ first.opening := by
  have notBlank : strip first.opening ≠ [] := by
    rw [isRow]
    exact first.opening_ne_nil
  rw [strip_append_of_not_blank notBlank, isRow]

/-- Outside of blocks, the joined line hides the block that it should begin. -/
theorem spoiled_outside
    (first : FirstBlock)
    {last : List Char}
    (notEmpty : last ≠ []) :
    scan none
        ((last ++ first.opening) ::
          (first.body ++ first.closing :: first.rest)) ≠
      scan none [strip last] ++
        first.block :: scan none first.rest := by
  intro same
  have lastLength := List.length_pos_of_ne_nil notEmpty
  have nothing : scan none [strip last] = [] := by
    rw [scan]
    split <;> rfl
  rw [nothing, List.nil_append, scan] at same
  cases begins : beginLabel? (last ++ first.opening) with
  | none =>
      have noBegin :
          ∀ row ∈ first.body ++ [first.closing],
            beginLabel? row = none := by
        intro row member
        rw [List.mem_append, List.mem_singleton] at member
        rcases member with inBody | isClosing
        · exact (of_isMarker_eq_false (first.plain row inBody)).1
        · rw [isClosing]
          exact beginLabel?_of_isEnd first.closes
      have skipped := scan_none_append noBegin first.rest
      rw [List.append_assoc, List.singleton_append] at skipped
      simp only [begins] at same
      rw [skipped] at same
      have sameLength := congrArg List.length same
      rw [List.length_cons] at sameLength
      omega
  | some label =>
      simp only [begins] at same
      obtain ⟨added, _, extended, _⟩ := of_scan_some_eq_cons same
      have sameRow : first.opening = last ++ first.opening := by
        simp only [block, List.cons_append, List.nil_append,
          List.cons.injEq] at extended
        exact extended.1
      have sameLength := congrArg List.length sameRow
      rw [List.length_append] at sameLength
      omega

/-- Inside a block, the joined line ends it in the wrong place or not at all. -/
theorem spoiled_inside
    (first : FirstBlock)
    (isRow : strip first.opening = first.opening)
    {last : List Char}
    (notEmpty : last ≠ [])
    {begun : Block}
    (nonempty : begun.lines ≠ []) :
    scan (some begun)
        ((last ++ first.opening) ::
          (first.body ++ first.closing :: first.rest)) ≠
      scan (some begun) [strip last] ++
        first.block :: scan none first.rest := by
  intro same
  have lastLength := List.length_pos_of_ne_nil notEmpty
  have openingLength := List.length_pos_of_ne_nil first.opening_ne_nil
  have someLines := List.length_pos_of_ne_nil nonempty
  rw [scan, scan] at same
  by_cases joinedEnds : isEnd begun.label (last ++ first.opening) = true
  · have joinedText := of_decide_eq_true joinedEnds
    rw [first.strip_joined isRow] at joinedText
    by_cases lastEnds : isEnd begun.label (strip last) = true
    · have lastText := of_decide_eq_true lastEnds
      rw [strip_strip, ← joinedText] at lastText
      have sameLength := congrArg List.length lastText
      have shorter := length_strip_le last
      rw [List.length_append] at sameLength
      omega
    · rw [if_pos joinedEnds, if_neg lastEnds] at same
      have sameBlock := (List.cons.inj same).1
      have sameLabel : begun.label = first.label :=
        congrArg Block.label sameBlock
      have openingText := strip_of_beginLabel? first.opens
      rw [isRow] at openingText
      rw [openingText, sameLabel] at joinedText
      have sameLength := congrArg List.length joinedText
      have beginLength : "-----BEGIN ".toList.length = 11 := rfl
      have endLength : "-----END ".toList.length = 9 := rfl
      simp only [List.length_append] at sameLength
      omega
  · rw [if_neg joinedEnds] at same
    by_cases lastEnds : isEnd begun.label (strip last) = true
    · rw [if_pos lastEnds] at same
      obtain ⟨added, someAdded, extended, _⟩ :=
        of_scan_some_eq_cons same
      have sameLength := congrArg List.length extended
      have addedLength := List.length_pos_of_ne_nil someAdded
      simp only [List.length_append, List.length_cons,
        List.length_nil] at sameLength
      omega
    · rw [if_neg lastEnds] at same
      have noEnd :
          ∀ row ∈ first.body, isEnd begun.label row = false := by
        intro row member
        exact
          (of_isMarker_eq_false (first.plain row member)).2
            begun.label
      rw [scan_some_append
        { begun with lines := begun.lines ++ [last ++ first.opening] }
        noEnd, scan, List.nil_append] at same
      obtain ⟨added, someAdded, extended, _⟩ :=
        of_scan_some_eq_cons same
      have sameLength := congrArg List.length extended
      have addedLength := List.length_pos_of_ne_nil someAdded
      simp only [block, List.length_append, List.length_cons,
        List.length_nil] at sameLength
      omega

/--
An unterminated line in front of a block spoils the reading, whatever the scan
is inside of: the row that the two make is neither of them.
-/
theorem spoiled_by_unterminated
    (first : FirstBlock)
    (isRow : strip first.opening = first.opening)
    {last : List Char}
    (notEmpty : last ≠ [])
    {state : Option Block}
    (nonempty : ∀ begun, state = some begun → begun.lines ≠ []) :
    scan state
        ((last ++ first.opening) ::
          (first.body ++ first.closing :: first.rest)) ≠
      scan state [strip last] ++
        first.block :: scan none first.rest := by
  cases state with
  | none =>
      exact first.spoiled_outside notEmpty
  | some begun =>
      exact first.spoiled_inside isRow notEmpty (nonempty begun rfl)

end FirstBlock

/-- Blank rows hold no block, inside or outside of one. -/
theorem scan_blank
    {found : List (List Char)}
    (allBlank : ∀ row ∈ found, row = [])
    (state : Option Block) :
    scan state found = [] := by
  cases state with
  | none =>
      have skipped :=
        scan_none_append
          (fun row member => by rw [allBlank row member]; exact blank_plain.1)
          []
      rw [List.append_nil] at skipped
      rw [skipped, scan]
  | some begun =>
      have taken :=
        scan_some_append begun
          (fun row member => by
            rw [allBlank row member]
            exact blank_plain.2 begun.label)
          []
      rw [List.append_nil] at taken
      rw [taken, scan]

/-- A sequence of blocks reads the same if it has none or no block is open. -/
theorem scan_open_iff
    {found : List (List Char)}
    (isSequence : isBlockSequence none found = true)
    {state : Option Block}
    (nonempty : ∀ begun, state = some begun → begun.lines ≠ []) :
    scan state found = scan none found ↔
      scan none found = [] ∨ state = none := by
  rcases blank_or_firstBlock isSequence with allBlank | ⟨first, rfl⟩
  · simp [scan_blank allBlank]
  · cases state with
    | none =>
        simp
    | some begun =>
        have differs := first.swallowed (nonempty begun rfl)
        have hasBlock : scan none first.all ≠ [] := by
          rw [first.scan_eq]
          exact List.cons_ne_nil _ _
        simp [differs, hasBlock]

/-- A block that is open at the end of a text has a line. -/
theorem lines_ne_nil_of_open
    (scanned : List (List Char)) :
    ∀ begun, openBlock none scanned = some begun → begun.lines ≠ [] := by
  intro begun isOpen
  exact lines_ne_nil_of_openBlock (by simp) isOpen

/-- Rows that are not changed at the seam are read on from the open block. -/
theorem contents_append_iff_of_rows
    {first second : String}
    {found : List (List Char)}
    (isSequence : isBlockSequence none found = true)
    (sameContents : contents second = scan none found)
    (bothRows : rows (first ++ second) = rows first ++ found) :
    contents (first ++ second) = contents first ++ contents second ↔
      contents second = [] ∨ openBlock none (rows first) = none := by
  rw [sameContents, contents, bothRows, scan_append, contents,
    List.append_cancel_left_eq,
    scan_open_iff isSequence (lines_ne_nil_of_open _)]

/-- An unterminated line and a text that starts with a block do not combine. -/
theorem contents_append_ne
    {first second : String}
    (wellFormed : WellFormed second)
    {before after : List (List Char)}
    {last joined : List Char}
    (lastNotEmpty : last ≠ [])
    (notBlank : strip joined ≠ [])
    (firstShape : lines first.toList = before ++ [last])
    (secondShape : lines second.toList = joined :: after)
    (bothShape :
      lines (first ++ second).toList = before ++ (last ++ joined) :: after) :
    contents second ≠ [] ∧
      contents (first ++ second) ≠ contents first ++ contents second := by
  have secondRows : rows second = strip joined :: after.map strip := by
    rw [rows, secondShape]
    rfl
  rcases blank_or_firstBlock wellFormed with allBlank | ⟨block, shape⟩
  · exact (notBlank (allBlank _ (by simp [secondRows]))).elim
  · have noBlanks : block.blanks = [] := by
      cases hasBlanks : block.blanks with
      | nil =>
          rfl
      | cons row others =>
          rw [secondRows, FirstBlock.all, hasBlanks] at shape
          have isBlank := block.allBlank row (by rw [hasBlanks]; simp)
          exact (notBlank ((List.cons.inj shape).1.trans isBlank)).elim
    have rowShape := shape
    rw [secondRows, FirstBlock.all, noBlanks, List.nil_append,
      List.cons.injEq] at rowShape
    have isRow : strip block.opening = block.opening := by
      rw [← rowShape.1, strip_strip]
    have readsFirst :
        contents first =
          scan none (before.map strip) ++
            scan (openBlock none (before.map strip)) [strip last] := by
      rw [contents, rows, firstShape, List.map_append, scan_append]
      rfl
    have readsSecond :
        contents second = block.block :: scan none block.rest := by
      rw [contents, shape, block.scan_eq]
    have readsBoth :
        contents (first ++ second) =
          scan none (before.map strip) ++
            scan (openBlock none (before.map strip))
              ((last ++ block.opening) ::
                (block.body ++ block.closing :: block.rest)) := by
      rw [contents, rows, bothShape, List.map_append, List.map_cons,
        scan_append, strip_append_of_not_blank notBlank, rowShape.1,
        rowShape.2]
    constructor
    · rw [readsSecond]
      exact List.cons_ne_nil _ _
    · rw [readsBoth, readsFirst, readsSecond, List.append_assoc, ne_eq,
        List.append_cancel_left_eq]
      exact block.spoiled_by_unterminated isRow lastNotEmpty
        (lines_ne_nil_of_open _)

/--
The blocks of a text followed by a sequence of blocks are the blocks of both,
exactly when the second text has none, or the first one leaves no block open and
the second one starts on a line of its own or with a blank one.
-/
theorem contents_append_iff
    (first : String)
    {second : String}
    (wellFormed : WellFormed second) :
    contents (first ++ second) = contents first ++ contents second ↔
      contents second = [] ∨
        (openBlock none (rows first) = none ∧
          (endsLine first.toList = true ∨ startsBlank second = true)) := by
  by_cases ends : endsLine first.toList = true
  · have bothRows : rows (first ++ second) = rows first ++ rows second := by
      simp only [rows, String.toList_append,
        lines_append_of_endsLine ends, List.map_append]
    rw [contents_append_iff_of_rows wellFormed rfl bothRows]
    simp [ends]
  · by_cases isEmpty : second.toList = []
    · have noText : second = "" := String.toList_injective isEmpty
      subst second
      simp [contents, rows, lines, scan]
    · obtain ⟨before, last, joined, after, firstShape, lastNotEmpty,
          secondShape, bothShape⟩ :=
        lines_append_of_not_endsLine (by simpa using ends) isEmpty
      have secondRows : rows second = strip joined :: after.map strip := by
        rw [rows, secondShape]
        rfl
      rw [← String.toList_append] at bothShape
      by_cases blank : strip joined = []
      · have bothRows :
            rows (first ++ second) = rows first ++ after.map strip := by
          rw [rows, bothShape, rows, firstShape]
          simp [strip_append_of_blank blank]
        have sameContents :
            contents second = scan none (after.map strip) := by
          rw [contents, secondRows, blank, scan, blank_plain.1]
        have isSequence :
            isBlockSequence none (after.map strip) = true := by
          rw [WellFormed, secondRows, blank, isBlockSequence,
            if_pos rfl] at wellFormed
          exact wellFormed
        have starts : startsBlank second = true := by
          simp [startsBlank, secondRows, blank]
        rw [contents_append_iff_of_rows isSequence sameContents bothRows]
        simp [starts]
      · have starts : startsBlank second = false := by
          simp [startsBlank, secondRows, blank]
        obtain ⟨hasBlock, differs⟩ :=
          contents_append_ne wellFormed lastNotEmpty blank firstShape
            secondShape bothShape
        simp [differs, hasBlock, ends, starts]

end PemText
