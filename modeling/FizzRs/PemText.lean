import Mathlib.Data.List.Infix

namespace PemText

/-!
# Blocks of a PEM text

A PEM text is a sequence of lines.  A block runs from a `BEGIN` line to the next
`END` line with the same label, and everything outside of blocks is ignored.
Lines keep their terminators, so that a text is the concatenation of its lines
and a block is a piece of the text.
-/

/-- Cut a text behind every newline. -/
def lines : List Char → List (List Char)
  | [] => []
  | letter :: rest =>
      if letter = '\n' then
        [letter] :: lines rest
      else
        match lines rest with
        | [] => [[letter]]
        | first :: others => (letter :: first) :: others

/-- A text is the concatenation of its lines. -/
theorem flatten_lines
    (text : List Char) :
    (lines text).flatten = text := by
  induction text with
  | nil =>
      rfl
  | cons letter rest inductionHypothesis =>
      unfold lines
      split
      · simp [inductionHypothesis]
      · cases shape : lines rest with
        | nil =>
            rw [shape] at inductionHypothesis
            simp [← inductionHypothesis]
        | cons first others =>
            rw [shape] at inductionHypothesis
            simp [← inductionHypothesis]

/-- A line without the blanks and control characters at its end. -/
def strip (line : List Char) : List Char :=
  (line.reverse.dropWhile fun letter => letter.toNat ≤ 32).reverse

/-- The label of a `BEGIN` line. -/
def beginLabel? (line : List Char) : Option (List Char) :=
  let stripped := strip line
  let start := "-----BEGIN ".toList
  let stop := "-----".toList
  if start.isPrefixOf stripped ∧
      stop.isSuffixOf (stripped.drop start.length) then
    some ((stripped.drop start.length).take
      (stripped.length - start.length - stop.length))
  else
    none

/-- The line is the `END` line of a label. -/
def isEnd (label line : List Char) : Bool :=
  strip line = "-----END ".toList ++ label ++ "-----".toList

/-- A block: its label, and its lines from `BEGIN` to `END`. -/
structure Block where
  label : List Char
  lines : List (List Char)
  deriving Repr, DecidableEq

/-- The piece of text that a block is. -/
def Block.text (block : Block) : List Char :=
  block.lines.flatten

/-- Scan lines, inside the block that was begun or outside of blocks. -/
def scan : Option Block → List (List Char) → List Block
  | _, [] => []
  | none, line :: rest =>
      match beginLabel? line with
      | none => scan none rest
      | some label => scan (some { label := label, lines := [line] }) rest
  | some begun, line :: rest =>
      if isEnd begun.label line then
        { begun with lines := begun.lines ++ [line] } :: scan none rest
      else
        scan (some { begun with lines := begun.lines ++ [line] }) rest

/-- The blocks of a text, in order. -/
def blocks (text : String) : List Block :=
  scan none (lines text.toList)

/-- The lines that the scan has taken into the block it is inside of. -/
def taken : Option Block → List (List Char)
  | none => []
  | some begun => begun.lines

/-- The lines of a block stand in a row. -/
theorem isInfix_of_mem_scan
    {state : Option Block}
    {rest : List (List Char)}
    {block : Block}
    (member : block ∈ scan state rest) :
    block.lines <:+: taken state ++ rest := by
  induction rest generalizing state with
  | nil =>
      cases state <;> cases member
  | cons line rest inductionHypothesis =>
      cases state with
      | none =>
          rw [scan] at member
          cases begins : beginLabel? line with
          | none =>
              rw [begins] at member
              exact List.infix_cons (inductionHypothesis member)
          | some label =>
              rw [begins] at member
              exact inductionHypothesis member
      | some begun =>
          rw [scan] at member
          have regrouped :
              taken (some begun) ++ line :: rest =
                (begun.lines ++ [line]) ++ rest := by
            simp [taken]
          rw [regrouped]
          split at member
          · rcases List.mem_cons.mp member with isFirst | later
            · subst block
              exact (List.prefix_append _ rest).isInfix
            · exact (inductionHypothesis later).trans
                (List.suffix_append _ rest).isInfix
          · exact inductionHypothesis member

/-- A block of a text is a piece of it. -/
theorem text_isInfix_of_mem_blocks
    {text : String}
    {block : Block}
    (member : block ∈ blocks text) :
    block.text <:+: text.toList := by
  have inLines : block.lines <:+: lines text.toList :=
    isInfix_of_mem_scan member
  obtain ⟨before, after, shape⟩ := inLines
  refine ⟨before.flatten, after.flatten, ?_⟩
  rw [Block.text, ← List.flatten_append, ← List.flatten_append, shape]
  exact flatten_lines text.toList

/-- Labels under which a certificate is stored. -/
def Block.isCertificate (block : Block) : Bool :=
  block.label ∈
    ["CERTIFICATE".toList, "X509 CERTIFICATE".toList,
      "TRUSTED CERTIFICATE".toList]

/-- Labels under which a private key is stored. -/
def Block.isPrivateKey (block : Block) : Bool :=
  "PRIVATE KEY".toList.isSuffixOf block.label

/-- The first certificate of a text. -/
def firstCertificate (text : String) : Option Block :=
  (blocks text).find? Block.isCertificate

/-- The private keys of a text. -/
def privateKeys (text : String) : List Block :=
  (blocks text).filter Block.isPrivateKey

end PemText
