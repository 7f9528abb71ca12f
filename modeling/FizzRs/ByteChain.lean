import Mathlib.Data.List.Basic

namespace ByteChain

/-!
# Byte sequences held as chains of nodes

A chain is a list of nodes, each a contiguous piece of one sequence.  Writing
commits a piece at the end, either into the last node or as a node of its own.
Splitting removes a number of leading elements and may cut a node.  Copying
walks the nodes of a chain into a buffer of bounded capacity.

The lemmas state what each operation does to the sequence that the chain
holds, which is its concatenation.
-/

/-- A sequence held as several contiguous nodes. -/
abbrev Chain (α : Type) := List (List α)

variable {α : Type}

/-- Append a piece, in the last node or, when `fresh`, as a node of its own. -/
def commit
    (fresh : Bool)
    (piece : List α) :
    Chain α → Chain α
  | [] => [piece]
  | [last] => if fresh then [last, piece] else [last ++ piece]
  | node :: next :: rest => node :: commit fresh piece (next :: rest)

/-- Remove `count` leading elements, or fail when the chain is too short. -/
def split : Chain α → Nat → Option (Chain α × Chain α)
  | chain, 0 => some ([], chain)
  | [], _ + 1 => none
  | node :: rest, count + 1 =>
      if node.length ≤ count + 1 then
        (split rest (count + 1 - node.length)).map
          fun parts => (node :: parts.1, parts.2)
      else
        some ([node.take (count + 1)], node.drop (count + 1) :: rest)

/-- Copy the nodes of a chain, one after the other, behind `copied`. -/
def copyNodes
    (capacity : Nat) :
    Chain α → List α → List α
  | [], copied => copied
  | node :: rest, copied =>
      copyNodes capacity rest
        (copied ++ node.take (min node.length (capacity - copied.length)))

/-- Committing a piece appends it to the sequence. -/
@[simp] theorem flatten_commit
    (fresh : Bool)
    (piece : List α)
    (chain : Chain α) :
    (commit fresh piece chain).flatten = chain.flatten ++ piece := by
  induction chain with
  | nil =>
      simp [commit]
  | cons node rest inductionHypothesis =>
      cases rest with
      | nil =>
          cases fresh <;> simp [commit]
      | cons next later =>
          simp only [commit, List.flatten_cons] at inductionHypothesis ⊢
          rw [inductionHypothesis]
          simp

/-- Splitting within the length yields the leading and the remaining part. -/
theorem exists_split
    {chain : Chain α}
    {count : Nat}
    (enough : count ≤ chain.flatten.length) :
    ∃ taken remaining,
      split chain count = some (taken, remaining) ∧
        taken.flatten = chain.flatten.take count ∧
        remaining.flatten = chain.flatten.drop count := by
  induction chain generalizing count with
  | nil =>
      have isZero : count = 0 := by
        simpa using enough
      subst count
      exact ⟨[], [], rfl, by simp, by simp⟩
  | cons node rest inductionHypothesis =>
      cases count with
      | zero =>
          exact ⟨[], node :: rest, rfl, by simp, by simp⟩
      | succ count =>
          by_cases whole : node.length ≤ count + 1
          · have enoughRest :
                count + 1 - node.length ≤ rest.flatten.length := by
              simp only [List.flatten_cons, List.length_append] at enough
              omega
            obtain ⟨taken, remaining, splitRest, takenIs, remainingIs⟩ :=
              inductionHypothesis enoughRest
            refine ⟨node :: taken, remaining, ?_, ?_, ?_⟩
            · simp [split, whole, splitRest]
            · simp [takenIs, List.take_append,
                List.take_of_length_le whole]
            · simp [remainingIs, List.drop_append,
                List.drop_of_length_le whole]
          · refine
              ⟨[node.take (count + 1)], node.drop (count + 1) :: rest,
                ?_, ?_, ?_⟩
            · simp [split, whole]
            · have shorter : count + 1 - node.length = 0 := by
                omega
              simp [List.take_append, shorter]
            · have shorter : count + 1 - node.length = 0 := by
                omega
              simp [List.drop_append, shorter]

/-- A chain that fits behind `copied` is copied whole. -/
theorem copyNodes_of_fits
    {capacity : Nat}
    {chain : Chain α}
    {copied : List α}
    (fits : copied.length + chain.flatten.length ≤ capacity) :
    copyNodes capacity chain copied = copied ++ chain.flatten := by
  induction chain generalizing copied with
  | nil =>
      simp [copyNodes]
  | cons node rest inductionHypothesis =>
      simp only [List.flatten_cons, List.length_append] at fits
      have wholeNode :
          min node.length (capacity - copied.length) = node.length := by
        omega
      have fitsRest :
          (copied ++ node).length + rest.flatten.length ≤ capacity := by
        simp only [List.length_append]
        omega
      simp only [copyNodes, wholeNode, List.take_length]
      rw [inductionHypothesis fitsRest]
      simp

/-- Copying never passes the end of the buffer. -/
theorem length_copyNodes_le
    {capacity : Nat}
    (chain : Chain α)
    {copied : List α}
    (within : copied.length ≤ capacity) :
    (copyNodes capacity chain copied).length ≤ capacity := by
  induction chain generalizing copied with
  | nil =>
      exact within
  | cons node rest inductionHypothesis =>
      apply inductionHypothesis
      simp only [List.length_append, List.length_take]
      omega

end ByteChain
