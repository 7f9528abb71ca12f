import Mathlib.Data.Fin.Tuple.Basic
import Mathlib.Data.List.FinRange
import Mathlib.Data.List.Forall2
import Mathlib.Data.List.NodupEquivFin

namespace RecordVisitor

/-!
# Reading records from entries and from sequences

A record has `n` numbered fields, each with a type of its own.  A visitor reads
it either from a list of keyed entries, in any order, or from a list of elements,
one for each field in turn.  The entry loop keeps one slot per field, refuses a
second entry for a filled slot, and skips what stands under an unknown key.

The results say exactly which lists of entries are accepted, and that acceptance
does not depend on the order of the entries or on the skipped ones.
-/

variable {Key Value Fault : Type}

/-- Perform one action per field, in the order of the fields. -/
def collect :
    {n : Nat} →
    {Content : Fin n → Type} →
    ((field : Fin n) → Except Fault (Content field)) →
    Except Fault ((field : Fin n) → Content field)
  | 0, _, _ => .ok fun field => field.elim0
  | _ + 1, _, action =>
      match action 0 with
      | .error fault => .error fault
      | .ok first =>
          match collect fun field => action field.succ with
          | .error fault => .error fault
          | .ok others => .ok (Fin.cons first others)

/-- Collecting succeeds exactly when every action does. -/
theorem collect_eq_ok_iff
    {n : Nat}
    {Content : Fin n → Type}
    {action : (field : Fin n) → Except Fault (Content field)}
    {contents : (field : Fin n) → Content field} :
    collect action = .ok contents ↔
      ∀ field, action field = .ok (contents field) := by
  induction n with
  | zero =>
      constructor
      · intro _ field
        exact field.elim0
      · intro _
        simp only [collect, Except.ok.injEq]
        funext field
        exact field.elim0
  | succ n inductionHypothesis =>
      have others :=
        @inductionHypothesis (fun field => Content field.succ)
          (fun field => action field.succ) (fun field => contents field.succ)
      rw [Fin.forall_fin_succ, ← others]
      simp only [collect]
      cases first : action 0 with
      | error fault =>
          simp
      | ok head =>
          cases collect fun field => action field.succ with
          | error fault =>
              simp
          | ok tail =>
              simp only [Except.ok.injEq]
              constructor
              · intro same
                subst contents
                simp
              · rintro ⟨sameHead, sameTail⟩
                rw [sameHead, sameTail]
                exact Fin.cons_self_tail contents

/-- What a visitor does with an entry, depending on its key. -/
structure EntryReader
    {n : Nat}
    (Content : Fin n → Type)
    (Key Value Fault : Type) where
  identify : Key → Option (Fin n)
  read : (field : Fin n) → Value → Except Fault (Content field)
  skip : Value → Except Fault Unit
  duplicate : Fin n → Fault
  missing : (field : Fin n) → Except Fault (Content field)

/-- One optional content per field. -/
abbrev Slots {n : Nat} (Content : Fin n → Type) : Type :=
  (field : Fin n) → Option (Content field)

namespace EntryReader

section

variable {n : Nat} {Content : Fin n → Type}

/-- Read one entry into its slot. -/
def visitEntry
    (reader : EntryReader Content Key Value Fault)
    (slots : Slots Content)
    (entry : Key × Value) :
    Except Fault (Slots Content) :=
  match reader.identify entry.1 with
  | some field =>
      if (slots field).isSome then
        .error (reader.duplicate field)
      else
        match reader.read field entry.2 with
        | .error fault => .error fault
        | .ok content => .ok (Function.update slots field (some content))
  | none =>
      match reader.skip entry.2 with
      | .error fault => .error fault
      | .ok () => .ok slots

/-- The entry loop. -/
def visitEntries
    (reader : EntryReader Content Key Value Fault) :
    Slots Content → List (Key × Value) → Except Fault (Slots Content)
  | slots, [] => .ok slots
  | slots, entry :: rest =>
      match reader.visitEntry slots entry with
      | .error fault => .error fault
      | .ok following => reader.visitEntries following rest

/-- Read a whole record from entries: the loop, then the slots in order. -/
def visitMap
    (reader : EntryReader Content Key Value Fault)
    (entries : List (Key × Value)) :
    Except Fault ((field : Fin n) → Content field) :=
  match reader.visitEntries (fun _ => none) entries with
  | .error fault => .error fault
  | .ok slots =>
      collect fun field =>
        match slots field with
        | some content => .ok content
        | none => reader.missing field

/-- The values that stand under keys of a field, in order. -/
def valuesOf
    (reader : EntryReader Content Key Value Fault)
    (field : Fin n)
    (entries : List (Key × Value)) :
    List Value :=
  entries.filterMap fun entry =>
    if reader.identify entry.1 = some field then some entry.2 else none

/-- Every value under an unknown key can be skipped. -/
def Skips
    (reader : EntryReader Content Key Value Fault)
    (entries : List (Key × Value)) :
    Prop :=
  ∀ entry ∈ entries,
    reader.identify entry.1 = none → reader.skip entry.2 = .ok ()

/-- The key belongs to a field. -/
def isKnown
    (reader : EntryReader Content Key Value Fault)
    (entry : Key × Value) :
    Bool :=
  (reader.identify entry.1).isSome

section

variable {reader : EntryReader Content Key Value Fault}

@[simp] theorem valuesOf_nil
    (field : Fin n) :
    reader.valuesOf field [] = [] :=
  rfl

/-- An entry of this field contributes its value. -/
theorem valuesOf_cons_self
    {field : Fin n}
    {entry : Key × Value}
    (identified : reader.identify entry.1 = some field)
    (rest : List (Key × Value)) :
    reader.valuesOf field (entry :: rest) =
      entry.2 :: reader.valuesOf field rest := by
  simp [valuesOf, identified]

/-- An entry of another field, or of none, contributes nothing. -/
theorem valuesOf_cons_other
    {field : Fin n}
    {entry : Key × Value}
    (other : reader.identify entry.1 ≠ some field)
    (rest : List (Key × Value)) :
    reader.valuesOf field (entry :: rest) = reader.valuesOf field rest := by
  simp [valuesOf, other]

/-- Entries under unknown keys contribute to no field. -/
theorem valuesOf_filter_isKnown
    (field : Fin n)
    (entries : List (Key × Value)) :
    reader.valuesOf field (entries.filter reader.isKnown) =
      reader.valuesOf field entries := by
  induction entries with
  | nil =>
      rfl
  | cons entry rest inductionHypothesis =>
      by_cases identified : reader.identify entry.1 = some field
      · have known : reader.isKnown entry = true := by
          simp [isKnown, identified]
        rw [List.filter_cons_of_pos known, valuesOf_cons_self identified,
          valuesOf_cons_self identified, inductionHypothesis]
      · rw [valuesOf_cons_other identified, ← inductionHypothesis]
        by_cases known : reader.isKnown entry = true
        · rw [List.filter_cons_of_pos known, valuesOf_cons_other identified]
        · rw [List.filter_cons_of_neg known]

/-- The first entry and the others are skipped separately. -/
theorem skips_cons
    (entry : Key × Value)
    (rest : List (Key × Value)) :
    reader.Skips (entry :: rest) ↔
      (reader.identify entry.1 = none → reader.skip entry.2 = .ok ()) ∧
        reader.Skips rest := by
  simp [Skips]

/--
What the loop does to one slot: the values of the field are all read, and their
contents are added to what the slot held.
-/
def SlotGrows
    (reader : EntryReader Content Key Value Fault)
    (field : Fin n)
    (entries : List (Key × Value))
    (before after : Option (Content field)) :
    Prop :=
  ∃ contents,
    List.Forall₂ (fun value content => reader.read field value = .ok content)
        (reader.valuesOf field entries) contents ∧
      after.toList = before.toList ++ contents

/-- Without entries of the field, its slot stays as it is. -/
theorem slotGrows_nil
    {field : Fin n}
    {before after : Option (Content field)} :
    reader.SlotGrows field [] before after ↔ after = before := by
  constructor
  · rintro ⟨contents, reads, grown⟩
    rw [valuesOf_nil, List.forall₂_nil_left_iff] at reads
    subst contents
    rw [List.append_nil] at grown
    cases after with
    | none =>
        cases before with
        | none =>
            rfl
        | some held =>
            simp at grown
    | some kept =>
        cases before with
        | none =>
            simp at grown
        | some held =>
            simpa using grown
  · intro same
    subst after
    exact ⟨[], by simp, by simp⟩

/-- An entry of another field does not touch the slot. -/
theorem slotGrows_cons_other
    {field : Fin n}
    {entry : Key × Value}
    {rest : List (Key × Value)}
    {before after : Option (Content field)}
    (other : reader.identify entry.1 ≠ some field) :
    reader.SlotGrows field (entry :: rest) before after ↔
      reader.SlotGrows field rest before after := by
  unfold SlotGrows
  rw [valuesOf_cons_other other]

/-- An entry of the field needs an empty slot and a readable value. -/
theorem slotGrows_cons_self
    {field : Fin n}
    {entry : Key × Value}
    {rest : List (Key × Value)}
    {before after : Option (Content field)}
    (identified : reader.identify entry.1 = some field) :
    reader.SlotGrows field (entry :: rest) before after ↔
      before = none ∧
        ∃ content,
          reader.read field entry.2 = .ok content ∧
            reader.SlotGrows field rest (some content) after := by
  unfold SlotGrows
  rw [valuesOf_cons_self identified]
  constructor
  · rintro ⟨contents, reads, grown⟩
    rw [List.forall₂_cons_left_iff] at reads
    obtain ⟨content, others, readsFirst, readsRest, shape⟩ := reads
    subst contents
    have isEmpty : before = none := by
      cases before with
      | none =>
          rfl
      | some held =>
          cases after with
          | none =>
              simp at grown
          | some kept =>
              simp at grown
    refine ⟨isEmpty, content, readsFirst, others, readsRest, ?_⟩
    simpa [isEmpty] using grown
  · rintro ⟨isEmpty, content, readsFirst, others, readsRest, grown⟩
    subst before
    exact ⟨content :: others, .cons readsFirst readsRest, by simpa using grown⟩

/-- Filling the empty slot of an entry's field prepares the rest of the loop. -/
theorem slotGrows_update
    {slots final : Slots Content}
    {field : Fin n}
    {entry : Key × Value}
    {rest : List (Key × Value)}
    {content : Content field}
    (identified : reader.identify entry.1 = some field)
    (isEmpty : slots field = none)
    (reads : reader.read field entry.2 = .ok content) :
    (∀ each,
      reader.SlotGrows each rest
        (Function.update slots field (some content) each) (final each)) ↔
      ∀ each,
        reader.SlotGrows each (entry :: rest) (slots each) (final each) := by
  apply forall_congr'
  intro each
  by_cases same : each = field
  · subst each
    rw [slotGrows_cons_self identified, Function.update_self]
    constructor
    · intro grows
      exact ⟨isEmpty, content, reads, grows⟩
    · rintro ⟨_, other, readsOther, grows⟩
      rw [reads] at readsOther
      cases readsOther
      exact grows
  · have other : reader.identify entry.1 ≠ some each := by
      rw [identified]
      intro sameField
      exact same (Option.some.inj sameField).symm
    rw [slotGrows_cons_other other, Function.update_of_ne same]

/--
The loop succeeds exactly when every slot grows by the contents of its values and
every value under an unknown key can be skipped.
-/
theorem visitEntries_eq_ok_iff
    {slots final : Slots Content}
    {entries : List (Key × Value)} :
    reader.visitEntries slots entries = .ok final ↔
      (∀ field,
        reader.SlotGrows field entries (slots field) (final field)) ∧
        reader.Skips entries := by
  induction entries generalizing slots with
  | nil =>
      simp only [visitEntries, Except.ok.injEq, slotGrows_nil]
      constructor
      · intro same
        subst final
        exact ⟨fun _ => rfl, fun _ member => nomatch member⟩
      · rintro ⟨same, _⟩
        exact (funext same).symm
  | cons entry rest inductionHypothesis =>
      rw [skips_cons]
      simp only [visitEntries, visitEntry]
      cases identified : reader.identify entry.1 with
      | none =>
          cases skips : reader.skip entry.2 with
          | error fault =>
              simp
          | ok nothing =>
              have untouched :
                  ∀ field,
                    reader.SlotGrows field (entry :: rest) (slots field)
                        (final field) ↔
                      reader.SlotGrows field rest (slots field)
                        (final field) := by
                intro field
                exact slotGrows_cons_other (by simp [identified])
              simp [inductionHypothesis, untouched]
      | some field =>
          cases held : slots field with
          | some content =>
              simp only [held, Option.isSome_some, if_true, reduceCtorEq,
                false_iff, not_and]
              intro grows
              have isEmpty :=
                ((slotGrows_cons_self identified).mp (grows field)).1
              rw [held] at isEmpty
              cases isEmpty
          | none =>
              cases reads : reader.read field entry.2 with
              | error fault =>
                  simp only [held, reads, Option.isSome_none,
                    Bool.false_eq_true, if_false, reduceCtorEq, false_iff,
                    not_and]
                  intro grows
                  obtain ⟨_, content, readsOk, _⟩ :=
                    (slotGrows_cons_self identified).mp (grows field)
                  rw [reads] at readsOk
                  cases readsOk
              | ok content =>
                  simp [held, reads, inductionHypothesis,
                    slotGrows_update identified held reads]

/-- The record's fields each occur once, with a value that reads as this content. -/
def ReadsEach
    (reader : EntryReader Content Key Value Fault)
    (entries : List (Key × Value))
    (contents : (field : Fin n) → Content field) :
    Prop :=
  ∀ field,
    ∃ value,
      reader.valuesOf field entries = [value] ∧
        reader.read field value = .ok (contents field)

/-- From an empty slot, the loop fills it exactly when the field occurs once. -/
theorem slotGrows_none_some
    {field : Fin n}
    {entries : List (Key × Value)}
    {content : Content field} :
    reader.SlotGrows field entries none (some content) ↔
      ∃ value,
        reader.valuesOf field entries = [value] ∧
          reader.read field value = .ok content := by
  constructor
  · rintro ⟨contents, reads, grown⟩
    have shape : contents = [content] := by
      simpa using grown.symm
    subst contents
    rw [List.forall₂_cons_right_iff] at reads
    obtain ⟨value, others, readsValue, readsNone, values⟩ := reads
    rw [List.forall₂_nil_right_iff] at readsNone
    subst others
    exact ⟨value, values, readsValue⟩
  · rintro ⟨value, values, readsValue⟩
    refine ⟨[content], ?_, by simp⟩
    rw [values]
    exact .cons readsValue .nil

/--
A record is read exactly when each of its fields occurs once with a readable
value and the values under unknown keys can be skipped.
-/
theorem visitMap_eq_ok_iff
    {entries : List (Key × Value)}
    {contents : (field : Fin n) → Content field}
    (required : ∀ field content, reader.missing field ≠ .ok content) :
    reader.visitMap entries = .ok contents ↔
      reader.ReadsEach entries contents ∧ reader.Skips entries := by
  have complete :
      reader.visitMap entries = .ok contents ↔
        reader.visitEntries (fun _ => none) entries =
          .ok fun field => some (contents field) := by
    unfold visitMap
    cases reader.visitEntries (fun _ => none) entries with
    | error fault =>
        simp
    | ok slots =>
        simp only [collect_eq_ok_iff, Except.ok.injEq, funext_iff]
        apply forall_congr'
        intro field
        cases slots field with
        | none =>
            simp [required]
        | some content =>
            simp
  rw [complete, visitEntries_eq_ok_iff]
  simp only [slotGrows_none_some, ReadsEach]

/-- Lists with the same entries under known keys, up to order, read alike. -/
theorem readsEach_of_perm
    {entries others : List (Key × Value)}
    {contents : (field : Fin n) → Content field}
    (sameKnown :
      (entries.filter reader.isKnown).Perm (others.filter reader.isKnown))
    (reads : reader.ReadsEach entries contents) :
    reader.ReadsEach others contents := by
  intro field
  obtain ⟨value, values, readsValue⟩ := reads field
  refine ⟨value, ?_, readsValue⟩
  have sameValues :
      (reader.valuesOf field entries).Perm
        (reader.valuesOf field others) := by
    rw [← valuesOf_filter_isKnown field entries,
      ← valuesOf_filter_isKnown field others]
    exact sameKnown.filterMap _
  rw [values] at sameValues
  exact List.singleton_perm.mp sameValues |>.symm

/--
An accepted list may be permuted, and entries under unknown keys may come and go
as long as they can be skipped: the record stays the same.
-/
theorem visitMap_of_perm
    {entries others : List (Key × Value)}
    {contents : (field : Fin n) → Content field}
    (required : ∀ field content, reader.missing field ≠ .ok content)
    (sameKnown :
      (entries.filter reader.isKnown).Perm (others.filter reader.isKnown))
    (accepted : reader.visitMap entries = .ok contents) :
    reader.visitMap others = .ok contents ↔ reader.Skips others := by
  rw [visitMap_eq_ok_iff required] at accepted ⊢
  constructor
  · exact And.right
  · intro skips
    exact ⟨readsEach_of_perm sameKnown accepted.1, skips⟩

end

end

end EntryReader

section

variable {n : Nat} {Content : Fin n → Type}

/-- Read a record from elements, one for each field in turn. -/
def visitSeq
    (read : (field : Fin n) → Value → Except Fault (Content field))
    (invalidLength : Fin n → Fault)
    (elements : List Value) :
    Except Fault ((field : Fin n) → Content field) :=
  collect fun field =>
    match elements[field.val]? with
    | some value => read field value
    | none => .error (invalidLength field)

/-- As many readable elements as there are fields make a record. -/
theorem visitSeq_eq_ok
    {read : (field : Fin n) → Value → Except Fault (Content field)}
    {invalidLength : Fin n → Fault}
    {elements : List Value}
    {contents : (field : Fin n) → Content field}
    (reads :
      ∀ field : Fin n,
        ∃ value,
          elements[field.val]? = some value ∧
            read field value = .ok (contents field)) :
    visitSeq read invalidLength elements = .ok contents := by
  rw [visitSeq, collect_eq_ok_iff]
  intro field
  obtain ⟨value, present, readsValue⟩ := reads field
  rw [present]
  exact readsValue

end

end RecordVisitor
