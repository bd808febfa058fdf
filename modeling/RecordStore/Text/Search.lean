/-!
# Searching in text

The three text tests of a condition, over lists of characters: a pattern at the front of a subject,
at its end, or anywhere in it.  `foldCase` makes a test blind to the case of ASCII letters and leaves
every other character alone.

* `occursIn_iff` says that `occursIn` finds exactly the patterns that stand somewhere in the subject.
-/

namespace RecordStore

def occursIn (pattern : List Char) : List Char → Bool
  | [] => pattern.isEmpty
  | c :: rest => pattern.isPrefixOf (c :: rest) || occursIn pattern rest

/-- A text with its ASCII capital letters made small. -/
def foldCase (text : List Char) : List Char := text.map Char.toLower

theorem occursIn_iff {pattern subject : List Char} :
    occursIn pattern subject = true ↔ ∃ front back, subject = front ++ pattern ++ back := by
  induction subject with
  | nil =>
    simp only [occursIn, List.isEmpty_iff]
    constructor
    · rintro rfl
      exact ⟨[], [], rfl⟩
    · rintro ⟨front, back, h⟩
      simpa using (List.append_eq_nil_iff.1 (List.append_eq_nil_iff.1 h.symm).1).2
  | cons c rest ih =>
    simp only [occursIn, Bool.or_eq_true, List.isPrefixOf_iff_prefix, ih]
    constructor
    · rintro (⟨back, h⟩ | ⟨front, back, rfl⟩)
      · exact ⟨[], back, by simpa using h.symm⟩
      · exact ⟨c :: front, back, by simp⟩
    · rintro ⟨front, back, h⟩
      cases front with
      | nil => exact .inl ⟨back, by simpa using h.symm⟩
      | cons d front =>
        simp only [List.cons_append, List.cons.injEq] at h
        exact .inr ⟨front, back, by simpa using h.2⟩

end RecordStore
