/-!
# Quoted text

A name in a statement stands between double quotes and a literal text between single ones.  A quote
of the same sort inside is written twice, so that no name and no text can end early.

* `decode_encode` says that a quoted text reads back as itself.
-/

namespace RecordStore

namespace Quoted

/-- A text with every mark written twice. -/
def encode (mark : Char) : List Char → List Char
  | [] => []
  | c :: rest => if c = mark then mark :: mark :: encode mark rest else c :: encode mark rest

/-- Reads a text up to its closing mark, and gives what stands behind the mark. -/
def decode (mark : Char) : List Char → Option (List Char × List Char)
  | [] => none
  | [c] => if c = mark then some ([], []) else none
  | c :: d :: rest =>
    if c = mark then
      if d = mark then (decode mark rest).map fun (text, behind) => (mark :: text, behind)
      else some ([], d :: rest)
    else (decode mark (d :: rest)).map fun (text, behind) => (c :: text, behind)

/-- What stands behind a closing mark does not begin with another mark. -/
def Closes (mark : Char) (behind : List Char) : Prop := behind.head? ≠ some mark

theorem decode_mark {mark : Char} {behind : List Char} (h : Closes mark behind) :
    decode mark (mark :: behind) = some ([], behind) := by
  cases behind with
  | nil => simp [decode]
  | cons d rest =>
    have hd : d ≠ mark := by simpa [Closes] using h
    simp [decode, hd]

/-- A quoted text reads back as itself. -/
theorem decode_encode {mark : Char} (text : List Char) {behind : List Char}
    (h : Closes mark behind) :
    decode mark (encode mark text ++ mark :: behind) = some (text, behind) := by
  induction text with
  | nil => simpa [encode] using decode_mark h
  | cons c rest ih =>
    by_cases hc : c = mark
    · subst hc
      simp [encode, decode, ih]
    · have hne : ∃ d tail, encode mark rest ++ mark :: behind = d :: tail := by
        cases hrest : encode mark rest ++ mark :: behind with
        | nil => simp at hrest
        | cons d tail => exact ⟨d, tail, rfl⟩
      obtain ⟨d, tail, hd⟩ := hne
      rw [hd] at ih
      simp [encode, hc, hd, decode, ih]

end Quoted

def quoteWith (mark : Char) (text : String) : String :=
  String.ofList (mark :: Quoted.encode mark text.toList ++ [mark])

def quoteName (name : String) : String := quoteWith '"' name

def quoteLiteral (text : String) : String := quoteWith '\'' text

end RecordStore
