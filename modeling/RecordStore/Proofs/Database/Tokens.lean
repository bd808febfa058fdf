import RecordStore.Proofs.RoundTrip.Digits
import RecordStore.Sql.Quoted

/-! # Tokens of a statement

A database takes the text of a statement apart into tokens before it does anything else.  `tokens`
does so by the lexical rules of SQLite: blanks and comments stand between tokens, a name stands in
double quotes, backticks or brackets, a text in single quotes, and the longest operator counts.  The
text ends at its first NUL.
-/

namespace RecordStore

/-- A token of a statement. -/
inductive Token where
  /-- A name in quotes or brackets, without them. -/
  | name (text : String)
  /-- A text in single quotes, without them. -/
  | literal (text : String)
  /-- A keyword, or a name without quotes. -/
  | word (text : String)
  | number (text : String)
  /-- An operator or a piece of punctuation. -/
  | mark (text : String)
  | parameter (text : String)
  | blob (digits : String)
  | illegal
deriving DecidableEq

namespace Token

/-- The name that a token is. -/
def name? : Token → Option String
  | .name text => some text
  | _ => none

/-- The text that a token writes. -/
def literal? : Token → Option String
  | .literal text => some text
  | _ => none

@[simp] theorem name?_name (text : String) : (name text).name? = some text := rfl

@[simp] theorem name?_literal (text : String) : (literal text).name? = none := rfl

@[simp] theorem literal?_name (text : String) : (name text).literal? = none := rfl

@[simp] theorem literal?_literal (text : String) : (literal text).literal? = some text := rfl

/-- The token of a text between quotes. -/
def quoted (mark : Char) (text : String) : Token :=
  if mark = '\'' then .literal text else .name text

end Token

/-! ## Characters and the ends of tokens -/

namespace Lexer

/-- The characters that begin white space. -/
def blanks : List Char := [' ', '\t', '\n', '\x0c', '\r']

/-- Whether white space goes on with a character.  A vertical tab cannot begin it. -/
def isSpace (c : Char) : Bool := c ∈ '\x0b' :: blanks

/-- Letters, the underscore and everything beyond ASCII. -/
def isWordStart (c : Char) : Bool := c.isUpper || c.isLower || c = '_' || 0x80 ≤ c.toNat

def isWordPart (c : Char) : Bool := isWordStart c || IsDigit c || c = '$'

def isHexDigit (c : Char) : Bool := IsDigit c || c.toLower ∈ ['a', 'b', 'c', 'd', 'e', 'f']

/-- Whether a number goes on with a character.  Digits may be parted by underscores. -/
def isDigitPart (c : Char) : Bool := IsDigit c || c = '_'

def isHexPart (c : Char) : Bool := isHexDigit c || c = '_'

/-- Whether a text begins with a character of a class. -/
def beginsWith (isMember : Char → Bool) (text : List Char) : Bool := text.head?.any isMember

/-- Whether a character begins a parameter that has a name or a number. -/
def isSigil (c : Char) : Bool := c ∈ ['?', '@', ':', '#', '$']

/-- The operators, one that begins with another in front of it. -/
def operators : List (List Char) :=
  [['-', '>', '>'], ['-', '>'], ['=', '='], ['<', '='], ['<', '>'], ['<', '<'], ['>', '='],
    ['>', '>'], ['!', '='], ['|', '|'], ['-'], ['('], [')'], [';'], ['+'], ['*'], ['/'], ['%'],
    ['='], ['<'], ['>'], [','], ['&'], ['~'], ['|'], ['.']]

/-- What stands behind the end of a comment, nothing if it does not end. -/
def afterComment : List Char → List Char
  | '*' :: '/' :: rest => rest
  | _ :: rest => afterComment rest
  | [] => []

def afterDigits (text : List Char) : List Char := text.dropWhile isDigitPart

def afterFraction : List Char → List Char
  | '.' :: rest => afterDigits rest
  | text => text

def afterSign : List Char → List Char
  | '+' :: rest => rest
  | '-' :: rest => rest
  | text => text

/-- What stands behind an exponent, the whole text if there is none. -/
def afterExponent : List Char → List Char
  | [] => []
  | c :: rest =>
    if (c = 'e' ∨ c = 'E') ∧ beginsWith (IsDigit ·) (afterSign rest) then
      afterDigits (afterSign rest)
    else c :: rest

/-- What stands behind a number that begins with a certain digit, or with a point. -/
def afterNumber (first : Char) (rest : List Char) : List Char :=
  if first = '.' then afterExponent (afterDigits rest)
  else if first = '0' ∧ beginsWith (· ∈ ['x', 'X']) rest ∧ beginsWith isHexDigit rest.tail then
    rest.tail.dropWhile isHexPart
  else afterExponent (afterFraction (afterDigits rest))

/-- Whether an index is closed before any white space, and what stands behind it. -/
def afterIndex (text : List Char) : Bool × List Char :=
  match text.dropWhile (fun c => !isSpace c && c ≠ ')') with
  | ')' :: rest => (true, rest)
  | rest => (false, rest)

/-- Whether a parameter has a name, and what stands behind it.  Pairs of colons may stand in a name,
and an index in parentheses at its end. -/
def afterName (named : Bool) : List Char → Bool × List Char
  | [] => (named, [])
  | ':' :: ':' :: rest => afterName named rest
  | c :: rest =>
    if isWordPart c then afterName true rest
    else if c = '(' ∧ named = true then afterIndex rest
    else (named, c :: rest)

/-- The front of a text up to what stands behind it. -/
def cut (text behind : List Char) : String :=
  String.ofList (text.take (text.length - behind.length))

/-! ## Reading a token -/

/-- A text between quotes, which have to be closed. -/
def readQuoted (mark : Char) (rest : List Char) : Token × List Char :=
  match Quoted.decode mark rest with
  | some (text, behind) => (.quoted mark (String.ofList text), behind)
  | none => (.illegal, [])

/-- A name in brackets, in which a closing bracket cannot stand. -/
def readBracketed (rest : List Char) : Token × List Char :=
  match rest.dropWhile (· ≠ ']') with
  | [] => (.illegal, [])
  | _ :: behind => (.name (String.ofList (rest.takeWhile (· ≠ ']'))), behind)

/-- Pairs of hexadecimal digits up to a quote. -/
def readBlob (rest : List Char) : Token × List Char :=
  let digits := rest.takeWhile isHexDigit
  let behind := rest.dropWhile isHexDigit
  if behind.head? = some '\'' ∧ digits.length % 2 = 0 then
    (.blob (String.ofList digits), behind.tail)
  else (.illegal, (behind.dropWhile (· ≠ '\'')).tail)

/-- A word, which goes on as long as it can. -/
def readWord (first : Char) (rest : List Char) : Token × List Char :=
  (.word (String.ofList (first :: rest.takeWhile isWordPart)), rest.dropWhile isWordPart)

/-- A number, behind which no word may begin. -/
def readNumber (first : Char) (rest : List Char) : Token × List Char :=
  let behind := afterNumber first rest
  if beginsWith isWordPart behind then (.illegal, behind.dropWhile isWordPart)
  else (.number (cut (first :: rest) behind), behind)

/-- A parameter.  A question mark may stand alone, any other sigil has a name. -/
def readParameter (first : Char) (rest : List Char) : Token × List Char :=
  if first = '?' then
    (.parameter (String.ofList (first :: rest.takeWhile (IsDigit ·))), rest.dropWhile (IsDigit ·))
  else
    let (named, behind) := afterName false rest
    (if named then .parameter (cut (first :: rest) behind) else .illegal, behind)

def readMark (first : Char) (rest : List Char) : Token × List Char :=
  match operators.find? fun operator => operator.isPrefixOf (first :: rest) with
  | some operator => (.mark (String.ofList operator), rest.drop (operator.length - 1))
  | none => (.illegal, rest)

/-- The token that begins with a character, and what stands behind it. -/
def readToken (first : Char) (rest : List Char) : Token × List Char :=
  if first = '\'' ∨ first = '"' ∨ first = '\x60' then readQuoted first rest
  else if first = '[' then readBracketed rest
  else if (first = 'x' ∨ first = 'X') ∧ rest.head? = some '\'' then readBlob rest.tail
  else if isWordStart first then readWord first rest
  else if IsDigit first ∨ first = '.' ∧ beginsWith (IsDigit ·) rest then readNumber first rest
  else if isSigil first then readParameter first rest
  else readMark first rest

/-- What stands behind white space, a byte order mark or a comment, unless the character begins a
token. -/
def skip? (first : Char) (rest : List Char) : Option (List Char) :=
  if first ∈ blanks then some (rest.dropWhile isSpace)
  else if first = '\uFEFF' then some rest
  else
    match first, rest with
    | '-', '-' :: rest => some (rest.dropWhile (· ≠ '\n'))
    -- A comment that the text ends with right away is an operator.
    | '/', '*' :: next :: rest => some (afterComment (next :: rest))
    | _, _ => none

/-! ## Every token is followed by less of the text -/

open List (dropWhile_suffix tail_suffix)

theorem afterComment_suffix (text : List Char) : afterComment text <:+ text := by
  induction text using afterComment.induct with
  | case1 rest => exact (List.suffix_cons _ _).trans (List.suffix_cons _ _)
  | case2 c rest _ ih =>
    rw [afterComment]
    · exact ih.trans (List.suffix_cons _ _)
    · assumption
  | case3 => exact List.suffix_rfl

theorem afterFraction_suffix (text : List Char) : afterFraction text <:+ text := by
  unfold afterFraction
  split
  · exact (dropWhile_suffix _).trans (List.suffix_cons _ _)
  · exact List.suffix_rfl

theorem afterSign_suffix (text : List Char) : afterSign text <:+ text := by
  unfold afterSign
  split
  · exact List.suffix_cons _ _
  · exact List.suffix_cons _ _
  · exact List.suffix_rfl

theorem afterExponent_suffix (text : List Char) : afterExponent text <:+ text := by
  unfold afterExponent
  split
  · exact List.suffix_rfl
  · next c rest =>
    split
    · exact (dropWhile_suffix _).trans ((afterSign_suffix rest).trans (List.suffix_cons _ _))
    · exact List.suffix_rfl

theorem afterNumber_suffix (first : Char) (rest : List Char) : afterNumber first rest <:+ rest := by
  have digits : afterDigits rest <:+ rest := dropWhile_suffix _
  unfold afterNumber
  split
  · exact (afterExponent_suffix _).trans digits
  · split
    · exact (dropWhile_suffix _).trans (tail_suffix rest)
    · exact (afterExponent_suffix _).trans ((afterFraction_suffix _).trans digits)

theorem afterIndex_suffix (text : List Char) : (afterIndex text).2 <:+ text := by
  have dropped : text.dropWhile (fun c => !isSpace c && c ≠ ')') <:+ text := dropWhile_suffix _
  unfold afterIndex
  split
  · next rest closed =>
    rw [closed] at dropped
    exact (List.suffix_cons _ rest).trans dropped
  · exact dropped

theorem afterName_suffix (named : Bool) (text : List Char) : (afterName named text).2 <:+ text := by
  induction named, text using afterName.induct with
  | case1 => exact List.suffix_rfl
  | case2 named rest ih => exact ih.trans ((List.suffix_cons _ _).trans (List.suffix_cons _ _))
  | case3 named c rest noColons isPart ih =>
    rw [afterName, if_pos isPart]
    · exact ih.trans (List.suffix_cons _ _)
    · assumption
  | case4 named c rest noColons noPart opens =>
    rw [afterName, if_neg noPart, if_pos opens]
    · exact (afterIndex_suffix rest).trans (List.suffix_cons _ _)
    · assumption
  | case5 named c rest noColons noPart noIndex =>
    have kept : (afterName named (c :: rest)).2 = c :: rest := by
      rw [afterName, if_neg noPart, if_neg noIndex]
      assumption
    exact ⟨[], kept⟩

theorem decode_suffix {mark : Char} {text decoded behind : List Char}
    (read : Quoted.decode mark text = some (decoded, behind)) : behind <:+ text := by
  induction text using Quoted.decode.induct mark generalizing decoded with
  | case1 => simp [Quoted.decode] at read
  | case2 => simp_all [Quoted.decode]
  | case3 => simp_all [Quoted.decode]
  | case4 rest ih =>
    obtain ⟨text, inner, -⟩ := by simpa [Quoted.decode] using read
    exact (ih inner).trans ((List.suffix_cons _ _).trans (List.suffix_cons _ _))
  | case5 d rest other =>
    obtain ⟨-, rfl⟩ := by simpa [Quoted.decode, other] using read
    exact List.suffix_cons _ _
  | case6 c d rest other ih =>
    obtain ⟨text, inner, -⟩ := by simpa [Quoted.decode, other] using read
    exact (ih inner).trans (List.suffix_cons _ _)

theorem readToken_suffix (first : Char) (rest : List Char) : (readToken first rest).2 <:+ rest := by
  unfold readToken
  split_ifs
  · unfold readQuoted
    split
    · next read => exact decode_suffix read
    · exact List.nil_suffix
  · unfold readBracketed
    split
    · exact List.nil_suffix
    · next behind read =>
      exact (List.suffix_cons _ behind).trans (read ▸ dropWhile_suffix _)
  · unfold readBlob
    simp only
    split
    · exact (tail_suffix _).trans ((dropWhile_suffix _).trans (tail_suffix rest))
    · exact (tail_suffix _).trans
        ((dropWhile_suffix _).trans ((dropWhile_suffix _).trans (tail_suffix rest)))
  · exact dropWhile_suffix _
  · unfold readNumber
    simp only
    split
    · exact (dropWhile_suffix _).trans (afterNumber_suffix first rest)
    · exact afterNumber_suffix first rest
  · unfold readParameter
    split_ifs
    · exact dropWhile_suffix _
    · exact afterName_suffix false rest
  · unfold readMark
    split
    · exact List.drop_suffix _ _
    · exact List.suffix_rfl

theorem skip?_suffix {first : Char} {rest behind : List Char}
    (skipped : skip? first rest = some behind) : behind <:+ rest := by
  unfold skip? at skipped
  split_ifs at skipped
  · cases skipped
    exact dropWhile_suffix _
  · cases skipped
    exact List.suffix_rfl
  · split at skipped
    · cases skipped
      exact (dropWhile_suffix _).trans (List.suffix_cons _ _)
    · cases skipped
      exact (afterComment_suffix _).trans (List.suffix_cons _ _)
    · contradiction

end Lexer

open Lexer

/-- The tokens of a text without NUL. -/
def tokensOf : List Char → List Token
  | [] => []
  | first :: rest =>
    match _ : skip? first rest with
    | some behind => tokensOf behind
    | none => (readToken first rest).1 :: tokensOf (readToken first rest).2
termination_by text => text.length
decreasing_by
  · exact Nat.lt_succ_of_le (skip?_suffix ‹skip? first rest = some behind›).length_le
  · exact Nat.lt_succ_of_le (readToken_suffix first rest).length_le

/-- The tokens of a text, up to its first NUL. -/
def tokens (text : String) : List Token := tokensOf (text.toList.takeWhile (· ≠ '\x00'))

example : tokens "SELECT \"a\"\"b\" -- 'c\n WHERE[d e]>=-1_0.5e+3 /* \" */ AND`f`= x'0F'||'it''s'" =
    [.word "SELECT", .name "a\"b", .word "WHERE", .name "d e", .mark ">=", .mark "-",
      .number "1_0.5e+3", .word "AND", .name "f", .mark "=", .blob "0F", .mark "||",
      .literal "it's"] := by
  cbv

theorem skip?_of_mem_blanks {first : Char} (blank : first ∈ blanks) (rest : List Char) :
    skip? first rest = some (rest.dropWhile isSpace) := by
  unfold skip?
  exact if_pos blank

section Steps

variable {first : Char} {rest behind : List Char}

@[simp] theorem tokensOf_nil : tokensOf [] = [] := by rw [tokensOf]

theorem tokensOf_skip (skipped : skip? first rest = some behind) :
    tokensOf (first :: rest) = tokensOf behind := by
  rw [tokensOf]
  split <;> simp_all

theorem tokensOf_read {token : Token} (kept : skip? first rest = none)
    (read : readToken first rest = (token, behind)) :
    tokensOf (first :: rest) = token :: tokensOf behind := by
  rw [tokensOf]
  split <;> simp_all

end Steps

end RecordStore
