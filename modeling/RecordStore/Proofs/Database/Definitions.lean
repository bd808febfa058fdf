import RecordStore.Proofs.Database.Writable
import RecordStore.Proofs.RoundTrip.Doubles
import RecordStore.Sql.Definition

/-! # Tokens of the definition of a table

Names and default texts become part of the statement that creates a table.  Whatever they hold,
quotes, parentheses, commas, comments and line breaks included, the statement has the tokens of its
template, with each name and each text as one token.
-/

namespace RecordStore

/-! ## Numbers -/

/-- The tokens of a number. -/
def signedTokens (negative : Bool) (numeral : String) : List Token :=
  (if negative then [.mark "-"] else []) ++ [.number numeral]

theorem Scans.signed {numeral : String} (isNumeral : IsNumeral numeral.toList) (negative : Bool) :
    Scans ((if negative then "-" else "") ++ numeral) (signedTokens negative numeral) := by
  cases negative with
  | false => simpa [signedTokens] using Scans.number isNumeral
  | true => exact (Scans.number isNumeral).negative isNumeral.beginsWithDigit

theorem isNumeral_toString (n : Nat) : IsNumeral (toString n).toList := by
  have chars : (toString n).toList = Nat.toDigits 10 n := Nat.toList_repr
  rw [chars]
  exact .whole Nat.toDigits_ne_nil (toDigits_spec n).2

theorem toString_eq_sign_append (n : Int) :
    toString n = (if decide (n < 0) then "-" else "") ++ toString n.natAbs := by
  have digits : (toString n.natAbs).toList = Nat.toDigits 10 n.natAbs := Nat.toList_repr
  rw [← String.toList_inj, toList_toString_int, String.toList_append, digits]
  by_cases negative : n < 0 <;> simp [negative]

namespace Double

/-- The text of a number in positional notation, without its sign. -/
def numeral (x : Double) : String := if x.isZero then "0" else x.shortest.positionalText ""

theorem text_plain {x : Double} (finite : x.isFinite = true) :
    x.text .plain = (if x.negative then "-" else "") ++ x.numeral := by
  unfold text numeral
  simp only [isNaN_of_isFinite finite, finite, DoubleFormat.plain]
  cases x.isZero <;> simp

theorem isNumeral_numeral (x : Double) : IsNumeral x.numeral.toList := by
  unfold numeral
  split
  · exact isNumeral_toString 0
  · by_cases whole : 0 ≤ x.shortest.exponent
    · rw [x.shortest.positionalText_whole whole]
      refine .whole (by simp) ?_
      simp only [List.forall_mem_append]
      refine ⟨⟨(toDigits_spec _).2, fun c member => ?_⟩, by simp⟩
      rw [List.eq_of_mem_replicate member]
      exact isDigit_zero
    · obtain ⟨front, fraction, text, areDigits, nonempty, -⟩ :=
        x.shortest.exists_positionalText_fraction whole ""
      obtain ⟨frontDigits, fractionDigits⟩ := List.forall_mem_append.1 areDigits
      rw [text]
      exact .fraction nonempty frontDigits fractionDigits

end Double

/-! ## Defaults -/

namespace Parameter

/-- The tokens of a parameter written out. -/
def tokens : Parameter → List Token
  | .null => [.word "NULL"]
  | .bool b => [.number (if b then "1" else "0")]
  | .integer n => signedTokens (decide (n.toInt < 0)) (toString n.toInt.natAbs)
  | .real x => signedTokens x.negative x.numeral
  | .text s => [.literal s]

theorem scans_literalText {parameter : Parameter} (writable : parameter.IsWritable) :
    Scans parameter.literalText parameter.tokens := by
  cases parameter with
  | null => exact .word (by decide)
  | bool b =>
    cases b
    · exact .number (isNumeral_toString 0)
    · exact .number (isNumeral_toString 1)
  | integer n =>
    rw [literalText, toString_eq_sign_append]
    exact .signed (isNumeral_toString _) _
  | real x =>
    rw [literalText, Double.text_plain writable]
    exact .signed x.isNumeral_numeral _
  | text s => exact .literal writable

end Parameter

/-! ## Columns -/

namespace Field

/-- The tokens of the default of a field. -/
def defaultTokens (field : Field) : List Token :=
  match field.default? with
  | some (.literal value) => .word "DEFAULT" :: value.parameter.tokens
  | _ => []

/-- The tokens of the definition of a column. -/
def columnTokens (field : Field) : List Token :=
  [.name field.name, .word field.kind.columnType.name] ++
    (if field.nullable then [] else [.word "NOT", .word "NULL"]) ++
    (if field.unique then [.word "UNIQUE"] else []) ++ field.defaultTokens

theorem scans_columnText {field : Field} (writable : field.IsWritable) :
    Scans field.columnText field.columnTokens := by
  obtain ⟨nameFree, literal⟩ := writable
  have type : IsKeyword field.kind.columnType.name := by
    cases field.kind.columnType <;> decide
  have column := (Scans.name nameFree).spaced (.word type)
  have notNull : Adds (if field.nullable then "" else " NOT NULL")
      (if field.nullable then [] else [.word "NOT", .word "NULL"]) := by
    cases field.nullable with
    | true => exact Adds.nothing
    | false => exact (Scans.words ["NOT", "NULL"] (by decide)).adds
  have unique : Adds (if field.unique then " UNIQUE" else "")
      (if field.unique then [.word "UNIQUE"] else []) := by
    cases field.unique with
    | true => exact (Scans.word (show IsKeyword "UNIQUE" by decide)).adds
    | false => exact Adds.nothing
  unfold columnText columnTokens defaultTokens
  cases given : field.default? with
  | none => exact Adds.nothing (unique (notNull column))
  | some default =>
    cases default with
    | autoIncrement | now => exact Adds.nothing (unique (notNull column))
    | literal value =>
      have text : " " ++ ("DEFAULT" ++ " " ++ value.parameter.literalText)
          = " DEFAULT " ++ value.parameter.literalText := by
        rw [← String.append_assoc, ← String.append_assoc]
        rfl
      have default : Adds (" DEFAULT " ++ value.parameter.literalText)
          (.word "DEFAULT" :: value.parameter.tokens) := by
        rw [← text]
        exact ((Scans.word (show IsKeyword "DEFAULT" by decide)).spaced
          (Parameter.scans_literalText (literal value given))).adds
      exact default (unique (notNull column))

end Field

/-! ## Tables -/

namespace Entity

/-- The tokens of names with commas between them. -/
def namesTokens (names : List String) : List Token :=
  [.mark ","].intercalate (names.map fun name => [.name name])

/-- The tokens of the primary key of a table. -/
def keyTokens (entity : Entity) : List Token :=
  [.word "PRIMARY", .word "KEY", .mark "("] ++ namesTokens entity.identity ++ [.mark ")"]

/-- The tokens of the statement that creates a table. -/
def tableTokens (entity : Entity) : List Token :=
  ["CREATE", "TABLE", "IF", "NOT", "EXISTS"].map .word ++ [.name entity.name, .mark "("] ++
    [.mark ","].intercalate (entity.fields.map Field.columnTokens ++ [entity.keyTokens]) ++
    [.mark ")"]

theorem scans_namesText {names : List String} (nulFree : ∀ name ∈ names, IsNulFree name) :
    Scans (namesText names) (namesTokens names) := by
  have comma : Separates ", " [.mark ","] := by decide
  exact .intercalate comma (Scans.forall₂_map fun name member => .name (nulFree name member))

/-- A definition that is writable has the tokens of its names and defaults in their places. -/
theorem scans_tableText {entity : Entity} (writable : entity.IsWritable) :
    Scans entity.tableText entity.tableTokens := by
  have opening : Separates " (" [.mark "("] := by decide
  have closing : Separates ")" [.mark ")"] := by decide
  have firstLine : Separates " (\n  " [.mark "("] := by decide
  have nextLine : Separates ",\n  " [.mark ","] := by decide
  have lastLine : Separates "\n)" [.mark ")"] := by decide
  have key : Scans ("PRIMARY KEY (" ++ namesText entity.identity ++ ")") entity.keyTokens :=
    ((Scans.words ["PRIMARY", "KEY"] (by decide)).append opening
      (scans_namesText writable.identity)).before closing
  have columns := Scans.forall₂_map fun field member =>
    Field.scans_columnText (writable.fields field member)
  have lines := Scans.intercalate nextLine (List.rel_append columns (.cons key .nil))
  have create := Scans.words ["CREATE", "TABLE", "IF", "NOT", "EXISTS"] (by decide)
  have whole := ((create.spaced (.name writable.name)).append firstLine lines).before lastLine
  have text : " ".intercalate ["CREATE", "TABLE", "IF", "NOT", "EXISTS"] ++ " "
      = "CREATE TABLE IF NOT EXISTS " := by decide
  rw [text] at whole
  unfold tableText tableTokens
  simpa using whole

end Entity

/-! ## Names, texts and the rest -/

/-- The text that a value is stored as, unless it is stored as a number or null. -/
def Value.storedText? : Value → Option String
  | .decimal x => some x.text
  | .dateTime t => some t.text
  | .string s => some s
  | .enumeration s => some s
  | _ => none

/-- The literal default of a field as text, if it is stored as text. -/
def Field.defaultText? (field : Field) : Option String :=
  match field.default? with
  | some (.literal value) => value.storedText?
  | _ => none

namespace Token

/-- Whether a token is one of the template: a keyword, a type, a number or punctuation. -/
def isFixed : Token → Bool
  | .word text => text ∈ ["CREATE", "TABLE", "IF", "NOT", "EXISTS", "PRIMARY", "KEY", "NULL",
      "UNIQUE", "DEFAULT", "TEXT", "INTEGER", "REAL"]
  | .mark text => text ∈ ["(", ")", ",", "-"]
  | .number _ => true
  | _ => false

theorem name?_of_isFixed {token : Token} (fixed : token.isFixed = true) : token.name? = none := by
  cases token <;> first | contradiction | rfl

theorem literal?_of_isFixed {token : Token} (fixed : token.isFixed = true) :
    token.literal? = none := by
  cases token <;> first | contradiction | rfl

/-- The tokens of a statement that do not belong to its template. -/
def spliced (tokens : List Token) : List Token := tokens.filter fun token => !token.isFixed

theorem spliced_append (tokens others : List Token) :
    spliced (tokens ++ others) = spliced tokens ++ spliced others :=
  List.filter_append _ _

theorem spliced_intercalate (parts : List (List Token)) :
    spliced ([.mark ","].intercalate parts) = parts.flatMap spliced := by
  have comma : spliced [.mark ","] = [] := rfl
  induction parts with
  | nil => rfl
  | cons part rest ih =>
    cases rest with
    | nil => simp
    | cons next rest =>
      rw [List.intercalate_cons_cons, spliced_append, spliced_append, comma, ih, List.append_nil,
        ← List.flatMap_cons]

/-- What no token of the template has is found among the others. -/
theorem filterMap_spliced {β : Type} {f : Token → Option β}
    (nothing : ∀ token, token.isFixed = true → f token = none) (tokens : List Token) :
    (spliced tokens).filterMap f = tokens.filterMap f := by
  rw [spliced, List.filterMap_filter]
  refine List.filterMap_congr fun token _ => ?_
  cases isFixed : token.isFixed with
  | true => exact (nothing token isFixed).symm
  | false => rfl

end Token

open Token (spliced spliced_append spliced_intercalate filterMap_spliced)

theorem Value.spliced_tokens (value : Value) :
    spliced value.parameter.tokens = value.storedText?.toList.map .literal := by
  have signed : ∀ negative numeral, spliced (signedTokens negative numeral) = [] := by
    rintro (_ | _) numeral <;> rfl
  cases value with
  | int | bigInt | float => exact signed _ _
  | _ => rfl

namespace Field

/-- What a field brings into the definition of a table: its name, and its default as far as that is
a text. -/
def splicedTokens (field : Field) : List Token :=
  .name field.name :: field.defaultText?.toList.map .literal

theorem spliced_columnTokens (field : Field) :
    spliced field.columnTokens = field.splicedTokens := by
  have column : spliced [.name field.name, .word field.kind.columnType.name]
      = [.name field.name] := by
    cases field.kind.columnType <;> rfl
  have notNull : spliced (if field.nullable then [] else [.word "NOT", .word "NULL"]) = [] := by
    cases field.nullable <;> rfl
  have unique : spliced (if field.unique then [.word "UNIQUE"] else []) = [] := by
    cases field.unique <;> rfl
  have default : spliced field.defaultTokens = field.defaultText?.toList.map .literal := by
    unfold defaultTokens defaultText?
    split
    · next value _ => exact value.spliced_tokens
    · rfl
  rw [columnTokens, spliced_append, spliced_append, spliced_append, column, notNull, unique,
    default]
  rfl

theorem filterMap_name?_splicedTokens (field : Field) :
    field.splicedTokens.filterMap Token.name? = [field.name] := by
  unfold splicedTokens
  cases field.defaultText? <;> rfl

theorem filterMap_literal?_splicedTokens (field : Field) :
    field.splicedTokens.filterMap Token.literal? = field.defaultText?.toList := by
  unfold splicedTokens
  cases field.defaultText? <;> rfl

end Field

namespace Entity

variable (entity : Entity)

theorem spliced_namesTokens (names : List String) :
    spliced (namesTokens names) = names.map .name := by
  rw [namesTokens, spliced_intercalate, List.flatMap_map, List.map_eq_flatMap]
  rfl

/-- Names and texts stand in the definition of a table in the order of its fields, and the key is
the last of them. -/
theorem spliced_tableTokens : spliced entity.tableTokens =
    .name entity.name ::
      (entity.fields.flatMap Field.splicedTokens ++ entity.identity.map .name) := by
  have key : spliced entity.keyTokens = entity.identity.map .name := by
    rw [keyTokens, spliced_append, spliced_append, spliced_namesTokens]
    exact List.append_nil _
  have create : spliced (["CREATE", "TABLE", "IF", "NOT", "EXISTS"].map .word) = [] := rfl
  have table : spliced [.name entity.name, .mark "("] = [.name entity.name] := rfl
  have closing : spliced [.mark ")"] = [] := rfl
  have lines : spliced ([.mark ","].intercalate
      (entity.fields.map Field.columnTokens ++ [entity.keyTokens]))
        = entity.fields.flatMap Field.splicedTokens ++ entity.identity.map .name := by
    rw [spliced_intercalate, List.flatMap_append, List.flatMap_map, List.flatMap_singleton, key]
    simp only [Field.spliced_columnTokens]
  rw [tableTokens, spliced_append, spliced_append, spliced_append, create, table, lines, closing,
    List.nil_append, List.append_nil, List.singleton_append]

theorem filterMap_name?_tableTokens :
    entity.tableTokens.filterMap Token.name?
      = entity.name :: (entity.fieldNames ++ entity.identity) := by
  have names : ∀ names : List String, (names.map Token.name).filterMap Token.name? = names := by
    intro names
    rw [List.filterMap_map]
    exact List.filterMap_some
  rw [← filterMap_spliced fun _ => Token.name?_of_isFixed, spliced_tableTokens,
    List.filterMap_cons_some (Token.name?_name _), List.filterMap_append, List.filterMap_flatMap,
    names]
  simp only [Field.filterMap_name?_splicedTokens]
  rw [fieldNames, List.map_eq_flatMap]

theorem filterMap_literal?_tableTokens :
    entity.tableTokens.filterMap Token.literal? = entity.fields.filterMap Field.defaultText? := by
  have names : ∀ names : List String, (names.map Token.name).filterMap Token.literal? = [] := by
    simp
  rw [← filterMap_spliced fun _ => Token.literal?_of_isFixed, spliced_tableTokens,
    List.filterMap_cons_none (Token.literal?_name _), List.filterMap_append,
    List.filterMap_flatMap, names, List.append_nil]
  simp only [Field.filterMap_literal?_splicedTokens]
  rw [List.filterMap_eq_flatMap_toList]

variable {entity}

theorem isFixed_of_mem_tableTokens {token : Token} (member : token ∈ entity.tableTokens)
    (notName : token.name? = none) (notLiteral : token.literal? = none) :
    token.isFixed = true := by
  by_contra other
  have inside : token ∈ spliced entity.tableTokens :=
    List.mem_filter.2 ⟨member, by simpa using other⟩
  simp only [spliced_tableTokens, Field.splicedTokens, List.mem_cons, List.mem_append,
    List.mem_flatMap, List.mem_map] at inside
  rcases inside with rfl | ⟨field, -, rfl | ⟨text, -, rfl⟩⟩ | ⟨name, -, rfl⟩ <;> contradiction

end Entity

/-! ## Declared tables -/

/-- No name and no default breaks out of the definition of a table.  A database finds the name of
the table, the names of its columns and those of its key, each default that is stored as text, and
otherwise nothing but the template, in the order of the template. -/
theorem Entity.declare_tokens_tableText {name : String} {fields : List Field}
    {identity : List String} {entity : Entity}
    (declared : declare name fields identity = .ok entity) (nameFree : IsNulFree name)
    (fieldsFree : ∀ field ∈ fields, field.IsNulFree) :
    tokens entity.tableText = entity.tableTokens ∧
      (tokens entity.tableText).filterMap Token.name?
        = name :: (fields.map (·.name) ++ identity) ∧
      (tokens entity.tableText).filterMap Token.literal?
        = entity.fields.filterMap Field.defaultText? ∧
      ∀ token ∈ tokens entity.tableText,
        token.name? = none → token.literal? = none → token.isFixed = true := by
  obtain ⟨writable, names, fieldNames, key⟩ := declare_isWritable declared nameFree fieldsFree
  rw [(scans_tableText writable).tokens_eq]
  refine ⟨rfl, ?_, entity.filterMap_literal?_tableTokens, fun token member => ?_⟩
  · rw [entity.filterMap_name?_tableTokens, names, fieldNames, key]
  · exact isFixed_of_mem_tableTokens member

/-- Fields whose names and defaults try to end what they stand in. -/
def treacherousFields : List Field :=
  [Field.ofKind .int "x\" INTEGER); DROP TABLE \"y",
    (Field.ofKind .string "/* \n--").withDefault (.string "'); --\n''"),
    (Field.ofKind .decimal "it's").withDefault (.string "-1.50"),
    (Field.ofKind (.enumeration [")", ","]) "").withDefault (.string ","),
    (Field.ofKind .bigInt "n").withDefault (.int (-5))]

theorem Entity.tokens_tableText_treacherous : ∃ entity,
    declare "a\"b" treacherousFields ["/* \n--", "it's"] = .ok entity ∧
    tokens entity.tableText = entity.tableTokens ∧
    (tokens entity.tableText).filterMap Token.name? =
      ["a\"b", "x\" INTEGER); DROP TABLE \"y", "/* \n--", "it's", "", "n", "/* \n--", "it's"] ∧
    (tokens entity.tableText).filterMap Token.literal? = ["'); --\n''", "-1.50", ","] ∧
    ∀ token ∈ tokens entity.tableText,
      token.name? = none → token.literal? = none → token.isFixed = true := by
  have run : (declare "a\"b" treacherousFields ["/* \n--", "it's"]).map
      (fun entity => entity.fields.filterMap Field.defaultText?)
        = .ok ["'); --\n''", "-1.50", ","] := by decide +kernel
  cases declared : declare "a\"b" treacherousFields ["/* \n--", "it's"] with
  | error _ =>
    rw [declared] at run
    contradiction
  | ok entity =>
    rw [declared] at run
    obtain ⟨whole, names, texts, others⟩ :=
      declare_tokens_tableText declared (by decide) (by decide)
    exact ⟨entity, rfl, whole, names, texts.trans (Except.ok.inj run), others⟩

end RecordStore
