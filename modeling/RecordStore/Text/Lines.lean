/-!
# Lines

A text is cut into lines at line feeds.  A line feed ends a line, together with a carriage return
just in front of it; what stands behind the last one is a line if it is not empty.
-/

namespace RecordStore

/-- A line without the carriage return at its end. -/
def dropReturn (line : List Char) : List Char :=
  if line.getLast? = some '\r' then line.dropLast else line

/-- The lines of a text; `line` holds what has been read of the first one, last character first. -/
def linesFrom (line : List Char) : List Char → List String
  | [] => if line.isEmpty then [] else [String.ofList line.reverse]
  | c :: rest =>
    if c = '\n' then String.ofList (dropReturn line.reverse) :: linesFrom [] rest
    else linesFrom (c :: line) rest

def textLines (text : String) : List String := linesFrom [] text.toList

end RecordStore
