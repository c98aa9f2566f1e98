import TextToSql.Domain.Text

namespace TextToSql.Domain

/-- The characters at which `str.splitlines` ends a line. -/
def isLineBreak (c : Char) : Bool :=
  c.toNat ∈ [0x0a, 0x0b, 0x0c, 0x0d, 0x1c, 0x1d, 0x1e, 0x85, 0x2028, 0x2029]

def splitLinesFrom (line : List Char) : List Char → List (List Char)
  | [] => if line = [] then [] else [line.reverse]
  | '\r' :: '\n' :: rest => line.reverse :: splitLinesFrom [] rest
  | c :: rest =>
    if isLineBreak c then line.reverse :: splitLinesFrom [] rest
    else splitLinesFrom (c :: line) rest

/-- `text.splitlines()`. -/
def splitLines (text : List Char) : List (List Char) := splitLinesFrom [] text

def words (text : List Char) : List (List Char) := (text.splitOnP isSpace).filter (· ≠ [])

def collapse (text : List Char) : List Char := [' '].intercalate (words text)

def lines (text : String) : List (List Char) := text.toList.splitOn '\n'

end TextToSql.Domain
