/-!
# Blanks and lines

The blank characters of all scripts, text without the blanks around it (`strip`), the words
between blanks (`words`) and the lines of a text (`lines`).
-/

namespace Switchboard
namespace Text

/-- Whether `c` is a blank: a space, tab, line break or separator of any script. -/
def isBlank (c : Char) : Bool :=
  let n := c.toNat
  (9 ≤ n && n ≤ 13) || (28 ≤ n && n ≤ 32) || n == 0x85 || n == 0xa0 || n == 0x1680 ||
    (0x2000 ≤ n && n ≤ 0x200a) || n == 0x2028 || n == 0x2029 || n == 0x202f || n == 0x205f ||
    n == 0x3000

/-- Whether `c` is a blank among the ASCII ones that can be typed. -/
def isAsciiBlank (c : Char) : Bool :=
  let n := c.toNat
  n == 32 || (9 ≤ n && n ≤ 13)

def allBlank (s : List Char) : Bool :=
  s.all isBlank

def stripStart (s : List Char) : List Char :=
  s.dropWhile isBlank

def stripEnd (s : List Char) : List Char :=
  (s.reverse.dropWhile isBlank).reverse

def strip (s : List Char) : List Char :=
  stripEnd (stripStart s)

/-- The words still to come, the characters of the word before the cursor in reverse order. -/
def wordsFrom (word : List Char) : List Char → List (List Char)
  | [] => if word.isEmpty then [] else [word.reverse]
  | c :: rest =>
    if isBlank c then
      if word.isEmpty then wordsFrom [] rest else word.reverse :: wordsFrom [] rest
    else wordsFrom (c :: word) rest

/-- The maximal blank-free pieces of a text. -/
def words (s : List Char) : List (List Char) :=
  wordsFrom [] s

def isLineBreak (c : Char) : Bool :=
  let n := c.toNat
  (10 ≤ n && n ≤ 13) || (28 ≤ n && n ≤ 30) || n == 0x85 || n == 0x2028 || n == 0x2029

/-- The lines still to come, the characters of the line before the cursor in reverse order. A
carriage return and the line feed behind it end one line together. -/
def linesFrom (line : List Char) : List Char → List (List Char)
  | [] => if line.isEmpty then [] else [line.reverse]
  | '\r' :: '\n' :: rest => line.reverse :: linesFrom [] rest
  | c :: rest => if isLineBreak c then line.reverse :: linesFrom [] rest else linesFrom (c :: line) rest

/-- The lines of a text without their line breaks; a break at the end opens no further line. -/
def lines (s : List Char) : List (List Char) :=
  linesFrom [] s

end Text
end Switchboard
