/-!
# Blank characters

The white space of Unicode, and the trimming of a text by it.
-/

set_option autoImplicit false

namespace ScenarioRunner

/-- The characters with the Unicode property `White_Space`. -/
def isBlank (c : Char) : Bool :=
  let n := c.toNat
  (0x09 ≤ n && n ≤ 0x0D) || n == 0x20 || n == 0x85 || n == 0xA0 || n == 0x1680
    || (0x2000 ≤ n && n ≤ 0x200A) || n == 0x2028 || n == 0x2029 || n == 0x202F || n == 0x205F
    || n == 0x3000

/-- Drops the blanks at both ends. -/
def trimBlanks (text : List Char) : List Char :=
  ((text.dropWhile isBlank).reverse.dropWhile isBlank).reverse

/-- Drops the blanks at both ends of a text. -/
def trimText (text : String) : String := String.ofList (trimBlanks text.toList)

/-- Whether a text is empty or all blanks. -/
def isBlankText (text : String) : Bool := text.toList.all isBlank

end ScenarioRunner
