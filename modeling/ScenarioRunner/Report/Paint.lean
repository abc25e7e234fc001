/-!
# Emphasis on a terminal

Text is emphasised by control sequences around it. A sequence inside the text that ends all emphasis
is followed by the emphasis again.
-/

set_option autoImplicit false

namespace ScenarioRunner

/-- A way to emphasise text. -/
inductive Emphasis where
  | red
  | green
  | yellow
  | cyan
  | boldRed
  | boldBlue
  | boldWhite
  | dimmed

namespace Emphasis

/-- The control sequence of some parameters. -/
def sequence (parameters : String) : List Char := '\x1b' :: '[' :: (parameters.toList ++ ['m'])

/-- The parameters of an emphasis. -/
def parameters : Emphasis → String
  | red => "31"
  | green => "32"
  | yellow => "33"
  | cyan => "36"
  | boldRed => "1;31"
  | boldBlue => "1;34"
  | boldWhite => "1;37"
  | dimmed => "2"

/-- The sequence that begins an emphasis. -/
def start (emphasis : Emphasis) : List Char := sequence emphasis.parameters

/-- The sequence that ends all emphasis. -/
def reset : List Char := sequence "0"

/-- Puts a sequence behind every end of emphasis. -/
def resume (start : List Char) : List Char → List Char
  | '\x1b' :: '[' :: '0' :: 'm' :: rest => reset ++ start ++ resume start rest
  | c :: rest => c :: resume start rest
  | [] => []

/-- Emphasises a text, if there are colours. -/
def paint (emphasis : Emphasis) (colours : Bool) (text : String) : String :=
  if colours then
    String.ofList (emphasis.start ++ resume emphasis.start text.toList ++ reset)
  else text

end Emphasis

end ScenarioRunner
