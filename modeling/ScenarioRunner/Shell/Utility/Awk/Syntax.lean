import ScenarioRunner.Binary64.Basic
import ScenarioRunner.Shell.Utility.Regex

/-!
# Scripts on records

A script is a list of rules. A rule selects some of the records of the input, or stands before or
behind all of them, and says what is done for each. What is done is written in a small language with
variables, arrays that are indexed by text, and functions.
-/

set_option autoImplicit false

namespace ScenarioRunner.Shell.Awk

/-- An operation on two numbers. -/
inductive Operation where
  | add
  | subtract
  | multiply
  | divide
  | remainder
  | power
  deriving DecidableEq

/-- A comparison of two values. -/
inductive Comparison where
  | less
  | lessOrEqual
  | equal
  | unequal
  | greater
  | greaterOrEqual
  deriving DecidableEq

mutual

/-- An expression. Variables, elements and fields can be given values. -/
inductive Expr where
  | number (x : Binary64)
  | text (content : List Char)
  /-- Whether the record matches. -/
  | regex (regex : Regex)
  | named (name : String)
  | element (array : String) (index : List Expr)
  | field (index : Expr)
  /-- Expressions in brackets. -/
  | list (items : List Expr)
  | negate (inner : Expr)
  | positive (inner : Expr)
  | not (inner : Expr)
  | binary (operation : Operation) (first second : Expr)
  | join (first second : Expr)
  | compare (comparison : Comparison) (first second : Expr)
  | matching (negated : Bool) (text pattern : Expr)
  | both (first second : Expr)
  | either (first second : Expr)
  | choose (condition first second : Expr)
  | member (index : List Expr) (array : String)
  | assign (target value : Expr)
  | update (operation : Operation) (target value : Expr)
  /-- Counts up or down. The value is that from before or that from behind. -/
  | count (isUp givesOld : Bool) (target : Expr)
  | call (name : String) (arguments : List Expr)
  | builtin (name : String) (arguments : List Expr)
  | readLine (source : Source) (target : Option Expr)

/-- Where a line is read from. -/
inductive Source where
  | input
  | file (path : Expr)
  | command (text : Expr)

end

instance : Inhabited Expr := ⟨.list []⟩

/-- Where output goes. -/
inductive Outlet where
  | output
  | file (path : Expr)
  /-- The end of a file. -/
  | append (path : Expr)
  | command (text : Expr)

/-- What is done. -/
inductive Statement where
  | block (items : List Statement)
  | print (arguments : List Expr) (outlet : Outlet)
  | format (arguments : List Expr) (outlet : Outlet)
  | value (expr : Expr)
  | branch (condition : Expr) (first : Statement) (second : Option Statement)
  | loop (condition : Expr) (body : Statement)
  /-- A loop whose condition is tested behind each round. -/
  | loopUntil (body : Statement) (condition : Expr)
  | steps (start : Option Statement) (condition : Option Expr) (step : Option Statement)
      (body : Statement)
  | each (name array : String) (body : Statement)
  | leave
  | again
  | next
  | nextFile
  | exit (status : Option Expr)
  | back (value : Option Expr)
  | delete (array : String) (index : List Expr)

instance : Inhabited Statement := ⟨.block []⟩

/-- The records that a rule is for. -/
inductive Selection where
  | start
  | finish
  | every
  | when (condition : Expr)
  /-- From a record for which the first condition holds to one for which the second does. -/
  | range (number : Nat) (first last : Expr)

/-- A rule. Without a body the record is written. -/
structure Rule where
  selection : Selection
  body : Option Statement

/-- A function. -/
structure Function where
  parameters : List String
  body : Statement

/-- A script. -/
structure Script where
  rules : List Rule := []
  functions : List (String × Function) := []

end ScenarioRunner.Shell.Awk
