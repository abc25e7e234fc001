import ScenarioRunner.Error
import ScenarioRunner.Text.Blank
import ScenarioRunner.Value.Path

/-!
# Soft deletion

Rows are marked as deleted instead of removed. The table's name is written into the statement, so
only plain identifiers, joined by points, are accepted. The condition is written as it is, trimmed.
-/

set_option autoImplicit false

namespace ScenarioRunner

namespace SoftDelete

/-- Whether a character can begin an identifier. -/
def isInitial (c : Char) : Bool := c.isAlpha || c == '_'

/-- Whether a character can stand in an identifier. -/
def isInner (c : Char) : Bool := c.isAlphanum || c == '_'

/-- Whether a text is an identifier. -/
def isIdentifier : List Char → Bool
  | [] => false
  | c :: rest => isInitial c && rest.all isInner

/-- Whether a text is one identifier or several, joined by points. -/
def isTableName (table : List Char) : Bool := (splitAtPoints table).all isIdentifier

/-- Checks the name of a table. -/
def checkTable (table : String) : Except Error Unit :=
  if table.isEmpty then .error (.config "table name is required")
  else if isTableName table.toList then .ok ()
  else .error (.config s!"invalid table name '{table}'")

/-- What a condition adds to the statement; nothing, if it is blank. -/
def conditionClause (condition : Option String) : String :=
  let trimmed := trimText (condition.getD "")
  if trimmed.isEmpty then "" else " AND " ++ trimmed

/-- The statement that marks the rows of a table that meet a condition. -/
def statement (table : String) (condition : Option String) : Except Error String :=
  match checkTable table with
  | .error e => .error e
  | .ok _ => .ok (s!"UPDATE {table} SET soft_deleted = 1, deleted_at = NOW() WHERE soft_deleted = 0"
      ++ conditionClause condition)

end SoftDelete

end ScenarioRunner
