import ScenarioRunner.Text.Utf8

/-!
# YAML tokens

The words of a stream. Block collections have tokens for their start and end, which are not
written but follow from indentation.
-/

set_option autoImplicit false

namespace ScenarioRunner.Yaml

/-- How a scalar is written. -/
inductive Style where
  | plain
  | singleQuoted
  | doubleQuoted
  | literal
  | folded
  deriving DecidableEq

/-- The name of a tag, or a part of one. Names are octets, which need not be text, and end before
the first zero. -/
abbrev TagName := Bytes

/-- A tag as written: an abbreviation, empty for none, and what follows it. -/
structure WrittenTag where
  handle : String
  suffix : TagName

/-- A word of a stream. -/
inductive Token where
  | versionDirective (major minor : Nat)
  | tagDirective (handle : String) (expansion : TagName)
  | documentStart
  | documentEnd
  | blockSequenceStart
  | blockMappingStart
  | blockEnd
  | flowSequenceStart
  | flowSequenceEnd
  | flowMappingStart
  | flowMappingEnd
  | blockEntry
  | flowEntry
  | key
  | value
  | alias (name : String)
  | anchor (name : String)
  | tag (written : WrittenTag)
  | scalar (style : Style) (text : String)

end ScenarioRunner.Yaml
