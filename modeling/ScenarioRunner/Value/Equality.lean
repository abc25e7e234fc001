import ScenarioRunner.Value.Text

/-!
# Equality across kinds

Two values of one kind are compared directly, lists and maps entry by entry with this same rule.
Values of two kinds are equal as numbers when both are numbers, and else by their text form.
`null` equals only itself.
-/

set_option autoImplicit false

namespace ScenarioRunner.Value

/-- Equality of two values of different kinds, neither of them `null`. -/
def sameAcrossKinds (a b : Value) : Bool :=
  match a.number?, b.number? with
  | some x, some y => x.same y
  | _, _ => a.text == b.text

mutual

/-- Equality that looks through number forms. -/
def same : Value → Value → Bool
  | null, b => b.isNull
  | bool a, bool b => a == b
  | int a, int b => a == b
  | uint a, uint b => a == b
  | float a, float b => a.sameNumber b
  | str a, str b => a == b
  | list a, list b => sameItems a b
  | map a, map b => sameFields a b
  | a, b => !b.isNull && sameAcrossKinds a b
termination_by structural a => a

/-- Equality of two lists, item by item. -/
def sameItems : List Value → List Value → Bool
  | [], [] => true
  | a :: as, b :: bs => same a b && sameItems as bs
  | _, _ => false
termination_by structural a => a

/-- Equality of two maps in key order, entry by entry. -/
def sameFields : List (String × Value) → List (String × Value) → Bool
  | [], [] => true
  | (k, a) :: as, (l, b) :: bs => k == l && same a b && sameFields as bs
  | _, _ => false
termination_by structural a => a

end

end ScenarioRunner.Value
