import Lox.Value

/-!
# Values that are no objects

Constants and the results of operators are no objects, whatever the operands are.

## Main definitions

* `Value.Plain`: nil, booleans, numbers and strings.

## Main results

* `Value.plain_ofLiteral`, `Value.plain_unary`, `Value.plain_binary`: where plain values come from.
-/

namespace Lox.Value

/-- Values that are no objects. -/
inductive Plain : Value → Prop
  | nil : Plain .nil
  | boolean (b : Bool) : Plain (.boolean b)
  | number (x : Float) : Plain (.number x)
  | string (s : String) : Plain (.string s)

theorem plain_ofLiteral (l : Literal) : (ofLiteral l).Plain := by
  cases l <;> constructor

theorem plain_arithmetic {operator : Token} {x y : Float} {v : Value}
    (h : arithmetic operator x y = .ok v) : v.Plain := by
  unfold arithmetic at h
  split at h <;> cases h <;> constructor

theorem plain_unary {operator : Token} {right v : Value} (h : unary operator right = .ok v) :
    v.Plain := by
  unfold unary at h
  split at h
  · split at h <;> cases h
    exact .number _
  · cases h
    exact .boolean _
  · cases h

theorem plain_binary {operator : Token} {left right v : Value}
    (h : binary left operator right = .ok v) : v.Plain := by
  unfold binary at h
  split at h
  · cases h
    exact .boolean _
  · cases h
    exact .boolean _
  · split at h <;> cases h
    · exact .number _
    · exact .string _
  · split at h
    · exact plain_arithmetic h
    · cases h

end Lox.Value
