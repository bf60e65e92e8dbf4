import Lox.Session

/-!
# What a session shows of its global names

From outside, a session shows its global names in order, each with the sort of its value and with
the text that is printed for it.

## Main definitions

* `Interpreter.view`: the global names with sorts and printed texts.
* `StepReport`: what a step of a session shows.

## Main results

* `Interpreter.view_eq`: sessions whose global names have values that look alike show the same.
-/

namespace Lox.Interpreter

/-- The global names in order, with the sorts and the printed texts of their values. -/
def view (i : Interpreter) : List (String × ValueSort × String) :=
  i.globals.map fun (name, value) => (name, value.sort, value.text)

/-- The bindings of the global frame. -/
def globalBindings (i : Interpreter) : Bindings :=
  i.heap.frames[globalFrame]?.elim ∅ Frame.bindings

theorem globals_eq (i : Interpreter) : i.globals = i.globalBindings.toList := by
  unfold globals globalBindings
  cases i.heap.frames[globalFrame]? <;> rfl

theorem getElem?_globalBindings (i : Interpreter) (name : String) :
    i.globalBindings[name]? = i.heap.binding? globalFrame name := by
  unfold globalBindings Heap.binding?
  cases i.heap.frames[globalFrame]? with
  | none => exact Std.TreeMap.getElem?_emptyc
  | some frame => rfl

/-- Sessions whose global names have values that look alike show the same. -/
theorem view_eq {i i' : Interpreter} {alike : Value → Value → Prop}
    (looks : ∀ v v', alike v v' → v'.sort = v.sort ∧ v'.text = v.text)
    (same : ∀ name, Option.Rel alike (i.heap.binding? globalFrame name)
      (i'.heap.binding? globalFrame name)) : i'.view = i.view := by
  let look (_ : String) (v : Value) : ValueSort × String := (v.sort, v.text)
  have isView (i : Interpreter) : i.view = (i.globalBindings.map look).toList := by
    rw [view, globals_eq, Std.TreeMap.toList_map]
  rw [isView, isView]
  refine Std.TreeMap.Equiv.toList_eq (Std.TreeMap.Equiv.of_forall_constGet?_eq fun name => ?_)
  rw [Std.TreeMap.getElem?_map, Std.TreeMap.getElem?_map, getElem?_globalBindings,
    getElem?_globalBindings]
  have isAlike := same name
  generalize i.heap.binding? globalFrame name = a at isAlike
  generalize i'.heap.binding? globalFrame name = b at isAlike
  cases isAlike with
  | none => rfl
  | some isAlike =>
    obtain ⟨sort, text⟩ := looks _ _ isAlike
    simp only [Option.map_some, look, sort, text]

end Lox.Interpreter

namespace Lox

/-- What a step of a session shows: its errors, all output so far, and the global names. -/
structure StepReport where
  errors : List Diagnostic
  sink : Sink
  names : List (String × ValueSort × String)

/-- What is shown of the errors of a step and the state that it leaves. -/
def StepReport.of (result : List Diagnostic × Interpreter) : StepReport :=
  ⟨result.1, result.2.sink, result.2.view⟩

end Lox
