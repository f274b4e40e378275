import Routing.Error
import Routing.Text.Ascii
import Routing.Text.Blank

/-!
# Request methods

The methods that a route may be bound to. They are recognised without regard to ASCII case and to
blanks around them; a route without a method is bound to `GET`.
-/

namespace Routing

/-- A method that a route may be bound to. -/
inductive Method where
  | get | head | post | put | delete | connect | options | trace | patch
  deriving Repr, DecidableEq

namespace Method

/-- All methods. -/
def all : List Method :=
  [get, head, post, put, delete, connect, options, trace, patch]

/-- The name of the method. -/
def name : Method → String
  | get => "GET"
  | head => "HEAD"
  | post => "POST"
  | put => "PUT"
  | delete => "DELETE"
  | connect => "CONNECT"
  | options => "OPTIONS"
  | trace => "TRACE"
  | patch => "PATCH"

/-- The form in which methods are compared. -/
def normalize (raw : String) : String :=
  Text.asciiUpper (Text.trim raw)

/-- The method with the given name. -/
def ofName? (raw : String) : Option Method :=
  all.find? fun method => method.name = normalize raw

/-- The method that a route is bound to when `raw` is asked for. -/
def parse (raw : Option String) : Except Error Method :=
  match raw with
  | none => .ok get
  | some raw =>
    match ofName? raw with
    | some method => .ok method
    | none => .error (.invalidMethod raw)

theorem mem_all (method : Method) : method ∈ all := by
  cases method <;> decide

theorem name_injective {m n : Method} (h : m.name = n.name) : m = n := by
  cases m <;> cases n <;> first | rfl | (exact absurd h (by decide))

/-- A name stands for the method whose name is its normal form. -/
theorem ofName?_eq_some_iff (raw : String) (method : Method) :
    ofName? raw = some method ↔ method.name = normalize raw := by
  unfold ofName?
  constructor
  · intro h
    simpa using List.find?_some h
  · intro h
    rcases hf : all.find? (fun m => decide (m.name = normalize raw)) with _ | m
    · have := List.find?_eq_none.1 hf method (mem_all method)
      simp [h] at this
    · have hm := List.find?_some hf
      simp only [decide_eq_true_eq] at hm
      rw [hf, name_injective (hm.trans h.symm)]

end Method

end Routing
