import Routing.Handler
import Routing.Text.Quoted

/-!
# Registered handlers

Handlers can be registered under a name, so that routes can be declared with the name of their
handler. Registering a name again replaces its handler.
-/

namespace Routing

/-- Handlers by name; the names are in ascending order, each once. -/
structure Registry (σ : Type) where
  /-- The names with their handlers. -/
  entries : List (String × Handler σ)

namespace Registry

variable {σ : Type}

/-- The registry without handlers. -/
def empty : Registry σ := ⟨[]⟩

/-- Puts an entry into its place; an entry with the same name is replaced. -/
def insertEntry (name : String) (handler : Handler σ) :
    List (String × Handler σ) → List (String × Handler σ)
  | [] => [(name, handler)]
  | (n, h) :: entries =>
    if name = n then (name, handler) :: entries
    else if name < n then (name, handler) :: (n, h) :: entries
    else (n, h) :: insertEntry name handler entries

/-- The registry with a handler registered under a name. -/
def register (registry : Registry σ) (name : String) (handler : Handler σ) : Registry σ :=
  ⟨insertEntry name handler registry.entries⟩

/-- The handler registered under a name. -/
def get? (registry : Registry σ) (name : String) : Option (Handler σ) :=
  (registry.entries.find? fun entry => entry.1 = name).map (·.2)

/-- Whether a handler is registered under a name. -/
def contains (registry : Registry σ) (name : String) : Bool :=
  registry.entries.any fun entry => entry.1 = name

/-- The number of names. -/
def size (registry : Registry σ) : Nat :=
  registry.entries.length

/-- Whether there are no names. -/
def isEmpty (registry : Registry σ) : Bool :=
  registry.entries.isEmpty

/-- The names in ascending order. -/
def names (registry : Registry σ) : List String :=
  registry.entries.map (·.1)

/-- The registry as it is shown to a developer. -/
def describe (registry : Registry σ) : String :=
  "HandlerRegistry \x7b handlers: " ++ Text.quotedList registry.names ++ " \x7d"

@[simp] theorem get?_empty (name : String) : (empty : Registry σ).get? name = none := rfl

/-- A name that has been registered stands for its latest handler, and the others stand for the
handlers they stood for. -/
theorem get?_register (registry : Registry σ) (name other : String) (handler : Handler σ) :
    (registry.register name handler).get? other =
      if name = other then some handler else registry.get? other := by
  obtain ⟨entries⟩ := registry
  simp only [register, get?]
  induction entries with
  | nil => by_cases ho : name = other <;> simp [insertEntry, ho]
  | cons entry entries ih =>
    obtain ⟨n, h⟩ := entry
    by_cases hn : name = n
    · subst hn
      by_cases ho : name = other <;> simp [insertEntry, ho]
    · by_cases hlt : name < n
      · rw [insertEntry, if_neg hn, if_pos hlt]
        by_cases ho : name = other <;> simp [ho]
      · by_cases ho : n = other
        · subst ho
          simp [insertEntry, hn, hlt]
        · simpa [insertEntry, hn, hlt, ho] using ih

end Registry

end Routing
