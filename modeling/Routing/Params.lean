/-!
# Parameters

The parameters of a request are a map from keys to values that keeps the order in which the keys
came in: a key that is there already keeps its place and takes the new value, a new key goes to the
end.
-/

namespace Routing

/-- Parameters in order; no key stands twice. -/
abbrev Params := List (String × String)

namespace Params

/-- The value of a key. -/
def get? (params : Params) (key : String) : Option String :=
  (params.find? fun entry => entry.1 = key).map (·.2)

/-- Gives a key a value. -/
def set (key value : String) : Params → Params
  | [] => [(key, value)]
  | (k, v) :: params =>
    if k = key then (k, value) :: params else (k, v) :: set key value params

/-- Gives several keys their values, one after the other. -/
def setAll (params : Params) (entries : List (String × String)) : Params :=
  entries.foldl (fun params entry => set entry.1 entry.2 params) params

@[simp] theorem get?_nil (key : String) : get? [] key = none := rfl

@[simp] theorem setAll_nil (params : Params) : setAll params [] = params := rfl

@[simp] theorem setAll_cons (params : Params) (entry : String × String)
    (entries : List (String × String)) :
    setAll params (entry :: entries) = setAll (set entry.1 entry.2 params) entries := rfl

theorem setAll_append (params : Params) (s t : List (String × String)) :
    setAll params (s ++ t) = setAll (setAll params s) t := by
  simp [setAll]

theorem get?_cons (k v key : String) (params : Params) :
    get? ((k, v) :: params) key = if k = key then some v else get? params key := by
  by_cases h : k = key <;> simp [get?, h]

/-- A key that has been set has the value it was set to, and the others have the value they had. -/
theorem get?_set (params : Params) (key value other : String) :
    get? (set key value params) other = if key = other then some value else get? params other := by
  induction params with
  | nil => simp [set, get?_cons]
  | cons entry params ih =>
    obtain ⟨k, v⟩ := entry
    by_cases h : k = key
    · subst h
      by_cases ho : k = other <;> simp [set, get?_cons, ho]
    · by_cases ho : k = other
      · subst ho
        simp [set, h, get?_cons, Ne.symm h]
      · simp [set, h, get?_cons, ho, ih]

/-- Setting keeps the keys in their places and puts a new key at the end. -/
theorem keys_set (params : Params) (key value : String) :
    (set key value params).map (·.1) =
      if key ∈ params.map (·.1) then params.map (·.1) else params.map (·.1) ++ [key] := by
  induction params with
  | nil => simp [set]
  | cons entry params ih =>
    obtain ⟨k, v⟩ := entry
    by_cases h : k = key
    · simp [set, h]
    · by_cases hm : key ∈ params.map (·.1)
      · simp_all [set]
      · simp_all [set, Ne.symm h]

end Params

end Routing
