import Stemcell.Value.Basic
/-!
Environments: variables with their values. The system gives texts; what a caller adds is not looked at before
a program is started.
-/
namespace Stemcell

/-- Variables with their values, each name once. -/
abbrev Environment := List (String × Value)

namespace Environment

def get? (env : Environment) (name : String) : Option Value := (env.find? (·.1 = name)).map Prod.snd

def set (name : String) (value : Value) : Environment → Environment
  | [] => [(name, value)]
  | (n, v) :: rest => if n = name then (n, value) :: rest else (n, v) :: set name value rest

def unset (env : Environment) (name : String) : Environment := env.filter (·.1 ≠ name)

/-- The environment with further variables, which win over those already there. -/
def overlay (env more : Environment) : Environment := more.foldl (fun env e => set e.1 e.2 env) env

/-- A variable that has been set has its new value. -/
theorem get?_set_self (env : Environment) (name : String) (value : Value) :
    (set name value env).get? name = some value := by
  induction env with
  | nil => simp [set, get?]
  | cons e rest ih =>
    by_cases h : e.1 = name
    · simp [set, get?, h]
    · simp only [set, h, if_false]
      simpa [get?, h] using ih

/-- Setting a variable leaves the others alone. -/
theorem get?_set_of_ne (env : Environment) {name other : String} (value : Value) (h : other ≠ name) :
    (set name value env).get? other = env.get? other := by
  induction env with
  | nil => simp [set, get?, Ne.symm h]
  | cons e rest ih =>
    by_cases hn : e.1 = name
    · have hne : ¬ e.1 = other := fun he => h (he.symm.trans hn)
      simp [set, get?, hn, Ne.symm h]
    · by_cases ho : e.1 = other
      · simp [set, get?, ho, h]
      · simp only [set, hn, if_false]
        simpa [get?, ho] using ih

end Environment

end Stemcell
