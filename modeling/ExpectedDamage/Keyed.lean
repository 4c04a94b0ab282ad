/-!
# Values by key

A list of values by key, in the order in which the keys were first given. A key that
is given again keeps its place and takes the later value.
-/

namespace ExpectedDamage.Keyed

variable {α : Type}

def lookup? (entries : List (String × α)) (key : String) : Option α :=
  (entries.find? (·.1 == key)).map Prod.snd

def insert (key : String) (value : α) : List (String × α) → List (String × α)
  | [] => [(key, value)]
  | (k, v) :: rest => if k = key then (key, value) :: rest else (k, v) :: insert key value rest

/-- The first entries, changed and extended by the second ones. -/
def merge (entries changes : List (String × α)) : List (String × α) :=
  changes.foldl (fun merged (key, value) => insert key value merged) entries

end ExpectedDamage.Keyed
