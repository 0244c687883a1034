import ExposureBench.Json.Decode

/-!
JSON kept as a value of its own, before it is known what it stands for. All of it must have a value, and nesting is
bounded; of repeated members the last one counts.
-/

namespace ExposureBench

namespace Json

def nestingLimit : Nat := 127

mutual

/-- Every literal spells text, every numeral is in range, and containers nest at most `depth` deep. -/
def isKeepable (depth : Nat) : Json → Bool
  | .null | .bool _ => true
  | .number n => n.value?.isSome
  | .string text => text.isSome
  | .array items => depth != 0 && areKeepable (depth - 1) items
  | .object members => depth != 0 && membersKeepable (depth - 1) members

def areKeepable (depth : Nat) : List Json → Bool
  | [] => true
  | j :: rest => isKeepable depth j && areKeepable depth rest

def membersKeepable (depth : Nat) : List (Text × Json) → Bool
  | [] => true
  | (name, j) :: rest => name.isSome && isKeepable depth j && membersKeepable depth rest

end

def lastMembers : List (Text × Json) → List (Text × Json)
  | [] => []
  | (name, j) :: rest =>
    let later := lastMembers rest
    if later.any (·.1 = name) then later else (name, j) :: later

mutual

def withoutRepeats : Json → Json
  | .array items => .array (allWithoutRepeats items)
  | .object members => .object (lastMembers (membersWithoutRepeats members))
  | j => j

def allWithoutRepeats : List Json → List Json
  | [] => []
  | j :: rest => withoutRepeats j :: allWithoutRepeats rest

def membersWithoutRepeats : List (Text × Json) → List (Text × Json)
  | [] => []
  | (name, j) :: rest => (name, withoutRepeats j) :: membersWithoutRepeats rest

end

def document? (s : String) : Option Json := do
  let j ← parse? s
  if j.isKeepable nestingLimit then some j.withoutRepeats else none

end Json

end ExposureBench
