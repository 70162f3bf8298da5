/-!
# Data values

The values that cross the border between guest code and host: results of executions, and the data
of completed operations.  Whole numbers are exact; any other number is a binary64, kept as its bit
pattern, so that two values are equal exactly when they would be written alike.
-/

namespace ScriptHost

/-- A structured datum.  The members of an object have distinct names. -/
inductive Value where
  | null
  | bool (b : Bool)
  | int (n : Int)
  | float (bits : UInt64)
  | string (s : String)
  | array (items : List Value)
  | object (members : List (String × Value))
  deriving Inhabited

namespace Value

/-- Members with `value` stored under `name`: an earlier value of that name is replaced where it
stands, and a new name goes to the end. -/
def putMember (name : String) (value : Value) :
    List (String × Value) → List (String × Value)
  | [] => [(name, value)]
  | (other, old) :: rest =>
      if other = name then (name, value) :: rest
      else (other, old) :: putMember name value rest

/-- The member called `name` of an object, if there is one. -/
def member? (name : String) : Value → Option Value
  | object members => (members.find? (·.1 = name)).map (·.2)
  | _ => none

/-- An object of whole numbers under their names. -/
def counts (entries : List (String × Nat)) : Value :=
  .object (entries.map fun entry => (entry.1, .int entry.2))

end Value

/-- The largest unsigned 64-bit number. -/
def maxWord : Nat := 18446744073709551615

/-- The least signed 64-bit number. -/
def minSigned : Int := -9223372036854775808

/-- The largest signed 64-bit number. -/
def maxSigned : Int := 9223372036854775807

end ScriptHost
