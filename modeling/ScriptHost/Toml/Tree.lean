import ScriptHost.Toml.Scalar

/-!
# The tables of a settings file

A settings file names places in a tree of tables and puts values there.  A place is filled once.  A
table comes into being in one of three ways: a header names it, a header names something inside it,
or a dotted key goes through it.  A table with a header of its own takes no dotted keys from outside,
and a table made by dotted keys takes no header.
-/

namespace ScriptHost.Toml

/-- How a table came into being. -/
inductive Origin where
  | header
  /-- A header names something inside it. -/
  | outer
  | dotted
  deriving DecidableEq

mutual

/-- What stands at a place. -/
inductive Item where
  | scalar (s : Scalar)
  | array (items : List Item)
  /-- A table written as a value; nothing is added to it later. -/
  | inlineTable (members : List (String × Item))
  | table (t : Section)
  /-- A list of tables with headers of their own, the last one first. -/
  | tables (first : Section) (others : List Section)

/-- A table that may still grow. -/
inductive Section where
  | mk (origin : Origin) (members : List (String × Item))

end

instance : Inhabited Item := ⟨.scalar default⟩

namespace Section

/-- How the table came into being. -/
def origin : Section → Origin
  | mk o _ => o

/-- What stands in the table. -/
def members : Section → List (String × Item)
  | mk _ ms => ms

/-- What stands under a key. -/
def get? (t : Section) (key : String) : Option Item :=
  (t.members.find? (·.1 = key)).map (·.2)

/-- Put something under a key, in place of what stands there. -/
def put (t : Section) (key : String) (item : Item) : Section :=
  mk t.origin
    (if (t.get? key).isSome then
      t.members.map fun m => if m.1 = key then (key, item) else m
    else t.members ++ [(key, item)])

/-- Change the table at the end of a path.  Missing tables on the way come into being with the given
origin.  A dotted key does not go through a table that has a header of its own. -/
def descend (origin : Origin) (change : Section → Option Section) :
    List String → Section → Option Section
  | [], t => change t
  | key :: path, t =>
      match t.get? key with
      | none => (descend origin change path (mk origin [])).map fun inner => t.put key (.table inner)
      | some (.table inner) =>
          if origin = .dotted ∧ inner.origin = .header then none
          else (descend origin change path inner).map fun inner => t.put key (.table inner)
      | some (.tables last others) =>
          (descend origin change path last).map fun last => t.put key (.tables last others)
      | some _ => none

/-- Put a value under the last key of a dotted key.  The table it goes to is the one at hand or one
that dotted keys have made, and the place is empty. -/
def putDotted (path : List String) (key : String) (value : Item) (t : Section) : Option Section :=
  t.descend .dotted
    (fun inner =>
      if (inner.origin = .dotted) = (path ≠ []) ∧ (inner.get? key).isNone then
        some (inner.put key value)
      else none)
    path

/-- Open a table with a header.  An existing table may get a header if it has been an outer one so
far. -/
def openTable (path : List String) (key : String) (t : Section) : Option Section :=
  t.descend .outer
    (fun outer =>
      match outer.get? key with
      | none => some (outer.put key (.table (mk .header [])))
      | some (.table inner) =>
          if inner.origin = .outer then some (outer.put key (.table (mk .header inner.members)))
          else none
      | some _ => none)
    path

/-- Open a further table of a list of tables. -/
def openElement (path : List String) (key : String) (t : Section) : Option Section :=
  t.descend .outer
    (fun outer =>
      match outer.get? key with
      | none => some (outer.put key (.tables (mk .header []) []))
      | some (.tables last others) => some (outer.put key (.tables (mk .header []) (last :: others)))
      | some _ => none)
    path

/-- Put a value under a dotted key of the table that a header has opened. -/
def putUnder (header path : List String) (key : String) (value : Item) (t : Section) :
    Option Section :=
  t.descend .outer (putDotted path key value) header

end Section

/-- Put a value under a dotted key of a table written as a value. -/
def putInline (path : List String) (key : String) (value : Item) (t : Section) : Option Section :=
  t.putDotted path key value

end ScriptHost.Toml
