/-!
# Lua chunks

The abstract form of Lua source.  Where something can go wrong when it is run, the node has the line
that a message about it names.
-/

namespace ScriptHost.Lua

/-- Operators with two operands. -/
inductive BinaryOp where
  | add | sub | mul | div | floorDiv | mod | pow
  | bitAnd | bitOr | bitXor | shiftLeft | shiftRight
  | concat
  | eq | ne | lt | le | gt | ge
  | and | or
  deriving DecidableEq, Inhabited

/-- Operators with one operand. -/
inductive UnaryOp where
  | neg
  | not
  | length
  | bitNot
  deriving DecidableEq, Inhabited

mutual

/-- An expression. -/
inductive Expr where
  | nil
  | bool (b : Bool)
  | int (n : Int)
  | float (x : Float)
  | str (s : ByteArray)
  | varargs
  | name (n : String)
  | index (line : Nat) (object key : Expr)
  | call (line : Nat) (function : Expr) (arguments : List Expr)
  | method (line : Nat) (object : Expr) (name : String) (arguments : List Expr)
  | function (f : Body)
  | binary (line : Nat) (op : BinaryOp) (left right : Expr)
  | unary (line : Nat) (op : UnaryOp) (operand : Expr)
  | table (items : List Item)
  /-- An expression in parentheses has one value. -/
  | paren (e : Expr)

/-- An item of a table constructor. -/
inductive Item where
  | positional (value : Expr)
  | keyed (key value : Expr)

/-- The parameters and the body of a function. -/
inductive Body where
  | mk (parameters : List String) (variadic : Bool) (block : List Statement)

/-- A statement. -/
inductive Statement where
  | locals (names : List String) (values : List Expr)
  | localFunction (name : String) (f : Body)
  | assign (targets values : List Expr)
  | call (e : Expr)
  | block (body : List Statement)
  | while_ (condition : Expr) (body : List Statement)
  | repeat_ (body : List Statement) (condition : Expr)
  | if_ (condition : Expr) (then_ else_ : List Statement)
  | numericFor (line : Nat) (name : String) (first last : Expr) (step : Option Expr)
      (body : List Statement)
  | genericFor (line : Nat) (names : List String) (values : List Expr) (body : List Statement)
  | return_ (values : List Expr)
  | break_

end

instance : Inhabited Expr := ⟨.nil⟩
instance : Inhabited Statement := ⟨.break_⟩
instance : Inhabited Body := ⟨.mk [] false []⟩

end ScriptHost.Lua
