import ScriptHost.Lua.Syntax
import ScriptHost.Lua.Token

/-!
# Reading Lua chunks

A chunk is read from its tokens by recursive descent.  Every step down is bounded, and the bound is
taken from the number of tokens.  Operators bind by their powers: one that binds to the right takes
operands with a power just below its own.

`goto` is not read, and labels are passed over.
-/

namespace ScriptHost.Lua.Grammar

/-- Reading from tokens. -/
abbrev Reader := StateT (List Placed) Option

/-- The next token, if there is one. -/
def peek : Reader (Option Token) := do return (← get).head?.map (·.token)

/-- The line of the next token; at the end, of nothing. -/
def line : Reader Nat := do return ((← get).head?.map (·.line)).getD 0

/-- Pass over the next token. -/
def skip : Reader Unit := modify List.tail

/-- Whether the next token is a symbol. -/
def atSymbol (s : String) : Reader Bool := do
  match ← peek with
  | some (.symbol t) => return s = t
  | _ => return false

/-- Whether the next token is a reserved word. -/
def atKeyword (k : String) : Reader Bool := do
  match ← peek with
  | some (.keyword t) => return k = t
  | _ => return false

/-- Pass over a symbol, if it comes next: whether it does. -/
def accept (s : String) : Reader Bool := do
  let here ← atSymbol s
  if here then skip
  return here

/-- Pass over a reserved word, if it comes next: whether it does. -/
def acceptKeyword (k : String) : Reader Bool := do
  let here ← atKeyword k
  if here then skip
  return here

/-- Pass over a symbol that must come next. -/
def expect (s : String) : Reader Unit := do
  if !(← accept s) then failure

/-- Pass over a reserved word that must come next. -/
def expectKeyword (k : String) : Reader Unit := do
  if !(← acceptKeyword k) then failure

/-- A name. -/
def name : Reader String := do
  match ← peek with
  | some (.name n) => skip; return n
  | _ => failure

/-- The binary operator that a token stands for, with its powers to the left and to the right. -/
def binary? : Token → Option (BinaryOp × Nat × Nat)
  | .keyword "or" => some (.or, 1, 1)
  | .keyword "and" => some (.and, 2, 2)
  | .symbol "<" => some (.lt, 3, 3)
  | .symbol ">" => some (.gt, 3, 3)
  | .symbol "<=" => some (.le, 3, 3)
  | .symbol ">=" => some (.ge, 3, 3)
  | .symbol "~=" => some (.ne, 3, 3)
  | .symbol "==" => some (.eq, 3, 3)
  | .symbol "|" => some (.bitOr, 4, 4)
  | .symbol "~" => some (.bitXor, 5, 5)
  | .symbol "&" => some (.bitAnd, 6, 6)
  | .symbol "<<" => some (.shiftLeft, 7, 7)
  | .symbol ">>" => some (.shiftRight, 7, 7)
  | .symbol ".." => some (.concat, 9, 8)
  | .symbol "+" => some (.add, 10, 10)
  | .symbol "-" => some (.sub, 10, 10)
  | .symbol "*" => some (.mul, 11, 11)
  | .symbol "/" => some (.div, 11, 11)
  | .symbol "//" => some (.floorDiv, 11, 11)
  | .symbol "%" => some (.mod, 11, 11)
  | .symbol "^" => some (.pow, 14, 13)
  | _ => none

/-- The power of an operator in front of its operand. -/
def unaryPower : Nat := 12

/-- The unary operator that a token stands for. -/
def unary? : Token → Option UnaryOp
  | .keyword "not" => some .not
  | .symbol "-" => some .neg
  | .symbol "#" => some .length
  | .symbol "~" => some .bitNot
  | _ => none

/-- A string literal as an expression. -/
def ofText (n : String) : Expr := .str n.toUTF8

/-- Names with commas in between, after the first one. -/
def moreNames : Nat → List String → Reader (List String)
  | 0, _ => failure
  | bound + 1, names => do
      if ← accept "," then moreNames bound (names ++ [← name]) else return names

/-- An attribute of a local name. -/
def localMark : Reader Unit := do
  if ← accept "<" then
    let n ← name
    if n ≠ "const" && n ≠ "close" then failure
    expect ">"

/-- Local names with attributes, after the first one. -/
def moreLocals : Nat → List String → Reader (List String)
  | 0, _ => failure
  | bound + 1, names => do
      localMark
      if ← accept "," then moreLocals bound (names ++ [← name]) else return names

/-- Parameters up to the closing parenthesis: the names, and whether more arguments may follow. -/
def parameters : Nat → List String → Reader (List String × Bool)
  | 0, _ => failure
  | bound + 1, names => do
      if ← accept "..." then
        expect ")"
        return (names, true)
      let n ← name
      if ← accept "," then parameters bound (names ++ [n])
      else
        expect ")"
        return (names ++ [n], false)

/-- Whether an expression can be assigned to. -/
def isTarget : Expr → Bool
  | .name _ | .index _ _ _ => true
  | _ => false

/-- Whether an expression can stand as a statement. -/
def isCall : Expr → Bool
  | .call _ _ _ | .method _ _ _ _ => true
  | _ => false

/-- Whether a block ends here. -/
def atBlockEnd : Reader Bool := do
  match ← peek with
  | none => return true
  | some (.keyword k) => return ["end", "else", "elseif", "until"].contains k
  | _ => return false

mutual

/-- An expression whose operators bind more strongly than a power. -/
def expression : Nat → Nat → Reader Expr
  | 0, _ => failure
  | bound + 1, power => do
      let at_ ← line
      let first ← match (← peek).bind unary? with
        | some op => do
            skip
            pure (Expr.unary at_ op (← expression bound unaryPower))
        | none => simple bound
      operators bound power first

/-- The operators that follow an operand. -/
def operators : Nat → Nat → Expr → Reader Expr
  | 0, _, _ => failure
  | bound + 1, power, left => do
      let at_ ← line
      match (← peek).bind binary? with
      | some (op, leftPower, rightPower) =>
          if leftPower ≤ power then return left
          skip
          let right ← expression bound rightPower
          operators bound power (.binary at_ op left right)
      | none => return left

/-- An operand. -/
def simple : Nat → Reader Expr
  | 0 => failure
  | bound + 1 => do
      match ← peek with
      | some (.number (.int n)) => skip; return .int n
      | some (.number (.float x)) => skip; return .float x
      | some (.str s) => skip; return .str s
      | some (.keyword "nil") => skip; return .nil
      | some (.keyword "true") => skip; return .bool true
      | some (.keyword "false") => skip; return .bool false
      | some (.symbol "...") => skip; return .varargs
      | some (.symbol "\x7b") => skip; return .table (← items bound [])
      | some (.keyword "function") => skip; return .function (← body bound)
      | _ => suffixed bound

/-- A name or an expression in parentheses, with what is done to it. -/
def suffixed : Nat → Reader Expr
  | 0 => failure
  | bound + 1 => do
      match ← peek with
      | some (.name n) => skip; suffixes bound (.name n)
      | some (.symbol "(") =>
          skip
          let e ← expression bound 0
          expect ")"
          suffixes bound (.paren e)
      | _ => failure

/-- Indices and calls that follow an expression. -/
def suffixes : Nat → Expr → Reader Expr
  | 0, _ => failure
  | bound + 1, e => do
      let at_ ← line
      match ← peek with
      | some (.symbol ".") =>
          skip
          let at_ ← line
          let n ← name
          suffixes bound (.index at_ e (ofText n))
      | some (.symbol "[") =>
          skip
          let key ← expression bound 0
          expect "]"
          suffixes bound (.index at_ e key)
      | some (.symbol ":") =>
          skip
          let n ← name
          let at_ ← line
          let args ← arguments bound
          suffixes bound (.method at_ e n args)
      | some (.symbol "(") | some (.symbol "\x7b") | some (.str _) =>
          suffixes bound (.call at_ e (← arguments bound))
      | _ => return e

/-- The arguments of a call. -/
def arguments : Nat → Reader (List Expr)
  | 0 => failure
  | bound + 1 => do
      match ← peek with
      | some (.str s) => skip; return [.str s]
      | some (.symbol "\x7b") => skip; return [.table (← items bound [])]
      | some (.symbol "(") =>
          skip
          if ← accept ")" then return []
          let es ← expressions bound
          expect ")"
          return es
      | _ => failure

/-- Expressions with commas in between. -/
def expressions : Nat → Reader (List Expr)
  | 0 => failure
  | bound + 1 => do
      let e ← expression bound 0
      if ← accept "," then return e :: (← expressions bound) else return [e]

/-- The items of a table constructor up to its end, after those already read. -/
def items : Nat → List Item → Reader (List Item)
  | 0, _ => failure
  | bound + 1, done => do
      if ← accept "\x7d" then return done
      let item ← match ← get with
        | ⟨.name n, _⟩ :: ⟨.symbol "=", _⟩ :: _ => do
            skip
            skip
            pure (Item.keyed (ofText n) (← expression bound 0))
        | ⟨.symbol "[", _⟩ :: _ => do
            skip
            let key ← expression bound 0
            expect "]"
            expect "="
            pure (Item.keyed key (← expression bound 0))
        | _ => pure (Item.positional (← expression bound 0))
      let more ← accept ","
      let more ← if more then pure true else accept ";"
      if more then items bound (done ++ [item])
      else
        expect "\x7d"
        return done ++ [item]

/-- The parameters and the block of a function. -/
def body : Nat → Reader Body
  | 0 => failure
  | bound + 1 => do
      expect "("
      let (names, variadic) ← if ← accept ")" then pure ([], false) else parameters bound []
      let b ← block bound
      expectKeyword "end"
      return .mk names variadic b

/-- A block. -/
def block : Nat → Reader (List Statement)
  | 0 => failure
  | bound + 1 => do
      if ← atBlockEnd then return []
      if ← accept ";" then return ← block bound
      if ← accept "::" then
        let _ ← name
        expect "::"
        return ← block bound
      if ← acceptKeyword "return" then
        let stops ← if ← atBlockEnd then pure true else atSymbol ";"
        let es ← if stops then pure [] else expressions bound
        let _ ← accept ";"
        if ← atBlockEnd then return [.return_ es] else failure
      let s ← statement bound
      return s :: (← block bound)

/-- The rest of a conditional after `if` or `elseif`. -/
def conditional : Nat → Reader Statement
  | 0 => failure
  | bound + 1 => do
      let condition ← expression bound 0
      expectKeyword "then"
      let then_ ← block bound
      if ← acceptKeyword "elseif" then
        return .if_ condition then_ [← conditional bound]
      else if ← acceptKeyword "else" then
        let else_ ← block bound
        expectKeyword "end"
        return .if_ condition then_ else_
      else
        expectKeyword "end"
        return .if_ condition then_ []

/-- The name of a function statement, with whether it ends in a method. -/
def functionName : Nat → Expr → Reader (Expr × Bool)
  | 0, _ => failure
  | bound + 1, e => do
      let at_ ← line
      if ← accept "." then functionName bound (.index at_ e (ofText (← name)))
      else if ← accept ":" then return (.index at_ e (ofText (← name)), true)
      else return (e, false)

/-- A statement other than `return`. -/
def statement : Nat → Reader Statement
  | 0 => failure
  | bound + 1 => do
      let at_ ← line
      match ← peek with
      | some (.keyword "if") => skip; conditional bound
      | some (.keyword "while") =>
          skip
          let condition ← expression bound 0
          expectKeyword "do"
          let b ← block bound
          expectKeyword "end"
          return .while_ condition b
      | some (.keyword "do") =>
          skip
          let b ← block bound
          expectKeyword "end"
          return .block b
      | some (.keyword "repeat") =>
          skip
          let b ← block bound
          expectKeyword "until"
          return .repeat_ b (← expression bound 0)
      | some (.keyword "break") => skip; return .break_
      | some (.keyword "for") =>
          skip
          let first ← name
          if ← accept "=" then
            let start ← expression bound 0
            expect ","
            let last ← expression bound 0
            let step ← if ← accept "," then some <$> expression bound 0 else pure none
            expectKeyword "do"
            let b ← block bound
            expectKeyword "end"
            return .numericFor at_ first start last step b
          else
            let names ← moreNames bound [first]
            expectKeyword "in"
            let es ← expressions bound
            expectKeyword "do"
            let b ← block bound
            expectKeyword "end"
            return .genericFor at_ names es b
      | some (.keyword "function") =>
          skip
          let n ← name
          let (target, isMethod) ← functionName bound (.name n)
          let .mk names variadic b ← body bound
          let names := if isMethod then "self" :: names else names
          return .assign [target] [.function (.mk names variadic b)]
      | some (.keyword "local") =>
          skip
          if ← acceptKeyword "function" then
            let n ← name
            return .localFunction n (← body bound)
          else
            let names ← moreLocals bound [← name]
            let es ← if ← accept "=" then expressions bound else pure []
            return .locals names es
      | _ => do
          let e ← suffixed bound
          if isCall e then return .call e
          else
            let targets ← moreTargets bound [e]
            if !targets.all isTarget then failure
            expect "="
            return .assign targets (← expressions bound)

/-- Targets of an assignment with commas in between, after those already read. -/
def moreTargets : Nat → List Expr → Reader (List Expr)
  | 0, _ => failure
  | bound + 1, targets => do
      if ← accept "," then moreTargets bound (targets ++ [← suffixed bound]) else return targets

end

mutual

/-- Whether an expression uses `break` only in loops and `...` only where there are more arguments,
inside the functions that it makes. -/
def checkExpr (variadic : Bool) : Expr → Bool
  | .varargs => variadic
  | .index _ a b => checkExpr variadic a && checkExpr variadic b
  | .call _ f es => checkExpr variadic f && checkExprs variadic es
  | .method _ e _ es => checkExpr variadic e && checkExprs variadic es
  | .function f => checkBody f
  | .binary _ _ a b => checkExpr variadic a && checkExpr variadic b
  | .unary _ _ e => checkExpr variadic e
  | .table items => checkItems variadic items
  | .paren e => checkExpr variadic e
  | _ => true

/-- The same for several expressions. -/
def checkExprs (variadic : Bool) : List Expr → Bool
  | [] => true
  | e :: rest => checkExpr variadic e && checkExprs variadic rest

/-- The same for an expression that need not be there. -/
def checkOption (variadic : Bool) : Option Expr → Bool
  | none => true
  | some e => checkExpr variadic e

/-- The same for an item of a table. -/
def checkItem (variadic : Bool) : Item → Bool
  | .positional e => checkExpr variadic e
  | .keyed k e => checkExpr variadic k && checkExpr variadic e

/-- The same for items of a table. -/
def checkItems (variadic : Bool) : List Item → Bool
  | [] => true
  | i :: rest => checkItem variadic i && checkItems variadic rest

/-- The same for a function. -/
def checkBody : Body → Bool
  | .mk _ variadic b => checkBlock variadic false b

/-- The same for a statement, which stands in a loop or not. -/
def checkStatement (variadic inLoop : Bool) : Statement → Bool
  | .locals _ es => checkExprs variadic es
  | .localFunction _ f => checkBody f
  | .assign ts es => checkExprs variadic ts && checkExprs variadic es
  | .call e => checkExpr variadic e
  | .block b => checkBlock variadic inLoop b
  | .while_ e b => checkExpr variadic e && checkBlock variadic true b
  | .repeat_ b e => checkBlock variadic true b && checkExpr variadic e
  | .if_ e a b =>
      checkExpr variadic e && checkBlock variadic inLoop a && checkBlock variadic inLoop b
  | .numericFor _ _ a b c s =>
      checkExpr variadic a && checkExpr variadic b && checkOption variadic c &&
        checkBlock variadic true s
  | .genericFor _ _ es b => checkExprs variadic es && checkBlock variadic true b
  | .return_ es => checkExprs variadic es
  | .break_ => inLoop

/-- The same for a block. -/
def checkBlock (variadic inLoop : Bool) : List Statement → Bool
  | [] => true
  | s :: rest => checkStatement variadic inLoop s && checkBlock variadic inLoop rest

end

/-- The chunk that source is, if it is one. -/
def chunk? (source : String) : Option (List Statement) := do
  let tokens ← Token.read source
  let (b, rest) ← (block (8 * tokens.length + 16)).run tokens
  if rest.isEmpty && checkBlock true false b then some b else none

/-- The chunk that source stands for: an expression is returned, and anything else is taken as it
is. -/
def load? (source : String) : Option (List Statement) :=
  (chunk? ("return " ++ source)).orElse fun _ => chunk? source

end ScriptHost.Lua.Grammar
