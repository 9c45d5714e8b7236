import FlowDiagram.Value.Builtin

/-! # Expressions

An expression denotes a value under an assignment of values to names.  Parts are evaluated from
left to right.  The words `and` and `or` evaluate their second part only if the first does not
decide, and have the value of the part that decides; a chain of comparisons stops at the first
that fails.
-/

namespace FlowDiagram

inductive Comparison where
  | less | lessOrEqual | greater | greaterOrEqual | equal | notEqual
deriving DecidableEq, Repr

inductive Expression where
  | constant (v : Value)
  | name (s : String)
  | list (items : List Expression)
  | tuple (items : List Expression)
  | mapping (entries : List (Expression × Expression))
  | negate (e : Expression)
  | unsigned (e : Expression)
  | not (e : Expression)
  | and (a b : Expression)
  | or (a b : Expression)
  | compare (a : Expression) (rest : List (Comparison × Expression))
  | compute (o : Operator) (a b : Expression)
  | call (f : Expression) (args : List Expression)

/-- Whether a comparison of two values holds. -/
def Comparison.holds (c : Comparison) (v w : Value) : Except OperationFault Bool :=
  let order := fun o : Option Bool => o.elim (.error .wrongType) .ok
  match c with
  | less => order (v.less? w)
  | greater => order (w.less? v)
  | lessOrEqual => order ((v.less? w).map (· || v.equal w))
  | greaterOrEqual => order ((w.less? v).map (· || v.equal w))
  | equal => .ok (v.equal w)
  | notEqual => .ok !(v.equal w)

namespace Expression

/-- The mapping of some entries; of equal keys the last value stays, at the first one's place. -/
def mappingOf (entries : List (Value × Value)) : Except OperationFault Value :=
  if entries.all fun e => e.1.hashable then
    .ok (.mapping (entries.foldl (fun es e => Value.putEntry e.1 e.2 es) []))
  else .error .wrongType

def applyValue (room : Nat) (f : Value) (args : List Value) : Except OperationFault Value :=
  match f with
  | .builtin g => g.apply room args
  | _ => .error .wrongType

/-- The number that a value is, as a value of its own. -/
def unsignedValue (v : Value) : Except OperationFault Value :=
  match v.number? with
  | some (.int i) => .ok (.int i)
  | some (.float x) => .ok (.float x)
  | none => .error .wrongType

variable (room : Nat) (names : String → Option Value)

mutual

def eval : Expression → Except OperationFault Value
  | constant v => .ok v
  | name s => (names s).elim (.error .unknownName) .ok
  | list items => do return .list (← evalAll items)
  | tuple items => do return .tuple (← evalAll items)
  | mapping entries => do mappingOf (← evalEntries entries)
  | negate e => do (← eval e).negated
  | unsigned e => do unsignedValue (← eval e)
  | not e => do return .bool !(← eval e).truthy
  | and a b => do
    let v ← eval a
    if v.truthy then eval b else return v
  | or a b => do
    let v ← eval a
    if v.truthy then return v else eval b
  | compare a rest => do return .bool (← evalComparisons (← eval a) rest)
  | compute o a b => do
    let v ← eval a
    Value.compute room o v (← eval b)
  | call f args => do
    let g ← eval f
    applyValue room g (← evalAll args)

def evalAll : List Expression → Except OperationFault (List Value)
  | [] => .ok []
  | e :: rest => do
    let v ← eval e
    return v :: (← evalAll rest)

def evalEntries : List (Expression × Expression) → Except OperationFault (List (Value × Value))
  | [] => .ok []
  | (k, e) :: rest => do
    let key ← eval k
    let v ← eval e
    return (key, v) :: (← evalEntries rest)

def evalComparisons (v : Value) : List (Comparison × Expression) → Except OperationFault Bool
  | [] => .ok true
  | (c, e) :: rest => do
    let w ← eval e
    if ← c.holds v w then evalComparisons w rest else return false

end

end Expression

end FlowDiagram
