import FlowDiagram.Value.Number

/-! # Equality and order of values

Numbers are equal by value, whatever their kind; lists and tuples item by item, but never to each
other; mappings if they have the same keys with the same values; ranges if they hold the same
numbers.  Only numbers, texts, lists and tuples have an order.
-/

namespace FlowDiagram.Value

/-- Two ranges hold the same numbers. -/
def rangesEqual (a b c a' b' c' : Int) : Bool :=
  let n := rangeLength a b c
  n == rangeLength a' b' c' && (n == 0 || (a == a' && (n == 1 || c == c')))

mutual

def equal : Value → Value → Bool
  | null, null => true
  | text s, text t => s == t
  | list xs, list ys => equalItems xs ys
  | tuple xs, tuple ys => equalItems xs ys
  | mapping es, mapping fs => es.length == fs.length && entriesWithin es fs
  | range a b c, range a' b' c' => rangesEqual a b c a' b' c'
  | builtin f, builtin g => f == g
  | foreign f, foreign g => f.identity == g.identity
  | v, w =>
    match v.number?, w.number? with
    | some a, some b => a.equal b
    | _, _ => false

def equalItems : List Value → List Value → Bool
  | [], [] => true
  | v :: vs, w :: ws => equal v w && equalItems vs ws
  | _, _ => false

/-- Every entry of the first list is in the second. -/
def entriesWithin : List (Value × Value) → List (Value × Value) → Bool
  | [], _ => true
  | (k, v) :: rest, fs =>
    (fs.any fun f => equal k f.1 && equal v f.2) && entriesWithin rest fs

end

mutual

/-- Whether a value comes before another; none if they have no order. -/
def less? : Value → Value → Option Bool
  | text s, text t => some (s < t)
  | list xs, list ys => lessItems? xs ys
  | tuple xs, tuple ys => lessItems? xs ys
  | v, w =>
    match v.number?, w.number? with
    | some a, some b => some (a.less b)
    | _, _ => none

/-- The first items that differ decide; if there are none, the shorter list comes first. -/
def lessItems? : List Value → List Value → Option Bool
  | [], ys => some (!ys.isEmpty)
  | _ :: _, [] => some false
  | v :: vs, w :: ws => if equal v w then lessItems? vs ws else less? v w

end

/-- Lists and mappings, and tuples that hold them, are no keys; of other kinds some are not. -/
def hashable : Value → Bool
  | list _ => false
  | mapping _ => false
  | tuple items => items.attach.all fun v => hashable v.1
  | foreign face => face.hashable
  | _ => true
termination_by v => sizeOf v
decreasing_by
  have := List.sizeOf_lt_of_mem v.2
  simp_wf
  omega

/-- Write a value at a key of a mapping; an equal key keeps its place and its form. -/
def putEntry (k v : Value) : List (Value × Value) → List (Value × Value)
  | [] => [(k, v)]
  | (k', v') :: rest =>
    if equal k' k then (k', v) :: rest else (k', v') :: putEntry k v rest

end FlowDiagram.Value
