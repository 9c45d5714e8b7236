import FlowDiagram.CommandLine.Flag
import FlowDiagram.Text.Quoted

/-! # Options of the command line

The command line names one input file and gives options by flags, in any order.  Reading stops at
the first mistake or at a request for help; words that are left over are a mistake at the end.
-/

namespace FlowDiagram.CommandLine

structure Options where
  input : Option String
  output : String
  scenario : String
  description : String
  handlers : Option String
  drawing : Option String
  log : Bool
  overrides : List (String × String)
deriving DecidableEq, Repr

def Options.initial : Options :=
  { input := none
    output := "model.json"
    scenario := ""
    description := ""
    handlers := none
    drawing := none
    log := false
    overrides := [] }

inductive Mistake where
  | ambiguous (word : String) (names : List String)
  | missingWords (f : Flag)
  | unwantedWord (f : Flag) (word : String)
  | noInput
  | unrecognized (words : List String)
deriving DecidableEq, Repr

def Mistake.message : Mistake → String
  | ambiguous word names =>
    "ambiguous option: " ++ word ++ " could match " ++ ", ".intercalate names
  | missingWords f =>
    "argument " ++ f.title ++ ": expected " ++
      (if f.arity = 1 then "one argument" else Text.decimal f.arity ++ " arguments")
  | unwantedWord f word =>
    "argument " ++ f.title ++ ": ignored explicit argument " ++ Text.quoted word
  | noInput => "the following arguments are required: input"
  | unrecognized words => "unrecognized arguments: " ++ " ".intercalate words

/-- Why reading stops. -/
inductive Stop where
  | help
  | mistake (m : Mistake)
deriving DecidableEq, Repr

/-- The options read so far, and the words that were left over. -/
structure Reading where
  options : Options
  extra : List String

/-- The options with a flag taken with its words. -/
def Options.take (o : Options) (f : Flag) (words : List String) : Except Stop Options :=
  match f, words with
  | .output, [w] => .ok { o with output := w }
  | .scenario, [w] => .ok { o with scenario := w }
  | .description, [w] => .ok { o with description := w }
  | .handlers, [w] => .ok { o with handlers := some w }
  | .drawing, [w] => .ok { o with drawing := some w }
  | .log, [] => .ok { o with log := true }
  | .set, [k, e] => .ok { o with overrides := o.overrides ++ [(k, e)] }
  | .help, [] => .error .help
  | f, _ => .error (.mistake (.missingWords f))

/-- The words for a flag from the front of the words after it, and the rest. -/
def takeWords (f : Flag) (rest : List (String × Word)) :
    Except Stop (List String × List (String × Word)) :=
  let taken := rest.take f.arity
  if taken.length = f.arity && taken.all (fun w => w.2 = .argument) then
    .ok (taken.map Prod.fst, rest.drop f.arity)
  else .error (.mistake (.missingWords f))

/-- The flags in a use, with their words, the words left over, and the rest.  A short flag that
takes no word may have further short flags joined to it. -/
def expandUse : (fuel : Nat) → Use → List (String × Word) →
    Except Stop (List (Flag × List String) × List String × List (String × Word))
  | 0, u, _ => .error (.mistake (.missingWords u.flag))
  | fuel + 1, u, rest =>
    match u.joined with
    | none => (takeWords u.flag rest).map fun (words, rest) => ([(u.flag, words)], [], rest)
    | some word =>
      match u.flag.arity with
      | 1 => .ok ([(u.flag, [word])], [], rest)
      | 0 =>
        match u.bySign, u.flag, word.toList with
        | false, .help, c :: cs =>
          if c = '-' then .error (.mistake (.unwantedWord u.flag word))
          else
            match flagNamed? (String.ofList ['-', c]), cs with
            | none, _ => .ok ([(u.flag, [])], ["-" ++ word], rest)
            | some g, [] =>
              (expandUse fuel ⟨g, none, false⟩ rest).map fun (uses, extra, rest) =>
                ((u.flag, []) :: uses, extra, rest)
            | some g, d :: ds =>
              let joined := if d = '=' then ds else d :: ds
              (expandUse fuel ⟨g, some (String.ofList joined), d = '='⟩ rest).map
                fun (uses, extra, rest) => ((u.flag, []) :: uses, extra, rest)
        | _, f, _ => .error (.mistake (.unwantedWord f word))
      | _ => .error (.mistake (.missingWords u.flag))

/-- The arguments at the end, after the last flag: the input, if it is still to come, and words
that are left over.  A separator goes with the input. -/
def readArguments (r : Reading) (words : List (String × Word)) : Reading :=
  match r.options.input, words with
  | none, (_, .separator) :: (w, .argument) :: rest =>
    ⟨{ r.options with input := some w }, r.extra ++ rest.map Prod.fst⟩
  | none, (w, .argument) :: (_, .separator) :: rest =>
    ⟨{ r.options with input := some w }, r.extra ++ rest.map Prod.fst⟩
  | none, (w, .argument) :: rest =>
    ⟨{ r.options with input := some w }, r.extra ++ rest.map Prod.fst⟩
  | _, _ => { r with extra := r.extra ++ words.map Prod.fst }

def isFlagWord (w : String × Word) : Bool :=
  match w.2 with
  | .argument => false
  | .separator => false
  | _ => true

/-- Read words as long as there are flags among them.  Each step takes a word. -/
def readWords : (fuel : Nat) → Reading → List (String × Word) → Except Stop Reading
  | 0, r, words => .ok (readArguments r words)
  | fuel + 1, r, words =>
    if words.any isFlagWord then
      match words with
      | [] => .ok r
      | (w, .use u) :: rest => do
        let (uses, extra, rest) ← expandUse (w.length + 1) u rest
        let options ← uses.foldlM (fun o use => o.take use.1 use.2) r.options
        readWords fuel ⟨options, r.extra ++ extra⟩ rest
      | (w, .argument) :: rest =>
        match r.options.input with
        | none => readWords fuel { r with options := { r.options with input := some w } } rest
        | some _ => readWords fuel { r with extra := r.extra ++ [w] } rest
      | (w, _) :: rest => readWords fuel { r with extra := r.extra ++ [w] } rest
    else .ok (readArguments r words)

/-- The first word that abbreviates more than one name. -/
def firstAmbiguous? (words : List (String × Word)) : Option Mistake :=
  words.findSome? fun
    | (w, .ambiguous names) => some (.ambiguous w names)
    | _ => none

/-- The options that a command line gives. -/
def readOptions (args : List String) : Except Stop Options := do
  let words := classifyAll args
  match firstAmbiguous? words with
  | some m => .error (.mistake m)
  | none =>
    let r ← readWords (words.length + 1) ⟨.initial, []⟩ words
    if r.options.input.isNone then .error (.mistake .noInput)
    else if r.extra.isEmpty then return r.options
    else .error (.mistake (.unrecognized r.extra))

end FlowDiagram.CommandLine
