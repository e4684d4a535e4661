/-!
# Grammars of command lines

Arguments are read from left to right. An argument that begins with two dashes
names an option; its value follows an equals sign or is the next argument. After a
lone pair of dashes all arguments are operands.
-/

namespace OpticalLink.Console

/-- Why reading a command line ends early. -/
inductive Interruption where
  /-- The command line does not follow its grammar. -/
  | usage
  /-- The user asks for help. -/
  | help
  /-- The user asks for the version. -/
  | version
deriving DecidableEq, Repr

/-- What an option takes. -/
inductive Arity where
  /-- No value. -/
  | flag
  /-- A value, which begins with a dash only after an equals sign. -/
  | value
  /-- A value that may begin with a dash. -/
  | dashedValue
deriving DecidableEq, Repr

/-- The options of one level of a command line and what they do to a state. -/
structure Grammar (State : Type) where
  /-- The arity of an option, if it exists. -/
  arity? : String → Option Arity
  /-- Takes an option with its value; that of a flag is empty. -/
  option : State → String → String → Except Interruption State
  /-- Takes an operand. Without it the first operand ends the level. -/
  operand : Option (State → String → Except Interruption State)
  /-- Whether the version may be asked for by a letter. -/
  hasVersion : Bool

/-- An option as written: its name and the value after an equals sign. -/
def longOption? (argument : String) : Option (String × Option String) :=
  match argument.toList with
  | '-' :: '-' :: name =>
    let (name, value) := name.span (· ≠ '=')
    match value with
    | [] => some (String.ofList name, none)
    | _ :: value => some (String.ofList name, some (String.ofList value))
  | _ => none

/-- The letters of an option as written with one dash. A dash alone is none. -/
def shortOption? (argument : String) : Option (List Char) :=
  match argument.toList with
  | '-' :: '-' :: _ => none
  | ['-'] => none
  | '-' :: letters => some letters
  | _ => none

/-- Whether an argument can be the value of an option that stands before it. -/
def isSeparateValue (arity : Arity) (argument : String) : Bool :=
  match arity with
  | .flag => false
  | .dashedValue => true
  | .value => (longOption? argument).isNone && (shortOption? argument).isNone

namespace Grammar

variable {State : Type}

/-- What the letters behind one dash ask for. No letter has a meaning but those
that ask for help and, where it is told, the version. -/
def letters (grammar : Grammar State) : List Char → Interruption
  | 'h' :: _ => .help
  | 'V' :: _ => if grammar.hasVersion then .version else .usage
  | _ => .usage

/-- Takes operands only. -/
def operands (grammar : Grammar State) (state : State) (arguments : List String) :
    Except Interruption State :=
  match grammar.operand with
  | some take => arguments.foldlM take state
  | none => .error .usage

/-- Reads the arguments of one level. The rest begins with the operand that ended
the level. -/
def read (grammar : Grammar State) (state : State) :
    List String → Except Interruption (State × List String)
  | [] => .ok (state, [])
  | argument :: rest =>
    if argument = "--" then (grammar.operands state rest).map fun state => (state, [])
    else
      match longOption? argument with
      | some (name, attached) =>
        match grammar.arity? name, attached with
        | none, _ => .error .usage
        | some .flag, some _ => .error .usage
        | some .flag, none =>
          match grammar.option state name "" with
          | .error interruption => .error interruption
          | .ok state => read grammar state rest
        | some _, some value =>
          match grammar.option state name value with
          | .error interruption => .error interruption
          | .ok state => read grammar state rest
        | some arity, none =>
          match rest with
          | [] => .error .usage
          | value :: rest =>
            if isSeparateValue arity value then
              match grammar.option state name value with
              | .error interruption => .error interruption
              | .ok state => read grammar state rest
            else .error .usage
      | none =>
        match shortOption? argument with
        | some letters => .error (grammar.letters letters)
        | none =>
          match grammar.operand with
          | none => .ok (state, argument :: rest)
          | some take =>
            match take state argument with
            | .error interruption => .error interruption
            | .ok state => read grammar state rest

end Grammar

end OpticalLink.Console
