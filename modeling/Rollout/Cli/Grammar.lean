import Rollout.Table

/-!
# Rollout.Cli.Grammar — reading command lines

A grammar says which options, operands and subcommands a command takes.  Arguments are read one by one: a word that
begins with a dash is an option, a word after an option that takes a value is that value, a word that names a
subcommand hands what follows over to it, and any other word is the next operand.  After `--` every word is an
operand.

* `Grammar`: what a command takes.
* `Reading.step`: one argument.
* `Grammar.read`: a whole command line, with the values that the environment gives.
-/

namespace Rollout.Cli

/-- Why a command line is not carried out. -/
inductive Refusal
  | unknownArgument
  | invalidValue
  /-- A value that is not of the form it has to have. -/
  | unreadableValue
  | tooManyValues
  | missingArgument
  | missingSubcommand
  | invalidSubcommand
  /-- An option is given twice. -/
  | conflict
  /-- Help is asked for. -/
  | help
  /-- Nothing is asked for, so help is due. -/
  | helpDue
  /-- The version of a command is asked for. -/
  | version (command : List String)
deriving DecidableEq, Repr, Inhabited

/-- What an option does with the words after it. -/
inductive Arity
  | switch
  | single
  | many
  | help
  | version
deriving DecidableEq, Repr, Inhabited

namespace Arity

/-- Whether a value belongs to the option. -/
def takesValue : Arity → Bool
  | single => true
  | many => true
  | _ => false

end Arity

/-- An option or an operand. -/
structure Parameter where
  name : String
  short : Option Char
  arity : Arity
  /-- What is wrong with a value. -/
  check : String → Option Refusal
  /-- The variable of the environment that gives a value where none is given. -/
  variableName : Option String

namespace Parameter

/-- An option without a value. -/
def switch (name : String) (short : Option Char) : Parameter := ⟨name, short, .switch, fun _ => none, none⟩

/-- A word with no rule for it. -/
def word (name : String) (short : Option Char) : Parameter := ⟨name, short, .single, fun _ => none, none⟩

/-- Words with no rule for them. -/
def words (name : String) : Parameter := ⟨name, none, .many, fun _ => none, none⟩

/-- One of some words. -/
def choice (name : String) (words : List String) (variableName : Option String) : Parameter :=
  ⟨name, none, .single, fun v => if words.contains v then none else some .invalidValue, variableName⟩

def helpSwitch : Parameter := ⟨"help", some 'h', .help, fun _ => none, none⟩

def versionSwitch : Parameter := ⟨"version", some 'V', .version, fun _ => none, none⟩

end Parameter

/-- What a command takes. -/
inductive Grammar
  | command (name : String) (options operands : List Parameter) (subcommands : List Grammar)

namespace Grammar

def name : Grammar → String
  | command name .. => name

def options : Grammar → List Parameter
  | command _ options .. => options

def operands : Grammar → List Parameter
  | command _ _ operands _ => operands

/-- The subcommand that shows help. -/
def helpCommand : Grammar := command "help" [] [] []

/-- The subcommands; where there are any, there is one that shows help. -/
def subcommands : Grammar → List Grammar
  | command _ _ _ [] => []
  | command _ _ _ subs => subs ++ [helpCommand]

def subcommand? (g : Grammar) (word : String) : Option Grammar := g.subcommands.find? (·.name = word)

/-- What asking for help on a row of subcommands comes to. -/
def helpOn (g : Grammar) : List String → Refusal
  | [] => .help
  | word :: rest => match g.subcommand? word with
    | some sub => helpOn sub rest
    | none => .invalidSubcommand

end Grammar

/-- What was read of a command's arguments. -/
structure Reading where
  /-- Values by parameter; an option without a value has none. -/
  given : Table (List String)
  /-- A parameter whose values were read but not looked at. -/
  pending : Option (Parameter × List String)
  /-- Whether the pending parameter waits for a value. -/
  awaiting : Bool
  /-- How many operands were read. -/
  position : Nat
  /-- Whether only operands follow. -/
  trailing : Bool

namespace Reading

/-- Nothing was read. -/
def start : Reading := ⟨Table.empty, none, false, 0, false⟩

/-- Takes the values of a parameter. -/
def take (path : List String) (given : Table (List String)) (p : Parameter) (values : List String) :
    Except Refusal (Table (List String)) :=
  match p.arity, values with
  | .help, _ => .error .help
  | .version, _ => .error (.version path)
  | .switch, _ => if given.contains p.name then .error .conflict else .ok (given.insert p.name [])
  | _, [] => .error .invalidValue
  | .single, v :: _ =>
    if given.contains p.name then .error .conflict
    else match p.check v with
      | some r => .error r
      | none => .ok (given.insert p.name [v])
  | .many, values => .ok (given.insert p.name ((given.get? p.name).getD [] ++ values))

/-- Looks at what is pending. -/
def settle (path : List String) (r : Reading) : Except Refusal Reading :=
  match r.pending with
  | none => .ok r
  | some (p, values) => (take path r.given p values).map fun given => { r with given, pending := none }

/-- A parameter whose values are complete. -/
def accept (path : List String) (r : Reading) (p : Parameter) (values : List String) : Except Refusal Reading := do
  let r ← r.settle path
  let given ← take path r.given p values
  return { r with given, awaiting := false }

/-- A parameter whose values follow. -/
def await (path : List String) (r : Reading) (p : Parameter) : Except Refusal Reading := do
  let r ← r.settle path
  return { r with pending := some (p, []), awaiting := true }

/-- The text around the first equals sign. -/
def splitValue (cs : List Char) : String × Option String :=
  (String.ofList (cs.takeWhile (· ≠ '=')),
    match cs.dropWhile (· ≠ '=') with
    | [] => none
    | _ :: value => some (String.ofList value))

/-- An option with a long name, the dashes left out. -/
def long (g : Grammar) (path : List String) (r : Reading) (cs : List Char) : Except Refusal Reading :=
  let (name, value) := splitValue cs
  match g.options.find? (·.name = name) with
  | none => .error .unknownArgument
  | some p =>
    if p.arity.takesValue then
      match value with
      | some v => r.accept path p [v]
      | none => r.await path p
    else if value.isSome then .error .tooManyValues
    else r.accept path p []

/-- Options with short names, the dash left out; a value may follow the last one. -/
def shorts (g : Grammar) (path : List String) (r : Reading) : List Char → Except Refusal Reading
  | [] => .ok r
  | c :: rest =>
    match g.options.find? (·.short = some c) with
    | none => .error .unknownArgument
    | some p =>
      if p.arity.takesValue then
        match rest with
        | [] => r.await path p
        | '=' :: value => r.accept path p [String.ofList value]
        | value => r.accept path p [String.ofList value]
      else do shorts g path (← r.accept path p []) rest

/-- The next operand. -/
def operand (g : Grammar) (path : List String) (r : Reading) (word : String) : Except Refusal Reading :=
  match g.operands[r.position]? with
  | some p => do
    let r ← r.settle path
    return { r with pending := some (p, [word]), awaiting := false, position := r.position + 1 }
  | none =>
    if g.subcommands.isEmpty then .error .unknownArgument
    else if r.trailing ∧ (g.subcommand? word).isSome then .error .unknownArgument
    else .error .invalidSubcommand

/-- One argument that names no subcommand. -/
def step (g : Grammar) (path : List String) (r : Reading) (word : String) : Except Refusal Reading :=
  if r.trailing then r.operand g path word
  else match word.toList with
    | ['-', '-'] => .ok { r with trailing := true }
    | '-' :: '-' :: name => r.long g path name
    | '-' :: c :: rest => r.shorts g path (c :: rest)
    | _ => match r.awaiting, r.pending with
      | true, some (p, values) => .ok { r with pending := some (p, values ++ [word]), awaiting := false }
      | _, _ => r.operand g path word

/-- The subcommand that an argument names where one may stand. -/
def subcommand? (g : Grammar) (r : Reading) (word : String) : Option Grammar :=
  if r.trailing ∨ r.awaiting then none else g.subcommand? word

end Reading

/-- What was read of a whole command line. -/
structure Matches where
  /-- The commands, from the outermost to the innermost. -/
  path : List String
  /-- Values by parameter; an inner command takes precedence. -/
  given : Table (List String)
  /-- Values that the environment gives. -/
  fallback : Table String

namespace Matches

/-- Whether an option is given. -/
def has (m : Matches) (name : String) : Bool := m.given.contains name

/-- All values of a parameter. -/
def all (m : Matches) (name : String) : List String := (m.given.get? name).getD []

/-- The value of a parameter, from the command line or from the environment. -/
def value? (m : Matches) (name : String) : Option String := (m.all name).head?.or (m.fallback.get? name)

/-- The first value of a parameter that has to be given. -/
def value (m : Matches) (name : String) : String := (m.value? name).getD ""

end Matches

namespace Grammar

/-- The values that the environment gives to options not given. -/
def fallback (env : Table String) (given : Table (List String)) : List Parameter → Except Refusal (Table String)
  | [] => .ok Table.empty
  | p :: rest =>
    match if given.contains p.name then none else p.variableName.bind env.get? with
    | none => fallback env given rest
    | some v => match p.check v with
      | some r => .error r
      | none => do return (← fallback env given rest).insert p.name v

/-- The end of a command's arguments, after what its subcommand was given. -/
def finish (g : Grammar) (path : List String) (env : Table String) (r : Reading) (inner : Option Matches) :
    Except Refusal Matches := do
  let r ← r.settle path
  let own ← fallback env r.given g.options
  if inner.isNone ∧ !g.subcommands.isEmpty then
    .error (if r.given.keys.isEmpty ∧ own.keys.isEmpty then .helpDue else .missingSubcommand)
  else if g.operands.any fun p => !r.given.contains p.name then .error .missingArgument
  else match inner with
    | none => return ⟨path, r.given, own⟩
    | some m => return ⟨m.path, m.given.entries.foldl (fun t (k, v) => t.insert k v) r.given,
        m.fallback.entries.foldl (fun t (k, v) => t.insert k v) own⟩

/-- Reads the arguments of a command on. -/
def readFrom (g : Grammar) (path : List String) (env : Table String) (r : Reading) :
    List String → Except Refusal Matches
  | [] => g.finish path env r none
  | word :: rest =>
    match r.subcommand? g word with
    | some sub =>
      if sub.name = helpCommand.name then .error (g.helpOn rest)
      else do
        let inner ← readFrom sub (path ++ [sub.name]) env .start rest
        g.finish path env r (some inner)
    | none => do readFrom g path env (← r.step g path word) rest

/-- Reads the arguments of a command. -/
def read (g : Grammar) (env : Table String) (args : List String) : Except Refusal Matches :=
  g.readFrom [g.name] env .start args

end Grammar

end Rollout.Cli
