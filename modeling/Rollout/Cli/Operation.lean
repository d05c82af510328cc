import Rollout.Cli.Grammar
import Rollout.Number.Range
import Rollout.Path
import Rollout.Text.Digit

/-!
# Rollout.Cli.Operation — what the tool can be told to do

* `Operation`: the things to do, with what each needs to know.
* `Invocation`: an operation and the settings that go with every operation.
* `Invocation.ofArgs`: the invocation that a command line stands for.
-/

namespace Rollout.Cli

/-- How results are written. -/
inductive Style
  | text
  | json
deriving DecidableEq, Repr, Inhabited

namespace Style

def word : Style → String
  | text => "text"
  | json => "json"

/-- The style that a word names; anything else is text. -/
def ofWord (w : Option String) : Style := if w = some json.word then json else text

def all : List Style := [text, json]

end Style

/-- The things to do. -/
inductive Operation
  | validate (warnings : Bool)
  | init (plan : String)
  | deploy (plan : String) (application : Option String) (overrides components : List String) (refresh : Bool)
  | destroy (plan : String) (yes : Bool)
  | output (plan : String)
  | vars (plan : String)
  | stateList (plan : String)
  | stateRemove (plan address : String)
  | stateSync (plan : String)
  | statePull (plan : String)
  | stateUnlock (plan : String) (olderThan : Int) (yes : Bool)
  | upgradeDatabase (reset : Bool)
deriving DecidableEq, Repr, Inhabited

/-- Whether the operator may be asked to confirm the operation. -/
def Operation.asks : Operation → Bool
  | .destroy _ yes => !yes
  | .stateUnlock _ _ yes => !yes
  | _ => false

/-- An operation with its settings. -/
structure Invocation where
  config : Option Path
  verbose : Bool
  output : Style
  logFormat : Style
  operation : Operation
deriving DecidableEq, Repr, Inhabited

/-! ## Numbers -/

/-- The number that a text stands for, if it fits in 64 bits with a sign. -/
def int64? (s : String) : Option Int :=
  let i? : Option Int := match s.toList with
    | '-' :: cs => (Text.natural? 10 cs).map fun n => -(n : Int)
    | '+' :: cs => (Text.natural? 10 cs).map Int.ofNat
    | cs => (Text.natural? 10 cs).map Int.ofNat
  i?.filter Number.isInt64

/-! ## The grammar -/

/-- The options that every command takes. -/
def sharedOptions : List Parameter :=
  let styles := Style.all.map Style.word
  [⟨"config", some 'c', .single, fun v => if v = "" then some .invalidValue else none, some "CONVERGE_CONFIG"⟩,
    .switch "verbose" (some 'v'), .choice "output" styles none,
    .choice "log-format" styles (some "CONVERGE_LOG_FORMAT"), .helpSwitch, .versionSwitch]

/-- A command without subcommands. -/
def leaf (name : String) (operands : List String) (options : List Parameter) : Grammar :=
  .command name (options ++ sharedOptions) (operands.map fun o => .word o none) []

/-- A command that only has subcommands. -/
def branch (name : String) (subcommands : List Grammar) : Grammar := .command name sharedOptions [] subcommands

def yes : Parameter := .switch "yes" (some 'y')

def olderThan : Parameter :=
  ⟨"older-than", none, .single, fun v => if (int64? v).isNone then some .unreadableValue else none, none⟩

/-- The command line of the tool. -/
def grammar : Grammar :=
  branch "converge"
    [leaf "validate" [] [.switch "warnings" (some 'w')],
      leaf "init" ["plan"] [],
      leaf "deploy" ["plan"]
        [.word "application" (some 'a'), .words "set", .words "component", .switch "refresh" none],
      leaf "destroy" ["plan"] [yes],
      leaf "output" ["plan"] [],
      leaf "vars" ["plan"] [],
      branch "state"
        [leaf "list" ["plan"] [],
          leaf "rm" ["plan", "address"] [],
          leaf "sync" ["plan"] [],
          leaf "pull" ["plan"] [],
          leaf "unlock" ["plan"] [olderThan, yes]],
      branch "upgrade" [leaf "database" [] [.switch "reset-state" none]]]

/-- The operation that was read. -/
def Operation.ofMatches (m : Matches) : Operation :=
  let plan := m.value "plan"
  match m.path.drop 1 with
  | ["init"] => .init plan
  | ["deploy"] => .deploy plan (m.value? "application") (m.all "set") (m.all "component") (m.has "refresh")
  | ["destroy"] => .destroy plan (m.has "yes")
  | ["output"] => .output plan
  | ["vars"] => .vars plan
  | ["state", "list"] => .stateList plan
  | ["state", "rm"] => .stateRemove plan (m.value "address")
  | ["state", "sync"] => .stateSync plan
  | ["state", "pull"] => .statePull plan
  | ["state", "unlock"] => .stateUnlock plan (((m.value? "older-than").bind int64?).getD 0) (m.has "yes")
  | ["upgrade", "database"] => .upgradeDatabase (m.has "reset-state")
  | _ => .validate (m.has "warnings")

/-- The invocation that a command line stands for; the environment fills in some options. -/
def Invocation.ofArgs (env : Table String) (args : List String) : Except Refusal Invocation :=
  (grammar.read env args).map fun m =>
    ⟨m.value? "config", m.has "verbose", .ofWord (m.value? "output"), .ofWord (m.value? "log-format"), .ofMatches m⟩

end Rollout.Cli
