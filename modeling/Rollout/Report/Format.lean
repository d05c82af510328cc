import Rollout.Report.Grid
import Rollout.Digest.Fingerprint
import Rollout.Plan.Report
import Rollout.Config.Review
import Rollout.Registry.Lock
import Rollout.Text.Search
import Rollout.Variables.Merge

/-!
# Rollout.Report.Format — what the operator sees

Reports, values, resources, locks and reviews as text for the eye, with or without colour, or as document text
for programs.
-/

namespace Rollout.Report

/-- For whom a report is written. -/
inductive Layout
  | text (color : Bool)
  | json
deriving DecidableEq, Repr, Inhabited

/-- What ends a colour or style. -/
def reset : String := "\x1b[0m"

/-- A text in a colour or style of the terminal; where the text itself ends a style, the style begins anew. -/
def styled (color : Bool) (code : String) (s : String) : String :=
  let style := "\x1b[" ++ code ++ "m"
  if color then style ++ String.ofList (Text.insertAfter reset.toList style.toList s.toList) ++ reset else s

def bold : String := "1"
def dimmed : String := "2"
def red : String := "31"
def green : String := "32"
def yellow : String := "33"
def cyan : String := "36"

def kindStyle : Outcome.Kind → String
  | .completed => green
  | .skipped => dimmed
  | .failed => red

def kindText (color : Bool) (k : Outcome.Kind) : String :=
  styled color (kindStyle k) (match k with
    | .completed => "completed"
    | .skipped => "skipped"
    | .failed => "failed")

def kindMark (color : Bool) (k : Outcome.Kind) : String :=
  styled color (kindStyle k) (match k with
    | .completed => "✓"
    | .skipped => "-"
    | .failed => "✗")

def outcomeText (color : Bool) (o : Outcome) : String :=
  kindMark color o.kind ++ " " ++ kindText color o.kind ++
    (match o.message with
      | some message => ": " ++ message
      | none => "") ++ "\n"

def outcome (layout : Layout) (o : Outcome) : String :=
  match layout with
  | .json => o.toJson.pretty
  | .text color => outcomeText color o

/-- The first line of a text, without a carriage return at its end. -/
def firstLine (s : String) : String :=
  let line := s.toList.takeWhile (· ≠ '\n')
  let line := if line.length < s.length && line.getLast? = some '\r' then line.dropLast else line
  String.ofList line

/-- The first line of a text, cut to so many characters. -/
def summary (s : String) (limit : Nat) : String :=
  let line := firstLine s
  if line.length ≤ limit then line else String.ofList (line.toList.take (limit - 3)) ++ "..."

def plan (layout : Layout) (r : PlanReport) : String :=
  match layout with
  | .json => r.toJson.pretty
  | .text color =>
    let rows := r.steps.zipIdx.map fun (s, i) =>
      [toString (i + 1), s.name, kindText color s.outcome.kind, summary (s.outcome.message.getD "") 60]
    "\nPlan: " ++ styled color bold r.plan ++ "\n\n" ++
      (if rows = [] then "" else grid (["#", "Step", "Result", "Message"] :: rows) ++ "\n") ++
      "\n" ++ outcomeText color r.outcome

/-- A value in a cell: texts without quotes. -/
def cell : Json → String
  | .str s => s
  | j => j.compact

def values (layout : Layout) (title : String) (t : Table Json) : String :=
  match layout with
  | .json => (Json.ofTable t).pretty
  | .text _ =>
    if t.isEmpty then title ++ ": none\n"
    else "\n" ++ title ++ "\n" ++ grid (["Name", "Value"] :: t.entries.map fun (k, v) => [k, cell v]) ++ "\n"

def variableTable (layout : Layout) (key : String) (vars : Variables) : String :=
  values layout ("Variables under " ++ key) vars

def resources (layout : Layout) (plan : String) (items : List String) : String :=
  match layout with
  | .json => (Json.strs items).pretty
  | .text _ =>
    "\n" ++ toString items.length ++ " resource(s) in plan " ++ plan ++ "\n" ++
      String.join (items.map fun r => "   " ++ r ++ "\n")

def lock (layout : Layout) (plan : String) (l : Option Lock) (age : Option Int) : String :=
  match layout with
  | .json =>
    (Json.obj [("age_secs", .ofOption .int age), ("lock", .ofOption (fun l => l.toJson.sort) l),
      ("plan", .str plan)]).pretty
  | .text color =>
    match l with
    | none => styled color green "✓" ++ " Plan " ++ plan ++ " is not locked\n"
    | some l =>
      styled color yellow "⚠" ++ " Plan " ++ plan ++ " is locked\n" ++
        "   ID: " ++ l.id ++ "\n   Operation: " ++ l.operation ++ "\n   Who: " ++ l.who ++
        "\n   Created: " ++ l.created.display ++ "\n" ++
        (match age with
          | some age => "   Age: " ++ toString age ++ "s\n"
          | none => "")

def review (layout : Layout) (r : Config.Review) (showWarnings : Bool) : String :=
  match layout with
  | .json =>
    (Json.obj [("errors", .arr (r.errors.map fun e => .obj [("field", .str e.field), ("message", .str e.message)])),
      ("valid", .bool r.isValid), ("warnings", .strs r.warnings)]).pretty
  | .text color =>
    (if r.isValid then styled color green "✓" ++ " Configuration is valid\n"
      else styled color red "✗" ++ " Configuration is invalid\n") ++
      String.join (r.errors.map fun e => "   - " ++ e.field ++ ": " ++ e.message ++ "\n") ++
      (if showWarnings && !r.warnings.isEmpty then
        "\n" ++ styled color yellow "⚠" ++ " Warnings:\n" ++
          String.join (r.warnings.map fun w => "   - " ++ w ++ "\n")
      else "")

end Rollout.Report
