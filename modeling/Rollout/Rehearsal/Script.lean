import Rollout.Rehearsal

/-!
# Rollout.Rehearsal.Script — prepared answers from documents

A script maps the name of a command to a list of answers, and an answer is an object: `code`, `stdout`, `stderr` or
`json` say how a program ends, `launch` and `timeout` that it does not, `secs` how long it takes and `repeat` how
often it is given.  What is not said has a default.

* `Rehearsal.Reply.ofJson`: one answer of a program.
* `Rehearsal.ofJson`: all that an object prepares.
-/

namespace Rollout.Rehearsal

/-- A number that is not negative. -/
def count? : Json → Option Nat
  | .num (.int i) => if 0 ≤ i then some i.toNat else none
  | _ => none

/-- The items of a list; anything else has none. -/
def itemsOf : Option Json → List Json
  | some (.arr items) => items
  | _ => []

/-- The text of a member; empty if there is none. -/
def textOf (j : Json) (key : String) : String := ((j.get? key).bind Json.asStr?).getD ""

/-- A text, or the compact text of a document that is given in its place. -/
def textOrJson (j : Json) (key : String) : String :=
  match j.get? "json" with
  | some v => v.compact
  | none => textOf j key

/-- How a program ends. -/
def Ending.ofJson (j : Json) : Ending :=
  match (j.get? "launch").bind Json.asStr?, j.get? "timeout" with
  | some message, _ => .noLaunch message
  | none, some (.bool true) => .timeout
  | none, _ =>
    let code : Option Int := match j.get? "code" with
      | some (.num (.int i)) => some i
      | some _ => none
      | none => some 0
    .output ⟨code, textOrJson j "stdout", textOf j "stderr"⟩

/-- One answer of a program. -/
def Reply.ofJson (j : Json) : Reply :=
  let times := match j.get? "repeat" with
    | some (.str "forever") => none
    | repeated => some ((repeated.bind count?).getD 1)
  ⟨.ofJson j, Span.ofSeconds (((j.get? "secs").bind count?).getD 0), times⟩

/-- The answer of a server; a connection that is dropped gives none. -/
def responseOf (j : Json) : Option Http.Response :=
  match j.get? "drop" with
  | some (.bool true) => none
  | _ => some ⟨((j.get? "status").bind count?).getD 200, textOrJson j "body"⟩

/-- A table of lists, item by item. -/
def listsOf (f : Json → α) (j : Option Json) : Table (List α) :=
  ((j.bind Json.asTable?).getD Table.empty).map fun items => (itemsOf (some items)).map f

/-- All that an object prepares: the answers of programs and servers, and the accesses that fail. -/
def ofJson (j : Json) : Rehearsal :=
  let responses := (j.get? "responses").filter fun rs => !rs.isNull
  ⟨none, listsOf Reply.ofJson (j.get? "script"), responses.map fun rs => (itemsOf (some rs)).map responseOf,
    listsOf (fun n => (count? n).getD 0) (j.get? "fail"), Table.empty⟩

end Rollout.Rehearsal
