import Rollout.Machine.Program
import Rollout.Machine.Sum

/-!
# Rollout.Machine.Field — the fields that words stand for

Parameters, sums and the output of scripts take the place of the parts of a word.  What was not quoted is then split
into fields at blanks, and fields that are patterns become the paths that they stand for.

* `Shell.expand`: the fields of a word.
* `Shell.expandText`: the text of a word that is not split.
-/

namespace Rollout.Shell

/-- A step of a word that was expanded. -/
inductive Atom
  /-- There is a field, even if it is empty. -/
  | mark
  | cut
  /-- A character that may split a field, or have a meaning in a pattern. -/
  | char (c : Char) (splits live : Bool)
deriving DecidableEq, Repr, Inhabited

/-- The atoms of a text that takes the place of a part. -/
def atomsOf (quoted : Bool) (text : String) : List Atom :=
  (if quoted then [.mark] else []) ++ text.toList.map fun c => .char c (!quoted) (!quoted)

/-- The text of atoms. -/
def textOf (atoms : List Atom) : List Char := atoms.filterMap fun
  | .char c _ _ => some c
  | .cut => some ' '
  | .mark => none

/-- The pattern of atoms. -/
def patternOf (atoms : List Atom) : Pattern :=
  Pattern.ofChars (atoms.filterMap fun
    | .char c _ live => some (c, live)
    | _ => none)

/-- The shell after a part of it has run with variables of its own. -/
def State.after (s part : State) : State :=
  { s with
    files := part.files, stdin := part.stdin, printed := part.printed, streams := part.streams, status := part.status
    took := part.took, jobs := part.jobs, killed := part.killed, endless := part.endless
    flow := if part.killed.isSome || part.endless then .over else s.flow }

/-- The shell after a script that prints to a stream of its own, and what it printed. -/
def captured (run : State → State) (s : State) : State × List UInt8 :=
  let n := s.streams
  let part := run { s with out := .stream n, streams := n + 1 }
  ({ s.after part with printed := part.printed.filter (·.stream ≠ n) }, part.printedTo n)

/-- The shortest or longest end, or beginning, of a text that a pattern stands for is cut off. -/
def cutOff (atEnd longest : Bool) (p : Pattern) (cs : List Char) : List Char :=
  let sizes := (List.range (cs.length + 1)).filter fun n =>
    p.fits (if atEnd then cs.drop (cs.length - n) else cs.take n)
  match if longest then sizes.getLast? else sizes.head? with
  | some n => if atEnd then cs.take (cs.length - n) else cs.drop n
  | none => cs

/-- Expands one part; `run` runs scripts, and `n` bounds how deep words stand in words. -/
def expandPart (run : State → List Char → State) : Nat → State → Part → State × List Atom
  | 0, s, _ => (s, [])
  | n + 1, s, part =>
    let all (s : State) (w : Word) : State × List Atom :=
      w.foldl (fun (s, atoms) part =>
        let (s, more) := expandPart run n s part
        (s, atoms ++ more)) (s, [])
    match part with
    | .text cs quoted => (s, (if quoted then [.mark] else []) ++ cs.map fun c => .char c false (!quoted))
    | .extent name => (s, atomsOf false (toString (Text.byteLength ((s.parameter? name).getD ""))))
    | .output script quoted =>
      let (s, bytes) := captured (run · script) s
      let text := (Text.decodeLossy (bytes.filter (· ≠ 0))).toList
      (s, atomsOf quoted (String.ofList (text.reverse.dropWhile (· = '\n')).reverse))
    | .sum cs =>
      let (s, atoms) := all s (quotedWord cs)
      match Sum.value s.vars (textOf atoms) with
      | .ok (value, vars) => ({ s with vars }, atomsOf false (toString value))
      | .error why =>
        let text := String.ofList (textOf atoms)
        ((s.blame ("arithmetic expression: " ++ why ++ ": \"" ++ text ++ "\"")).exit 2, [])
    | .parameter name change quoted =>
      if name = "@" ∧ quoted ∧ change = [] then
        (s, List.intercalate [Atom.cut] ((s.operands.drop 1).map (atomsOf true)))
      else
        let value := s.parameter? name
        let colon := change.head? = some ':'
        let change := if colon then change.drop 1 else change
        let isSet := value.isSome && !(colon && value = some "")
        let shown := atomsOf quoted (value.getD "")
        let word (cs : List Char) : Word := if quoted then quotedWord cs else wordOf cs
        let cut (atEnd longest : Bool) (cs : List Char) : State × List Atom :=
          let (s, atoms) := all s (wordOf cs)
          let text := cutOff atEnd longest (patternOf atoms) (value.getD "").toList
          (s, atomsOf quoted (String.ofList text))
        match change with
        | [] =>
          if name = "" then ((s.blame "Bad substitution").exit 2, [])
          else if s.wary && value.isNone && name ≠ "@" && name ≠ "*" then
            ((s.blame (name ++ ": parameter not set")).exit 2, [])
          else (s, shown)
        | '-' :: cs => if isSet then (s, shown) else all s (word cs)
        | '+' :: cs => if isSet then all s (word cs) else (s, atomsOf quoted "")
        | '=' :: cs =>
          if isSet then (s, shown)
          else
            let (s, atoms) := all s (word cs)
            (s.set name (String.ofList (textOf atoms)), atomsOf quoted (String.ofList (textOf atoms)))
        | '?' :: cs =>
          if isSet then (s, shown)
          else
            let (s, atoms) := all s (word cs)
            let usual := "parameter not set" ++ if colon then " or null" else ""
            let said := if cs = [] then usual else String.ofList (textOf atoms)
            ((s.blame (name ++ ": " ++ said)).exit 2, [])
        | '%' :: '%' :: cs => cut true true cs
        | '%' :: cs => cut true false cs
        | '#' :: '#' :: cs => cut false true cs
        | '#' :: cs => cut false false cs
        | _ => ((s.blame "Bad substitution").exit 2, [])

/-- How deep words may stand in words. -/
def depth : Nat := 64

/-- Expands a word. -/
def atoms (run : State → List Char → State) (s : State) (w : Word) : State × List Atom :=
  w.foldl (fun (s, atoms) part =>
    let (s, more) := expandPart run depth s part
    (s, atoms ++ more)) (s, [])

/-- Splits atoms into fields at some characters. -/
def fields (separators : List Char) (field : Option (List (Char × Bool))) : List Atom → List (List (Char × Bool))
  | [] => (field.map List.reverse).toList
  | .mark :: rest => fields separators (some (field.getD [])) rest
  | .cut :: rest => (field.map List.reverse).toList ++ fields separators none rest
  | .char c splits live :: rest =>
    if splits && separators.contains c then
      let done := if Text.isBlankChar c then (field.map List.reverse).toList else [(field.getD []).reverse]
      done ++ fields separators none rest
    else fields separators (some ((c, live) :: field.getD [])) rest

/-- The fields that a word stands for. -/
def expand (run : State → List Char → State) (s : State) (w : Word) : State × List String :=
  let (s, all) := atoms run s w
  let separators := ((s.parameter? "IFS").getD "").toList
  (s, (fields separators none all).flatMap (Pattern.names s.files s.here))

/-- The fields that words stand for. -/
def expandAll (run : State → List Char → State) (s : State) (words : List Word) : State × List String :=
  words.foldl (fun (s, done) w =>
    let (s, more) := expand run s w
    (s, done ++ more)) (s, [])

/-- The text of a word that is not split. -/
def expandText (run : State → List Char → State) (s : State) (w : Word) : State × String :=
  let (s, all) := atoms run s w
  (s, String.ofList (textOf all))

end Rollout.Shell
