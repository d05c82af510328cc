import Rollout.Machine.Field

/-!
# Rollout.Machine.Shell — a small shell

A shell runs the lines of a script one after another.  Commands that are not waited for run side by side with those after
them; a shell has ended when all have ended that can still print where it does.

* `Shell.run`: the run of a command.
* `Shell.start`: a program from its start to its end.
-/

namespace Rollout.Shell

/-! ## Connections -/

/-- Where a path leads to for what is printed; an existing file loses its text unless it goes on. -/
def sinkAt (s : State) (goesOn : Bool) (path : String) : State × Option Sink :=
  let refuse (why : String) : State × Option Sink := ((s.blame ("cannot create " ++ path ++ ": " ++ why)), none)
  if path = "/dev/null" then (s, some .nowhere)
  else if path = "/dev/stdout" then (s, some s.out)
  else if path = "/dev/stderr" then (s, some s.err)
  else match s.files.locate s.here path with
    | .error _ => refuse "Directory nonexistent"
    | .ok place => match s.files.node? place with
      | some .directory => refuse "Is a directory"
      | some (.file text) =>
        ({ s with files := s.files.put place (.file (if goesOn then text else "")) }, some (.file place))
      | none =>
        if s.files.isDirectory (FileTree.above place) then
          ({ s with files := s.files.put place (.file "") }, some (.file place))
        else refuse "Directory nonexistent"

/-- Connects a stream; none if that is refused. -/
def connect (run : State → List Char → State) (s : State) (c : Send) : State × Bool :=
  let (s, target) := expandText run s c.target
  let give (s : State) (sink : Sink) : State × Bool :=
    (if c.stream = 1 then { s with out := sink } else if c.stream = 2 then { s with err := sink } else s, true)
  match c.mode with
  | "<<" => ({ s with stdin := Text.encode target }, true)
  | "<" => match bytesAt s 0 target with
    | .ok bytes => ({ s with stdin := bytes }, true)
    | .error _ => (s.blame ("cannot open " ++ target ++ ": No such file"), false)
  | ">&" =>
    if target = "1" then give s s.out
    else if target = "2" then give s s.err
    else if target = "-" then give s .nowhere
    else (s.blame (target ++ ": Bad file descriptor"), false)
  | "<&" => (if target = "-" then { s with stdin := [] } else s, true)
  | mode => match sinkAt s (mode = ">>") target with
    | (s, some sink) => give s sink
    | (s, none) => (s, false)

/-- Connects streams in order, up to the first that is refused. -/
def connectAll (run : State → List Char → State) (s : State) : List Send → State × Bool
  | [] => (s, true)
  | c :: rest =>
    match connect run s c with
    | (s, true) => connectAll run s rest
    | (s, false) => ({ s with status := 2 }, false)

/-- The shell with the connections that it had before; input is used up only where it is the same. -/
def State.reconnect (before after : State) (sends : List Send) : State :=
  let own := sends.any fun c => c.stream = 0
  { after with out := before.out, err := before.err, stdin := if own then before.stdin else after.stdin }

/-! ## Signals -/

/-- The names of signals. -/
def signals : List (String × Nat) :=
  [("HUP", 1), ("INT", 2), ("QUIT", 3), ("ILL", 4), ("TRAP", 5), ("ABRT", 6), ("BUS", 7), ("FPE", 8), ("KILL", 9),
    ("USR1", 10), ("SEGV", 11), ("USR2", 12), ("PIPE", 13), ("ALRM", 14), ("TERM", 15), ("CHLD", 17), ("CONT", 18),
    ("STOP", 19), ("TSTP", 20), ("TTIN", 21), ("TTOU", 22), ("URG", 23), ("WINCH", 28)]

/-- The signal of a name or number. -/
def signal? (text : String) : Option Nat :=
  match text.toNat? with
  | some n => some n
  | none =>
    let name := if text.startsWith "SIG" then (text.drop 3).toString else text
    (signals.find? (·.1 = name)).map Prod.snd

/-- The name under which a signal is waited for. -/
def trapName (text : String) : String :=
  if text = "0" ∨ text = "EXIT" then "EXIT" else toString ((signal? text).getD 0)

/-- What a shell says of a program that a signal ended. -/
def obituary (n : Nat) : Option String :=
  ([(1, "Hangup"), (3, "Quit"), (4, "Illegal instruction"), (5, "Trace/breakpoint trap"), (6, "Aborted"), (7, "Bus error"),
    (8, "Floating point exception"), (9, "Killed"), (10, "User defined signal 1"), (11, "Segmentation fault"),
    (12, "User defined signal 2"), (14, "Alarm clock"), (15, "Terminated")].find? (·.1 = n)).map Prod.snd

/-! ## Commands of the shell -/

/-- The variable that a word sets. -/
def assignment? (word : Word) : Option (String × Word) :=
  let plain := word.takeWhile fun
    | .text [c] false => isNameChar c
    | _ => false
  let name := plain.flatMap fun
    | .text cs _ => cs
    | _ => []
  match name, word.drop plain.length with
  | c :: _, .text ['='] false :: value => if c.isDigit then none else some (String.ofList name, value)
  | _, _ => none

/-- Name and value of a setting. -/
def setting (a : String) : String × Option String :=
  match a.toList.dropWhile (· ≠ '=') with
  | [] => (a, none)
  | _ :: value => (String.ofList (a.toList.takeWhile (· ≠ '=')), some (String.ofList value))

/-- Sets variables. -/
def setAll (s : State) (args : List String) : State :=
  args.foldl (fun s a => match setting a with
    | (name, some value) => s.set name value
    | _ => s) s

/-- A failure that is not asked about ends a strict shell. -/
def State.judge (s : State) : State :=
  if s.strict && !s.asked && s.status ≠ 0 && s.flow = .on then { s with flow := .over } else s

/-- Enters a directory. -/
def enter (s : State) (d : String) : State :=
  match (s.files.locate s.here d).toOption.filter s.files.isDirectory with
  | some here => (({ s with here, status := 0 }).set "OLDPWD" s.place).set "PWD" ({ s with here } : State).place
  | none => { s.blame ("cd: can't cd to " ++ d) with status := 2 }

/-- Waits for jobs. -/
def await (s : State) (numbers : List String) : State :=
  let (those, others) := s.jobs.partition fun j => numbers = [] || numbers.contains (toString j.number)
  let status := if numbers = [] then 0 else match those with
    | j :: _ => j.status
    | [] => 127
  { s with took := those.foldl (fun t j => max t j.finish) s.took, jobs := others, status }

/-- Options of a shell and what follows them. -/
def shellOptions : List String → String × List String
  | [] => ("", [])
  | a :: rest =>
    if a.startsWith "-" ∧ a ≠ "-" ∧ a ≠ "--" then
      let (more, rest) := shellOptions rest
      ((a.drop 1).toString ++ more, rest)
    else ("", if a = "--" then rest else a :: rest)

/-- Commands that only change the state of the shell; none if there is no such command. -/
def builtin? (s : State) (name : String) (args : List String) : Option State :=
  let done := { s with status := 0 }
  match name with
  | ":" => some done
  | "echo" =>
    let (quiet, words) := if args.head? = some "-n" then (true, args.drop 1) else (false, args)
    let (bytes, ended) := unescaped (String.intercalate " " words)
    some (done.print (bytes ++ if quiet || ended then [] else [10]))
  | "printf" => match if args.head? = some "--" then args.drop 1 else args with
    | f :: args =>
      let (bytes, bad) := format f (args.length + 1) args
      let s := done.print bytes
      some (bad.foldl (fun s (a, begun) =>
        let why := if begun then "not completely converted" else "expected numeric value"
        { s.blame ("printf: " ++ a ++ ": " ++ why) with status := 1 }) s)
    | [] => some ((s.blame "printf: usage: printf format [arg ...]").exit 2)
  | "pwd" => some (done.print (lineBytes [s.place]))
  | "cd" => some (match args with
      | ["-"] =>
        let s := enter s (s.vars.get? "OLDPWD" |>.getD s.here)
        s.print (lineBytes [s.place])
      | d :: _ => enter s d
      | [] => match s.vars.get? "HOME" with
        | some d => enter s d
        | none => done)
  | "read" =>
    let names := args.filter fun a => !a.startsWith "-"
    some (readLine s (if names = [] then ["REPLY"] else names))
  | "export" => some (args.foldl (fun s a =>
      let s := { s with exported := s.exported.insert (setting a).1 () }
      setAll s [a]) done)
  | "readonly" => some (setAll done args)
  | "local" => some (setAll { done with
      saved := args.map (fun a => ((setting a).1, s.vars.get? (setting a).1)) ++ s.saved } args)
  | "unset" => some (args.foldl (fun s a => { s with
      vars := s.vars.erase a, functions := s.functions.erase a }) done)
  | "shift" =>
    let n := (args.head?.bind String.toNat?).getD 1
    if s.operands.length - 1 < n then some ((s.blame "shift: can't shift that many").exit 2)
    else some { done with operands := s.operands.take 1 ++ s.operands.drop (1 + n) }
  | "set" => some (match args with
      | "--" :: rest => { done with operands := s.operands.take 1 ++ rest }
      | flag :: rest =>
        let option (letter : Char) (was : Bool) : Bool :=
          if flag.toList.contains letter then (if flag.startsWith "-" then true else if flag.startsWith "+" then false else was)
          else was
        let rest := if flag.startsWith "-" ∨ flag.startsWith "+" then rest.drop (if rest.head? = some "--" then 1 else 0)
          else flag :: rest
        { done with
          strict := option 'e' s.strict, wary := option 'u' s.wary, traced := option 'x' s.traced
          operands := if rest = [] then s.operands else s.operands.take 1 ++ rest }
      | [] => done)
  | "break" => some { done with flow := .leaving ((args.head?.bind String.toNat?).getD 1) }
  | "continue" => some { done with flow := .again ((args.head?.bind String.toNat?).getD 1) }
  | "return" => some { s with status := (args.head?.bind String.toNat?).getD s.status, flow := .back }
  | "exit" => some (match args with
      | [] => s.exit s.status
      | n :: _ => match n.toNat? with
        | some n => s.exit (n % 256)
        | none => (s.blame ("exit: Illegal number: " ++ n)).exit 2)
  | "wait" => some (await s args)
  | "trap" => some (match args with
      | action :: names => { done with
          traps := names.foldl (fun t name => if action = "-" then t.erase (trapName name)
            else t.insert (trapName name) action) s.traps }
      | [] => done)
  | "alias" => some done
  | "umask" => some (if args = [] then done.print (lineBytes ["0022"]) else done)
  | _ => none

/-- The commands of the shell. -/
def builtins : List String :=
  [":", "echo", "printf", "pwd", "cd", "read", "export", "readonly", "local", "unset", "shift", "set", "break",
    "continue", "return", "exit", "wait", "trap", "umask", "test", "[", "true", "false", "eval", "exec", "command", "kill",
    "."]

/-- Prints operands as the program of that name does, which reads escapes only if it is told to. -/
def echoed (s : State) (args : List String) : State :=
  let isOption (a : String) : Bool :=
    a.startsWith "-" && a ≠ "-" && (a.toList.drop 1).all fun c => c = 'n' || c = 'e' || c = 'E'
  let options := (args.takeWhile isOption).flatMap fun a => a.toList.drop 1
  let words := String.intercalate " " (args.dropWhile isOption)
  let escapes := (options.filter fun c => c ≠ 'n').getLast? = some 'e'
  let (bytes, ended) := if escapes then unescaped words else (Text.encode words, false)
  { s with status := 0 }.print (bytes ++ if options.contains 'n' || ended then [] else [10])

/-- Prints by a format as the program of that name does. -/
def formatted (s : State) (args : List String) : State :=
  match args with
  | f :: args =>
    let (bytes, bad) := format f (args.length + 1) args
    bad.foldl (fun s (a, begun) =>
      let why := if begun then "value not completely converted" else "expected a numeric value"
      { s.complain ("printf: '" ++ a ++ "': " ++ why ++ "\n") with status := 1 }) ({ s with status := 0 }.print bytes)
  | [] =>
    let help := "Try 'printf --help' for more information.\n"
    { s.complain ("printf: missing operand\n" ++ help) with status := 1 }

/-! ## Running -/

/-- Words that stand for themselves. -/
def quotedWords (words : List String) : List Word := words.map fun w => [.text w.toList true]

/-- The loop that a body belongs to goes on, or it ends too. -/
def State.settle (s : State) : State :=
  match s.flow with
  | .again 0 => { s with flow := .on }
  | .again 1 => { s with flow := .on }
  | _ => s

/-- The shell after a loop. -/
def State.leave (s : State) : State :=
  match s.flow with
  | .leaving n => { s with flow := if n ≤ 1 then .on else .leaving (n - 1) }
  | .again n => { s with flow := if n ≤ 1 then .on else .again (n - 1) }
  | _ => s

/-- The shell after a program has run beside it. -/
def State.beside (s part : State) : State :=
  let s := { s.after part with killed := none, endless := part.endless, flow := if part.endless then .over else s.flow }
  match part.killed with
  | none => s
  | some n =>
    let s := { s with status := 128 + n }
    match obituary n with
    | some text => s.complain (text ++ "\n")
    | none => s

/-- Runs a command; `fuel` bounds the number of steps, and who needs more of them never ends. -/
def run : Nat → State → Script → State
  | 0, s, _ => { s with took := Span.bound, flow := .over }
  | fuel + 1, s, script =>
    let text (s : State) (cs : List Char) : State := run fuel s (.unread (lexemes cs))
    let ask (s : State) (script : Script) : State := { run fuel { s with asked := true } script with asked := s.asked }
    /- Ends a shell: what waits for that is done. -/
    let finish (s : State) : State :=
      match s.traps.get? "EXIT", s.killed with
      | some action, none =>
        let after := text { s with flow := .on, traps := s.traps.erase "EXIT" } action.toList
        if after.flow = .over then after else { after with status := s.status }
      | _, _ => s
    let nested (s : State) (own : String) (args : List String) : State :=
      let (options, rest) := shellOptions args
      let begin (operands : List String) : State :=
        { s with
          vars := s.env, functions := Table.empty, traps := Table.empty, jobs := s.jobs
          operands, line := 1, strict := options.toList.contains 'e', wary := options.toList.contains 'u'
          traced := options.toList.contains 'x', asked := false, status := 0, flow := .on }
      let part : State :=
        if options.toList.contains 'c' then match rest with
          | script :: operands => finish (text (begin (if operands = [] then [own] else operands)) script.toList)
          | [] => (({ s with operands := [own], line := 0 }).blame "-c requires an argument").exit 2
        else match rest with
          | name :: operands => match s.files.read s.here name with
            | .ok script => finish (text (begin (name :: operands)) script.toList)
            | .error _ => (({ s with operands := [own], line := 0 }).blame ("cannot open " ++ name ++ ": No such file")).exit 2
          | [] => finish (text (begin [own]) (Text.decodeLossy s.stdin).toList)
      part
    let signalled (s : State) (n : Nat) : State :=
      match s.traps.get? (toString n) with
      | some "" => { s with status := 0 }
      | some action =>
        let after := text s action.toList
        if after.flow = .on then { after with status := 0 } else after
      | none =>
        if n = 0 ∨ n = 17 ∨ n = 18 ∨ n = 23 ∨ n = 28 then { s with status := 0 }
        else if n = 19 ∨ n = 20 then { s with took := Span.bound, flow := .over }
        else { s with killed := some n, flow := .over }
    let kill (s : State) (args : List String) : State :=
      let (n, targets) := match args with
        | "-s" :: name :: rest => (signal? name, rest)
        | a :: rest => if a.startsWith "-" then (signal? (a.drop 1).toString, rest) else (some 15, args)
        | [] => (some 15, [])
      match n, targets with
      | none, _ => { s.blame ("kill: Illegal option " ++ ((args.headD "").take 2).toString) with status := 2 }
      | some _, [] =>
        let usage := "kill: Usage: kill [-s sigspec | -signum | -sigspec] [pid | job]... or\nkill -l [exitstatus]"
        { s.blame usage with status := 2 }
      | some n, _ => targets.foldl (fun s target =>
        if target = toString State.number ∨ target = "0" then signalled s n
        else if s.jobs.any fun j => toString j.number = target then
          { s with status := 0, jobs := s.jobs.filter fun j => toString j.number ≠ target || n = 0 }
        else if target.toInt?.isNone then { s.blame ("kill: Illegal number: " ++ target) with status := 2 }
        else { s.blame "kill: No such process" with status := 1 }) s
    /- Starts a program that is no command of the shell. -/
    let external (s : State) (name : String) (args : List String) : Option State :=
      let tool := (Path.fileName? name).getD name
      if !programs.contains name then none
      else match tool with
      | "sh" => some (s.beside (nested s name args))
      | "dash" => some (s.beside (nested s name args))
      | "echo" => some (echoed s args)
      | "printf" => some (formatted s args)
      | "pwd" => builtin? s "pwd" args
      | "kill" => some (kill s args)
      | _ => program? s tool args
    let missing (s : State) (name : String) : State :=
      if name.toList.contains '/' ∧ s.files.contains s.here name then
        { s.blame (name ++ ": Permission denied") with status := 126 }
      else { s.blame (name ++ ": not found") with status := 127 }
    let timed (s : State) (limit : String) (name : String) (args : List String) : State :=
      let part := (external s name args).getD (missing s name)
      if s.took + seconds limit < part.took ∨ part.endless then
        { part with took := s.took + seconds limit, endless := false, flow := s.flow, status := 124 }
      else part
    let rec settings (s : State) : List String → State × List String
      | a :: rest => match setting a with
        | (name, some value) => settings { s.set name value with exported := s.exported.insert name () } rest
        | _ => (s, a :: rest)
      | [] => (s, [])
    let inEnv (s : State) (args : List String) : State :=
      let (base, args) := if args.head? = some "-i" ∨ args.head? = some "-" then
          ({ s with vars := Table.empty, exported := Table.empty }, args.drop 1) else (s, args)
      match settings base args with
      | (inner, []) => s.after (inner.print (lineBytes (inner.env.entries.map fun (k, v) => k ++ "=" ++ v)))
      | (inner, "env" :: args) => s.after (run fuel inner (.simple s.line (quotedWords ("env" :: args)) []))
      | (inner, name :: args) => match external inner name args with
        | some part => s.after part
        | none => { s.complain ("env: '" ++ name ++ "': No such file or directory\n") with status := 127 }
    let started (s : State) (name : String) (args : List String) : State :=
      match (Path.fileName? name).getD name, args with
      | "env", args => inEnv s args
      | "timeout", limit :: tool :: args => timed s limit tool args
      | _, _ => (external s name args).getD (missing s name)
    /- Runs a command by its name. -/
    let call (s : State) (name : String) (args : List String) : State :=
      match s.functions.get? name, name, args with
      | some body, _, _ =>
        let after := run fuel { s with operands := s.name :: args, saved := [] } body
        { after.restore after.saved with
          operands := s.operands, saved := s.saved, flow := if after.flow = .back then .on else after.flow }
      | none, "eval", _ => text s (String.intercalate " " args).toList
      | none, ".", path :: _ => match s.files.read s.here path with
        | .ok script =>
          let after := text s script.toList
          { after with flow := if after.flow = .back then .on else after.flow }
        | .error _ => (s.blame (".: cannot open " ++ path ++ ": No such file")).exit 2
      | none, "kill", _ => kill s args
      | none, "command", "-v" :: name :: _ =>
        if builtins.contains name ∨ s.functions.contains name then { s with status := 0 }.print (lineBytes [name])
        else if programs.contains name then { s with status := 0 }.print (lineBytes ["/usr/bin/" ++ name])
        else { s with status := 127 }
      | none, "type", name :: _ =>
        if builtins.contains name then { s with status := 0 }.print (lineBytes [name ++ " is a shell builtin"])
        else if s.functions.contains name then { s with status := 0 }.print (lineBytes [name ++ " is a shell function"])
        else if programs.contains name then { s with status := 0 }.print (lineBytes [name ++ " is /usr/bin/" ++ name])
        else { s with status := 127 }.print (lineBytes [name ++ ": not found"])
      | none, "command", name :: args => (builtin? s name args).getD (started s name args)
      | none, _, _ => (builtin? s name args).getD (started s name args)
    if s.flow ≠ .on then s
    else match script with
    | .skip => { s with status := 0 }
    | .unread ls =>
      let ls := ls.dropWhile fun l => l.token = .mark "\n"
      if ls = [] then s
      else match Script.line ls with
        | .error t => ({ s with line := t.line }.blame ("Syntax error: " ++ t.message)).exit 2
        | .ok (first, rest) => run fuel (run fuel s first) (.unread rest)
    | .row left right => run fuel (run fuel s left) right
    | .both left right =>
      let s := ask s left
      if s.flow = .on ∧ s.status = 0 then run fuel s right else s
    | .either left right =>
      let s := ask s left
      if s.flow = .on ∧ s.status ≠ 0 then run fuel s right else s
    | .negated body =>
      let s := ask s body
      if s.flow = .on then { s with status := if s.status = 0 then 1 else 0 } else s
    | .aside body =>
      let part := run fuel { s with stdin := [] } body
      let connected := (connectAll text s body.sends).1
      let reaches (sink : Sink) : Bool := sink = .stream 0 || sink = .stream 1
      let job : Job := ⟨100 + s.printed.length + s.jobs.length, if part.endless then Span.bound else part.took, part.status,
        reaches connected.out || reaches connected.err⟩
      { s with
        files := part.files, printed := part.printed, streams := part.streams, jobs := job :: part.jobs, status := 0
        killed := part.killed, flow := if part.killed.isSome then .over else .on }
    | .pipe left right =>
      let (between, bytes) := captured (fun s => run fuel s left) s
      let begun := if between.endless then s.took else between.took
      let between := { between with
        took := s.took, endless := false, stdin := bytes, flow := if between.killed.isSome then .over else .on }
      let part := run fuel between right
      { s.after part with took := max begun part.took, stdin := s.stdin }.judge
    | .branch test yes no =>
      let s := ask s test
      if s.flow ≠ .on then s else run fuel s (if s.status = 0 then yes else no)
    | .loop turned begun test body =>
      let before := s.status
      let s := ask s test
      if s.flow ≠ .on then s.leave
      else if (s.status = 0) ≠ (turned = true) then
        let s := (run fuel s body).settle
        if s.flow = .on then run fuel s (.loop turned true test body) else s.leave
      else { s with status := if begun then before else 0 }
    | .each name words body =>
      let (s, values) := expandAll text s words
      (values.foldl (fun s v => if s.flow = .on then (run fuel (s.set name v) body).settle else s)
        { s with status := if s.flow = .on then 0 else s.status }).leave
    | .select subject arms =>
      let (s, value) := expandText text s subject
      let fits (s : State) (w : Word) : Bool := (patternOf (atoms text s w).2).fits value.toList
      match arms.find? fun (words, _) => words.any (fits s) with
      | some (_, body) => run fuel { s with status := 0 } body
      | none => { s with status := 0 }
    | .inner body =>
      let part := run fuel { s with traps := Table.empty } body
      (s.after (finish part)).judge
    | .define name body => { s with functions := s.functions.insert name body, status := 0 }
    | .sent line body sends =>
      match connectAll text { s with line } sends with
      | (connected, true) => s.reconnect (run fuel connected body) sends
      | (refused, false) => (s.reconnect refused sends).judge
    | .simple line words sends =>
      let sets := words.takeWhile fun w => (assignment? w).isSome
      let (s, args) := expandAll text { s with line } (words.drop sets.length)
      let (s, values) := (sets.filterMap assignment?).foldl (fun (s, done) (name, w) =>
        let (s, value) := expandText text s w
        (if args = [] then s.set name value else s, done ++ [(name, value)])) (s, [])
      if s.flow ≠ .on then s
      else match connectAll text s sends with
      | (refused, false) => (s.reconnect refused sends).judge
      | (connected, true) => match args with
        | [] => (s.reconnect { connected with status := if words.any hasOutput then s.status else 0 } sends).judge
        | "exec" :: [] => { connected with status := 0 }
        | "exec" :: name :: args =>
          let tool := (Path.fileName? name).getD name
          let isShell := programs.contains name && (tool = "sh" || tool = "dash")
          let after := if isShell then s.after (nested connected name args) else started connected name args
          { s.reconnect after sends with flow := .over }
        | name :: args =>
          let told := values.foldl (fun (s : State) (k, v) =>
            { s.set k v with exported := s.exported.insert k () }) connected
          let shown := (values.map fun (k, v) => k ++ "=" ++ v) ++ name :: args
          let told := if s.traced then told.complain ("+ " ++ String.intercalate " " shown ++ "\n") else told
          let after := call told name args
          let after := if values = [] then after
            else { after.restore (values.map fun (k, _) => (k, s.vars.get? k)) with exported := s.exported }
          (s.reconnect after sends).judge
where
  hasOutput (w : Word) : Bool := w.any fun
    | .output .. => true
    | _ => false

/-- How many steps a script may take before it counts as one without end. -/
def patience : Nat := 200000

/-- A program from its start to its end. -/
def start (s : State) (program : String) (args : List String) : State :=
  run patience s (.simple 1 (quotedWords ("exec" :: program :: args)) [])

end Rollout.Shell
