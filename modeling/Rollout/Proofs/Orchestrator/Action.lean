import Rollout.Orchestrator.CommandLine
import Rollout.Proofs.Provisioner.Init

/-!
# Rollout.Proofs.Orchestrator.Action — which actions have succeeded

An action is run by one command, and what the command printed decides, not its exit code: the document of the unit has
to tell that the action was completed.  A completed action has failed all the same if it gives back a code above one; but
of all numbers only an integer of 64 bits with a sign is taken for a code.

* `CommandLine.Reports`: what a command printed of a unit.
* `CommandLine.FailureCode`: a code that tells of a failure.
* `CommandLine.Judges`, `CommandLine.action_judges`: what becomes of an action, whatever the command comes to.
* `CommandLine.overlooked_iff`: the codes above one that do not count.
* `CommandLine.code_overlooked`: an action is taken to have succeeded that gives back two and a half.
-/

namespace Rollout.CommandLine

variable {σ : Type} [Host σ]

/-- The command that runs an action. -/
def actionCommand (t : CommandLine) (unit name : String) (params : Table String) : Command where
  program := t.binary
  args := ["run", "--model", t.model, "--format", "json", unit, name] ++
    params.entries.map fun (key, value) => key ++ "=" ++ value
  directory := none
  env := Table.empty
  timeout := timeout

/-- What the documents say that a command printed, if they can be read. -/
def documents (output : CommandOutput) : Except DecodeFault (Table ActionResult) :=
  (Decoder.table actionDecoder).ofText (Text.trim output.stdout)

/-- A command printed a document of a unit. -/
def Reports (output : CommandOutput) (unit : String) (doc : ActionResult) : Prop :=
  ∃ docs, documents output = .ok docs ∧ docs.get? unit = some doc

/-- The results hold a code that tells of a failure: an integer of 64 bits with a sign, above one. -/
def FailureCode (results : Table Json) (code : Int) : Prop :=
  results.get? "return-code" = some (.num (.int code)) ∧ Number.isInt64 code = true ∧ 1 < code

/-- What becomes of an action, given what its command came to. -/
structure Judges (unit name : String) (reply : Except CommandFault CommandOutput)
    (result : Except Fault (Table Json)) (line : String) : Prop where
  /-- It succeeds if it is reported as completed without a code that tells of a failure, whatever the exit code. -/
  succeeds : ∀ results, result = .ok results ↔ ∃ output doc, reply = .ok output ∧ Reports output unit doc ∧
    doc.status = "completed" ∧ doc.results = results ∧ ∀ code, ¬ FailureCode results code
  not_launched : ∀ program message, reply = .error (.launch program message) →
    result = .error (.orchestrator (.launch message))
  timed_out : ∀ limit, reply = .error (.timedOut limit) →
    result = .error (.orchestrator (.commandFailed line (CommandFault.timedOut limit).message))
  /-- What cannot be read only counts as a failure of the action if the command failed. -/
  unreadable : ∀ output e, reply = .ok output → documents output = .error e → result = .error (.orchestrator
    (if output.success then .invalidResponse e.message else .actionFailed unit name (Text.trim output.stderr)))
  missing : ∀ output docs, reply = .ok output → documents output = .ok docs → docs.get? unit = none →
    result = .error (.orchestrator (.invalidResponse ("no result for " ++ unit ++ " in action output")))
  /-- If it was not completed, its message is told, or else its status. -/
  incomplete : ∀ output doc, reply = .ok output → Reports output unit doc → doc.status ≠ "completed" →
    result = .error (.orchestrator (.actionFailed unit name (doc.message.getD ("action status " ++ doc.status))))
  failed : ∀ output doc code, reply = .ok output → Reports output unit doc → doc.status = "completed" →
    FailureCode doc.results code →
    result = .error (.orchestrator (.actionFailed unit name ("return-code " ++ toString code)))

theorem returnCode_of_failureCode {results : Table Json} {code : Int} (h : FailureCode results code) :
    returnCode results = code := by
  obtain ⟨hfound, hwide, -⟩ := h
  simp [returnCode, hfound, hwide]

/-- A number counts as a code above one exactly if it tells of a failure. -/
theorem one_lt_returnCode_iff {results : Table Json} :
    1 < returnCode results ↔ ∃ code, FailureCode results code := by
  refine ⟨fun h => ?_, fun ⟨code, hcode⟩ => returnCode_of_failureCode hcode ▸ hcode.2.2⟩
  unfold returnCode at h
  split at h
  · rename_i code hfound
    split at h
    · exact ⟨code, hfound, ‹_›, h⟩
    · exact absurd h (by decide)
  · exact absurd h (by decide)

theorem check_completed {doc : ActionResult} (hcompleted : doc.status = "completed") :
    doc.check = if 1 < returnCode doc.results then .error ("return-code " ++ toString (returnCode doc.results))
      else .ok doc.results := if_neg (not_not.mpr hcompleted)

theorem check_eq_ok_iff {doc : ActionResult} {results : Table Json} : doc.check = .ok results ↔
    doc.status = "completed" ∧ doc.results = results ∧ ∀ code, ¬ FailureCode results code := by
  by_cases hcompleted : doc.status = "completed"
  · rw [check_completed hcompleted]
    by_cases hcode : 1 < returnCode doc.results
    · obtain ⟨code, hfails⟩ := one_lt_returnCode_iff.mp hcode
      rw [if_pos hcode]
      refine ⟨(nomatch ·), ?_⟩
      rintro ⟨-, rfl, hnone⟩
      exact absurd hfails (hnone code)
    · rw [if_neg hcode]
      refine ⟨fun h => ?_, fun ⟨_, h, _⟩ => h ▸ rfl⟩
      obtain rfl := Except.ok.inj h
      exact ⟨hcompleted, rfl, fun code hfails => hcode (one_lt_returnCode_iff.mpr ⟨code, hfails⟩)⟩
  · have hcheck : doc.check = .error (doc.message.getD ("action status " ++ doc.status)) := if_pos hcompleted
    rw [hcheck]
    exact ⟨(nomatch ·), fun h => absurd h.1 hcompleted⟩

/-- What is read off what a command printed. -/
theorem actionResult_eq (unit name : String) (output : CommandOutput) : actionResult unit name output =
    match documents output with
    | .error e => .error (.orchestrator
        (if output.success then .invalidResponse e.message else .actionFailed unit name (Text.trim output.stderr)))
    | .ok docs => match docs.get? unit with
      | none => .error (.orchestrator (.invalidResponse ("no result for " ++ unit ++ " in action output")))
      | some doc => doc.check.mapError fun message => .orchestrator (.actionFailed unit name message) := by
  unfold actionResult read documents
  cases (Decoder.table actionDecoder).ofText (Text.trim output.stdout) with
  | ok docs => rfl
  | error e =>
    dsimp only
    cases output.success with
    | true => rfl
    | false => rfl

theorem actionResult_of_reports {unit name : String} {output : CommandOutput} {doc : ActionResult}
    (h : Reports output unit doc) : actionResult unit name output =
      doc.check.mapError fun message => .orchestrator (.actionFailed unit name message) := by
  obtain ⟨docs, hdocs, hdoc⟩ := h
  rw [actionResult_eq, hdocs]
  dsimp only
  rw [hdoc]

theorem actionResult_eq_ok_iff (unit name : String) (output : CommandOutput) (results : Table Json) :
    actionResult unit name output = .ok results ↔ ∃ doc, Reports output unit doc ∧
      doc.status = "completed" ∧ doc.results = results ∧ ∀ code, ¬ FailureCode results code := by
  refine ⟨fun h => ?_, fun ⟨doc, hreports, hdoc⟩ => ?_⟩
  · have heq := actionResult_eq unit name output
    rw [h] at heq
    split at heq
    · exact nomatch heq
    · rename_i docs hdocs
      split at heq
      · exact nomatch heq
      · rename_i doc hdoc
        refine ⟨doc, ⟨docs, hdocs, hdoc⟩, check_eq_ok_iff.mp ?_⟩
        cases hcheck : doc.check with
        | ok results' =>
          rw [hcheck] at heq
          exact congrArg Except.ok (Except.ok.inj heq).symm
        | error message =>
          rw [hcheck] at heq
          exact nomatch heq
  · rw [actionResult_of_reports hreports, check_eq_ok_iff.mpr hdoc]
    rfl

/-- What becomes of an action whose command comes to a reply. -/
def judged (unit name line : String) : Except CommandFault CommandOutput → Except Fault (Table Json)
  | .ok output => actionResult unit name output
  | .error (.launch _ message) => .error (.orchestrator (.launch message))
  | .error (.timedOut limit) => .error (.orchestrator (.commandFailed line (CommandFault.timedOut limit).message))

theorem judged_judges (unit name line : String) (reply : Except CommandFault CommandOutput) :
    Judges unit name reply (judged unit name line reply) line where
  succeeds results := by
    cases reply with
    | ok output =>
      refine (actionResult_eq_ok_iff unit name output results).trans ⟨fun ⟨doc, h⟩ => ⟨output, doc, rfl, h⟩, ?_⟩
      rintro ⟨_, doc, ⟨⟩, h⟩
      exact ⟨doc, h⟩
    | error e => cases e with
      | launch => exact ⟨(nomatch ·), fun ⟨_, _, h, _⟩ => nomatch h⟩
      | timedOut => exact ⟨(nomatch ·), fun ⟨_, _, h, _⟩ => nomatch h⟩
  not_launched := by
    rintro program message rfl
    rfl
  timed_out := by
    rintro limit rfl
    rfl
  unreadable := by
    rintro output e rfl hdocs
    rw [judged, actionResult_eq, hdocs]
  missing := by
    rintro output docs rfl hdocs hnone
    rw [judged, actionResult_eq, hdocs]
    dsimp only
    rw [hnone]
  incomplete := by
    rintro output doc rfl hreports hstatus
    have hcheck : doc.check = .error (doc.message.getD ("action status " ++ doc.status)) := if_pos hstatus
    rw [judged, actionResult_of_reports hreports, hcheck]
    rfl
  failed := by
    rintro output doc code rfl hreports hcompleted hcode
    rw [judged, actionResult_of_reports hreports, check_completed hcompleted, returnCode_of_failureCode hcode,
      if_pos hcode.2.2]
    rfl

/-- An action runs one command, and what this comes to decides. -/
theorem action_eq (t : CommandLine) (unit name : String) (params : Table String) (w : World σ) :
    let c := t.actionCommand unit name params
    t.action unit name params w =
      (judged unit name c.line (Host.run w.here w.files c w.host).1.2, (Act.run c w).2) := by
  intro c
  have haction : (t.action unit name params : Act σ (Table Json)) =
      t.execute c.args >>= fun output => Act.ofExcept (actionResult unit name output) := rfl
  have hrun : Act.run c w = (.ok (Host.run w.here w.files c w.host).1.2, (Act.run c w).2) := rfl
  rw [haction]
  unfold execute
  rw [Act.bind_assoc]
  refine (Act.bind_of_ok hrun _).trans ?_
  cases (Host.run w.here w.files c w.host).1.2 with
  | ok output => rfl
  | error e => cases e with
    | launch => rfl
    | timedOut => rfl

/-- What becomes of an action, whatever its command comes to. -/
theorem action_judges (t : CommandLine) (unit name : String) (params : Table String) (w : World σ) :
    let c := t.actionCommand unit name params
    (t.action unit name params w).2.since w = [.command c w.files] ∧
      Judges unit name (Host.run w.here w.files c w.host).1.2 (t.action unit name params w).1 c.line := by
  intro c
  rw [t.action_eq]
  exact ⟨(Act.leads_run c w).since_eq, judged_judges unit name c.line _⟩

/-! ## A code that is no integer -/

/-- Whether a number is greater than one. -/
def exceedsOne : Number → Bool
  | .int i => 1 < i
  | .float x => (⟨false, Binary64.leastNormal, -52⟩ : Binary64).lt x

/-- Exactly these codes above one are overlooked: fractions, and integers that are too great. -/
theorem overlooked_iff {results : Table Json} {n : Number} (hcode : results.get? "return-code" = some (.num n))
    (hn : exceedsOne n = true) : (∀ code, ¬ FailureCode results code) ↔
      (∃ x, n = .float x) ∨ ∃ i, n = .int i ∧ 0x8000000000000000 ≤ i := by
  cases n with
  | float x =>
    refine ⟨fun _ => .inl ⟨x, rfl⟩, fun _ code h => ?_⟩
    have hsame := hcode.symm.trans h.1
    simp at hsame
  | int i =>
    have hi : 1 < i := by simpa [exceedsOne] using hn
    refine ⟨fun hnone => .inr ⟨i, rfl, ?_⟩, ?_⟩
    · by_contra hwide
      exact hnone i ⟨hcode, by simp [Number.isInt64]; omega, hi⟩
    · rintro (⟨x, hx⟩ | ⟨i', hi', hwide⟩) code ⟨hfound, hcode', -⟩
      · exact nomatch hx
      · have hsame := hcode.symm.trans hfound
        simp only [Option.some.injEq, Json.num.injEq, Number.int.injEq] at hsame hi'
        simp only [Number.isInt64, Bool.decide_and, Bool.and_eq_true, decide_eq_true_eq] at hcode'
        omega

/-- The number that a document is. -/
def number? : Json → Option Number
  | .num n => some n
  | _ => none

theorem eq_num_of_number? {j : Json} {n : Number} (h : number? j = some n) : j = .num n := by
  cases j with
  | num m => exact congrArg Json.num (Option.some.inj h)
  | _ => exact nomatch h

def twoAndHalf : Number := .float ⟨false, 5629499534213120, -51⟩

/-- What a command printed of a unit whose action was completed and gave back two and a half. -/
def halfway : CommandOutput :=
  ⟨some 0, "\x7b\"mysql/0\": \x7b\"status\": \"completed\", \"results\": \x7b\"return-code\": 2.5\x7d\x7d\x7d", ""⟩

theorem code_overlooked : ¬ ∀ (t : CommandLine) (unit name : String) (params : Table String) (w : World Replies)
    (output : CommandOutput) (doc : ActionResult) (n : Number),
    (Host.run w.here w.files (t.actionCommand unit name params) w.host).1.2 = .ok output → Reports output unit doc →
    doc.status = "completed" → doc.results.get? "return-code" = some (.num n) → exceedsOne n = true →
      ∃ message, (t.action unit name params w).1 = .error (.orchestrator (.actionFailed unit name message)) := by
  intro h
  let t : CommandLine := ⟨"juju", "openstack"⟩
  let w : World Replies := .start ⟨[.ok halfway]⟩ "" FileTree.empty
  have hread : (documents halfway).toOption.bind (fun docs => (docs.get? "mysql/0").map fun doc =>
      (doc.status, (doc.results.get? "return-code").bind number?)) = some ("completed", some twoAndHalf) := by
    decide +kernel
  obtain ⟨docs, hdocs, hread⟩ := Option.bind_eq_some_iff.mp hread
  obtain ⟨doc, hdoc, hread⟩ := Option.map_eq_some_iff.mp hread
  obtain ⟨hcompleted, hcode⟩ := Prod.mk.inj hread
  have hdocs : documents halfway = .ok docs := by
    cases hall : documents halfway with
    | ok docs' => exact congrArg Except.ok (by simpa [hall, Except.toOption] using hdocs)
    | error e => simp [hall, Except.toOption] at hdocs
  obtain ⟨j, hj, hnumber⟩ := Option.bind_eq_some_iff.mp hcode
  obtain ⟨message, hfailed⟩ := h t "mysql/0" "pre-upgrade-check" Table.empty w halfway doc twoAndHalf rfl
    ⟨docs, hdocs, hdoc⟩ hcompleted (eq_num_of_number? hnumber ▸ hj) (by decide +kernel)
  have hdone : (t.action "mysql/0" "pre-upgrade-check" Table.empty w).1.isOk = true := by decide +kernel
  rw [hfailed] at hdone
  exact absurd hdone Bool.false_ne_true

end Rollout.CommandLine
