import Rollout.Outcome
import Rollout.Proofs.Doc.Closed
import Rollout.Proofs.Doc.Yields

/-!
# Rollout.Proofs.Outcome — a failure has a reason, and an outcome is read as it was written

Outcomes are made in a few ways, and of a failure each of them sees to it that there is a message that is not blank.  So
the wire form of every outcome is accepted when it is read, and nothing is lost in it but a payload of `null`.

* `Outcome.Reasoned`, `Outcome.check_eq_ok`: a failure has a reason, and that is what reading checks.
* `Outcome.Made`: the outcomes that can be made; `Made.reasoned`, `Made.sorted`: what holds of them.
* `Outcome.ofJson?`, `Outcome.decoder_ofJson`: the outcome that a document tells of.
* `Outcome.Wire`, `Outcome.wire`: what holds of the wire form.
-/

namespace Rollout

theorem Text.isBlank_eq_false {s : String} : isBlank s = false ↔ ∃ c ∈ s.toList, isBlankChar c = false := by
  simp [isBlank]

/-- What passes a further check has the property that the check sees to. -/
theorem Decoder.Yields.refine {α β : Type} {d : Decoder α} {P : α → Prop} {Q : β → Prop} {f : α → Except String β}
    (hd : d.Yields P) (hf : ∀ a b, P a → f a = .ok b → Q b) : (d.refine f).Yields Q := by
  intro doc
  refine (hd doc).bind fun a ha => ?_
  split
  · rename_i b hb
    exact Reading.yields_pure (hf a b ha hb)
  · exact Reading.yields_fail _

namespace Outcome

variable {o : Outcome}

/-! ## Reasons -/

/-- A failure has a message that is not blank. -/
def Reasoned (o : Outcome) : Prop := o.kind = .failed → ∃ m, o.message = some m ∧ Text.isBlank m = false

theorem reasoned_iff : o.Reasoned ↔ ¬ (o.kind = .failed ∧ Text.isBlank (o.message.getD "") = true) := by
  unfold Reasoned
  cases o.message with
  | none =>
    have hempty : Text.isBlank "" = true := by decide
    simp [hempty]
  | some m => simp

/-- Reading lets an outcome pass as it is if a failure has a reason. -/
theorem check_eq_ok {o' : Outcome} : check o = .ok o' ↔ o.Reasoned ∧ o = o' := by
  rw [reasoned_iff]
  unfold check
  split
  · rename_i hblank
    simp [hblank]
  · rename_i hreason
    simp [hreason]

theorem reasoned_failed (reason : String) : (failed reason).Reasoned := by
  intro _
  refine ⟨_, rfl, ?_⟩
  by_cases hblank : Text.isBlank reason = true
  · rw [if_pos hblank]
    decide
  · rw [if_neg hblank]
    exact Bool.eq_false_iff.mpr hblank

theorem Reasoned.withMessage (h : o.Reasoned) (message : String) : (o.withMessage message).Reasoned := by
  unfold Outcome.withMessage
  split
  · exact h
  · rename_i hnot
    intro hkind
    exact ⟨message, rfl, Bool.eq_false_iff.mpr fun hblank => hnot ⟨hkind, hblank⟩⟩

/-- The kinds by their names. -/
def kinds : List (String × Kind) := [Kind.completed, .skipped, .failed].map fun k => (k.text, k)

/-- The members of an outcome. -/
def members : Fields Outcome :=
  Outcome.mk <$> Fields.required "kind" (Decoder.enumeration kinds) <*> Fields.optional "message" Decoder.string
    <*> Fields.optional "payload" Decoder.json

theorem decoder_eq : decoder = Decoder.refine (Fields.closed "OutcomeRecord" members) check := rfl

/-- Of a failure that is read there is a reason, and a payload lists the members of its objects by rising key. -/
theorem decoder_yields : decoder.Yields fun o => o.Reasoned ∧ ∀ j, o.payload = some j → j.sorted := by
  have hmembers : members.Yields fun o => ∀ j, o.payload = some j → j.sorted := by
    refine Fields.Yields.seq (P := fun payload => ∀ j, payload = some j → j.sorted) (Fields.Yields.seq
      (P := fun _ => True) ?_ (Fields.yields_any _)) (Fields.optional_yields Decoder.json_yields _)
    exact (Fields.yields_any _).map fun _ _ _ _ _ hpayload => hpayload
  rw [decoder_eq]
  refine (Fields.closed_yields hmembers _).refine fun o o' ho hcheck => ?_
  obtain ⟨hreasoned, rfl⟩ := check_eq_ok.mp hcheck
  exact ⟨hreasoned, ho⟩

/-! ## Outcomes that can be made -/

/-- The outcomes that can be made, step by step: of documents in memory, which list members by rising key, and of any
documents that are read, wherever they stand. -/
inductive Made : Outcome → Prop
  | completed : Made completed
  | skipped : Made skipped
  | failed (reason : String) : Made (failed reason)
  | ofFault (fault : Fault) : Made (ofFault fault)
  | ofResult {α : Type} (r : Except Fault α) : Made (ofResult r)
  | withMessage {o : Outcome} (h : Made o) (message : String) : Made (o.withMessage message)
  | withPayload {o : Outcome} (h : Made o) {payload : Json} (hsorted : payload.sorted) : Made (o.withPayload payload)
  | decoded {doc : Doc} {p : Place} {n n' : Nat} {o : Outcome} (h : decoder doc p n = .ok (o, n')) : Made o

theorem Made.reasoned (h : Made o) : o.Reasoned := by
  induction h with
  | completed => exact nofun
  | skipped => exact nofun
  | failed reason => exact reasoned_failed reason
  | ofFault fault => exact reasoned_failed fault.message
  | ofResult r =>
    cases r with
    | ok _ => exact nofun
    | error fault => exact reasoned_failed fault.message
  | withMessage _ message ih => exact ih.withMessage message
  | withPayload _ _ ih => exact ih
  | decoded h => exact (decoder_yields _ _ _ _ _ h).1

theorem Made.sorted (h : Made o) : ∀ j, o.payload = some j → j.sorted := by
  induction h with
  | completed => exact nofun
  | skipped => exact nofun
  | failed _ => exact nofun
  | ofFault _ => exact nofun
  | ofResult r => cases r <;> exact nofun
  | withMessage _ message ih =>
    unfold Outcome.withMessage
    split
    · exact ih
    · exact ih
  | withPayload _ hsorted _ =>
    rintro j ⟨rfl⟩
    exact hsorted
  | decoded h => exact (decoder_yields _ _ _ _ _ h).2

/-! ## Documents that are read -/

/-- What stands in the place of a member: under its name in an object, and in its turn in a list. -/
def part? (name : String) (index : Nat) : Json → Option Json
  | .obj members => Entries.get? name members
  | .arr items => items[index]?
  | _ => none

/-- The outcome of which three parts tell: a kind, and a message and a payload, which may be absent or `null`. -/
def ofParts? (kind message payload : Option Json) : Option Outcome := do
  let o := Outcome.mk (← kind.bind (Json.named? kinds)) (← Json.optional? Json.asStr? message)
    (← Json.optional? (fun j => some j.sort) payload)
  (check o).toOption

/-- The outcome that a document tells of. -/
def ofJson? (j : Json) : Option Outcome :=
  let o := ofParts? (part? "kind" 0 j) (part? "message" 1 j) (part? "payload" 2 j)
  match j with
  | .obj _ => o
  | .arr items => if items.length ≤ 3 then o else none
  | _ => none

variable {entries : List (String × Json)}

theorem members_readsAs (hdistinct : (entries.map Prod.fst).Nodup) : ∃ o, members.ReadsAs entries o ∧
    o.bind (fun o => (check o).toOption) =
      ofParts? (Entries.get? "kind" entries) (Entries.get? "message" entries) (Entries.get? "payload" entries) := by
  refine ⟨_, Fields.ReadsAs.seq (Fields.misses_or_one ?_) (Fields.ReadsAs.seq (Fields.misses_or_one ?_)
    (Fields.ReadsAs.map (Fields.required_readsAs (Decoder.enumeration_decides kinds) hdistinct "kind") _)
    (Fields.optional_readsAs (Decoder.text_decides "a string") hdistinct "message"))
    (Fields.optional_readsAs Decoder.json_decides hdistinct "payload"), ?_⟩
  · exact ((Fields.pure_misses _).seq (Fields.one_misses (by decide))).seq (Fields.one_misses (by decide))
  · exact (Fields.pure_misses _).seq (Fields.one_misses (by decide))
  · unfold ofParts?
    cases (Entries.get? "kind" entries).bind (Json.named? kinds) with
    | none => rfl
    | some kind =>
      cases Json.optional? Json.asStr? (Entries.get? "message" entries) with
      | none => rfl
      | some message => cases Json.optional? (fun j => some j.sort) (Entries.get? "payload" entries) <;> rfl

theorem members_alike : members.Alike := by
  refine Fields.Alike.seq (Fields.Alike.seq ?_ (Fields.optional_alike _ _)) (Fields.optional_alike _ _)
  exact (Fields.pure_alike _).seq (Fields.required_alike _ _)

/-- The items of a list stand in turn in the places of the members. -/
theorem get?_zip (items : List Json) : ((members.names.zip items).map Prod.fst).Nodup ∧
    Entries.get? "kind" (members.names.zip items) = items[0]? ∧
    Entries.get? "message" (members.names.zip items) = items[1]? ∧
    Entries.get? "payload" (members.names.zip items) = items[2]? := by
  have hnames : members.names = ["kind", "message", "payload"] := rfl
  rw [hnames]
  match items with
  | [] => simp [Entries.get?]
  | [_] => simp [Entries.get?]
  | [_, _] => simp [Entries.get?]
  | _ :: _ :: _ :: _ => simp [Entries.get?]

/-- A document in memory is read as the outcome of which it tells. -/
theorem decoder_ofJson {j : Json} (hsorted : j.sorted) : (decoder.ofJson j).toOption = ofJson? j := by
  have hread {o : Option Outcome} (h : (Fields.closed "OutcomeRecord" members j.toDoc).Decides
      ⟨.plain .value, j.depth, []⟩ o) : (decoder.ofJson j).toOption = o.bind fun o => (check o).toOption :=
    Decoder.ofJson_of_decides (Decoder.refine_decides h check)
  have hplace : (⟨.plain .value, j.depth, []⟩ : Place).Holds j.depth := ⟨rfl, Nat.le_refl _⟩
  cases j with
  | obj entries =>
    obtain ⟨o, hreads, ho⟩ := members_readsAs hsorted.1.nodup
    rw [hread (hreads.closed "OutcomeRecord" hplace), ho]
    rfl
  | arr items =>
    obtain ⟨hdistinct, hkind, hmessage, hpayload⟩ := get?_zip items
    obtain ⟨o, hreads, ho⟩ := members_readsAs hdistinct
    rw [hkind, hmessage, hpayload] at ho
    rw [hread (hreads.closed_items members_alike "OutcomeRecord" hplace)]
    have hcount : members.names.length = 3 := rfl
    have hjson : ofJson? (.arr items) = if items.length ≤ 3 then ofParts? items[0]? items[1]? items[2]? else none := rfl
    rw [hcount, hjson, ← ho]
    split <;> rfl
  | _ => exact hread (o := none) (Fields.closed_fails (by nofun) (by nofun) _ rfl)

example : ofJson? (.arr [.str "FAILED", .str "apply failed"]) = some (failed "apply failed") := rfl

/-! ## The wire form -/

theorem named?_text (k : Kind) : Json.named? kinds (.str k.text) = some k := by
  cases k <;> decide

theorem toJson_parts (o : Outcome) : part? "kind" 0 o.toJson = some (.str o.kind.text) ∧
    part? "message" 1 o.toJson = o.message.map .str ∧ part? "payload" 2 o.toJson = o.payload := by
  obtain ⟨kind, message, payload⟩ := o
  cases message <;> cases payload <;> exact ⟨rfl, rfl, rfl⟩

theorem toJson_sorted (hpayload : ∀ j, o.payload = some j → j.sorted) : o.toJson.sorted := by
  have hnames : ["kind", "message", "payload"].Pairwise (· < ·) := by decide
  refine Json.sorted_record (List.pairwise_map.mp hnames) fun name j hmem => ?_
  simp only [List.mem_cons, Prod.mk.injEq, List.not_mem_nil, or_false] at hmem
  rcases hmem with ⟨-, hkind⟩ | ⟨-, hmessage⟩ | ⟨-, hj⟩
  · cases hkind
    trivial
  · obtain ⟨m, -, rfl⟩ := Option.map_eq_some_iff.mp hmessage.symm
    trivial
  · exact hpayload j hj.symm

/-- The outcome without a payload of `null`. -/
def withoutNull (o : Outcome) : Outcome := { o with payload := o.payload.filter fun j => !j.isNull }

/-- The wire form of an outcome tells of the outcome, but for a payload of `null`. -/
theorem ofJson?_toJson (hreasoned : o.Reasoned) (hpayload : ∀ j, o.payload = some j → j.sorted) :
    ofJson? o.toJson = some o.withoutNull := by
  obtain ⟨hkind, hmessage, hpart⟩ := toJson_parts o
  have hread : Json.optional? Json.asStr? (o.message.map .str) = some o.message := by
    cases o.message <;> rfl
  have hkept : Json.optional? (fun j => some j.sort) o.payload = some o.withoutNull.payload := by
    unfold withoutNull
    cases hj : o.payload with
    | none => rfl
    | some j =>
      have hsort := Json.sort_eq_self (hpayload j hj)
      cases j with
      | null => rfl
      | _ => exact congrArg (fun j => some (some j)) hsort
  have hcheck : check o.withoutNull = .ok o.withoutNull := check_eq_ok.mpr ⟨hreasoned, rfl⟩
  have hjson : ofJson? o.toJson =
      ofParts? (part? "kind" 0 o.toJson) (part? "message" 1 o.toJson) (part? "payload" 2 o.toJson) := rfl
  rw [hjson, hkind, hmessage, hpart]
  unfold ofParts?
  rw [hread, hkept]
  show ((Json.named? kinds (.str o.kind.text)).bind fun kind => (check ⟨kind, o.message, _⟩).toOption) = _
  rw [named?_text]
  show (check o.withoutNull).toOption = some o.withoutNull
  rw [hcheck]
  rfl

/-- A failure of which the message is absent, `null` or blank is no outcome. -/
theorem ofParts?_eq_none {kind message payload : Option Json} (hkind : kind.bind (Json.named? kinds) = some .failed)
    (hmessage : ∀ m, message = some m → m = .null ∨ ∃ s, m = .str s ∧ Text.isBlank s = true) :
    ofParts? kind message payload = none := by
  obtain ⟨text, hread, hblank⟩ : ∃ text, Json.optional? Json.asStr? message = some text ∧
      Text.isBlank (text.getD "") = true := by
    cases message with
    | none => exact ⟨none, rfl, by decide⟩
    | some m =>
      obtain rfl | ⟨s, rfl, hs⟩ := hmessage m rfl
      · exact ⟨none, rfl, by decide⟩
      · exact ⟨some s, rfl, hs⟩
  have hrefused (payload : Option Json) : (check ⟨.failed, text, payload⟩).toOption = none := by
    unfold check
    rw [if_pos ⟨rfl, hblank⟩]
    rfl
  unfold ofParts?
  rw [hkind, hread]
  cases Json.optional? (fun j => some j.sort) payload with
  | none => rfl
  | some payload => exact hrefused payload

/-- What holds of the outcomes that can be made, and of their wire form. -/
structure Wire : Prop where
  /-- A failure has a message with a character that is not blank. -/
  reasoned : ∀ o, Made o → o.kind = .failed → ∃ m, o.message = some m ∧ ∃ c ∈ m.toList, Text.isBlankChar c = false
  /-- The wire form of an outcome is read as the outcome, where a payload of `null` becomes no payload. -/
  returns : ∀ o, Made o → decoder.ofJson o.toJson = .ok { o with payload := o.payload.filter fun j => !j.isNull }
  /-- A document that tells of a failure is refused where the message is absent, `null` or blank. -/
  refuses : ∀ j : Json, j.sorted → (part? "kind" 0 j).bind (Json.named? kinds) = some .failed →
    (∀ m, part? "message" 1 j = some m → m = .null ∨ ∃ s, m = .str s ∧ Text.isBlank s = true) →
      ∃ fault, decoder.ofJson j = .error fault

theorem wire : Wire := by
  refine ⟨fun o h hkind => ?reasoned, fun o h => ?returns, fun j hsorted hkind hmessage => ?refuses⟩
  case reasoned =>
    obtain ⟨m, hm, hblank⟩ := h.reasoned hkind
    exact ⟨m, hm, Text.isBlank_eq_false.mp hblank⟩
  case returns =>
    have hread := decoder_ofJson (toJson_sorted h.sorted)
    rw [ofJson?_toJson h.reasoned h.sorted] at hread
    cases hresult : decoder.ofJson o.toJson with
    | ok o' =>
      rw [hresult] at hread
      exact congrArg Except.ok (Option.some.inj hread)
    | error fault =>
      rw [hresult] at hread
      cases hread
  case refuses =>
    have hnone : ofJson? j = none := by
      unfold ofJson?
      rw [ofParts?_eq_none hkind hmessage]
      cases j <;> simp
    have hread := decoder_ofJson hsorted
    rw [hnone] at hread
    cases hresult : decoder.ofJson j with
    | ok o =>
      rw [hresult] at hread
      cases hread
    | error fault => exact ⟨fault, rfl⟩

end Outcome

end Rollout
