import Rollout.Json.Decode
import Rollout.Proofs.Doc.Reads
import Rollout.Proofs.Json.Sorted

/-!
# Rollout.Proofs.Doc.Yields — what holds of everything that is read

A decoder may fail for many reasons, but what it does give is well formed.  There is one rule for each way to put
decoders together, so what holds of the parts is carried over to the whole.

* `Reading.Yields`, `Decoder.Yields`: whatever is read satisfies a property.
* `Decoder.json_yields`: a value that is read lists the members of its objects by rising key.
* `Fields.Yields`: what holds of a record; `Fields.closed_yields`, `Fields.spread_yields` of both kinds of records.
-/

namespace Rollout

variable {α β : Type}

namespace Reading

/-- Whatever a step of decoding ends with satisfies `P`. -/
def Yields (x : Reading α) (P : α → Prop) : Prop := ∀ p n a n', x p n = .ok (a, n') → P a

variable {x : Reading α} {P : α → Prop} {Q : β → Prop}

theorem yields_any (x : Reading α) : x.Yields fun _ => True := fun _ _ _ _ _ => trivial

theorem yields_pure {a : α} (h : P a) : (pure a : Reading α).Yields P := by
  intro p n a' n' ha
  cases ha
  exact h

theorem yields_fail (fault : DecodeFault) : (fail fault : Reading α).Yields P := fun _ _ _ _ h => nomatch h

theorem yields_failAround (fault : DecodeFault) : (failAround fault : Reading α).Yields P := fun _ _ _ _ h => nomatch h

theorem yields_failAtAll (fault : DecodeFault) : (failAtAll fault : Reading α).Yields P := fun _ _ _ _ h => nomatch h

theorem yields_ofExcept {r : Except DecodeFault α} (h : ∀ a, r = .ok a → P a) : (ofExcept r).Yields P := by
  cases r with
  | ok a => exact yields_pure (h a rfl)
  | error fault => exact yields_fail fault

theorem Yields.bind {f : α → Reading β} (hx : x.Yields P) (hf : ∀ a, P a → (f a).Yields Q) : (x >>= f).Yields Q := by
  intro p n b n' hb
  have h : (x >>= f) p n = (x p n).bind fun r => f r.1 p r.2 := rfl
  rw [h] at hb
  cases hxp : x p n with
  | error fault =>
    rw [hxp] at hb
    cases hb
  | ok r =>
    rw [hxp] at hb
    exact hf r.1 (hx p n r.1 r.2 hxp) p r.2 b n' hb

/-- What comes first may be anything. -/
theorem Yields.bind_any {f : α → Reading β} (hf : ∀ a, (f a).Yields Q) : (x >>= f).Yields Q :=
  (yields_any x).bind fun a _ => hf a

theorem Yields.enter (h : x.Yields P) : (enter x).Yields P := by
  intro p n a n' ha
  unfold Reading.enter at ha
  cases hroom : p.room with
  | zero =>
    rw [hroom] at ha
    cases ha
  | succ room =>
    rw [hroom] at ha
    exact h _ n a n' ha

theorem Yields.turn {t : Turn} (h : x.Yields P) : (turn t x).Yields P := fun _ n a n' ha => h _ n a n' ha

theorem yields_mapM {f : α → Reading β} {as : List α} (h : ∀ a ∈ as, (f a).Yields Q) :
    (as.mapM f).Yields fun bs => ∀ b ∈ bs, Q b := by
  induction as with
  | nil =>
    rw [List.mapM_nil]
    exact yields_pure (by simp)
  | cons a as ih =>
    rw [List.mapM_cons]
    refine (h a List.mem_cons_self).bind fun b hb => ?_
    refine (ih fun a' ha' => h a' (List.mem_cons_of_mem _ ha')).bind fun bs hbs => yields_pure ?_
    intro b' hb'
    rcases List.mem_cons.mp hb' with rfl | hb'
    · exact hb
    · exact hbs b' hb'

end Reading

open Reading

/-- Whatever a decoder gives satisfies `P`. -/
def Decoder.Yields (d : Decoder α) (P : α → Prop) : Prop := ∀ doc, (d doc).Yields P

namespace Decoder

variable {d : Decoder α} {P : α → Prop}

/-- What is read from a text is what its document yields. -/
theorem ofText_yields {text : String} {a : α} (h : (d (Doc.ofText text).1).Yields P) (ha : d.ofText text = .ok a) :
    P a := by
  unfold Decoder.ofText at ha
  generalize Doc.ofText text = read at h ha
  obtain ⟨doc, after⟩ := read
  unfold Reading.run StateT.run ReaderT.run at ha
  dsimp only at ha
  cases hread : d doc ⟨.plain .text, Json.maxDepth, []⟩ 0 with
  | error fault =>
    rw [hread] at ha
    cases ha
  | ok r =>
    rw [hread] at ha
    cases after with
    | some fault => cases ha
    | none =>
      cases ha
      exact h _ 0 r.1 r.2 hread

theorem Yields.ofText (h : d.Yields P) {text : String} {a : α} (ha : d.ofText text = .ok a) : P a :=
  ofText_yields (h _) ha

theorem Yields.ofJson (h : d.Yields P) {j : Json} {a : α} (ha : d.ofJson j = .ok a) : P a := by
  unfold Decoder.ofJson Reading.run StateT.run ReaderT.run at ha
  cases hread : d j.toDoc ⟨.plain .value, j.depth, []⟩ 0 with
  | error fault =>
    rw [hread] at ha
    cases ha
  | ok r =>
    rw [hread] at ha
    cases ha
    exact h j.toDoc _ 0 r.1 r.2 hread

/-! ## Values -/

/-- A number that is read is below the bound. -/
theorem natBelow_yields (bound : Nat) (expected : String) : (natBelow bound expected).Yields (· < bound) := by
  intro doc
  unfold natBelow
  refine Reading.Yields.bind_any fun doc => ?_
  split
  · split
    · rename_i hbound
      exact yields_pure (by omega)
    · exact yields_fail _
  · split
    · split
      · rename_i hbound
        exact yields_pure hbound
      · exact yields_fail _
    · exact yields_fail _

/-- A scalar stands for a value without members. -/
theorem scalarValue_yields (manner : Manner) (doc : Doc) (s : String) (kind : Scalar) :
    (scalarValue manner doc s kind).Yields Json.sorted := by
  cases kind with
  | null => exact yields_pure trivial
  | bool b => exact yields_pure trivial
  | num n => exact yields_pure trivial
  | wide => exact yields_fail _
  | notFinite => exact yields_pure trivial
  | text => exact yields_pure trivial

theorem valueWithin_yields (manner : Manner) : ∀ room, (valueWithin manner room).Yields Json.sorted := by
  intro room
  induction room with
  | zero =>
    intro doc
    unfold valueWithin
    refine Yields.bind_any fun doc => ?_
    split
    · exact yields_pure trivial
    · exact yields_pure trivial
    · exact yields_pure trivial
    · exact yields_pure trivial
    · split
      · exact scalarValue_yields _ _ _ _
      · exact yields_failAround _
      · exact yields_fail _
    · exact yields_failAtAll _
    · exact yields_failAtAll _
    · exact yields_failAround _
    · exact yields_failAtAll _
    · exact yields_fail _
  | succ room ih =>
    intro doc
    unfold valueWithin
    refine Yields.bind_any fun doc => ?_
    split
    · exact yields_pure trivial
    · exact yields_pure trivial
    · exact yields_pure trivial
    · exact yields_pure trivial
    · split
      · exact scalarValue_yields _ _ _ _
      · exact yields_failAround _
      · exact yields_fail _
    · refine (yields_mapM (Q := Json.sorted) fun item _ => (ih _).turn).bind fun items hitems => ?_
      exact Yields.bind_any fun _ => yields_pure (Json.sortedItems_iff.mpr hitems)
    · refine (yields_mapM (Q := fun e => Json.sorted e.2) fun member _ => ?_).bind fun members hmembers => ?_
      · exact Yields.bind_any fun k => (ih _).turn.bind fun a ha => yields_pure ha
      · exact Yields.bind_any fun _ => yields_pure (Json.sorted_ofEntries hmembers)
    · exact yields_failAround _
    · exact yields_failAtAll _
    · exact yields_fail _

theorem json_yields : json.Yields Json.sorted := fun doc =>
  Yields.bind_any fun p => valueWithin_yields .direct p.room doc

theorem heldJson_yields : heldJson.Yields Json.sorted := fun doc =>
  Yields.bind_any fun p => valueWithin_yields .aside p.room doc

/-! ## Lists, mappings and what may be absent -/

theorem Yields.list (h : d.Yields P) : d.list.Yields fun as => ∀ a ∈ as, P a := by
  intro doc
  unfold Decoder.list
  refine Yields.bind_any fun doc => ?_
  split
  · refine Yields.enter ((yields_mapM fun item _ => (h _).turn).bind fun items hitems => ?_)
    exact Yields.bind_any fun _ => yields_pure hitems
  · exact yields_pure (by simp)
  · exact yields_fail _

theorem Yields.table (h : d.Yields P) : d.table.Yields (Table.All P) := by
  intro doc
  unfold Decoder.table
  refine Yields.bind_any fun doc => ?_
  split
  · refine Yields.enter ((yields_mapM (Q := fun e => P e.2) fun member _ => ?_).bind fun members hmembers => ?_)
    · exact Yields.bind_any fun k => (h _).turn.bind fun a ha => yields_pure ha
    · exact Yields.bind_any fun _ => yields_pure (Table.all_ofList hmembers)
  · exact yields_pure Table.all_empty
  · exact yields_fail _

theorem Yields.option (h : d.Yields P) : d.option.Yields fun o => ∀ a, o = some a → P a := by
  have hsome : ∀ doc, (some <$> d doc).Yields fun o => ∀ a, o = some a → P a := by
    intro doc p n o n' ho a ha
    subst ha
    have hmap : (some <$> d doc) p n = (d doc p n).bind fun r => .ok (some r.1, r.2) := rfl
    rw [hmap] at ho
    cases hread : d doc p n with
    | error fault =>
      rw [hread] at ho
      cases ho
    | ok r =>
      rw [hread] at ho
      cases ho
      exact h doc p n r.1 r.2 hread
  have hnone : (pure none : Reading (Option α)).Yields fun o => ∀ a, o = some a → P a :=
    yields_pure fun _ h => nomatch h
  intro doc
  unfold Decoder.option
  refine Yields.bind_any fun doc => ?_
  split
  · exact hnone
  · exact yields_fail _
  · split
    · exact hnone
    · exact yields_failAround _
  · split
    · exact hnone
    · exact hsome _
  · exact hsome _

end Decoder

/-! ## Records -/

/-- Whatever a record is put together to satisfies `P`: something holds of what is held of its members, from the start
on and as members are taken in, and `P` follows from it in the end. -/
def Fields.Yields (fields : Fields α) (P : α → Prop) : Prop :=
  ∃ Inv : fields.Held → Prop, Inv fields.start ∧
    (∀ held name doc taken, Inv held → fields.take held name doc = some taken → taken.Yields Inv) ∧
      ∀ given held a, Inv held → fields.build given held = .ok a → P a

namespace Fields

variable {P : α → Prop} {Q : β → Prop}

theorem yields_pure {a : α} (h : P a) : (pure a : Fields α).Yields P := by
  refine ⟨fun _ => True, trivial, ?_, ?_⟩
  · intro held name doc taken _ htaken
    cases htaken
  · intro given held a' _ ha'
    cases ha'
    exact h

theorem yields_any (fields : Fields α) : fields.Yields fun _ => True :=
  ⟨fun _ => True, trivial, fun _ _ _ _ _ _ => Reading.yields_any _, fun _ _ _ _ _ => trivial⟩

theorem one_yields {d : Decoder α} {build : Arrangement → Option α → Except DecodeFault β} {name : String}
    (hd : d.Yields P) (hbuild : ∀ given held b, (∀ a, held = some a → P a) → build given held = .ok b → Q b) :
    (one name d build).Yields Q := by
  refine ⟨fun held => ∀ a, held = some a → P a, (fun _ h => nomatch h), ?_, hbuild⟩
  intro held name' doc taken _ htaken
  unfold one at htaken
  dsimp only at htaken
  by_cases hname : name' = name
  · rw [if_pos hname] at htaken
    cases htaken
    cases held with
    | some a => exact yields_failAround _
    | none =>
      have hmap : (some <$> d doc : Reading (Option α)) = d doc >>= fun a => pure (some a) := rfl
      show (some <$> d doc : Reading (Option α)).Yields _
      rw [hmap]
      refine (hd doc).bind fun a ha => Reading.yields_pure ?_
      intro a' ha'
      cases ha'
      exact ha
  · rw [if_neg hname] at htaken
    cases htaken

theorem withDefault_yields {d : Decoder α} (hd : d.Yields P) {default : α} (hdefault : P default) (name : String) :
    (withDefault name d default).Yields P := by
  refine one_yields hd ?_
  intro given held b hheld hb
  cases hb
  cases held with
  | none => exact hdefault
  | some _ => exact hheld _ rfl

theorem optional_yields {d : Decoder α} (hd : d.Yields P) (name : String) :
    (optional name d).Yields fun o => ∀ a, o = some a → P a := by
  refine withDefault_yields hd.option ?_ name
  intro a h
  cases h

theorem Yields.seq {f : Fields (α → β)} {x : Fields α} (hf : f.Yields fun g => ∀ a, P a → Q (g a))
    (hx : x.Yields P) : (f <*> x).Yields Q := by
  obtain ⟨Inv, hstart, htake, hbuild⟩ := hf
  obtain ⟨Inv', hstart', htake', hbuild'⟩ := hx
  refine ⟨fun held => Inv held.1 ∧ Inv' held.2, ⟨hstart, hstart'⟩, ?_, ?_⟩
  · rintro ⟨held, held'⟩ name doc taken ⟨hheld, hheld'⟩ htaken
    rw [take_seq] at htaken
    cases hleft : f.take held name doc with
    | some taken' =>
      rw [hleft] at htaken
      cases htaken
      exact (htake held name doc taken' hheld hleft).bind fun _ hnew => Reading.yields_pure ⟨hnew, hheld'⟩
    | none =>
      rw [hleft] at htaken
      obtain ⟨taken', hright, rfl⟩ := Option.map_eq_some_iff.mp htaken
      exact (htake' held' name doc taken' hheld' hright).bind fun _ hnew => Reading.yields_pure ⟨hheld, hnew⟩
  · rintro given ⟨held, held'⟩ b ⟨hheld, hheld'⟩ hb
    have h : (f <*> x).build given (held, held') = (f.build given held >>= fun g =>
        x.build given held' >>= fun a => pure (g a)) := rfl
    rw [h] at hb
    cases hg : f.build given held with
    | error fault =>
      rw [hg] at hb
      cases hb
    | ok g =>
      rw [hg] at hb
      cases ha : x.build given held' with
      | error fault =>
        rw [ha] at hb
        cases hb
      | ok a =>
        rw [ha] at hb
        cases hb
        exact hbuild given held g hheld hg a (hbuild' given held' a hheld' ha)

theorem Yields.map {f : α → β} {x : Fields α} (hx : x.Yields P) (hf : ∀ a, P a → Q (f a)) : (f <$> x).Yields Q :=
  (yields_pure hf : (pure f : Fields (α → β)).Yields fun g => ∀ a, P a → Q (g a)).seq hx

/-! ## Records as a whole -/

section Whole

variable {fields : Fields α} {Inv : fields.Held → Prop}

theorem walk_yields {other : β → String → Doc → Reading β}
    (htake : ∀ held name doc taken, Inv held → fields.take held name doc = some taken → taken.Yields Inv)
    (hother : ∀ rest name doc, Q rest → (other rest name doc).Yields Q) {held : fields.Held} {rest : β}
    (hheld : Inv held) (hrest : Q rest) (members : List (Doc × Doc)) :
    (walk fields other held rest members).Yields fun r => Inv r.1 ∧ Q r.2 := by
  induction members generalizing held rest with
  | nil => exact Reading.yields_pure ⟨hheld, hrest⟩
  | cons member members ih =>
    obtain ⟨k, doc⟩ := member
    unfold walk
    refine Yields.bind_any fun name => ?_
    cases htaken : fields.take held name doc with
    | some taken => exact ((htake held name doc taken hheld htaken).turn).bind fun _ hnew => ih hnew hrest
    | none => exact ((hother rest name doc hrest).turn).bind fun _ hnew => ih hheld hnew

theorem walkItems_yields
    (htake : ∀ held name doc taken, Inv held → fields.take held name doc = some taken → taken.Yields Inv)
    {held : fields.Held} (hheld : Inv held) (names : List String) (items : List Doc) :
    (walkItems fields held names items).Yields Inv := by
  induction names generalizing held items with
  | nil =>
    unfold walkItems
    exact Reading.yields_pure hheld
  | cons name names ih =>
    cases items with
    | nil =>
      unfold walkItems
      exact Reading.yields_pure hheld
    | cons doc items =>
      unfold walkItems
      cases htaken : fields.take held name doc with
      | some taken => exact (htake held name doc taken hheld htaken).bind fun _ hnew => ih hnew items
      | none => exact ih hheld items

end Whole

theorem ofMembers_yields {fields : Fields α} {other : β → String → Doc → Reading β} {rest : β} (h : fields.Yields P)
    (hother : ∀ rest name doc, Q rest → (other rest name doc).Yields Q) (hrest : Q rest) (members : List (Doc × Doc))
    (stop : Option Flaw) : (ofMembers fields other rest members stop).Yields fun r => P r.1 ∧ Q r.2 := by
  obtain ⟨Inv, hstart, htake, hbuild⟩ := h
  unfold ofMembers
  refine Yields.enter ((walk_yields htake hother hstart hrest members).bind fun r hr => ?_)
  refine Yields.bind_any fun _ => ?_
  exact (yields_ofExcept fun a => hbuild .byName r.1 a hr.1).bind fun a ha => Reading.yields_pure ⟨ha, hr.2⟩

/-- Items that are left over are refused, and what was read before them stays as it is. -/
theorem leftover_yields (fields : Fields α) (items : List Doc) (stop : Option Flaw) {result : α} (h : P result) :
    (if fields.names.length < items.length then do
      match ← Reading.origin with
      | .value => Reading.fail (.length items.length "fewer elements in array")
      | _ => Reading.fail (.text .trailingCharacters)
    else if items.length = fields.names.length then
      match stop with
      | some flaw => Reading.fail (.text (surplus flaw.seen))
      | none => pure result
    else pure result : Reading α).Yields P := by
  split
  · refine Yields.bind_any fun origin => ?_
    split
    · exact Reading.yields_fail _
    · exact Reading.yields_fail _
  · split
    · split
      · exact Reading.yields_fail _
      · exact Reading.yields_pure h
    · exact Reading.yields_pure h

theorem ofItems_yields {fields : Fields α} (h : fields.Yields P) (name : String) (items : List Doc)
    (stop : Option Flaw) : (ofItems name fields items stop).Yields P := by
  obtain ⟨Inv, hstart, htake, hbuild⟩ := h
  unfold ofItems
  refine Yields.enter ((walkItems_yields htake hstart fields.names items).bind fun held hheld => ?_)
  have hresult := fun expected => (yields_ofExcept fun a => hbuild (.inOrder fields.names expected) held a hheld).bind
    fun _ => leftover_yields fields items stop
  dsimp only
  split
  · exact Yields.bind_any fun _ => hresult _
  · exact hresult _

/-- What holds of the start of a record holds of one without members. -/
theorem start_yields {fields : Fields α} (h : fields.Yields P) :
    (Reading.ofExcept (fields.build .byName fields.start)).Yields P := by
  obtain ⟨Inv, hstart, -, hbuild⟩ := h
  exact yields_ofExcept fun a => hbuild .byName fields.start a hstart

theorem closed_yields {fields : Fields α} (h : fields.Yields P) (name : String) : (closed name fields).Yields P := by
  intro doc
  unfold closed
  refine Yields.bind_any fun origin => Yields.bind_any fun doc => ?_
  split
  · refine (ofMembers_yields h (Q := fun _ => True) (fun _ _ _ _ => Reading.yields_any _) trivial _ _).bind fun r hr => ?_
    exact Reading.yields_pure hr.1
  · exact start_yields h
  · exact Reading.yields_fail _
  · exact ofItems_yields h _ _ _
  · exact Reading.yields_fail _

theorem spread_yields {fields : Fields α} (h : fields.Yields P) (name : String) :
    (spread name fields).Yields fun r => P r.1 ∧ r.2.All Json.sorted := by
  intro doc
  unfold spread
  refine Yields.bind_any fun doc => ?_
  split
  · refine (ofMembers_yields h (Q := fun kept => ∀ e ∈ kept, e.2.sorted) ?_ (by simp) _ _).bind fun r hr => ?_
    · intro kept name doc hkept
      refine (Decoder.heldJson_yields doc).bind fun a ha => Reading.yields_pure ?_
      intro e he
      rcases List.mem_cons.mp he with rfl | he
      · exact ha
      · exact hkept e he
    · refine Reading.yields_pure ⟨hr.1, Table.all_ofList fun e he => hr.2 e ?_⟩
      exact List.mem_reverse.mp he
  · exact (start_yields h).bind fun a ha => Reading.yields_pure ⟨ha, Table.all_empty⟩
  · exact Reading.yields_fail _

end Fields

end Rollout
