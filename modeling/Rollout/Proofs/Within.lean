import Rollout.Orchestrator.Wait
import Rollout.Proofs.Files

/-!
# Rollout.Proofs.Within — what an action leaves alone

An action that does things of one kind only leaves alone what this kind does not concern: the documents under other
keys, the files if it only reads them, and in any case the environment.  Nor does it depend on what its kind does not
concern: on other documents, and on what was done before.

* `World.Becomes`: things of a kind lead from one world to another.
* `World.amid`: the same world, but for what was done before and for its documents.
* `Within E x`: `x` does things of the kind `E` only, and does the same wherever the documents that `E` concerns are
  the same.  One rule for each way to put actions together.
* `Within.does`: the trace of an action that does no more than look documents up.
-/

namespace Rollout

/-! ## Kinds of things done -/

/-- The key of the document that is accessed. -/
def Access.key : Access → String
  | get key => key
  | put key _ => key
  | delete key => key

/-- Whether an access leaves the document as it is. -/
def Access.looks : Access → Bool
  | get _ => true
  | _ => false

/-- Whether a step leaves the files as they are. -/
def FileAction.looks : FileAction → Bool
  | read _ => true
  | _ => false

/-- Whatever is done, all accesses are to the document of one key. -/
def Event.At (key : String) : Event → Prop
  | .access a _ => a.key = key
  | _ => True

/-- The document of one key is looked up, in whatever place documents are kept. -/
def Event.Gets (key : String) : Event → Prop
  | .access a _ => a = .get key
  | .file a => a.looks = true
  | .request r => r.method = .get
  | _ => False

/-- Files are handled, or a program is run. -/
def Event.Works : Event → Prop
  | .file _ => True
  | .command .. => True
  | _ => False

/-- A file was read. -/
def Event.Reads (e : Event) : Prop := ∃ p, e = .file (.read p)

/-- Of the documents that things of a kind look up or change, two stores hold the same. -/
def Store.Agree (E : Event → Prop) (store store' : Table Json) : Prop :=
  ∀ a, E (.access a true) → store'.get? a.key = store.get? a.key

theorem Event.Gets.at {key : String} {e : Event} (h : e.Gets key) : e.At key := by
  cases e with
  | access a granted =>
    obtain rfl : a = .get key := h
    rfl
  | _ => trivial

theorem Event.Works.at {e : Event} (h : e.Works) (key : String) : e.At key := by
  cases e with
  | access a granted => exact h.elim
  | _ => trivial

/-! ## Worlds -/

variable {σ α β : Type} {E E' : Event → Prop}

namespace World

/-- The world in which more was done before all that its log tells, and in which other documents are kept. -/
def amid (past : List Event) (store : Table Json) (w : World σ) : World σ := { w with log := w.log ++ past, store }

/-- Things of the kind `E` lead from `w` to `w'`, and what they do not concern stays as it is. -/
structure Becomes (E : Event → Prop) (w w' : World σ) : Prop where
  log : ∃ t : List Event, w'.log = t.reverse ++ w.log ∧ ∀ e ∈ t, E e
  store : ∀ key, (∀ a, E (.access a true) → a.looks = false → a.key ≠ key) → w'.store.get? key = w.store.get? key
  files : (∀ a, E (.file a) → a.looks = true) → w'.files = w.files
  now : w.now ≤ w'.now
  started : w'.started = w.started
  zone : w'.zone = w.zone
  holder : w'.holder = w.holder
  here : w'.here = w.here
  env : w'.env = w.env
  input : w'.input = w.input

variable {w w' w'' : World σ}

theorem Becomes.refl (w : World σ) : w.Becomes E w :=
  ⟨⟨[], rfl, by simp⟩, fun _ _ => rfl, fun _ => rfl, Nat.le_refl _, rfl, rfl, rfl, rfl, rfl, rfl⟩

theorem Becomes.trans (h : w.Becomes E w') (h' : w'.Becomes E w'') : w.Becomes E w'' where
  log := by
    obtain ⟨t, hlog, ht⟩ := h.log
    obtain ⟨t', hlog', ht'⟩ := h'.log
    refine ⟨t ++ t', by rw [hlog', hlog, List.reverse_append, List.append_assoc], ?_⟩
    intro e he
    rcases List.mem_append.mp he with he | he
    · exact ht e he
    · exact ht' e he
  store key hkey := (h'.store key hkey).trans (h.store key hkey)
  files hread := (h'.files hread).trans (h.files hread)
  now := Nat.le_trans h.now h'.now
  started := h'.started.trans h.started
  zone := h'.zone.trans h.zone
  holder := h'.holder.trans h.holder
  here := h'.here.trans h.here
  env := h'.env.trans h.env
  input := h'.input.trans h.input

theorem Becomes.mono (h : w.Becomes E w') (hE : ∀ e, E e → E' e) : w.Becomes E' w' where
  log := by
    obtain ⟨t, hlog, ht⟩ := h.log
    exact ⟨t, hlog, fun e he => hE e (ht e he)⟩
  store key hkey := h.store key fun a ha => hkey a (hE _ ha)
  files hread := h.files fun a ha => hread a (hE _ ha)
  now := h.now
  started := h.started
  zone := h.zone
  holder := h.holder
  here := h.here
  env := h.env
  input := h.input

theorem becomes_host (w : World σ) (host : σ) : w.Becomes E { w with host } :=
  ⟨⟨[], rfl, by simp⟩, fun _ _ => rfl, fun _ => rfl, Nat.le_refl _, rfl, rfl, rfl, rfl, rfl, rfl⟩

theorem becomes_later (w : World σ) (d : Span) : w.Becomes E (w.later d) :=
  ⟨⟨[], rfl, by simp⟩, fun _ _ => rfl, fun _ => rfl, Nat.le_add_right _ _, rfl, rfl, rfl, rfl, rfl, rfl⟩

theorem becomes_note (w : World σ) {e : Event} (he : E e) : w.Becomes E (w.note e) :=
  ⟨⟨[e], rfl, by simpa using he⟩, fun _ _ => rfl, fun _ => rfl, Nat.le_refl _, rfl, rfl, rfl, rfl, rfl, rfl⟩

theorem Becomes.since (h : w.Becomes E w') : ∀ e ∈ w'.since w, E e := by
  obtain ⟨t, hlog, ht⟩ := h.log
  rw [since_eq hlog]
  exact ht

/-- What was done does not depend on what was done before. -/
theorem Becomes.since_amid (h : w.Becomes E w') (past : List Event) (store store' : Table Json) :
    (w'.amid past store').since (w.amid past store) = w'.since w := by
  obtain ⟨t, hlog, -⟩ := h.log
  have hlog' : (w'.amid past store').log = t.reverse ++ (w.amid past store).log := by
    have hamid : (w'.amid past store').log = w'.log ++ past := rfl
    rw [hamid, hlog, List.append_assoc]
    rfl
  rw [since_eq hlog, since_eq hlog']

/-- Where documents are looked up at most, all of them stay. -/
theorem Becomes.store_eq (h : w.Becomes E w') (hE : ∀ a, E (.access a true) → a.looks = true) : w'.store = w.store := by
  refine Table.ext_get? fun key => h.store key fun a ha hlooks => ?_
  rw [hE a ha] at hlooks
  cases hlooks

/-- Where documents are looked up at most, the way between the worlds is told by a trace. -/
theorem Becomes.leads (h : w.Becomes E w') (hE : ∀ a, E (.access a true) → a.looks = true) :
    ∃ t, w.Leads t w' ∧ ∀ e ∈ t, E e := by
  obtain ⟨t, hlog, ht⟩ := h.log
  have hreplay : ∀ store, Store.replay store t = store := by
    clear hlog
    induction t with
    | nil => exact fun _ => rfl
    | cons e t ih =>
      intro store
      have hsame : e.applyTo store = store := by
        have he : E e := ht e List.mem_cons_self
        cases e with
        | access a granted =>
          cases granted with
          | false => cases a <;> rfl
          | true =>
            have hlooks := hE a he
            cases a with
            | get key => rfl
            | put key value => cases hlooks
            | delete key => cases hlooks
        | _ => rfl
      rw [Store.replay_cons, hsame]
      exact ih (fun e' he' => ht e' (List.mem_cons_of_mem e he')) store
  exact ⟨t, ⟨hlog, by rw [hreplay, h.store_eq hE], h.now, h.started, h.here⟩, ht⟩

/-- Between two worlds the files stayed as they were, and so did the current directory. -/
structure Stays (w w' : World σ) : Prop where
  files : w'.files = w.files
  here : w'.here = w.here

theorem Stays.trans (h : w.Stays w') (h' : w'.Stays w'') : w.Stays w'' :=
  ⟨h'.files.trans h.files, h'.here.trans h.here⟩

/-- Where files are read at most, all of them stay. -/
theorem Becomes.stays (h : w.Becomes Event.Reads w') : w.Stays w' := by
  refine ⟨h.files fun a ha => ?_, h.here⟩
  obtain ⟨p, hp⟩ := ha
  cases hp
  rfl

end World

/-! ## Results -/

/-- Whatever `x` gives satisfies `P`. -/
def Act.Returns (P : α → Prop) (x : Act σ α) : Prop := ∀ w a, (x w).1 = .ok a → P a

namespace Act

variable {P : α → Prop} {Q : β → Prop} {x : Act σ α} {f : α → Act σ β}

theorem returns (x : Act σ α) : x.Returns fun _ => True := fun _ _ _ => trivial

theorem returns_pure {a : α} (h : P a) : (Pure.pure a : Act σ α).Returns P := by
  rintro w a' ha
  cases ha
  exact h

theorem returns_fail (e : Fault) : (fail e : Act σ α).Returns P := fun _ _ ha => nomatch ha

theorem Returns.bind (hx : x.Returns P) (hf : ∀ a, P a → (f a).Returns Q) : (x >>= f).Returns Q := by
  intro w b hb
  have hfirst := hx w
  rw [bind_apply] at hb
  generalize x w = y at hb hfirst
  obtain ⟨_ | a, w'⟩ := y
  · cases hb
  · exact hf a (hfirst a rfl) w' b hb

/-- What comes after an action need only be known for what the action gives. -/
theorem Returns.bind_congr {g : α → Act σ β} (hx : x.Returns P) (h : ∀ a, P a → f a = g a) :
    (x >>= f) = (x >>= g) := by
  funext w
  have hfirst := hx w
  rw [bind_apply, bind_apply]
  generalize x w = y at hfirst
  obtain ⟨_ | a, w'⟩ := y
  · rfl
  · exact congrFun (h a (hfirst a rfl)) w'

/-- Whatever `x` fails with satisfies `P`. -/
def Faults (P : Fault → Prop) (x : Act σ α) : Prop := ∀ w f, (x w).1 = .error f → P f

variable {P : Fault → Prop}

theorem Faults.mono {P' : Fault → Prop} (h : x.Faults P) (hP : ∀ f, P f → P' f) : x.Faults P' :=
  fun w f hf => hP f (h w f hf)

theorem Faults.bind (hx : x.Faults P) (hf : ∀ a, (f a).Faults P) : (x >>= f).Faults P := by
  intro w e he
  rcases bind_eq_error (x := x) (f := f) (Prod.ext he rfl) with hfirst | ⟨a, w₁, -, hsecond⟩
  · exact hx w e (congrArg Prod.fst hfirst)
  · exact hf a w₁ e (congrArg Prod.fst hsecond)

end Act

/-! ## Actions -/

/-- `x` does things of the kind `E` only, and what it does follows from the documents that `E` concerns. -/
structure Within (E : Event → Prop) (x : World σ → α × World σ) : Prop where
  becomes : ∀ w : World σ, w.Becomes E (x w).2
  blind : ∀ w past store, Store.Agree E w.store store →
    ∃ store', x (w.amid past store) = ((x w).1, (x w).2.amid past store') ∧ Store.Agree E (x w).2.store store'

/-- An action that does not look at documents. -/
theorem within_of_apart {x : World σ → α × World σ} (hbecomes : ∀ w : World σ, w.Becomes E (x w).2)
    (hapart : ∀ w past store, x (w.amid past store) = ((x w).1, (x w).2.amid past store))
    (hstore : ∀ w : World σ, (x w).2.store = w.store) : Within E x where
  becomes := hbecomes
  blind w past store hagree := by
    refine ⟨store, hapart w past store, ?_⟩
    rw [hstore]
    exact hagree

theorem within_idle (a : α) : Within E fun w : World σ => (a, w) :=
  within_of_apart (fun w => .refl w) (fun _ _ _ => rfl) fun _ => rfl

namespace Within

theorem mono {x : World σ → α × World σ} (h : Within E x) (hE : ∀ e, E e → E' e) : Within E' x where
  becomes w := (h.becomes w).mono hE
  blind w past store hagree := by
    obtain ⟨store', hx, hagree'⟩ := h.blind w past store fun a ha => hagree a (hE _ ha)
    refine ⟨store', hx, fun a ha => ?_⟩
    by_cases hconcerns : ∃ b, E (.access b true) ∧ b.key = a.key
    · obtain ⟨b, hb, hkey⟩ := hconcerns
      rw [← hkey]
      exact hagree' b hb
    · -- What the narrower kind does not concern is as it was, on both sides.
      have hother : ∀ b, E (.access b true) → b.looks = false → b.key ≠ a.key :=
        fun b hb _ hkey => hconcerns ⟨b, hb, hkey⟩
      have hkept := (h.becomes w).store a.key hother
      have hkept' := (h.becomes (w.amid past store)).store a.key hother
      rw [hx] at hkept'
      exact hkept'.trans ((hagree a ha).trans hkept.symm)

/-- One action after another, of which the second may count on a property of what the first gives. -/
theorem bind_of {x : Act σ α} {f : α → Act σ β} {P : α → Prop} (hx : Within E x) (hP : x.Returns P)
    (hf : ∀ a, P a → Within E (f a)) : Within E (x >>= f) where
  becomes w := by
    have hfirst := hx.becomes w
    have hgiven := hP w
    rw [Act.bind_apply]
    generalize x w = y at hfirst hgiven
    obtain ⟨_ | a, w'⟩ := y
    · exact hfirst
    · exact hfirst.trans ((hf a (hgiven a rfl)).becomes w')
  blind w past store hagree := by
    obtain ⟨store', hfirst, hagree'⟩ := hx.blind w past store hagree
    have hgiven := hP w
    rw [Act.bind_apply, Act.bind_apply, hfirst]
    generalize x w = y at hagree' hgiven
    obtain ⟨_ | a, w'⟩ := y
    · exact ⟨store', rfl, hagree'⟩
    · exact (hf a (hgiven a rfl)).blind w' past store' hagree'

theorem bind {x : Act σ α} {f : α → Act σ β} (hx : Within E x) (hf : ∀ a, Within E (f a)) : Within E (x >>= f) :=
  hx.bind_of x.returns fun a _ => hf a

/-- One thing after another, whatever the first amounts to. -/
theorem before {x : World σ → α × World σ} {f : α → World σ → β × World σ} (hx : Within E x) (hf : ∀ a, Within E (f a)) :
    Within E fun w => f (x w).1 (x w).2 where
  becomes w := (hx.becomes w).trans ((hf _).becomes _)
  blind w past store hagree := by
    obtain ⟨store', hfirst, hagree'⟩ := hx.blind w past store hagree
    rw [hfirst]
    exact (hf _).blind _ past store' hagree'

/-- What an action amounts to may be told in other words. -/
theorem map {x : World σ → α × World σ} (f : α → β) (hx : Within E x) : Within E fun w => (f (x w).1, (x w).2) :=
  hx.before fun a => within_idle (f a)

theorem attempt {x : Act σ α} (h : Within E x) : Within E x.attempt := h.map Except.ok

theorem mapFault {x : Act σ α} {f : Fault → Fault} (h : Within E x) : Within E (Act.mapFault f x) := by
  have hmap : Act.mapFault f x = fun w => ((x w).1.mapError f, (x w).2) := by
    funext w
    unfold Act.mapFault
    rcases x w with ⟨_ | a, w'⟩ <;> rfl
  rw [hmap]
  exact h.map (Except.mapError f)

/-- Documents that are of no concern do not count, nor does what was done before. -/
theorem blind_log {x : World σ → α × World σ} (h : Within E x) (w : World σ) (past : List Event) :
    x (w.amid past w.store) = ((x w).1, (x w).2.amid past (x w).2.store) := by
  obtain ⟨store', hx, hagree⟩ := h.blind w past w.store fun _ _ => rfl
  have hstore : store' = (x w).2.store := by
    refine Table.ext_get? fun key => ?_
    by_cases hconcerns : ∃ a, E (.access a true) ∧ a.key = key
    · obtain ⟨a, ha, rfl⟩ := hconcerns
      exact hagree a ha
    · have hother : ∀ a, E (.access a true) → a.looks = false → a.key ≠ key :=
        fun a ha _ hkey => hconcerns ⟨a, ha, hkey⟩
      have hkept' := (h.becomes (w.amid past w.store)).store key hother
      rw [hx] at hkept'
      exact hkept'.trans ((h.becomes w).store key hother).symm
  rw [hx, hstore]

/-- Of an action that looks documents up at most a trace tells. -/
theorem does {x : Act σ α} (h : Within E x) (hE : ∀ a, E (.access a true) → a.looks = true) : x.Does E := by
  intro w
  obtain ⟨t, hl, ht⟩ := (h.becomes w).leads hE
  exact ⟨t, hl, ht⟩

end Within

theorem within_pure (a : α) : Within E (Pure.pure a : Act σ α) := within_idle _

theorem within_fail (e : Fault) : Within E (Act.fail e : Act σ α) := within_idle _

theorem within_ofExcept (r : Except Fault α) : Within E (Act.ofExcept r : Act σ α) := within_idle _

/-- What is read off the world may be anything but its log and the documents that are of no concern. -/
theorem within_asks {f : World σ → α} (hf : ∀ w past store, Store.Agree E w.store store → f (w.amid past store) = f w) :
    Within E (Act.asks f) where
  becomes w := .refl w
  blind w past store hagree := by
    unfold Act.asks
    rw [hf w past store hagree]
    exact ⟨store, rfl, hagree⟩

theorem within_note {e : Event} (he : E e) : Within E (Act.note e : Act σ Unit) :=
  within_of_apart (fun w => w.becomes_note he) (fun _ _ _ => rfl) fun _ => rfl

theorem within_publish {text : String} (h : E (.status text)) : Within E (Act.publish text : Act σ Unit) :=
  within_note h

section Hosts

variable [Host σ]

theorem within_run {c : Command} (h : ∀ files, E (.command c files)) : Within E (Act.run c : Act σ _) := by
  refine within_of_apart (fun w => ?_) (fun _ _ _ => rfl) fun _ => rfl
  exact ((w.becomes_host _).trans (World.becomes_note _ (h w.files))).trans (World.becomes_later _ _)

/-- A call is answered by the host, and noted by those who ask. -/
theorem within_call (c : Call) : Within E (Act.call c : Act σ c.Answer) :=
  within_of_apart (fun w => (w.becomes_host _).trans (World.becomes_later _ _)) (fun _ _ _ => rfl) fun _ => rfl

theorem within_exchange {r : Http.Request} (h : E (.request r)) : Within E (Act.exchange r : Act σ _) :=
  within_of_apart (fun w => (w.becomes_host _).trans (World.becomes_note _ h)) (fun _ _ _ => rfl) fun _ => rfl

/-! ## Files -/

namespace Disk

theorem step_within {a : FileAction} (h : E (.file a)) : Within E (step a : Act σ _) := by
  refine within_of_apart (fun w => ?_) (fun w past store => ?_) fun w => ?_
  · have hnote := (w.becomes_host (E := E) (Host.disturb a w.host).2).trans (World.becomes_note _ h)
    -- A step that only reads changes no files, and only such steps are to be considered if `E` has no others.
    have hfiles : ∀ files, (a.looks = true → files = w.files) →
        w.Becomes E { { w with host := (Host.disturb a w.host).2 }.note (.file a) with files } :=
      fun files hlooks => ⟨hnote.log, hnote.store, fun hread => hlooks (hread a h), hnote.now, rfl, rfl, rfl, rfl, rfl, rfl⟩
    rw [step_apply]
    cases (Host.disturb a w.host).1 with
    | some d =>
      refine hfiles _ fun hlooks => ?_
      cases a with
      | read p => rfl
      | _ => cases hlooks
    | none =>
      cases happly : a.apply w.files w.here with
      | error e => exact hnote
      | ok files =>
        refine hfiles files fun hlooks => ?_
        cases a with
        | read p =>
          have hread : ((w.files.read w.here p).map fun _ => w.files) = .ok files := happly
          cases htext : w.files.read w.here p with
          | ok text =>
            rw [htext] at hread
            exact (Except.ok.inj hread).symm
          | error e =>
            rw [htext] at hread
            cases hread
        | _ => cases hlooks
  · have hhost : (w.amid past store).host = w.host := rfl
    have hfiles : (w.amid past store).files = w.files := rfl
    have hhere : (w.amid past store).here = w.here := rfl
    rw [step_apply, step_apply, hhost, hfiles, hhere]
    cases (Host.disturb a w.host).1 with
    | some d => rfl
    | none => cases a.apply w.files w.here <;> rfl
  · rw [step_apply]
    cases (Host.disturb a w.host).1 with
    | some d => rfl
    | none => cases a.apply w.files w.here <;> rfl

theorem fillBehind_within {p : Path} {text : String} (h : E (.file (.fill p text))) :
    Within E (fillBehind p text : Act σ _) where
  becomes w := (step_within h).becomes w
  blind w past store hagree := by
    obtain ⟨store', hstep, hagree'⟩ := (step_within h).blind w past store hagree
    refine ⟨store', ?_, hagree'⟩
    unfold fillBehind
    rw [hstep]
    rfl

omit [Host σ] in
theorem contains_within (p : Path) : Within E (contains p : Act σ Bool) := within_asks fun _ _ _ _ => rfl

theorem read_within {p : Path} (h : E (.file (.read p))) : Within E (read p : Act σ _) := by
  unfold read
  refine (step_within h).bind fun r => ?_
  split
  · exact within_pure _
  · exact within_asks fun _ _ _ _ => rfl

/-- A file whose text was read holds it, and is left as it is. -/
theorem read_eq_ok {w w' : World σ} {p : Path} {text : String} (h : read p w = (.ok (.ok text), w')) :
    w.files.read w.here p = .ok text ∧ w.Stays w' := by
  unfold read at h
  obtain ⟨r, w₁, hstep, hrest⟩ := Act.bind_eq_ok h
  have hstepped := (step_within (σ := σ) (E := Event.Reads) ⟨p, rfl⟩).becomes w
  rw [hstep] at hstepped
  have hstays := hstepped.stays
  cases r with
  | error e => cases hrest
  | ok _ =>
    have hread : w₁.files.read w₁.here p = .ok text := by
      have hasked := congrArg Prod.fst hrest
      exact Except.ok.inj hasked
    have hsame : w₁ = w' := congrArg Prod.snd hrest
    rw [hstays.files, hstays.here] at hread
    exact ⟨hread, hsame ▸ hstays⟩

theorem write_within (h : ∀ a, E (.file a)) (p : Path) (text : String) : Within E (write p text : Act σ _) := by
  unfold write
  refine (step_within (h _)).bind fun r => ?_
  split
  · exact within_pure _
  · exact step_within (h _)

theorem makeDirs_within (h : ∀ a, E (.file a)) (p : Path) : Within E (makeDirs p : Act σ _) := by
  have orThere_within (p : Path) (e : OsFault) : Within E (do
      if ← Act.asks fun w : World σ => w.files.containsDir w.here p then return .ok () else return .error e :
      Act σ (Except OsFault Unit)) := by
    refine (within_asks fun _ _ _ _ => rfl).bind fun there => ?_
    split
    · exact within_pure _
    · exact within_pure _
  unfold makeDirs
  induction p.lineage with
  | nil => exact within_pure _
  | cons p above ih =>
    unfold makeDirsIn
    split
    · exact within_pure _
    · refine (step_within (h _)).bind fun made => ?_
      split
      · exact within_pure _
      · refine ih.bind fun r => ?_
        split
        · exact within_pure _
        · refine (step_within (h _)).bind fun again => ?_
          split
          · exact within_pure _
          · exact orThere_within _ _
      · exact orThere_within _ _

end Disk

/-! ## Waits -/

omit [Host σ] in
/-- What every look keeps within, all of them keep within. -/
theorem Wait.until_within {look : Act σ (Except String α)} (h : Within E look) (p : Wait) (target expected : String) :
    Within E (p.until target expected look) := by
  have loop_within (started : Span) (n : Nat) : Within E (loop p target expected started look n) := by
    induction n with
    | zero =>
      constructor
      case becomes =>
        intro w
        have hlook := h.becomes w
        unfold loop
        generalize look w = y at hlook
        obtain ⟨_ | _ | _, w'⟩ := y <;> exact hlook
      case blind =>
        intro w past store hagree
        obtain ⟨store', hlook, hagree'⟩ := h.blind w past store hagree
        unfold loop
        rw [hlook]
        generalize look w = y at hagree'
        obtain ⟨_ | _ | _, w'⟩ := y <;> exact ⟨store', rfl, hagree'⟩
    | succ n ih =>
      constructor
      case becomes =>
        intro w
        have hlook := h.becomes w
        unfold loop
        generalize look w = y at hlook
        obtain ⟨_ | observed | _, w'⟩ := y
        · exact hlook
        · dsimp only
          split
          · exact hlook
          · exact (hlook.trans (World.becomes_later _ _)).trans (ih.becomes _)
        · exact hlook
      case blind =>
        intro w past store hagree
        obtain ⟨store', hlook, hagree'⟩ := h.blind w past store hagree
        unfold loop
        rw [hlook]
        generalize look w = y at hagree'
        obtain ⟨_ | observed | _, w'⟩ := y
        · exact ⟨store', rfl, hagree'⟩
        · have hnow : (w'.amid past store').now = w'.now := rfl
          dsimp only
          rw [hnow]
          split
          · exact ⟨store', rfl, hagree'⟩
          · exact ih.blind (w'.later p.delay) past store' hagree'
        · exact ⟨store', rfl, hagree'⟩
  refine ⟨fun w => ?_, fun w past store => ?_⟩
  · exact (loop_within _ _).becomes w
  · exact (loop_within _ _).blind w past store

end Hosts

end Rollout
