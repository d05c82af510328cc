import Mathlib.Logic.Function.Basic
import Rollout.Proofs.Trace
import Rollout.Registry.Basic

/-!
# Rollout.Proofs.Registry.Answers — what a registry has to answer

What a request is answered depends on the earlier requests with the same key alone: a key holds the document stored
last, unless it was removed since.  A registry that keeps a table of what the keys hold, in whatever form, answers so.

* `Registry.Op`, `Registry.replies`: rows of requests and the replies to them.
* `Registry.answers`: the replies that the requests alone determine.
* `Registry.Keeps`: a registry keeps a table in some form; one law for each of the three accesses.
* `Registry.Keeps.replies_eq`: then its replies are those determined.
* `Registry.shared_keeps`: the shared store keeps one.
-/

namespace Rollout.Registry

/-- A request to a registry. -/
inductive Op
  | get (key : String)
  | put (key : String) (value : Json)
  | delete (key : String)
  | deleteIfPresent (key : String)
  | update (key : String) (value : Json)

/-- What a request gives back when it succeeds. -/
inductive Reply
  | found (document : Option Json)
  | done
  | removed (present : Bool)

namespace Op

def key : Op → String
  | get key | put key _ | delete key | deleteIfPresent key | update key _ => key

/-- The document that is stored. -/
def stored? : Op → Option Json
  | put _ value => some value
  | update _ value => some value.sort
  | get _ | delete _ | deleteIfPresent _ => none

/-- What the key of a request holds after it, given what it held before. -/
def leaves (held : Option Json) : Op → Option Json
  | get _ => held
  | put _ value => some value
  | update _ value => some value.sort
  | delete _ | deleteIfPresent _ => none

/-- The reply to a request, given what its key holds. -/
def answer (held : Option Json) : Op → Except Fault Reply
  | get _ => .ok (.found held)
  | put .. | update .. => .ok .done
  | delete key => if held.isSome then .ok .done else .error (.registry (.notFound key))
  | deleteIfPresent _ => .ok (.removed held.isSome)

end Op

/-- What holds of the documents under all keys holds after a change under one key. -/
theorem forall_update {h : String → Option Json} {P : Json → Prop} {key : String} {held : Option Json}
    (hall : ∀ key value, h key = some value → P value) (hheld : ∀ value, held = some value → P value) :
    ∀ key' value, Function.update h key held key' = some value → P value := by
  intro key' value hvalue
  by_cases heq : key' = key
  · subst heq
    rw [Function.update_self] at hvalue
    exact hheld value hvalue
  · rw [Function.update_of_ne heq] at hvalue
    exact hall key' value hvalue

/-- What a key holds after a history; only the requests with this key count. -/
def held (key : String) (history : List Op) : Option Json :=
  (history.filter fun op => op.key = key).foldl Op.leaves none

/-- The replies to requests that are made after a history. -/
def answers (history : List Op) : List Op → List (Except Fault Reply)
  | [] => []
  | op :: ops => op.answer (held op.key history) :: answers (history ++ [op]) ops

theorem answers_cons (history : List Op) (op : Op) (ops : List Op) :
    answers history (op :: ops) = op.answer (held op.key history) :: answers (history ++ [op]) ops := rfl

theorem held_append (history : List Op) (op : Op) : (fun key => held key (history ++ [op])) =
    Function.update (fun key => held key history) op.key (op.leaves (held op.key history)) := by
  funext key
  unfold held
  rw [List.filter_append, List.foldl_append]
  by_cases h : key = op.key
  · subst h
    simp
  · rw [Function.update_of_ne h]
    simp [Ne.symm h]

/-- What is answered under a key is what would be answered if there were no other keys. -/
theorem answers_filter (key : String) (history ops : List Op) :
    (ops.zip (answers history ops)).filter (fun p => p.1.key = key) =
      (ops.filter fun op => op.key = key).zip
        (answers (history.filter fun op => op.key = key) (ops.filter fun op => op.key = key)) := by
  induction ops generalizing history with
  | nil => rfl
  | cons op ops ih =>
    have hrest := ih (history ++ [op])
    rw [answers_cons, List.zip_cons_cons]
    by_cases hkey : op.key = key
    · have hheld : held op.key (history.filter fun op => op.key = key) = held op.key history := by
        unfold held
        rw [List.filter_filter, hkey]
        simp
      rw [List.filter_append, List.filter_cons_of_pos (by simpa using hkey), List.filter_nil] at hrest
      rw [List.filter_cons_of_pos (by simpa using hkey), List.filter_cons_of_pos (by simpa using hkey), hrest]
      rw [answers_cons, hheld, List.zip_cons_cons]
    · rw [List.filter_append, List.filter_cons_of_neg (by simpa using hkey), List.filter_nil, List.append_nil] at hrest
      rw [List.filter_cons_of_neg (by simpa using hkey), List.filter_cons_of_neg (by simpa using hkey), hrest]

/-! ## Registries -/

section Replies

variable {σ : Type} [Host σ]

/-- Makes a request. -/
def perform (r : Registry) : Op → Act σ Reply
  | .get key => do return .found (← r.get key)
  | .put key value => do
    r.put key value
    return .done
  | .delete key => do
    r.delete key
    return .done
  | .deleteIfPresent key => do return .removed (← r.deleteIfPresent key)
  | .update key value => do
    r.update key value
    return .done

/-- Makes requests, one after another, whether they succeed or not. -/
def replies (r : Registry) : List Op → World σ → List (Except Fault Reply) × World σ
  | [], w => ([], w)
  | op :: ops, w =>
    let (reply, w) := r.perform op w
    let (others, w) := r.replies ops w
    (reply :: others, w)

/-- A registry keeps, in the form `Rep`, a table of what the keys hold, as far as keys satisfy `K` and documents
satisfy `V`. -/
structure Keeps (r : Registry) (K : String → Prop) (V : Json → Prop)
    (Rep : (String → Option Json) → World σ → Prop) : Prop where
  get : ∀ {h w} key, K key → Rep h w → ∃ w', r.get key w = (.ok (h key), w') ∧ Rep h w'
  put : ∀ {h w} key {value}, K key → V value → Rep h w →
    ∃ w', r.put key value w = (.ok (), w') ∧ Rep (Function.update h key (some value)) w'
  delete : ∀ {h w} key, K key → (h key).isSome → Rep h w →
    ∃ w', r.delete key w = (.ok (), w') ∧ Rep (Function.update h key none) w'
  delete_absent : ∀ {h w} key, K key → h key = none → Rep h w →
    ∃ w', r.delete key w = (.error (.registry (.notFound key)), w') ∧ Rep h w'

variable {r : Registry} {K : String → Prop} {V : Json → Prop} {Rep : (String → Option Json) → World σ → Prop}

theorem deleteIfPresent_of_ok {key : String} {w w' : World σ} (h : r.delete key w = (.ok (), w')) :
    r.deleteIfPresent key w = (.ok true, w') := by
  unfold deleteIfPresent
  rw [Act.bind_apply]
  unfold Act.attempt
  rw [h]
  rfl

theorem deleteIfPresent_of_notFound {key : String} {w w' : World σ}
    (h : r.delete key w = (.error (.registry (.notFound key)), w')) :
    r.deleteIfPresent key w = (.ok false, w') := by
  unfold deleteIfPresent
  rw [Act.bind_apply]
  unfold Act.attempt
  rw [h]
  rfl

/-- A request is answered by what its key holds, and only what this key holds is changed. -/
theorem Keeps.perform_eq (hkeeps : r.Keeps K V Rep) {h : String → Option Json} {w : World σ} (op : Op)
    (hkey : K op.key) (hvalue : ∀ value, op.stored? = some value → V value) (hrep : Rep h w) :
    ∃ w', r.perform op w = (op.answer (h op.key), w') ∧
      Rep (Function.update h op.key (op.leaves (h op.key))) w' := by
  have hsame {key : String} {w' : World σ} (hnone : h key = none) (hrep' : Rep h w') :
      Rep (Function.update h key none) w' := by
    rwa [← hnone, Function.update_eq_self]
  cases op with
  | get key =>
    obtain ⟨w', hget, hrep'⟩ := hkeeps.get key hkey hrep
    refine ⟨w', ?_, ?_⟩
    · rw [perform, Act.bind_of_ok hget]
      rfl
    · have hunchanged : Function.update h key (h key) = h := Function.update_eq_self key h
      exact hunchanged.symm ▸ hrep'
  | put key value =>
    obtain ⟨w', hput, hrep'⟩ := hkeeps.put key hkey (hvalue value rfl) hrep
    refine ⟨w', ?_, hrep'⟩
    rw [perform, Act.bind_of_ok hput]
    rfl
  | update key value =>
    obtain ⟨w', hput, hrep'⟩ := hkeeps.put key hkey (hvalue value.sort rfl) hrep
    refine ⟨w', ?_, hrep'⟩
    rw [perform, update, Act.bind_of_ok hput]
    rfl
  | delete key =>
    rw [perform, Act.bind_apply]
    cases hheld : h key with
    | none =>
      obtain ⟨w', hdelete, hrep'⟩ := hkeeps.delete_absent key hkey hheld hrep
      refine ⟨w', ?_, hsame hheld hrep'⟩
      rw [hdelete]
      simp [Op.answer, Op.key, hheld]
    | some value =>
      obtain ⟨w', hdelete, hrep'⟩ := hkeeps.delete key hkey (Option.isSome_of_eq_some hheld) hrep
      refine ⟨w', ?_, hrep'⟩
      rw [hdelete]
      simp [Op.answer, Op.key, hheld]
      rfl
  | deleteIfPresent key =>
    rw [perform, Act.bind_apply]
    cases hheld : h key with
    | none =>
      obtain ⟨w', hdelete, hrep'⟩ := hkeeps.delete_absent key hkey hheld hrep
      refine ⟨w', ?_, hsame hheld hrep'⟩
      rw [deleteIfPresent_of_notFound hdelete]
      simp [Op.answer, Op.key, hheld]
      rfl
    | some value =>
      obtain ⟨w', hdelete, hrep'⟩ := hkeeps.delete key hkey (Option.isSome_of_eq_some hheld) hrep
      refine ⟨w', ?_, hrep'⟩
      rw [deleteIfPresent_of_ok hdelete]
      simp [Op.answer, Op.key, hheld]
      rfl

/-- The replies are those that the requests determine. -/
theorem Keeps.replies_eq (hkeeps : r.Keeps K V Rep) (history ops : List Op) {w : World σ}
    (hkeys : ∀ op ∈ ops, K op.key) (hvalues : ∀ op ∈ ops, ∀ value, op.stored? = some value → V value)
    (hrep : Rep (fun key => held key history) w) : (r.replies ops w).1 = answers history ops := by
  induction ops generalizing history w with
  | nil => rfl
  | cons op ops ih =>
    obtain ⟨w', hperform, hrep'⟩ := hkeeps.perform_eq op (hkeys op List.mem_cons_self)
      (hvalues op List.mem_cons_self) hrep
    rw [← held_append] at hrep'
    have hrest := ih (history ++ [op]) (fun op hop => hkeys op (List.mem_cons_of_mem _ hop))
      (fun op hop => hvalues op (List.mem_cons_of_mem _ hop)) hrep'
    unfold replies
    rw [hperform, answers_cons]
    exact congrArg _ hrest

/-! ## The shared store -/

omit [Host σ] in
theorem noted_of_ok {α : Type} {x : Act σ α} {a : α} {w w' : World σ} (access : Access) (h : x w = (.ok a, w')) :
    noted access x w = (.ok a, w'.note (.access access true)) := by
  unfold noted
  rw [h]

omit [Host σ] in
theorem noted_of_error {α : Type} {x : Act σ α} {f : Fault} {w w' : World σ} (access : Access)
    (h : x w = (.error f, w')) : noted access x w = (.error f, w'.note (.access access false)) := by
  unfold noted
  rw [h]

/-- The shared store keeps the table that it is, if the host refuses no access. -/
theorem shared_keeps (endpoint : Option String) (hgrants : ∀ (a : Access) (s : σ), (Host.refuse a s).1 = none) :
    (shared endpoint).Keeps (fun _ => True) (fun _ => True) fun h (w : World σ) => ∀ key, w.store.get? key = h key where
  get {h w} key _ hrep := by
    have hget : Store.get key w = (.ok (h key), { w with host := (Host.refuse (.get key) w.host).2 }) := by
      unfold Store.get Store.access
      dsimp only
      rw [hgrants]
      exact congrArg (fun found => (Except.ok found, _)) (hrep key)
    exact ⟨_, noted_of_ok _ hget, hrep⟩
  put {h w} key value _ _ hrep := by
    have hput : Store.put key value w = (.ok (), { w with
        host := (Host.refuse (.put key value) w.host).2
        store := w.store.insert key value }) := by
      unfold Store.put Store.access
      dsimp only
      rw [hgrants]
    refine ⟨_, noted_of_ok _ hput, fun k => ?_⟩
    by_cases hk : k = key
    · subst hk
      rw [Function.update_self]
      exact Table.get?_insert_self _ _ _
    · rw [Function.update_of_ne hk, ← hrep k]
      exact Table.get?_insert_of_ne _ hk _
  delete {h w} key _ hheld hrep := by
    have hcontains : w.store.contains key = true := by rwa [Table.contains, hrep key]
    have hdelete : Store.delete key w = (.ok (), { w with
        host := (Host.refuse (.delete key) w.host).2
        store := w.store.erase key }) := by
      unfold Store.delete Store.access
      dsimp only
      rw [hgrants]
      exact if_pos hcontains
    refine ⟨_, noted_of_ok _ hdelete, fun k => ?_⟩
    by_cases hk : k = key
    · subst hk
      rw [Function.update_self]
      exact Table.get?_erase_self _ _
    · rw [Function.update_of_ne hk, ← hrep k]
      exact Table.get?_erase_of_ne _ hk
  delete_absent {h w} key _ hnone hrep := by
    have hcontains : ¬ w.store.contains key = true := by simp [Table.contains, hrep key, hnone]
    have hdelete : Store.delete key w =
        (.error (.registry (.notFound key)), { w with host := (Host.refuse (.delete key) w.host).2 }) := by
      unfold Store.delete Store.access
      dsimp only
      rw [hgrants]
      exact if_neg hcontains
    exact ⟨_, noted_of_error _ hdelete, hrep⟩

end Replies

end Rollout.Registry
