/-!
# Rollout.Table — tables keyed by text

A finite map from texts to values, listed by rising key.  Keys are compared by code point, which is also the
order of their UTF-8 bytes, so a listing is the order every report and every rendered file uses.

* `Entries`: the operations on plain member lists.  Their look-up laws hold of every list, sorted or not, so
  they serve the members of a JSON object as well.
* `Table`: a member list together with the proof that its keys rise.
* `Table.ext_get?`: a table is determined by what each key finds.
-/

namespace Rollout

universe u v

variable {α : Type u} {β : Type v}

/-! ## Member lists -/

namespace Entries

/-- The value of the first member with key `k`. -/
def get? (k : String) : List (String × α) → Option α
  | [] => none
  | (k', x) :: rest => if k = k' then some x else get? k rest

/-- Puts `x` under `k`: in place of the member found first, else before the first greater key. -/
def insert (k : String) (x : α) : List (String × α) → List (String × α)
  | [] => [(k, x)]
  | (k', x') :: rest =>
    if k < k' then (k, x) :: (k', x') :: rest
    else if k = k' then (k, x) :: rest
    else (k', x') :: insert k x rest

/-- Drops every member with key `k`. -/
def erase (k : String) (entries : List (String × α)) : List (String × α) :=
  entries.filter (fun e => !decide (e.1 = k))

/-- The keys rise strictly. -/
def Rising (entries : List (String × α)) : Prop :=
  entries.Pairwise (fun a b => a.1 < b.1)

theorem get?_insert_self (k : String) (x : α) (entries : List (String × α)) :
    get? k (insert k x entries) = some x := by
  induction entries with
  | nil => simp [insert, get?]
  | cons e rest ih =>
    obtain ⟨k', x'⟩ := e
    simp only [insert]
    split
    · simp [get?]
    · split
      · simp [get?]
      · rename_i hne
        simp [get?, hne, ih]

theorem get?_insert_of_ne {k k' : String} (h : k' ≠ k) (x : α) (entries : List (String × α)) :
    get? k' (insert k x entries) = get? k' entries := by
  induction entries with
  | nil => simp [insert, get?, h]
  | cons e rest ih =>
    obtain ⟨k₁, x₁⟩ := e
    simp only [insert]
    split
    · simp [get?, h]
    · split
      · rename_i heq
        subst heq
        simp [get?, h]
      · simp [get?, ih]

theorem mem_insert {k : String} {x : α} {e : String × α} {entries : List (String × α)}
    (h : e ∈ insert k x entries) : e = (k, x) ∨ e ∈ entries := by
  induction entries with
  | nil => simpa [insert] using h
  | cons e' rest ih =>
    obtain ⟨k', x'⟩ := e'
    simp only [insert] at h
    split at h <;> grind

theorem Rising.insert {entries : List (String × α)} (h : Rising entries) (k : String) (x : α) :
    Rising (insert k x entries) := by
  induction entries with
  | nil => simp [Entries.insert, Rising]
  | cons e rest ih =>
    obtain ⟨k', x'⟩ := e
    obtain ⟨hlt, hrest⟩ := List.pairwise_cons.mp h
    simp only [Entries.insert]
    split
    · rename_i hk
      refine List.pairwise_cons.mpr ⟨fun a ha => ?_, h⟩
      rcases List.mem_cons.mp ha with rfl | ha
      · exact hk
      · exact String.lt_trans hk (hlt a ha)
    · split
      · rename_i heq
        subst heq
        exact List.pairwise_cons.mpr ⟨hlt, hrest⟩
      · rename_i hk hne
        refine List.pairwise_cons.mpr ⟨fun a ha => ?_, ih hrest⟩
        rcases mem_insert ha with rfl | ha
        · exact Std.lt_of_le_of_ne (String.not_lt.mp hk) (Ne.symm hne)
        · exact hlt a ha

theorem Rising.erase {entries : List (String × α)} (h : Rising entries) (k : String) :
    Rising (erase k entries) :=
  List.Pairwise.filter _ h

/-- Below the head there is no smaller key. -/
theorem get?_eq_none_of_lt {k : String} {entries : List (String × α)} (h : ∀ e ∈ entries, k < e.1) :
    get? k entries = none := by
  induction entries with
  | nil => rfl
  | cons e rest ih =>
    obtain ⟨k', x'⟩ := e
    have hk : k ≠ k' := fun heq => String.lt_irrefl k' (heq ▸ h (k', x') List.mem_cons_self)
    simp only [get?, hk, if_false]
    exact ih fun e he => h e (List.mem_cons_of_mem _ he)

theorem Rising.mem_iff_get? {entries : List (String × α)} (h : Rising entries) (k : String) (x : α) :
    (k, x) ∈ entries ↔ get? k entries = some x := by
  induction entries with
  | nil => simp [get?]
  | cons e rest ih =>
    obtain ⟨k', x'⟩ := e
    obtain ⟨hlt, hrest⟩ := List.pairwise_cons.mp h
    by_cases hk : k = k'
    · subst hk
      constructor
      · intro hmem
        rcases List.mem_cons.mp hmem with heq | hmem
        · cases heq; simp [get?]
        · exact absurd (hlt _ hmem) (String.lt_irrefl _)
      · intro hget
        simp only [get?, if_true, Option.some.injEq] at hget
        simp [hget]
    · simp only [get?, hk, if_false, List.mem_cons, Prod.mk.injEq, false_and, false_or]
      exact ih hrest

/-- Two rising lists in which every key finds the same are the same list. -/
theorem Rising.ext {a b : List (String × α)} (ha : Rising a) (hb : Rising b)
    (h : ∀ k, get? k a = get? k b) : a = b := by
  induction a generalizing b with
  | nil =>
    cases b with
    | nil => rfl
    | cons e rest => have := h e.1; simp [get?] at this
  | cons e rest ih =>
    obtain ⟨k, x⟩ := e
    cases b with
    | nil => have := h k; simp [get?] at this
    | cons e' rest' =>
      obtain ⟨k', x'⟩ := e'
      obtain ⟨hlt, hrest⟩ := List.pairwise_cons.mp ha
      obtain ⟨hlt', hrest'⟩ := List.pairwise_cons.mp hb
      have hkk : k = k' := by
        by_cases hlt1 : k < k'
        · have h1 := h k
          have h2 : get? k ((k', x') :: rest') = none := get?_eq_none_of_lt fun e he => by
            rcases List.mem_cons.mp he with rfl | he
            · exact hlt1
            · exact String.lt_trans hlt1 (hlt' e he)
          rw [h2] at h1
          simp [get?] at h1
        · by_cases heq : k = k'
          · exact heq
          · have hlt2 : k' < k := Std.lt_of_le_of_ne (String.not_lt.mp hlt1) (Ne.symm heq)
            have h1 := h k'
            have h2 : get? k' ((k, x) :: rest) = none := get?_eq_none_of_lt fun e he => by
              rcases List.mem_cons.mp he with rfl | he
              · exact hlt2
              · exact String.lt_trans hlt2 (hlt e he)
            rw [h2] at h1
            simp [get?] at h1
      subst hkk
      have hx : x = x' := by have := h k; simpa [get?] using this
      subst hx
      congr 1
      refine ih hrest hrest' fun k₁ => ?_
      have h1 := h k₁
      by_cases hk : k₁ = k
      · subst hk
        rw [get?_eq_none_of_lt hlt, get?_eq_none_of_lt hlt']
      · simpa [get?, hk] using h1

end Entries

/-! ## Tables -/

/-- A finite map from texts to values: its members, listed by rising key. -/
structure Table (α : Type u) where
  entries : List (String × α)
  rising : Entries.Rising entries

namespace Table

instance [DecidableEq α] : DecidableEq (Table α) := fun a b =>
  decidable_of_iff (a.entries = b.entries) ⟨fun h => by cases a; cases b; cases h; rfl, fun h => h ▸ rfl⟩

/-- The table without members. -/
def empty : Table α := ⟨[], List.Pairwise.nil⟩

instance : EmptyCollection (Table α) := ⟨empty⟩
instance : Inhabited (Table α) := ⟨empty⟩

/-- The value under `k`. -/
def get? (t : Table α) (k : String) : Option α := Entries.get? k t.entries

/-- Whether a value stands under `k`. -/
def contains (t : Table α) (k : String) : Bool := (t.get? k).isSome

/-- Puts `x` under `k`, in place of what stood there. -/
def insert (t : Table α) (k : String) (x : α) : Table α :=
  ⟨Entries.insert k x t.entries, t.rising.insert k x⟩

/-- Removes what stands under `k`. -/
def erase (t : Table α) (k : String) : Table α :=
  ⟨Entries.erase k t.entries, t.rising.erase k⟩

/-- The keys, rising. -/
def keys (t : Table α) : List String := t.entries.map Prod.fst

/-- The values, by rising key. -/
def values (t : Table α) : List α := t.entries.map Prod.snd

/-- The number of members. -/
def size (t : Table α) : Nat := t.entries.length

def isEmpty (t : Table α) : Bool := t.entries.isEmpty

/-- `t` with every member of `more` put in, in the order listed: of two with one key the later stays. -/
def insertAll (t : Table α) (more : List (String × α)) : Table α :=
  more.foldl (fun t e => t.insert e.1 e.2) t

/-- The table of a member list; of two members with one key the later stays. -/
def ofList (entries : List (String × α)) : Table α := empty.insertAll entries

/-- The same keys, each value changed by `f`. -/
def map (f : α → β) (t : Table α) : Table β :=
  ⟨t.entries.map (fun e => (e.1, f e.2)), List.pairwise_map.mpr (by exact t.rising)⟩

/-- The members that satisfy `p`. -/
def filter (p : String → α → Bool) (t : Table α) : Table α :=
  ⟨t.entries.filter (fun e => p e.1 e.2), List.Pairwise.filter _ t.rising⟩

@[simp] theorem get?_empty (k : String) : (empty : Table α).get? k = none := rfl

@[simp] theorem get?_insert_self (t : Table α) (k : String) (x : α) : (t.insert k x).get? k = some x :=
  Entries.get?_insert_self k x t.entries

theorem get?_insert_of_ne (t : Table α) {k k' : String} (h : k' ≠ k) (x : α) :
    (t.insert k x).get? k' = t.get? k' :=
  Entries.get?_insert_of_ne h x t.entries

theorem get?_insert (t : Table α) (k k' : String) (x : α) :
    (t.insert k x).get? k' = if k' = k then some x else t.get? k' := by
  by_cases h : k' = k
  · subst h; simp
  · simp [h, get?_insert_of_ne]

@[simp] theorem get?_erase_self (t : Table α) (k : String) : (t.erase k).get? k = none := by
  simp only [get?, erase, Entries.erase]
  induction t.entries with
  | nil => rfl
  | cons e rest ih =>
    by_cases h : e.1 = k
    · simp [h, ih]
    · simp [h, Entries.get?, Ne.symm h, ih]

theorem get?_erase_of_ne (t : Table α) {k k' : String} (h : k' ≠ k) : (t.erase k).get? k' = t.get? k' := by
  simp only [get?, erase, Entries.erase]
  induction t.entries with
  | nil => rfl
  | cons e rest ih =>
    by_cases he : e.1 = k
    · have hk : k' ≠ e.1 := fun heq => h (heq.trans he)
      simp [he, Entries.get?, h, ih]
    · simp [he, Entries.get?, ih]

/-- A table is determined by what each key finds. -/
theorem ext_get? {a b : Table α} (h : ∀ k, a.get? k = b.get? k) : a = b := by
  obtain ⟨ea, ha⟩ := a
  obtain ⟨eb, hb⟩ := b
  have : ea = eb := ha.ext hb h
  subst this
  rfl

theorem mem_entries_iff (t : Table α) (k : String) (x : α) : (k, x) ∈ t.entries ↔ t.get? k = some x :=
  t.rising.mem_iff_get? k x

end Table

end Rollout
