import Mathlib.Data.List.TakeWhile
import Rollout.Proofs.Names

/-!
# Rollout.Proofs.Path — joins and parents of paths

Whether a path is absolute shows in its first character, which joining and going up leave in place.

* `Path.isAbsolute_join`, `Path.isAbsolute_of_parent?`: which paths are absolute.
* `Path.join_join`: when it makes no difference to join a path to the same directory twice.
* `FileTree.exists_parent?_of_read`: a path that leads to a file has a parent.
* `FileTree.locate_of_isAbsolute`: an absolute path leads to the same place from everywhere.
-/

namespace Rollout

namespace Path

variable {a b p q : Path}

/-! ## Joins -/

theorem join_of_isAbsolute (a : Path) (h : b.isAbsolute = true) : a.join b = b := by
  unfold join
  rw [if_pos h]

theorem empty_join (b : Path) : join "" b = b := by
  unfold join
  split
  · rfl
  · rw [if_pos rfl]

/-- A join to a directory that counts is the directory, a slash at most, and the path. -/
theorem join_eq_append (ha : a ≠ "") (hb : ¬ b.isAbsolute = true) :
    ∃ slash : String, a.join b = a ++ (slash ++ b) := by
  unfold join
  rw [if_neg hb, if_neg ha]
  split
  · exact ⟨"", by rw [String.empty_append]⟩
  · exact ⟨"/", by rw [String.append_assoc]⟩

theorem isAbsolute_append (ha : a ≠ "") (b : String) : isAbsolute (a ++ b) = isAbsolute a := by
  have hlist : a.toList ≠ [] := by simpa using ha
  unfold isAbsolute
  rw [String.toList_append, List.head?_append_of_ne_nil _ hlist]

theorem isAbsolute_join (a b : Path) : (a.join b).isAbsolute = (a.isAbsolute || b.isAbsolute) := by
  by_cases hb : b.isAbsolute = true
  · rw [join_of_isAbsolute a hb, hb, Bool.or_true]
  · by_cases ha : a = ""
    · rw [ha, empty_join]
      rfl
    · obtain ⟨slash, hjoin⟩ := join_eq_append ha hb
      rw [hjoin, isAbsolute_append ha, Bool.eq_false_iff.mpr hb, Bool.or_false]

/-- It makes no difference to join a path twice if it is absolute, or the directory is, or there is no directory. -/
theorem join_join (a b : Path) : a.join (a.join b) = a.join b ↔ b.isAbsolute = true ∨ a.isAbsolute = true ∨ a = "" := by
  constructor
  · intro htwice
    by_contra hnone
    simp only [not_or] at hnone
    obtain ⟨hb, ha, hempty⟩ := hnone
    have hjoined : ¬ (a.join b).isAbsolute = true := by
      rw [isAbsolute_join, Bool.eq_false_iff.mpr ha, Bool.eq_false_iff.mpr hb]
      exact Bool.false_ne_true
    obtain ⟨slash, hjoin⟩ := join_eq_append hempty hjoined
    -- The second join makes the path longer.
    have hlength : (a.join b).length = a.length + (slash.length + (a.join b).length) := by
      conv_lhs => rw [← htwice, hjoin]
      rw [String.length_append, String.length_append]
    have hpositive : 0 < a.length := by
      refine Nat.pos_of_ne_zero fun hzero => hempty ?_
      simpa using hzero
    omega
  · rintro (hb | ha | rfl)
    · rw [join_of_isAbsolute a hb, join_of_isAbsolute a hb]
    · exact join_of_isAbsolute a (by rw [isAbsolute_join, ha, Bool.true_or])
    · rw [empty_join]

/-! ## Parents -/

theorem dropIdle_suffix (fuel : ℕ) (rev : List Char) : dropIdle fuel rev <:+ rev := by
  fun_induction dropIdle fuel rev with
  | case1 rev => exact List.suffix_refl _
  | case2 fuel => exact List.suffix_refl _
  | case3 fuel rest hrest ih => exact ih.trans (List.suffix_cons _ _)
  | case4 fuel rest ih => exact ih.trans (List.suffix_cons _ _)
  | case5 fuel rev _ _ => exact List.suffix_refl _

theorem dropIdle_ne_nil (fuel : ℕ) (rev : List Char) (h : rev ≠ []) : dropIdle fuel rev ≠ [] := by
  fun_induction dropIdle fuel rev with
  | case1 rev => exact h
  | case2 fuel => exact h
  | case3 fuel rest hrest ih => exact ih hrest
  | case4 fuel rest ih => exact ih (List.cons_ne_nil _ _)
  | case5 fuel rev _ _ => exact h

theorem getLast?_of_suffix {l l' : List Char} (h : l <:+ l') (hne : l ≠ []) : l'.getLast? = l.getLast? := by
  obtain ⟨front, rfl⟩ := h
  exact List.getLast?_append_of_ne_nil front hne

/-- A reversed path at whose end nothing is idle. -/
def Trimmed (rev : List Char) : Prop := rev.head? ≠ some '/' ∧ ∀ rest, rev ≠ '.' :: '/' :: rest

/-- All that is idle is dropped, but for the slash at the start. -/
theorem trimmed_dropIdle (fuel : ℕ) (rev : List Char) (hfuel : rev.length ≤ fuel) :
    dropIdle fuel rev = ['/'] ∨ Trimmed (dropIdle fuel rev) := by
  fun_induction dropIdle fuel rev with
  | case1 rev =>
    obtain rfl := List.eq_nil_of_length_eq_zero (Nat.le_zero.mp hfuel)
    exact .inr ⟨by simp, by simp⟩
  | case2 fuel => exact .inl rfl
  | case3 fuel rest hrest ih =>
    rw [List.length_cons] at hfuel
    exact ih (by omega)
  | case4 fuel rest ih =>
    rw [List.length_cons] at hfuel
    exact ih (by omega)
  | case5 fuel rev hzero hslash hdot =>
    obtain ⟨n, hn⟩ := Nat.exists_eq_succ_of_ne_zero hzero
    refine .inr ⟨fun hhead => ?_, fun rest => hdot n rest hn⟩
    obtain ⟨rest, hrest⟩ := List.head?_eq_some_iff.mp hhead
    exact hslash n rest hn hrest

/-- The reversed path of the parent: what is idle is dropped before the last component and after it. -/
theorem exists_of_parentRev? {rev above : List Char} (h : parentRev? rev = some above) :
    ∃ fuel kept, kept = dropIdle rev.length rev ∧ kept ≠ [] ∧ Trimmed kept ∧
      above = dropIdle fuel (kept.dropWhile (· ≠ '/')) := by
  have htrimmed := trimmed_dropIdle rev.length rev (Nat.le_refl _)
  unfold parentRev? at h
  split at h
  · cases h
  · cases h
  · rename_i hnil hslash
    exact ⟨_, _, rfl, hnil, htrimmed.resolve_left hslash, (Option.some.inj h).symm⟩

theorem parentRev?_suffix {rev above : List Char} (h : parentRev? rev = some above) : above <:+ rev := by
  obtain ⟨fuel, kept, rfl, -, -, rfl⟩ := exists_of_parentRev? h
  exact ((dropIdle_suffix _ _).trans (List.dropWhile_suffix _)).trans (dropIdle_suffix _ _)

/-- Going up leaves the first character of a path in place, as far as it can be a slash. -/
theorem getLast?_parentRev? {rev above : List Char} (h : parentRev? rev = some above) :
    above.getLast? = some '/' ↔ rev.getLast? = some '/' := by
  have habove := parentRev?_suffix h
  obtain ⟨fuel, kept, hkept, hnil, -, rfl⟩ := exists_of_parentRev? h
  have hsuffix : kept <:+ rev := hkept ▸ dropIdle_suffix _ _
  constructor
  · intro hslash
    have hne : dropIdle fuel (kept.dropWhile (· ≠ '/')) ≠ [] := by
      intro hnil
      rw [hnil] at hslash
      cases hslash
    rw [getLast?_of_suffix habove hne]
    exact hslash
  · intro hslash
    have hlast := getLast?_of_suffix hsuffix hnil
    have hne : kept.dropWhile (· ≠ '/') ≠ [] := by
      intro hnil
      have hmem : '/' ∈ kept := List.mem_of_getLast? (hlast.symm.trans hslash)
      simpa using List.dropWhile_eq_nil_iff.mp hnil '/' hmem
    rw [← getLast?_of_suffix habove (dropIdle_ne_nil _ _ hne)]
    exact hslash

theorem isAbsolute_eq_getLast? (p : Path) : p.isAbsolute = decide (p.toList.reverse.getLast? = some '/') := by
  unfold isAbsolute
  rw [List.getLast?_reverse]

/-- The parent of a path is absolute if and only if the path is. -/
theorem isAbsolute_of_parent? (h : p.parent? = some q) : q.isAbsolute = p.isAbsolute := by
  obtain ⟨rev, hrev, rfl⟩ := Option.map_eq_some_iff.mp h
  rw [isAbsolute_eq_getLast?, isAbsolute_eq_getLast?, String.toList_ofList, List.reverse_reverse]
  exact decide_eq_decide.mpr (getLast?_parentRev? hrev)

/-! ## Paths without a parent -/

/-- A piece of a path that leads nowhere else. -/
def Idle (piece : List Char) : Prop := piece = [] ∨ piece = ['.']

/-- Where nothing but idle pieces is dropped, all pieces are idle. -/
theorem idle_of_dropIdle (fuel : ℕ) (rev : List Char) (hfuel : rev.length ≤ fuel)
    (h : dropIdle fuel rev = [] ∨ dropIdle fuel rev = ['/']) : ∀ piece ∈ Text.splitAt '/' rev.reverse, Idle piece := by
  fun_induction dropIdle fuel rev with
  | case1 rev =>
    obtain rfl := List.eq_nil_of_length_eq_zero (Nat.le_zero.mp hfuel)
    simp [Text.splitAt, Idle]
  | case2 fuel => simp [Text.splitAt, Idle]
  | case3 fuel rest hrest ih =>
    rw [List.length_cons] at hfuel
    rw [List.reverse_cons, Text.splitAt_append]
    intro piece hpiece
    rcases List.mem_append.mp hpiece with hpiece | hpiece
    · exact ih (by omega) h piece hpiece
    · exact .inl (by simpa [Text.splitAt] using hpiece)
  | case4 fuel rest ih =>
    rw [List.length_cons] at hfuel
    have hrest := ih (by omega) h
    rw [List.reverse_cons, Text.splitAt_append] at hrest
    have hreverse : ('.' :: '/' :: rest).reverse = rest.reverse ++ '/' :: ['.'] := by simp
    rw [hreverse, Text.splitAt_append]
    intro piece hpiece
    rcases List.mem_append.mp hpiece with hpiece | hpiece
    · exact hrest piece (List.mem_append_left _ hpiece)
    · exact .inr (by simpa [Text.splitAt] using hpiece)
  | case5 fuel rev hslash hdot =>
    rcases h with rfl | rfl
    · simp [Text.splitAt, Idle]
    · simp [Text.splitAt, Idle]

theorem dropIdle_of_parent? (h : p.parent? = none) :
    dropIdle p.toList.reverse.length p.toList.reverse = [] ∨
      dropIdle p.toList.reverse.length p.toList.reverse = ['/'] := by
  have hrev : parentRev? p.toList.reverse = none := Option.map_eq_none_iff.mp h
  unfold parentRev? at hrev
  split at hrev
  · rename_i hnil
    exact .inl hnil
  · rename_i hslash
    exact .inr hslash
  · cases hrev

theorem idle_of_parent? (h : p.parent? = none) : ∀ piece ∈ Text.splitAt '/' p.toList, Idle piece := by
  have hpieces := idle_of_dropIdle _ _ (Nat.le_refl _) (dropIdle_of_parent? h)
  rwa [List.reverse_reverse] at hpieces

/-- A path without a parent is empty or absolute. -/
theorem isAbsolute_of_parent?_none (h : p.parent? = none) (hp : p ≠ "") : p.isAbsolute = true := by
  have hrev : p.toList.reverse ≠ [] := by simpa using hp
  have hkept := dropIdle_ne_nil p.toList.reverse.length _ hrev
  rcases dropIdle_of_parent? h with hnil | hslash
  · exact absurd hnil hkept
  · have hlast := getLast?_of_suffix (dropIdle_suffix _ _) hkept
    rw [isAbsolute_eq_getLast?, hlast, hslash]
    rfl

end Path

namespace FileTree

variable {t : FileTree} {here here' : String} {p : Path}

/-- An absolute path leads to the same place from everywhere. -/
theorem locate_of_isAbsolute (h : p.isAbsolute = true) (here here' : String) : t.locate here p = t.locate here' p := by
  unfold locate
  rw [if_pos h, if_pos h]

theorem walk_dots {cs : List String} (h : ∀ c ∈ cs, c = ".") : walk t "" cs = .ok "" := by
  induction cs with
  | nil => rfl
  | cons c cs ih =>
    obtain rfl := h c List.mem_cons_self
    exact ih fun c hc => h c (List.mem_cons_of_mem _ hc)

/-- A path that leads to a file has a parent: what has none leads to the root. -/
theorem exists_parent?_of_read {text : String} (h : t.read here p = .ok text) : ∃ q, p.parent? = some q := by
  refine Option.ne_none_iff_exists'.mp fun hparent => ?_
  obtain ⟨place, hlocate, hnode⟩ := read_eq_ok.mp h
  obtain ⟨-, hp, -, hwalk⟩ := locate_eq_ok.mp hlocate
  have hdots : ∀ c ∈ components p, c = "." := by
    have hown : ∀ c ∈ ownComponents p, c = "." := by
      intro c hc
      obtain ⟨piece, hpiece, rfl⟩ := List.mem_map.mp hc
      obtain ⟨hmem, hne⟩ := List.mem_filter.mp hpiece
      rcases Path.idle_of_parent? hparent piece hmem with rfl | rfl
      · simp at hne
      · rfl
    rcases components_eq p with heq | heq
    · rw [heq]
      exact hown
    · rw [heq]
      intro c hc
      rcases List.mem_append.mp hc with hc | hc
      · exact hown c hc
      · exact List.mem_singleton.mp hc
  rw [if_pos (Path.isAbsolute_of_parent?_none hparent hp), walk_dots hdots] at hwalk
  cases hwalk
  cases hnode

end FileTree

end Rollout
