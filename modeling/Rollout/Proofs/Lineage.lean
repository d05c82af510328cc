import Mathlib.Data.List.Induction
import Rollout.Proofs.Path

/-!
# Rollout.Proofs.Lineage — the directories above a path

To go up from a path is to take away its last name, whatever the name stands for.  So the directories that are passed on
the way up are those on the way down, the last one first, and that ends where the way began.

* `Path.names`, `Path.names_of_parent?`: the names of a path and of its parent.
* `FileTree.Reaches`: a way that leads to a directory; dots on it lead nowhere.
* `FileTree.Seen`: a path that leads to a directory; `Seen.parent`, `Seen.locate_join`: its parent and the names in it.
* `FileTree.passed`, `FileTree.upward`: the directories on a way, and those above a place.
* `FileTree.upward_foldl`: they are the same where the way never leads up, as far as the way goes.
-/

namespace Rollout

namespace Text

theorem not_mem_of_mem_splitAt {mark : Char} {cs piece : List Char} (h : piece ∈ splitAt mark cs) : mark ∉ piece := by
  induction cs generalizing piece with
  | nil =>
    obtain rfl := List.mem_singleton.mp h
    exact List.not_mem_nil
  | cons c cs ih =>
    by_cases hc : c = mark
    · rw [hc, splitAt_cons_self] at h
      rcases List.mem_cons.mp h with rfl | h
      · exact List.not_mem_nil
      · exact ih h
    · obtain ⟨first, others, hsplit, hcons⟩ := splitAt_cons_of_ne hc cs
      rw [hcons] at h
      rw [hsplit] at ih
      rcases List.mem_cons.mp h with rfl | h
      · exact List.not_mem_cons_of_ne_of_not_mem (Ne.symm hc) (ih List.mem_cons_self)
      · exact ih (List.mem_cons_of_mem _ h)

end Text

namespace Path

variable {p q : Path}

/-! ## Names -/

instance : DecidablePred Idle := fun piece => inferInstanceAs (Decidable (piece = [] ∨ piece = ['.']))

/-- The pieces of a path that lead elsewhere. -/
def steps (cs : List Char) : List (List Char) := (Text.splitAt '/' cs).filter fun piece => ¬ Idle piece

theorem steps_append (a b : List Char) : steps (a ++ '/' :: b) = steps a ++ steps b := by
  rw [steps, Text.splitAt_append, List.filter_append]
  rfl

theorem steps_of_not_mem {cs : List Char} (h : '/' ∉ cs) : steps cs = if Idle cs then [] else [cs] := by
  rw [steps, Text.splitAt_of_not_mem h]
  by_cases hidle : Idle cs <;> simp [hidle]

theorem steps_concat_slash (cs : List Char) : steps (cs ++ ['/']) = steps cs := by
  have hnil : steps [] = [] := rfl
  rw [steps_append, hnil, List.append_nil]

theorem steps_dropIdle (fuel : ℕ) (rev : List Char) : steps (dropIdle fuel rev).reverse = steps rev.reverse := by
  fun_induction dropIdle fuel rev with
  | case1 rev => rfl
  | case2 fuel => rfl
  | case3 fuel rest hrest ih => rw [ih, List.reverse_cons, steps_concat_slash]
  | case4 fuel rest ih =>
    have hdot : steps ['.'] = [] := rfl
    have hreverse : ('.' :: '/' :: rest).reverse = rest.reverse ++ '/' :: ['.'] := by simp
    rw [ih, hreverse, steps_append, hdot, List.append_nil, List.reverse_cons, steps_concat_slash]
  | case5 fuel rev _ _ => rfl

/-- What stands before the last slash has all pieces but the last. -/
theorem steps_dropWhile {kept : List Char} (h : Trimmed kept) :
    steps (kept.dropWhile (· ≠ '/')).reverse = (steps kept.reverse).dropLast := by
  have hkept := List.takeWhile_append_dropWhile (p := (· ≠ '/')) (l := kept)
  have hpiece : '/' ∉ (kept.takeWhile (· ≠ '/')).reverse := by
    intro hmem
    simpa using List.mem_takeWhile_imp (List.mem_reverse.mp hmem)
  cases hdrop : kept.dropWhile (· ≠ '/') with
  | nil =>
    rw [hdrop, List.append_nil] at hkept
    rw [hkept] at hpiece
    rw [steps_of_not_mem hpiece]
    split <;> rfl
  | cons c rest =>
    have hc : c = '/' := by
      have hhead := List.head?_dropWhile_not (· ≠ '/') kept
      rw [hdrop] at hhead
      simpa using hhead
    rw [hdrop, hc] at hkept
    have hreverse : kept.reverse = rest.reverse ++ '/' :: (kept.takeWhile (· ≠ '/')).reverse := by
      conv_lhs => rw [← hkept]
      simp
    have hname : ¬ Idle (kept.takeWhile (· ≠ '/')).reverse := by
      rintro (hnil | hdot)
      · rw [List.reverse_eq_nil_iff.mp hnil] at hkept
        exact h.1 (hkept ▸ rfl)
      · rw [List.reverse_eq_iff.mp hdot] at hkept
        exact h.2 rest hkept.symm
    rw [hreverse, steps_append, steps_of_not_mem hpiece, if_neg hname, List.dropLast_concat, hc, List.reverse_cons,
      steps_concat_slash]

theorem steps_parentRev? {rev above : List Char} (h : parentRev? rev = some above) :
    steps above.reverse = (steps rev.reverse).dropLast := by
  obtain ⟨fuel, kept, rfl, -, htrimmed, rfl⟩ := exists_of_parentRev? h
  rw [steps_dropIdle, steps_dropWhile htrimmed, steps_dropIdle]

theorem length_parentRev? {rev above : List Char} (h : parentRev? rev = some above) : above.length < rev.length := by
  obtain ⟨fuel, kept, hkept, hnil, htrimmed, rfl⟩ := exists_of_parentRev? h
  obtain ⟨c, rest, hcons⟩ := List.exists_cons_of_ne_nil hnil
  have hc : c ≠ '/' := by
    rintro rfl
    exact htrimmed.1 (hcons ▸ rfl)
  have hdrop : kept.dropWhile (· ≠ '/') = rest.dropWhile (· ≠ '/') := by
    rw [hcons, List.dropWhile_cons_of_pos (by simpa using hc)]
  have hidle := (dropIdle_suffix fuel (kept.dropWhile (· ≠ '/'))).length_le
  have hrest := (List.dropWhile_suffix (· ≠ '/') (l := rest)).length_le
  have hlength : kept.length = rest.length + 1 := by rw [hcons, List.length_cons]
  have hsuffix : kept.length ≤ rev.length := (hkept ▸ dropIdle_suffix rev.length rev : kept <:+ rev).length_le
  rw [hdrop] at hidle ⊢
  omega

/-- The names of a path: its components but for the dots. -/
def names (p : Path) : List String := (steps p.toList).map String.ofList

theorem filter_components (p : Path) : (FileTree.components p).filter (· ≠ ".") = p.names := by
  have hdot (piece : List Char) : String.ofList piece = "." ↔ piece = ['.'] := by
    have hlist : "." = String.ofList ['.'] := rfl
    rw [hlist, String.ofList_inj]
  have hown : (FileTree.ownComponents p).filter (· ≠ ".") = p.names := by
    unfold FileTree.ownComponents names steps
    rw [List.filter_map, List.filter_filter]
    refine congrArg _ (List.filter_congr fun piece _ => ?_)
    simp [Idle, hdot, Bool.and_comm]
  rcases FileTree.components_eq p with heq | heq
  · rw [heq, hown]
  · rw [heq, List.filter_append, hown]
    simp

theorem not_slash_of_mem_names {name : String} (h : name ∈ p.names) : '/' ∉ name.toList := by
  obtain ⟨piece, hpiece, rfl⟩ := List.mem_map.mp h
  rw [String.toList_ofList]
  exact Text.not_mem_of_mem_splitAt (List.mem_filter.mp hpiece).1

/-- The parent of a path has all its names but the last. -/
theorem names_of_parent? (h : p.parent? = some q) : q.names = p.names.dropLast := by
  obtain ⟨rev, hrev, rfl⟩ := Option.map_eq_some_iff.mp h
  have hsteps := steps_parentRev? hrev
  rw [List.reverse_reverse] at hsteps
  unfold names
  rw [String.toList_ofList, hsteps, List.map_dropLast]

theorem names_of_parent?_none (h : p.parent? = none) : p.names = [] := by
  have hnone : steps p.toList = [] := by
    refine List.filter_eq_nil_iff.mpr fun piece hpiece => ?_
    simp [idle_of_parent? h piece hpiece]
  rw [names, hnone]
  rfl

/-- The parent of a path is the beginning of its text. -/
theorem exists_of_parent? (h : p.parent? = some q) : ∃ rest : String, p = q ++ rest := by
  obtain ⟨rev, hrev, rfl⟩ := Option.map_eq_some_iff.mp h
  obtain ⟨front, hfront⟩ := parentRev?_suffix hrev
  refine ⟨String.ofList front.reverse, String.toList_inj.mp ?_⟩
  rw [String.toList_append, String.toList_ofList, String.toList_ofList, ← List.reverse_append, hfront,
    List.reverse_reverse]

theorem length_of_parent? (h : p.parent? = some q) : q.length < p.length := by
  obtain ⟨rev, hrev, rfl⟩ := Option.map_eq_some_iff.mp h
  have hlength := length_parentRev? hrev
  rw [List.length_reverse, String.length_toList] at hlength
  rwa [String.length_ofList, List.length_reverse]

end Path

namespace FileTree

variable {t : FileTree} {here place q c name : String} {cs ds : List String} {p p' : Path}

/-! ## Ways to directories -/

/-- A way that leads from a place to a directory. -/
def Reaches (t : FileTree) (q : String) (cs : List String) (place : String) : Prop :=
  walk t q cs = .ok place ∧ t.isDirectory place = true

/-- Where a name leads to from a directory. -/
def next (q c : String) : String := if c = ".." then above q else q ++ "/" ++ c

theorem reaches_cons : t.Reaches q (c :: cs) place ↔ t.isDirectory q = true ∧
    if c = "." then t.Reaches q cs place
    else (c = ".." ∨ Text.byteLength c ≤ maxName) ∧ t.Reaches (next q c) cs place := by
  unfold Reaches isDirectory
  rw [walk]
  cases hnode : t.node? q with
  | none => simp
  | some node =>
    cases node with
    | file text => simp
    | directory =>
      by_cases hdot : c = "."
      · simp [hdot]
      · by_cases hup : c = ".."
        · simp [hup, next]
        · by_cases hlong : maxName < Text.byteLength c
          · simp [hdot, hup, hlong, Nat.not_le.mpr hlong]
          · simp [hdot, hup, hlong, Nat.not_lt.mp hlong, next]

theorem Reaches.origin (h : t.Reaches q cs place) : t.isDirectory q = true := by
  cases cs with
  | nil =>
    obtain ⟨hwalk, hplace⟩ := h
    cases hwalk
    exact hplace
  | cons c cs => exact (reaches_cons.mp h).1

/-- Dots lead nowhere. -/
theorem reaches_filter : t.Reaches q (cs.filter (· ≠ ".")) place ↔ t.Reaches q cs place := by
  induction cs generalizing q with
  | nil => rfl
  | cons c cs ih =>
    rw [reaches_cons]
    by_cases hdot : c = "."
    · rw [if_pos hdot, List.filter_cons_of_neg (by simpa using hdot), ih]
      exact ⟨fun h => ⟨h.origin, h⟩, And.right⟩
    · rw [if_neg hdot, List.filter_cons_of_pos (by simpa using hdot), reaches_cons, if_neg hdot, ih]

theorem reaches_append : t.Reaches q (cs ++ ds) place ↔ ∃ mid, t.Reaches q cs mid ∧ t.Reaches mid ds place := by
  unfold Reaches
  rw [walk_append]
  constructor
  · rintro ⟨hwalk, hplace⟩
    cases hmid : walk t q cs with
    | error e =>
      rw [hmid] at hwalk
      cases hwalk
    | ok mid =>
      rw [hmid] at hwalk
      have hrest : t.Reaches mid ds place := ⟨hwalk, hplace⟩
      exact ⟨mid, ⟨rfl, hrest.origin⟩, hrest⟩
  · rintro ⟨mid, ⟨hmid, -⟩, hwalk, hplace⟩
    rw [hmid]
    exact ⟨hwalk, hplace⟩

/-- A way leads where its names lead, one after the other. -/
theorem Reaches.eq_foldl (h : t.Reaches q cs place) (hdots : "." ∉ cs) : place = cs.foldl next q := by
  induction cs generalizing q with
  | nil => exact (Except.ok.inj h.1).symm
  | cons c cs ih =>
    obtain ⟨hc, hcs⟩ := List.ne_and_not_mem_of_not_mem_cons hdots
    obtain ⟨-, hrest⟩ := reaches_cons.mp h
    rw [if_neg (Ne.symm hc)] at hrest
    exact ih hrest.2 hcs

theorem Reaches.dropLast (h : t.Reaches q cs place) : ∃ mid, t.Reaches q cs.dropLast mid := by
  rcases List.eq_nil_or_concat cs with rfl | ⟨init, c, rfl⟩
  · exact ⟨place, h⟩
  · rw [List.concat_eq_append] at h ⊢
    obtain ⟨mid, hmid, -⟩ := reaches_append.mp h
    rw [List.dropLast_concat]
    exact ⟨mid, hmid⟩

/-! ## Directories seen from the current one -/

/-- Where the way along a path begins. -/
def origin (here : String) (p : Path) : String := if p.isAbsolute then "" else here

/-- A path leads to a directory; the empty one is the current directory. -/
def Seen (t : FileTree) (here : String) (p : Path) (place : String) : Prop :=
  t.isDirectory place = true ∧ (p = "" ∧ place = here ∨ t.locate here p = .ok place)

theorem Seen.reaches (h : t.Seen here p place) : t.Reaches (origin here p) p.names place := by
  obtain ⟨hplace, ⟨rfl, rfl⟩ | hlocate⟩ := h
  · exact ⟨rfl, hplace⟩
  · obtain ⟨-, -, -, hwalk⟩ := locate_eq_ok.mp hlocate
    rw [← Path.filter_components]
    exact reaches_filter.mpr ⟨hwalk, hplace⟩

theorem Seen.eq_foldl (h : t.Seen here p place) : place = p.names.foldl next (origin here p) := by
  refine h.reaches.eq_foldl ?_
  rw [← Path.filter_components]
  simp

/-- The parent of a path that leads to a directory leads to a directory. -/
theorem Seen.parent (h : t.Seen here p place) (hparent : p.parent? = some p') : ∃ place', t.Seen here p' place' := by
  have horigin : origin here p = origin here p' := by
    unfold origin
    rw [Path.isAbsolute_of_parent? hparent]
  obtain ⟨mid, hmid⟩ := h.reaches.dropLast
  rw [← Path.names_of_parent? hparent, horigin] at hmid
  by_cases hempty : p' = ""
  · subst hempty
    obtain rfl : here = mid := Except.ok.inj hmid.1
    exact ⟨here, hmid.2, .inl ⟨rfl, rfl⟩⟩
  · obtain ⟨-, ⟨rfl, -⟩ | hlocate⟩ := h
    · cases hparent
    · obtain ⟨hnul, -, hlong, -⟩ := locate_eq_ok.mp hlocate
      obtain ⟨rest, rfl⟩ := Path.exists_of_parent? hparent
      rw [Text.byteLength_append] at hlong
      rw [← Path.filter_components, reaches_filter] at hmid
      refine ⟨mid, hmid.2, .inr (locate_eq_ok.mpr ⟨?_, hempty, by omega, hmid.1⟩)⟩
      rw [String.toList_append] at hnul
      simp only [List.contains_eq_mem, List.mem_append, decide_eq_false_iff_not, not_or] at hnul ⊢
      exact hnul.1

/-- A name in a directory leads to the place of this name below it. -/
theorem Seen.locate_join (h : t.Seen here p place) (hname : PlainName name) (hshort : Text.byteLength name ≤ maxName)
    (hpath : Text.byteLength (p.join name) ≤ maxPath) : t.locate here (p.join name) = .ok (place ++ "/" ++ name) := by
  obtain ⟨hplace, ⟨rfl, rfl⟩ | hlocate⟩ := h
  · rw [Path.empty_join] at hpath ⊢
    have hpieces : Text.splitAt '/' name.toList = [] ++ [name.toList] := Text.splitAt_of_not_mem hname.no_slash
    have hcomponents : components name = [name] := components_of_pieces hname.not_empty hpieces
    refine locate_eq_ok.mpr ⟨by simpa using hname.no_nul, hname.not_empty, hpath, ?_⟩
    rw [if_neg hname.not_absolute, hcomponents]
    exact walk_name hplace hname hshort
  · exact FileTree.locate_join hlocate hplace hname hshort hpath

/-- The path of a name is not longer in the parent of a path. -/
theorem byteLength_join_parent (hparent : p.parent? = some p') (hname : PlainName name) :
    Text.byteLength (p'.join name) ≤ Text.byteLength (p.join name) := by
  have hp : p ≠ "" := by
    rintro rfl
    cases hparent
  rw [join_eq hp hname, Text.byteLength_append]
  by_cases hempty : p' = ""
  · rw [hempty, Path.empty_join]
    omega
  · rw [join_eq hempty hname, Text.byteLength_append]
    obtain ⟨rest, hrest⟩ := Path.exists_of_parent? hparent
    have hslash : Text.byteLength "/" = 1 := by decide
    have hlength : Text.byteLength p = Text.byteLength p' + Text.byteLength rest := by
      rw [hrest, Text.byteLength_append]
    have hlead : Text.byteLength (lead p') ≤ Text.byteLength (lead p) := by
      unfold lead
      split <;> split
      · omega
      · rw [Text.byteLength_append]
        omega
      · -- The slash is in the text of the path already, which is longer.
        have hlonger := Path.length_of_parent? hparent
        have hbytes := Text.length_le_byteLength rest
        rw [hrest, String.length_append] at hlonger
        rw [Text.byteLength_append]
        omega
      · rw [Text.byteLength_append, Text.byteLength_append]
        omega
    omega

/-! ## Up and down -/

/-- The directories that are passed on a way, the last one first. -/
def passed (q : String) : List String → List String
  | [] => [q]
  | c :: cs => passed (next q c) cs ++ [q]

theorem passed_concat (q : String) (cs : List String) (c : String) :
    passed q (cs ++ [c]) = (cs ++ [c]).foldl next q :: passed q cs := by
  induction cs generalizing q with
  | nil => rfl
  | cons d cs ih =>
    rw [List.cons_append, passed, passed, ih]
    rfl

/-- A place and those above it, up to the root; `fuel` bounds how many there are. -/
def upwardIn : Nat → String → List String
  | 0, place => [place]
  | fuel + 1, place => if place = "" then [place] else place :: upwardIn fuel (above place)

/-- A place and those above it, the nearest first. -/
def upward (place : String) : List String := upwardIn place.length place

theorem length_above (h : place ≠ "") : (above place).length < place.length := by
  have hlist : place.toList.reverse ≠ [] := by simpa using h
  obtain ⟨c, rest, hcons⟩ := List.exists_cons_of_ne_nil hlist
  have hlength : place.length = rest.length + 1 := by
    rw [← String.length_toList, ← List.length_reverse, hcons, List.length_cons]
  have hdrop := (List.dropWhile_suffix (· ≠ '/') (l := c :: rest)).length_le
  unfold above
  rw [String.length_ofList, List.length_reverse, List.length_tail, hcons, hlength]
  rw [List.length_cons] at hdrop
  omega

theorem upwardIn_eq {fuel fuel' : Nat} (h : place.length ≤ fuel) (h' : place.length ≤ fuel') :
    upwardIn fuel place = upwardIn fuel' place := by
  induction fuel generalizing place fuel' with
  | zero =>
    have hempty : place = "" := by simpa using h
    cases fuel' with
    | zero => rfl
    | succ fuel' => rw [upwardIn, upwardIn, if_pos hempty]
  | succ fuel ih =>
    by_cases hempty : place = ""
    · cases fuel' <;> simp [upwardIn, hempty]
    · have habove := length_above hempty
      cases fuel' with
      | zero => omega
      | succ fuel' =>
        have hrest : upwardIn fuel (above place) = upwardIn fuel' (above place) := ih (by omega) (by omega)
        rw [upwardIn, upwardIn, if_neg hempty, if_neg hempty, hrest]

theorem upward_of_ne (h : place ≠ "") : upward place = place :: upward (above place) := by
  have habove := length_above h
  have hfuel : upward place = upwardIn (place.length + 1) place := upwardIn_eq (Nat.le_refl _) (Nat.le_succ _)
  rw [hfuel, upwardIn, if_neg h, upwardIn_eq (Nat.le_of_lt habove) (Nat.le_refl _)]
  rfl

theorem upward_eq_cons (place : String) : upward place = place :: (upward place).tail := by
  by_cases h : place = ""
  · subst h
    rfl
  · rw [upward_of_ne h, List.tail_cons]

/-- Above what stands in a place is the place. -/
theorem above_append (q : String) (hc : '/' ∉ c.toList) : above (q ++ "/" ++ c) = q := by
  have hreverse : (q ++ "/" ++ c).toList.reverse = c.toList.reverse ++ '/' :: q.toList.reverse := by simp
  have hdrop : (c.toList.reverse ++ '/' :: q.toList.reverse).dropWhile (· ≠ '/') = '/' :: q.toList.reverse := by
    rw [List.dropWhile_append_of_pos]
    · simp
    · intro d hd
      have hne : d ≠ '/' := by
        rintro rfl
        exact hc (List.mem_reverse.mp hd)
      simpa using hne
  unfold above
  rw [hreverse, hdrop, List.tail_cons, List.reverse_reverse, String.ofList_toList]

/-- On a way that never leads up, what is passed lies above its end; what remains lies above its beginning. -/
theorem upward_foldl (q : String) (hup : ".." ∉ cs) (hnames : ∀ c ∈ cs, '/' ∉ c.toList) :
    upward (cs.foldl next q) = passed q cs ++ (upward q).tail := by
  induction cs using List.reverseRecOn with
  | nil => exact upward_eq_cons q
  | append_singleton cs c ih =>
    have hc : c ≠ ".." := fun hc => hup (by simp [hc])
    have hplace : (cs ++ [c]).foldl next q = cs.foldl next q ++ "/" ++ c := by
      rw [List.foldl_append, List.foldl_cons, List.foldl_nil, next, if_neg hc]
    have hslash : '/' ∉ c.toList := hnames c (by simp)
    rw [passed_concat, hplace, upward_of_ne (by simp), above_append _ hslash,
      ih (fun h => hup (List.mem_append_left _ h)) fun d hd => hnames d (List.mem_append_left _ hd), List.cons_append]

end FileTree

end Rollout
