import Rollout.Proofs.Files

/-!
# Rollout.Proofs.Names — names in a directory

A path that ends in a name leads to the place of the name below the directory, whether the path of the directory ends in
a slash or not.

* `Text.splitAt_append`: the pieces around a mark.
* `FileTree.PlainName`: a name that stands for itself.
* `FileTree.components_join`, `FileTree.locate_join`: the way to a name in a directory.
-/

namespace Rollout

namespace Text

variable {mark c : Char}

theorem splitAt_cons_self (cs : List Char) : splitAt mark (mark :: cs) = [] :: splitAt mark cs := if_pos rfl

/-- A character that is no mark belongs to the first piece. -/
theorem splitAt_cons_of_ne (hc : c ≠ mark) (cs : List Char) : ∃ first others,
    splitAt mark cs = first :: others ∧ splitAt mark (c :: cs) = (c :: first) :: others := by
  rw [splitAt, if_neg hc]
  cases hsplit : splitAt mark cs with
  | nil =>
    -- There is always a piece.
    cases cs with
    | nil => cases hsplit
    | cons d cs =>
      unfold splitAt at hsplit
      split at hsplit
      · cases hsplit
      · split at hsplit <;> cases hsplit
  | cons first others => exact ⟨first, others, rfl, rfl⟩

/-- A text without marks is one piece. -/
theorem splitAt_of_not_mem {cs : List Char} (h : mark ∉ cs) : splitAt mark cs = [cs] := by
  induction cs with
  | nil => rfl
  | cons c cs ih =>
    obtain ⟨hc, hcs⟩ := List.ne_and_not_mem_of_not_mem_cons h
    obtain ⟨first, others, hsplit, hcons⟩ := splitAt_cons_of_ne (Ne.symm hc) cs
    rw [ih hcs] at hsplit
    obtain ⟨rfl, rfl⟩ := List.cons.inj hsplit
    exact hcons

/-- The pieces around a mark. -/
theorem splitAt_append (mark : Char) (a b : List Char) :
    splitAt mark (a ++ mark :: b) = splitAt mark a ++ splitAt mark b := by
  induction a with
  | nil => exact splitAt_cons_self b
  | cons c a ih =>
    rw [List.cons_append]
    by_cases hc : c = mark
    · subst hc
      rw [splitAt_cons_self, splitAt_cons_self, ih, List.cons_append]
    · obtain ⟨first, others, hsplit, hcons⟩ := splitAt_cons_of_ne hc (a ++ mark :: b)
      obtain ⟨first', others', hsplit', hcons'⟩ := splitAt_cons_of_ne hc a
      rw [hsplit, hsplit', List.cons_append] at ih
      obtain ⟨rfl, rfl⟩ := List.cons.inj ih
      rw [hcons, hcons', List.cons_append]

theorem encode_append (a b : String) : encode (a ++ b) = encode a ++ encode b := by simp [encode]

theorem byteLength_append (a b : String) : byteLength (a ++ b) = byteLength a + byteLength b := by
  rw [byteLength, encode_append, List.length_append]
  rfl

/-- Every character takes a byte at least. -/
theorem length_le_byteLength (s : String) : s.length ≤ byteLength s := by
  have hchar (c : Char) : 0 < (encodeChar c).length := by
    unfold encodeChar
    dsimp only
    repeat' split
    all_goals exact Nat.zero_lt_succ _
  have hchars (cs : List Char) : cs.length ≤ (cs.flatMap encodeChar).length := by
    induction cs with
    | nil => exact Nat.le_refl _
    | cons c cs ih =>
      have hc := hchar c
      rw [List.flatMap_cons, List.length_append, List.length_cons]
      omega
  rw [← String.length_toList]
  exact hchars s.toList

end Text

namespace FileTree

variable {t : FileTree} {here place : String}

/-- A name that stands for itself: it has no slash and no null character, and is no dot segment. -/
structure PlainName (name : String) : Prop where
  not_empty : name ≠ ""
  no_slash : '/' ∉ name.toList
  no_nul : Char.ofNat 0 ∉ name.toList
  not_dot : name ≠ "."
  not_up : name ≠ ".."

/-- The components of a path, but for the dot that stands for a slash at its end. -/
def ownComponents (p : Path) : List String := ((Text.splitAt '/' p.toList).filter (· ≠ [])).map String.ofList

theorem components_eq (p : Path) : components p = ownComponents p ∨ components p = ownComponents p ++ ["."] := by
  unfold components ownComponents
  dsimp only
  split
  · exact .inr rfl
  · exact .inl rfl

/-- Of a path that ends in a name the name is the last component. -/
theorem components_of_pieces {p : Path} {pieces : List (List Char)} {name : String} (hname : name ≠ "")
    (h : Text.splitAt '/' p.toList = pieces ++ [name.toList]) :
    components p = (pieces.filter (· ≠ [])).map String.ofList ++ [name] := by
  have hlist : name.toList ≠ [] := by simpa using hname
  have hlast : ¬ (1 < (Text.splitAt '/' p.toList).length ∧ (Text.splitAt '/' p.toList).getLast? = some []) := by
    rw [h, List.getLast?_concat]
    simp [hname]
  unfold components
  dsimp only
  rw [if_neg hlast, h, List.filter_append, List.map_append, List.filter_cons_of_pos (by simpa using hlist)]
  simp

/-- The text before a name in a directory. -/
def lead (dir : Path) : String := if dir.toList.getLast? = some '/' then dir else dir ++ "/"

theorem exists_lead (dir : Path) : ∃ slash : String, lead dir = dir ++ slash ∧ ∀ c ∈ slash.toList, c = '/' := by
  unfold lead
  split
  · exact ⟨"", String.append_empty.symm, by simp⟩
  · exact ⟨"/", rfl, by simp⟩

theorem PlainName.not_absolute {name : String} (hname : PlainName name) : ¬ Path.isAbsolute name = true := by
  intro habsolute
  unfold Path.isAbsolute at habsolute
  exact hname.no_slash (List.mem_of_mem_head? (by simpa using habsolute))

theorem join_eq {dir : Path} (hdir : dir ≠ "") {name : String} (hname : PlainName name) :
    dir.join name = lead dir ++ name := by
  unfold Path.join lead
  rw [if_neg hname.not_absolute, if_neg hdir]
  split
  · rfl
  · rfl

theorem components_join {dir : Path} (hdir : dir ≠ "") {name : String} (hname : PlainName name) :
    components (dir.join name) = ownComponents dir ++ [name] := by
  rw [join_eq hdir hname]
  unfold lead
  have hone := Text.splitAt_of_not_mem hname.no_slash
  split
  · rename_i hlast
    obtain ⟨start, hstart⟩ := List.getLast?_eq_some_iff.mp hlast
    have hdirectory : Text.splitAt '/' dir.toList = Text.splitAt '/' start ++ [[]] := by
      rw [hstart, Text.splitAt_append]
      rfl
    have hpieces : Text.splitAt '/' (dir ++ name).toList = Text.splitAt '/' start ++ [name.toList] := by
      rw [String.toList_append, hstart, List.append_assoc, List.singleton_append, Text.splitAt_append, hone]
    rw [components_of_pieces hname.not_empty hpieces, ownComponents, hdirectory, List.filter_append]
    simp
  · have hpieces : Text.splitAt '/' (dir ++ "/" ++ name).toList = Text.splitAt '/' dir.toList ++ [name.toList] := by
      rw [String.toList_append, String.toList_append, List.append_assoc]
      have hslash : "/".toList ++ name.toList = '/' :: name.toList := rfl
      rw [hslash, Text.splitAt_append, hone]
    exact components_of_pieces hname.not_empty hpieces

theorem walk_append (t : FileTree) (q : String) (cs ds : List String) :
    walk t q (cs ++ ds) = (walk t q cs).bind fun place => walk t place ds := by
  induction cs generalizing q with
  | nil => rfl
  | cons c cs ih =>
    rw [List.cons_append, walk, walk]
    split
    · rfl
    · rfl
    · split
      · exact ih q
      · split
        · exact ih _
        · split
          · rfl
          · exact ih _

/-- The way to a directory leads along its own components. -/
theorem walk_ownComponents {q : String} {p : Path} (h : walk t q (components p) = .ok place) :
    walk t q (ownComponents p) = .ok place := by
  rcases components_eq p with hown | hown
  · rwa [hown] at h
  · rw [hown, walk_append] at h
    cases hwalk : walk t q (ownComponents p) with
    | error e =>
      rw [hwalk] at h
      cases h
    | ok q' =>
      rw [hwalk] at h
      have hdot : walk t q' ["."] = .ok place := h
      unfold walk at hdot
      split at hdot
      · cases hdot
      · cases hdot
      · exact hdot

theorem walk_name {name : String} (hdirectory : t.isDirectory place = true) (hname : PlainName name)
    (hshort : Text.byteLength name ≤ maxName) : walk t place [name] = .ok (place ++ "/" ++ name) := by
  have hnode : t.node? place = some .directory := by simpa [isDirectory] using hdirectory
  unfold walk
  rw [hnode]
  dsimp only
  rw [if_neg hname.not_dot, if_neg hname.not_up, if_neg (Nat.not_lt.mpr hshort)]
  rfl

/-- A name in a directory leads to the place of this name below it. -/
theorem locate_join {dir : Path} {name : String} (hlocate : t.locate here dir = .ok place)
    (hdirectory : t.isDirectory place = true) (hname : PlainName name) (hshort : Text.byteLength name ≤ maxName)
    (hpath : Text.byteLength (dir.join name) ≤ maxPath) :
    t.locate here (dir.join name) = .ok (place ++ "/" ++ name) := by
  obtain ⟨hnul, hdir, -, hwalk⟩ := locate_eq_ok.mp hlocate
  obtain ⟨slash, hlead, hslash⟩ := exists_lead dir
  have hjoin : (dir.join name).toList = dir.toList ++ (slash.toList ++ name.toList) := by
    rw [join_eq hdir hname, hlead, String.toList_append, String.toList_append, List.append_assoc]
  have hchars : dir.toList ≠ [] := by simpa using hdir
  have habsolute : Path.isAbsolute (dir.join name) = Path.isAbsolute dir := by
    unfold Path.isAbsolute
    rw [hjoin, List.head?_append_of_ne_nil _ hchars]
  have hclean : Char.ofNat 0 ∉ (dir.join name).toList := by
    rw [hjoin, List.mem_append, List.mem_append]
    rintro (hmem | hmem | hmem)
    · rw [List.contains_eq_mem] at hnul
      simp [hmem] at hnul
    · exact absurd (hslash _ hmem) (by decide)
    · exact hname.no_nul hmem
  refine locate_eq_ok.mpr ⟨by simpa using hclean, ?_, hpath, ?_⟩
  · intro hempty
    rw [hempty] at hjoin
    simp [hdir] at hjoin
  · rw [habsolute, components_join hdir hname, walk_append, walk_ownComponents hwalk]
    exact walk_name hdirectory hname hshort

end FileTree

end Rollout
