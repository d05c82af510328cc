import Mathlib.Algebra.Order.BigOperators.Group.List
import Mathlib.Algebra.Order.Group.Nat
import Mathlib.Algebra.Ring.Nat
import Rollout.Proofs.Names
import Rollout.Proofs.Url.Parse

/-!
# Rollout.Proofs.Url.Segments — segments read and segments added

A path is read piece by piece, and each piece is encoded; a segment that is added to a path is encoded as a whole.
The two agree on a text that is one piece and has nothing in it that only one of them encodes.

* `Url.segments_go_append`: the pieces of a path take effect from left to right.
* `Url.isPlainSegment`: texts that are encoded and read alike.
* `Url.extent_go_le`: no path is longer than its pieces.
* `Url.read_eq_pushed_iff`: a text behind a path is read as the segment it is encoded to if and only if it is plain.
-/

namespace Rollout.Url

variable {scheme : String} {items : List String} {cs : List Char} {c : Char}

/-! ## Pieces -/

/-- The path so far with a piece that is not the last one. -/
def enter (scheme : String) (items : List String) (piece : List Char) : List String :=
  addSegment scheme items (percent pathMarks piece) false

/-- A slash of an address of the web. -/
def asSlash (c : Char) : Char := if c = '\\' then '/' else c

/-- The pieces of a text between slashes. -/
def pieces (cs : List Char) : List (List Char) := Text.splitAt '/' (cs.map asSlash)

theorem segments_eq (hweb : IsWeb scheme) (cs : List Char) :
    segments scheme cs = segments.go scheme [] (pieces cs) := by
  unfold segments
  rw [hweb.isSpecial]
  simp only [Bool.true_and, decide_eq_true_eq]
  rfl

theorem pieces_append_slash (before after : List Char) :
    pieces (before ++ '/' :: after) = pieces before ++ pieces after := by
  rw [pieces, List.map_append, List.map_cons, show asSlash '/' = '/' from rfl, Text.splitAt_append]
  rfl

/-- The pieces of a path take effect from left to right. -/
theorem segments_go_append (scheme : String) (items : List String) (before : List (List Char)) (piece : List Char)
    (after : List (List Char)) : segments.go scheme items (before ++ piece :: after) =
      segments.go scheme (before.foldl (enter scheme) items) (piece :: after) := by
  induction before generalizing items with
  | nil => rfl
  | cons p before ih =>
    rw [List.cons_append, List.foldl_cons, ← ih]
    cases before with
    | nil => rfl
    | cons => rfl

theorem percentChar_ne_nil (marks : List Char) (c : Char) : percentChar marks c ≠ [] := by
  unfold percentChar
  split
  · unfold Text.encodeChar
    simp only
    split_ifs
    all_goals simp [percentByte]
  · simp

theorem percent_ne_empty {marks : List Char} (h : cs ≠ []) : percent marks cs ≠ "" := by
  obtain ⟨c, cs, rfl⟩ := List.exists_cons_of_ne_nil h
  intro hempty
  have hchars := congrArg String.toList hempty
  rw [percent, String.toList_ofList, List.flatMap_cons] at hchars
  exact percentChar_ne_nil marks c (List.append_eq_nil_iff.mp hchars).left

/-- What an empty last segment stands for is what the segment before it stands for. -/
theorem trimEmpty_go (hfile : scheme ≠ "file") (before : List (List Char)) {piece : List Char} (hpiece : piece ≠ []) :
    trimEmpty (segments.go scheme [] (before ++ [piece])) = (before ++ [piece]).foldl (enter scheme) [] := by
  have hempty : percent pathMarks piece ≠ "" := percent_ne_empty hpiece
  have hconcat (items : List String) : trimEmpty (items ++ [""]) = items := by simp [trimEmpty]
  rw [segments_go_append, List.foldl_append]
  generalize before.foldl (enter scheme) [] = items
  change trimEmpty (addSegment scheme items (percent pathMarks piece) true) =
    addSegment scheme items (percent pathMarks piece) false
  unfold addSegment
  simp only [hfile, decide_false, Bool.false_and, if_true, Bool.false_eq_true, if_false, List.append_nil]
  split
  · exact hconcat _
  · split
    · exact hconcat _
    · simp [trimEmpty, hempty]

/-! ## Lengths -/

/-- The length of a path that is written out. -/
def extent (items : List String) : Nat := (items.map fun s => s.length + 1).sum

@[simp] theorem extent_append (items more : List String) : extent (items ++ more) = extent items + extent more := by
  simp [extent]

theorem extent_dropLast_le (items : List String) : extent items.dropLast ≤ extent items := by
  rcases List.eq_nil_or_concat items with rfl | ⟨front, last, rfl⟩
  · simp
  · simp

/-- How many characters stand for one. -/
def cost (marks : List Char) (c : Char) : Nat := (percentChar marks c).length

theorem cost_pos (marks : List Char) (c : Char) : 0 < cost marks c :=
  List.length_pos_of_ne_nil (percentChar_ne_nil marks c)

theorem length_percent (marks cs : List Char) : (percent marks cs).length = (cs.map (cost marks)).sum := by
  rw [percent, String.length_ofList, List.length_flatMap]
  rfl

theorem extent_addSegment_le (hfile : scheme ≠ "file") (items : List String) (s : String) (last : Bool) :
    extent (addSegment scheme items s last) ≤ extent items + (s.length + 1) := by
  have hending : extent (if last then [""] else []) ≤ 1 := by cases last <;> decide
  have hdrop := extent_dropLast_le items
  unfold addSegment
  simp only [hfile, decide_false, Bool.false_and, Bool.false_eq_true, if_false]
  split
  · rw [extent_append]
    split <;> omega
  · split
    · rw [extent_append]
      omega
    · rw [extent_append]
      simp [extent]

/-- No path is longer than its pieces. -/
theorem extent_go_le (hfile : scheme ≠ "file") (items : List String) (ps : List (List Char)) :
    extent (segments.go scheme items ps) ≤
      extent items + (ps.map fun p => (p.map (cost pathMarks)).sum + 1).sum := by
  induction ps generalizing items with
  | nil => simp [segments.go]
  | cons p ps ih =>
    have hadd (last : Bool) := extent_addSegment_le hfile items (percent pathMarks p) last
    simp only [length_percent] at hadd
    rw [List.map_cons, List.sum_cons]
    cases ps with
    | nil => simpa [segments.go] using hadd true
    | cons q ps =>
      have hrest := ih (addSegment scheme items (percent pathMarks p) false)
      have hfirst := hadd false
      rw [segments.go]
      · omega
      · exact nofun

/-- Between two pieces stands a slash, which counts for one character. -/
theorem sum_splitAt {f : Char → Nat} (hf : f '/' = 1) (cs : List Char) :
    ((Text.splitAt '/' cs).map fun p => (p.map f).sum + 1).sum = (cs.map f).sum + 1 := by
  induction cs with
  | nil => rfl
  | cons c cs ih =>
    by_cases hc : c = '/'
    · subst hc
      rw [Text.splitAt_cons_self, List.map_cons, List.sum_cons, ih, List.map_cons, List.sum_cons, hf]
      simp
      omega
    · obtain ⟨first, others, hsplit, hcons⟩ := Text.splitAt_cons_of_ne hc cs
      rw [hsplit, List.map_cons, List.sum_cons] at ih
      rw [hcons, List.map_cons, List.sum_cons, List.map_cons, List.sum_cons, List.map_cons, List.sum_cons]
      omega

theorem extent_pieces_le (hfile : scheme ≠ "file") (items : List String) (cs : List Char) :
    extent (segments.go scheme items (pieces cs)) ≤
      extent items + ((cs.map fun c => cost pathMarks (asSlash c)).sum + 1) := by
  have hle := extent_go_le hfile items (pieces cs)
  rwa [pieces, sum_splitAt (by decide), List.map_map] at hle

/-! ## Plain texts -/

/-- The characters that end a piece of a path, and the one that only an added segment encodes. -/
def breaks : List Char := ['/', '\\', '%', '?', '#']

/-- Whether a text is one piece of a path, with nothing in it that is encoded where it is added as a segment only. -/
def isPlainSegment (s : String) : Bool :=
  s ≠ "." && s ≠ ".." && ((bare s.toList).all fun c => !breaks.contains c) &&
    (bare s.toList).getLast?.all fun c => !isEdge c

/-- Characters other than a slash, a backslash and a percent sign are encoded alike in a path and in a segment. -/
theorem percentChar_segment (hc : c ∉ ['/', '\\', '%']) :
    percentChar (segmentMarks true) c = percentChar pathMarks c := by
  have hmarks : (segmentMarks true).contains c = pathMarks.contains c := by
    simp only [List.mem_cons, List.not_mem_nil, or_false, not_or] at hc
    simp [segmentMarks, hc]
  rw [percentChar, percentChar, hmarks]

theorem cost_le (c : Char) : cost pathMarks (asSlash c) ≤ cost (segmentMarks true) c ∧
    (c ∈ ['/', '\\', '%'] → cost pathMarks (asSlash c) < cost (segmentMarks true) c) := by
  by_cases hc : c ∈ ['/', '\\', '%']
  · have hlt : cost pathMarks (asSlash c) < cost (segmentMarks true) c := by
      simp only [List.mem_cons, List.not_mem_nil, or_false] at hc
      rcases hc with rfl | rfl | rfl
      all_goals decide
    exact ⟨Nat.le_of_lt hlt, fun _ => hlt⟩
  · have hslash : asSlash c = c := by
      refine if_neg ?_
      rintro rfl
      exact hc (by decide)
    rw [hslash, cost, cost, percentChar_segment hc]
    exact ⟨Nat.le_refl _, fun h => (hc h).elim⟩

theorem sum_cost_le (cs : List Char) :
    (cs.map fun c => cost pathMarks (asSlash c)).sum ≤ (cs.map (cost (segmentMarks true))).sum :=
  List.sum_le_sum fun c _ => (cost_le c).left

theorem eq_nil_of_sum_cost (marks : List Char) (h : (cs.map (cost marks)).sum = 0) : cs = [] := by
  cases cs with
  | nil => rfl
  | cons c cs =>
    have hpos := cost_pos marks c
    rw [List.map_cons, List.sum_cons] at h
    omega

theorem getLast?_kept (h : (kept cs).getLast? = some c) : isEdge c = false := by
  rcases List.eq_nil_or_concat' (cs.rdropWhile isEdge) with hnil | ⟨front, d, hconcat⟩
  · rw [kept, hnil] at h
    cases h
  · have hedge : isEdge d = false := by
      have hlast := List.rdropWhile_last_not isEdge cs (by simp [hconcat])
      simpa [hconcat] using hlast
    rw [kept, hconcat, bare_append, bare_singleton hedge, List.getLast?_concat] at h
    exact Option.some.inj h ▸ hedge

theorem isPlainSegment_iff {s : String} : isPlainSegment s = true ↔ s ≠ "." ∧ s ≠ ".." ∧
    (∀ c ∈ bare s.toList, c ∉ breaks) ∧
      ∀ c, (bare s.toList).getLast? = some c → isEdge c = false := by
  simp only [isPlainSegment, Bool.and_eq_true, decide_eq_true_eq, and_assoc, List.all_eq_true, Option.all_eq_true,
    Bool.not_eq_true', List.contains_eq_mem, decide_eq_false_iff_not]

/-- A text that is read to its end and in which no character is encoded where it is added only is plain. -/
theorem isPlainSegment_of_sum_le {s : String} (hdot : s ≠ ".") (hdotDot : s ≠ "..")
    (h : ((bare s.toList).map (cost (segmentMarks true))).sum ≤
      ((splitBefore endsPath (kept s.toList)).1.map fun c => cost pathMarks (asSlash c)).sum) :
    isPlainSegment s = true := by
  obtain ⟨edges, -, hedges⟩ := exists_edges s.toList
  have hkept : (splitBefore endsPath (kept s.toList)).1 ++ (splitBefore endsPath (kept s.toList)).2 = kept s.toList :=
    List.takeWhile_append_dropWhile
  have hpath : ∀ c ∈ (splitBefore endsPath (kept s.toList)).1, endsPath c = false := by
    intro c hc
    simpa using List.mem_takeWhile_imp hc
  generalize splitBefore endsPath (kept s.toList) = parts at h hkept hpath
  obtain ⟨path, rest⟩ := parts
  simp only at h hkept hpath
  -- The part that is read costs no more where it is read, so nothing is left for the parts that are not.
  have hle := sum_cost_le path
  rw [hedges, ← hkept, List.map_append, List.map_append, List.sum_append, List.sum_append] at h
  have hrest : rest = [] := eq_nil_of_sum_cost (segmentMarks true) (by omega)
  have hnone : edges = [] := eq_nil_of_sum_cost (segmentMarks true) (by omega)
  subst hrest hnone
  rw [List.append_nil] at hkept hedges
  refine isPlainSegment_iff.mpr ⟨hdot, hdotDot, ?_, ?_⟩
  · rw [hedges, ← hkept]
    intro c hc hbreak
    have hends := hpath c hc
    by_cases hmark : c ∈ ['/', '\\', '%']
    · have hlt := List.sum_lt_sum (l := path) (fun c => cost pathMarks (asSlash c)) (cost (segmentMarks true))
        (fun c _ => (cost_le c).left) ⟨c, hc, (cost_le c).right hmark⟩
      simp only [List.map_nil, List.sum_nil] at h
      omega
    · simp only [breaks, List.mem_cons, List.not_mem_nil, or_false, not_or] at hbreak hmark
      simp only [endsPath, Bool.or_eq_false_iff, decide_eq_false_iff_not] at hends
      simp [hmark, hends] at hbreak
  · rw [hedges]
    exact fun c hlast => getLast?_kept hlast

/-- The texts that stand for the directory itself or the one above. -/
def dotSegments : List String :=
  [".", "%2e", "%2E", "..", "%2e%2e", "%2e%2E", "%2E%2e", "%2E%2E", "%2e.", "%2E.", ".%2e", ".%2E"]

theorem mem_dotSegments {s : String} (h : isDot s = true ∨ isDotDot s = true) : s ∈ dotSegments := by
  simp only [isDot, isDotDot, List.contains_eq_mem, decide_eq_true_eq] at h
  rcases h with h | h
  · exact List.mem_append_left _ h
  · exact List.mem_append_right [".", "%2e", "%2E"] h

/-- Nothing that is encoded is read as a dot. -/
theorem not_break_of_dot (h : percent (segmentMarks true) cs ∈ dotSegments) (hc : c ∈ cs) :
    c ∉ breaks ∧ isEdge c = false := by
  have hpart : percentChar (segmentMarks true) c <:+: (percent (segmentMarks true) cs).toList := by
    obtain ⟨before, after, rfl⟩ := List.append_of_mem hc
    rw [percent, String.toList_ofList, List.flatMap_append, List.flatMap_cons]
    exact ⟨_, _, List.append_assoc ..⟩
  have hnone : c ∉ breaks ++ (List.range 33).map Char.ofNat := by
    have hall : (breaks ++ (List.range 33).map Char.ofNat).all (fun c => dotSegments.all fun s =>
        !decide (percentChar (segmentMarks true) c <:+: s.toList)) = true := by decide +kernel
    intro hmem
    have hdot := List.all_eq_true.mp (List.all_eq_true.mp hall c hmem) _ h
    simp [hpart] at hdot
  refine ⟨fun hbreak => hnone (List.mem_append_left _ hbreak), ?_⟩
  by_contra hedge
  have hlow : c.toNat ≤ 0x20 := by simpa [isEdge] using hedge
  refine hnone (List.mem_append_right _ ?_)
  exact List.mem_map.mpr ⟨c.toNat, List.mem_range.mpr (by omega), Char.ofNat_toNat c⟩

theorem not_endsPath_of_not_break (h : c ∉ breaks) : endsPath c = false := by
  simp only [breaks, List.mem_cons, List.not_mem_nil, or_false, not_or] at h
  simp [endsPath, h]

theorem pieces_of_not_break (h : ∀ c ∈ cs, c ∉ breaks) : pieces cs = [cs] := by
  simp only [breaks, List.mem_cons, List.not_mem_nil, or_false, not_or] at h
  have hslash : cs.map asSlash = cs.map id := List.map_congr_left fun c hc => if_neg (h c hc).2.1
  rw [pieces, hslash, List.map_id]
  exact Text.splitAt_of_not_mem fun hmem => (h _ hmem).1 rfl

theorem percent_of_not_break (h : ∀ c ∈ cs, c ∉ breaks) : percent pathMarks cs = percent (segmentMarks true) cs := by
  simp only [breaks, List.mem_cons, List.not_mem_nil, or_false, not_or] at h
  refine congrArg String.ofList (List.flatMap_congr fun c hc => (percentChar_segment ?_).symm)
  simp [h c hc]

/-! ## Segments behind a path -/

/-- The path of the pieces of a text behind a path. -/
def read (scheme : String) (items : List String) (s : String) : List String :=
  segments.go scheme items (pieces (splitBefore endsPath (kept s.toList)).1)

variable {s : String}

/-- A plain text is read to its end. -/
theorem kept_of_plain (h : isPlainSegment s = true) : kept s.toList = bare s.toList := by
  obtain ⟨-, -, -, hlast⟩ := isPlainSegment_iff.mp h
  obtain ⟨edges, hedge, hedges⟩ := exists_edges s.toList
  rcases List.eq_nil_or_concat' edges with rfl | ⟨front, c, rfl⟩
  · rw [hedges, List.append_nil]
  · have hc := hlast c (by rw [hedges, ← List.append_assoc]; exact List.getLast?_concat)
    simp [hedge c (by simp)] at hc

theorem read_of_plain (h : isPlainSegment s = true) (items : List String) : read scheme items s =
    addSegment scheme items (percent (segmentMarks true) (bare s.toList)) true := by
  obtain ⟨-, -, hbreaks, -⟩ := isPlainSegment_iff.mp h
  have hpath : (splitBefore endsPath (bare s.toList)).1 =
      bare s.toList :=
    List.takeWhile_eq_self_iff.mpr fun c hc => by simp [not_endsPath_of_not_break (hbreaks c hc)]
  rw [read, kept_of_plain h, hpath, pieces_of_not_break hbreaks, ← percent_of_not_break hbreaks]
  rfl

theorem pushSegment_eq {items : List String} (hweb : IsWeb scheme) (hitems : items ≠ [""]) (hdot : s ≠ ".")
    (hdotDot : s ≠ "..") : pushSegment scheme items s =
      addSegment scheme items (percent (segmentMarks true) (bare s.toList)) true := by
  simp [pushSegment, bare, hitems, hdot, hdotDot, hweb.isSpecial]

/-- A text behind a path is read as the segment it is encoded to if and only if it is plain. -/
theorem read_eq_pushed_iff (hweb : IsWeb scheme) (before : List String) {segment : String} (hsegment : segment ≠ "")
    (hstays : staysPut segment = false) (s : String) :
    read scheme (before ++ [segment]) s = pushSegment scheme (before ++ [segment]) s ↔ isPlainSegment s = true := by
  have hitems : before ++ [segment] ≠ [""] := by
    intro h
    have hlast := congrArg List.getLast? h
    simp [hsegment] at hlast
  constructor
  · intro h
    -- The dots are left out where they are added, and take effect where they are read.
    by_cases hdot : s = "."
    · have hread : read scheme (before ++ [segment]) "." = before ++ [segment] ++ [""] := rfl
      rw [hdot, hread] at h
      simp [pushSegment] at h
    by_cases hdotDot : s = ".."
    · have hread : read scheme (before ++ [segment]) ".." = before ++ [""] := by
        change addSegment scheme (before ++ [segment]) ".." true = _
        rw [addSegment, if_pos (by decide), if_neg (by simp [hstays])]
        simp
      rw [hdotDot, hread] at h
      simp [pushSegment] at h
      exact (hsegment h).elim
    rw [pushSegment_eq hweb hitems hdot hdotDot] at h
    by_cases hdots : percent (segmentMarks true) (bare s.toList) ∈ dotSegments
    · refine isPlainSegment_iff.mpr ⟨hdot, hdotDot, ?_, ?_⟩
      · exact fun c hc => (not_break_of_dot hdots hc).left
      · exact fun c hc => (not_break_of_dot hdots (List.mem_of_getLast? hc)).right
    · have hadd : addSegment scheme (before ++ [segment])
          (percent (segmentMarks true) (bare s.toList)) true =
            before ++ [segment] ++ [percent (segmentMarks true) (bare s.toList)] := by
        unfold addSegment
        rw [if_neg fun h => hdots (mem_dotSegments (.inr h)), if_neg fun h => hdots (mem_dotSegments (.inl h)), if_neg]
        simp [hweb.ne_file]
      have hextent := extent_pieces_le hweb.ne_file (before ++ [segment]) (splitBefore endsPath (kept s.toList)).1
      rw [← read, h, hadd, extent_append _ [percent _ _]] at hextent
      refine isPlainSegment_of_sum_le hdot hdotDot ?_
      have hlength : extent [percent (segmentMarks true) (bare s.toList)] =
          ((bare s.toList).map (cost (segmentMarks true))).sum + 1 := by
        simp [extent, length_percent]
      omega
  · intro h
    obtain ⟨hdot, hdotDot, -⟩ := isPlainSegment_iff.mp h
    rw [read_of_plain h, pushSegment_eq hweb hitems hdot hdotDot]

/-! ## Behind an address -/

/-- The segments of a path before what is put behind it. -/
def stem (scheme : String) : List Char → List String
  | [] => []
  | _ :: path => (pieces path).foldl (enter scheme) []

theorem exists_pieces (cs : List Char) : ∃ piece others, pieces cs = piece :: others := by
  unfold pieces
  cases cs.map asSlash with
  | nil => exact ⟨[], [], rfl⟩
  | cons c cs =>
    by_cases hc : c = '/'
    · subst hc
      exact ⟨[], _, Text.splitAt_cons_self cs⟩
    · obtain ⟨first, others, -, hcons⟩ := Text.splitAt_cons_of_ne hc cs
      exact ⟨_, _, hcons⟩

/-- The last piece of a text that ends in no slash is not empty. -/
theorem pieces_append_singleton (hc : isSlash c = false) (cs : List Char) :
    ∃ before piece, piece ≠ [] ∧ pieces (cs ++ [c]) = before ++ [piece] := by
  simp only [isSlash, Bool.or_eq_false_iff, decide_eq_false_iff_not] at hc
  induction cs with
  | nil =>
    have hsame : asSlash c = c := if_neg hc.2
    have hone : pieces [c] = [[c]] := by
      rw [pieces, List.map_singleton, hsame]
      exact Text.splitAt_of_not_mem (by simp [Ne.symm hc.1])
    exact ⟨[], [c], by simp, hone⟩
  | cons d cs ih =>
    obtain ⟨before, piece, hpiece, hpieces⟩ := ih
    by_cases hd : asSlash d = '/'
    · refine ⟨[] :: before, piece, hpiece, ?_⟩
      rw [pieces, List.cons_append, List.map_cons, hd, Text.splitAt_cons_self, ← pieces, hpieces, List.cons_append]
    · obtain ⟨first, others, hsplit, hcons⟩ := Text.splitAt_cons_of_ne hd ((cs ++ [c]).map asSlash)
      rw [pieces, hsplit] at hpieces
      rw [pieces, List.cons_append, List.map_cons, hcons]
      cases before with
      | nil =>
        obtain ⟨rfl, rfl⟩ := List.cons.inj hpieces
        exact ⟨[], asSlash d :: first, by simp, rfl⟩
      | cons p before =>
        obtain ⟨rfl, rfl⟩ := List.cons.inj hpieces
        exact ⟨(asSlash d :: first) :: before, piece, hpiece, rfl⟩

variable {path : List Char} {authority : Option Authority}

theorem splitBefore_of_plain {p : Char → Bool} (h : ∀ c ∈ cs, p c = false) (more : List Char) :
    splitBefore p (cs ++ more) = (cs ++ (splitBefore p more).1, (splitBefore p more).2) := by
  have htake : (cs ++ more).takeWhile (fun c => !p c) = cs ++ more.takeWhile fun c => !p c :=
    List.takeWhile_append_of_pos fun c hc => by simp [h c hc]
  have hdrop : (cs ++ more).dropWhile (fun c => !p c) = more.dropWhile fun c => !p c :=
    List.dropWhile_append_of_pos fun c hc => by simp [h c hc]
  rw [splitBefore, htake, hdrop]
  rfl

theorem splitBefore_slash (more : List Char) : splitBefore endsPath ('/' :: more) =
    ('/' :: (splitBefore endsPath more).1, (splitBefore endsPath more).2) := rfl

/-- The segments of a path, as they are read. -/
theorem path_withPath (scheme : String) (authority : Option Authority) (cs : List Char) :
    (withPath scheme authority cs).path = .segments (match (splitBefore endsPath cs).1 with
      | [] => if isSpecial scheme then [""] else []
      | _ :: path => segments scheme path) := rfl

/-- What is put behind a path is read where the path has led to. -/
theorem path_withPath_append (hweb : IsWeb scheme) (hplain : ∀ c ∈ path, endsPath c = false) (more : List Char) :
    (withPath scheme authority (path ++ '/' :: more)).path =
      .segments (segments.go scheme (stem scheme path) (pieces (splitBefore endsPath more).1)) := by
  rw [path_withPath, splitBefore_of_plain hplain, splitBefore_slash]
  refine congrArg UrlPath.segments ?_
  cases path with
  | nil => exact segments_eq hweb _
  | cons c path =>
    obtain ⟨piece, others, hpieces⟩ := exists_pieces (splitBefore endsPath more).1
    simp only [List.cons_append]
    rw [segments_eq hweb, pieces_append_slash, hpieces, segments_go_append]
    rfl

/-- The segments to which others are added are those that a text behind the address is read after. -/
theorem ReadsOn.exists_segments {address : String} {u : Url} (h : ReadsOn address u path) (hweb : IsWeb u.scheme) :
    ∃ items, u.path = .segments items ∧ trimEmpty items = stem u.scheme path := by
  have hall : (splitBefore endsPath path).1 = path := List.takeWhile_eq_self_iff.mpr fun c hc => by simp [h.plain c hc]
  rw [h.reads, path_withPath, hall]
  refine ⟨_, rfl, ?_⟩
  cases path with
  | nil => simp [hweb.isSpecial, trimEmpty, stem]
  | cons c path =>
    rcases List.eq_nil_or_concat' path with rfl | ⟨front, d, rfl⟩
    · have hslash : isSlash c = true := h.begins c rfl
      rw [h.ends c rfl] at hslash
      cases hslash
    · have hd : isSlash d = false := h.ends d (List.getLast?_concat (l := c :: front))
      obtain ⟨before, piece, hpiece, hpieces⟩ := pieces_append_singleton hd front
      simp only [stem]
      rw [segments_eq hweb, hpieces]
      exact trimEmpty_go hweb.ne_file before hpiece

end Rollout.Url
