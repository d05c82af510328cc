import Rollout.Proofs.Lineage

/-!
# Rollout.Proofs.Made — what steps on files leave behind

A path leads to a place that its names alone determine, if it leads anywhere.  So what a step on files can change is
known before it is known what stands in the tree: a row of directories that is made, or made in part, changes nothing
but the places on the way to its last one.

* `FileTree.target`: where a path leads if all that it names is there.
* `FileTree.seen_of_locate_join`: the way to a name in a directory leads through the directory.
* `FileTree.target_mem_passed`, `FileTree.not_mem_passed`: the places on a way, which lie above its end.
* `FileTree.Made`, `Disk.makeDirsIn_makes`: directories that are made.
* `Disk.step_leaves`, `Disk.read_apply`: what a step leaves behind, whether it succeeds or not.
* `Disk.Lands`, `Disk.fillBehind_leaves`: what of a text is in a file that is said to be filled with it.
-/

namespace Rollout

/-! ## The place of a directory -/

namespace FileTree

variable {t t' : FileTree} {here q place name : String} {cs ds : List String} {dir p : Path}

/-- Where a path leads if all that it names is there. -/
def target (here : String) (p : Path) : String := p.names.foldl next (origin here p)

/-- A walk leads where its names lead, one after the other. -/
theorem eq_foldl_of_walk (h : walk t q cs = .ok place) : place = (cs.filter (· ≠ ".")).foldl next q := by
  induction cs generalizing q with
  | nil => exact (Except.ok.inj h).symm
  | cons c cs ih =>
    unfold walk at h
    split at h
    · cases h
    · cases h
    · by_cases hdot : c = "."
      · rw [if_pos hdot] at h
        rw [List.filter_cons_of_neg (by simpa using hdot)]
        exact ih h
      · rw [if_neg hdot] at h
        rw [List.filter_cons_of_pos (by simpa using hdot), List.foldl_cons, next]
        by_cases hup : c = ".."
        · rw [if_pos hup] at h ⊢
          exact ih h
        · rw [if_neg hup] at h ⊢
          split at h
          · cases h
          · exact ih h

theorem eq_target (h : t.locate here p = .ok place) : place = target here p := by
  obtain ⟨-, -, -, hwalk⟩ := locate_eq_ok.mp h
  rw [target, ← Path.filter_components]
  exact eq_foldl_of_walk hwalk

/-- A walk of one step to a name leads from a directory. -/
theorem walk_name_eq_ok (hname : PlainName name) (h : walk t q [name] = .ok place) :
    t.isDirectory q = true ∧ place = q ++ "/" ++ name ∧ Text.byteLength name ≤ maxName := by
  unfold walk at h
  split at h
  · cases h
  · cases h
  · rename_i hnode
    rw [if_neg hname.not_dot, if_neg hname.not_up] at h
    split at h
    · cases h
    · exact ⟨by simp [isDirectory, hnode], (Except.ok.inj h).symm, by omega⟩

/-- The way to a name in a directory leads through the directory. -/
theorem seen_of_locate_join (hname : PlainName name) (h : t.locate here (dir.join name) = .ok place) :
    t.Seen here dir (target here dir) ∧ place = target here dir ++ "/" ++ name ∧
      Text.byteLength name ≤ maxName ∧ Text.byteLength (dir.join name) ≤ maxPath := by
  obtain ⟨hnul, -, hlong, hwalk⟩ := locate_eq_ok.mp h
  by_cases hempty : dir = ""
  · subst hempty
    have hpieces : Text.splitAt '/' name.toList = [] ++ [name.toList] := Text.splitAt_of_not_mem hname.no_slash
    have hcomponents : components name = [name] := components_of_pieces hname.not_empty hpieces
    rw [Path.empty_join, if_neg hname.not_absolute, hcomponents] at hwalk
    obtain ⟨hdirectory, hplace, hshort⟩ := walk_name_eq_ok hname hwalk
    exact ⟨⟨hdirectory, .inl ⟨rfl, rfl⟩⟩, hplace, hshort, hlong⟩
  · obtain ⟨slash, hlead, -⟩ := exists_lead dir
    have hjoin : (dir.join name).toList = dir.toList ++ (slash.toList ++ name.toList) := by
      rw [join_eq hempty hname, hlead, String.toList_append, String.toList_append, List.append_assoc]
    have habsolute : Path.isAbsolute (dir.join name) = Path.isAbsolute dir := by
      unfold Path.isAbsolute
      rw [hjoin, List.head?_append_of_ne_nil _ (by simpa using hempty)]
    rw [habsolute, components_join hempty hname, walk_append] at hwalk
    cases hmid : walk t (if dir.isAbsolute then "" else here) (ownComponents dir) with
    | error e =>
      rw [hmid] at hwalk
      cases hwalk
    | ok mid =>
      rw [hmid] at hwalk
      obtain ⟨hdirectory, hplace, hshort⟩ := walk_name_eq_ok hname hwalk
      have hreaches : t.Reaches (if dir.isAbsolute then "" else here) (components dir) mid := by
        rcases components_eq dir with hown | hown
        · rw [hown]
          exact ⟨hmid, hdirectory⟩
        · rw [hown]
          refine reaches_append.mpr ⟨mid, ⟨hmid, hdirectory⟩, reaches_cons.mpr ⟨hdirectory, ?_⟩⟩
          rw [if_pos rfl]
          exact ⟨rfl, hdirectory⟩
      have hlocate : t.locate here dir = .ok mid := by
        refine locate_eq_ok.mpr ⟨?_, hempty, Nat.le_trans ?_ hlong, hreaches.1⟩
        · rw [hjoin] at hnul
          simp only [List.contains_eq_mem, List.mem_append, decide_eq_false_iff_not, not_or] at hnul ⊢
          exact hnul.1
        · rw [join_eq hempty hname, hlead, Text.byteLength_append, Text.byteLength_append]
          omega
      have hmid := eq_target hlocate
      subst hmid
      exact ⟨⟨hdirectory, .inr hlocate⟩, hplace, hshort, hlong⟩

/-! ## The directories on a way -/

theorem foldl_mem_passed (h : ds <+: cs) : ds.foldl next q ∈ passed q cs := by
  induction cs generalizing q ds with
  | nil =>
    rw [List.prefix_nil.mp h]
    exact List.mem_singleton.mpr rfl
  | cons c cs ih =>
    rcases List.prefix_cons_iff.mp h with rfl | ⟨ds', rfl, hprefix⟩
    · exact List.mem_append_right _ (List.mem_singleton.mpr rfl)
    · exact List.mem_append_left _ (ih hprefix)

/-- A path above a path leads to a place on the way. -/
theorem target_mem_passed (h : p ∈ dir.lineage) : target here p ∈ passed (origin here dir) dir.names := by
  have hgo : ∀ fuel (dir : Path), p ∈ Path.lineage.go fuel dir →
      p.names <+: dir.names ∧ p.isAbsolute = dir.isAbsolute := by
    intro fuel
    induction fuel with
    | zero =>
      intro dir h
      obtain rfl := List.mem_singleton.mp h
      exact ⟨List.prefix_refl _, rfl⟩
    | succ fuel ih =>
      intro dir h
      unfold Path.lineage.go at h
      split at h
      · rename_i heq hparent
        cases heq
        rcases List.mem_cons.mp h with rfl | h
        · exact ⟨List.prefix_refl _, rfl⟩
        · obtain ⟨hnames, habsolute⟩ := ih _ h
          rw [Path.names_of_parent? hparent] at hnames
          exact ⟨hnames.trans (List.dropLast_prefix _), habsolute.trans (Path.isAbsolute_of_parent? hparent)⟩
      · obtain rfl := List.mem_singleton.mp h
        exact ⟨List.prefix_refl _, rfl⟩
  obtain ⟨hnames, habsolute⟩ := hgo _ dir h
  have horigin : origin here p = origin here dir := by
    unfold origin
    rw [habsolute]
  rw [target, horigin]
  exact foldl_mem_passed hnames

theorem length_le_of_mem_upward (h : q ∈ upward place) : q.length ≤ place.length := by
  have hin : ∀ fuel (place : String), q ∈ upwardIn fuel place → q.length ≤ place.length := by
    intro fuel
    induction fuel with
    | zero =>
      intro place h
      rw [List.mem_singleton.mp h]
    | succ fuel ih =>
      intro place h
      unfold upwardIn at h
      split at h
      · rw [List.mem_singleton.mp h]
      · rename_i hne
        rcases List.mem_cons.mp h with rfl | h
        · exact Nat.le_refl _
        · exact Nat.le_trans (ih _ h) (Nat.le_of_lt (length_above hne))
  exact hin _ place h

/-- A way that never leads up does not pass what lies below its end. -/
theorem not_mem_passed (hup : ".." ∉ dir.names) (name : String) :
    target here dir ++ "/" ++ name ∉ passed (origin here dir) dir.names := by
  intro h
  have hupward := upward_foldl (origin here dir) hup fun _ => Path.not_slash_of_mem_names
  have hlength := length_le_of_mem_upward (hupward ▸ List.mem_append_left _ h)
  rw [← target, String.length_append, String.length_append] at hlength
  have hslash : "/".length = 1 := by decide
  omega

/-! ## Directories that are made -/

/-- One tree is another one with directories at some places where nothing was. -/
def Made (t t' : FileTree) (places : List String) : Prop :=
  ∀ q, t'.node? q = t.node? q ∨ q ∈ places ∧ t.node? q = none ∧ t'.node? q = some .directory

variable {places places' : List String}

theorem Made.refl (t : FileTree) (places : List String) : t.Made t places := fun _ => .inl rfl

theorem Made.mono (h : t.Made t' places) (hplaces : places ⊆ places') : t.Made t' places' := fun q =>
  (h q).imp_right fun ⟨hq, hnodes⟩ => ⟨hplaces hq, hnodes⟩

theorem Made.trans {t'' : FileTree} (h : t.Made t' places) (h' : t'.Made t'' places) : t.Made t'' places := by
  intro q
  rcases h q with heq | ⟨hq, hnone, hmade⟩
  · rcases h' q with heq' | ⟨hq, hnone, hmade⟩
    · exact .inl (heq'.trans heq)
    · exact .inr ⟨hq, heq ▸ hnone, hmade⟩
  · rcases h' q with heq' | ⟨-, hnone', -⟩
    · exact .inr ⟨hq, hnone, heq'.trans hmade⟩
    · rw [hmade] at hnone'
      cases hnone'

theorem Made.directories (h : t.Made t' places) : t.Directories t' := by
  intro q hq
  rcases h q with heq | ⟨-, hnone, -⟩
  · rwa [isDirectory, heq]
  · simp [isDirectory, hnone] at hq

theorem made_of_makeDir (h : t.makeDir here p = .ok t') : t.Made t' [target here p] := by
  unfold makeDir at h
  cases hlocate : t.locate here p with
  | error e =>
    rw [hlocate] at h
    cases h
  | ok place =>
    rw [hlocate] at h
    have h : (if (t.node? place).isSome = true then .error .taken else .ok (t.put place .directory)) =
      (.ok t' : Except OsFault FileTree) := h
    split at h
    · cases h
    · rename_i hnone
      obtain rfl := Except.ok.inj h
      have hnone : t.node? place = none := by simpa using hnone
      have hroot : place ≠ "" := by
        rintro rfl
        simp [node?] at hnone
      intro q
      by_cases hq : q = place
      · subst hq
        exact .inr ⟨by simp [eq_target hlocate], hnone, node?_put_self hroot _⟩
      · exact .inl (node?_put_of_ne hq _)

/-! ## Files that are written, moved and removed -/

theorem write_eq_ok {text : String} (h : t.write here p text = .ok t') :
    ∃ place, t.locate here p = .ok place ∧ t.isDirectory place = false ∧ t' = t.put place (.file text) := by
  unfold write at h
  cases hlocate : t.locate here p with
  | error e =>
    rw [hlocate] at h
    cases h
  | ok place =>
    rw [hlocate] at h
    have h : (if t.isDirectory place = true then .error .isDirectory else .ok (t.put place (.file text))) =
      (.ok t' : Except OsFault FileTree) := h
    split at h
    · cases h
    · rename_i hplace
      exact ⟨place, rfl, by simpa using hplace, (Except.ok.inj h).symm⟩

/-- Where a text was written another one can be written. -/
theorem write_again {text : String} (h : t.write here p text = .ok t') (text' : String) :
    ∃ files, t'.write here p text' = .ok files := by
  obtain ⟨place, hlocate, hplace, rfl⟩ := write_eq_ok h
  have hfile : (t.put place (.file text)).isDirectory place = false := by
    simp [isDirectory, node?_put_self (ne_root hplace)]
  exact ⟨_, write_of_located ((directories_put _ hplace).locate hlocate) hfile text'⟩

theorem rename_eq_ok {source aim : Path} (h : t.rename here source aim = .ok t') :
    ∃ a b text, t.locate here source = .ok a ∧ t.locate here aim = .ok b ∧ t.node? a = some (.file text) ∧
      t.isDirectory b = false ∧ t' = (t.drop a).put b (.file text) := by
  unfold rename at h
  cases hsource : t.locate here source with
  | error e =>
    rw [hsource] at h
    cases h
  | ok a =>
    cases haim : t.locate here aim with
    | error e =>
      rw [hsource, haim] at h
      cases h
    | ok b =>
      rw [hsource, haim] at h
      simp only [bind, Except.bind] at h
      split at h
      · rename_i text hnode
        split at h
        · cases h
        · rename_i hb
          exact ⟨a, b, text, rfl, rfl, hnode, by simpa using hb, (Except.ok.inj h).symm⟩
      · cases h
      · cases h

theorem remove_eq_ok (h : t.remove here p = .ok t') :
    ∃ place text, t.locate here p = .ok place ∧ t.node? place = some (.file text) ∧ t' = t.drop place := by
  unfold remove at h
  cases hlocate : t.locate here p with
  | error e =>
    rw [hlocate] at h
    cases h
  | ok place =>
    rw [hlocate] at h
    simp only [bind, Except.bind] at h
    split at h
    · exact ⟨place, _, rfl, ‹_›, (Except.ok.inj h).symm⟩
    · cases h
    · cases h

theorem directories_drop (hplace : t.isDirectory place = false) : t.Directories (t.drop place) := by
  intro q hq
  have hne : q ≠ place := by
    rintro rfl
    simp [hplace] at hq
  rwa [isDirectory, node?_drop_of_ne hne]

theorem Seen.mono (h : t.Seen here p place) (hdirectories : t.Directories t') : t'.Seen here p place :=
  ⟨hdirectories _ h.1, h.2.imp_right hdirectories.locate⟩

end FileTree

namespace Disk

variable {σ : Type} [Host σ]

/-- A step does what it is meant to, or fails and leaves the files as they were or as the disturbance has it. -/
theorem step_leaves (a : FileAction) (w : World σ) : (step a).Ends w fun r t w' => t = [.file a] ∧
    (r = .ok (.ok ()) ∧ a.apply w.files w.here = .ok w'.files ∨
      ∃ e, r = .ok (.error e) ∧ (w'.files = w.files ∨ ∃ kept, w'.files = a.leave w.files w.here kept)) := by
  refine (step_ends a w).result.mono ?_
  rintro r t w' - ⟨hstep, rfl, hdone⟩
  refine ⟨rfl, ?_⟩
  rw [step_apply] at hstep
  split at hstep
  · rename_i d _
    obtain ⟨rfl, rfl⟩ := Prod.mk.inj hstep
    exact .inr ⟨_, rfl, .inr ⟨d.kept, rfl⟩⟩
  · split at hstep
    · obtain ⟨rfl, rfl⟩ := Prod.mk.inj hstep
      exact .inl ⟨rfl, hdone rfl⟩
    · obtain ⟨rfl, rfl⟩ := Prod.mk.inj hstep
      exact .inr ⟨_, rfl, .inl rfl⟩

/-- What of a text lands in a file when it is written behind and nothing is told to be wrong: all of it, unless the host
disturbs that in its state `s`, and then what is left after a loss that is not told. -/
def Lands (s : σ) (p : Path) (text landed : String) : Prop :=
  match (Host.disturb (.fill p text) s).1 with
  | none => landed = text
  | some d => isTold text d.kept = false ∧ landed = first d.kept text

/-- Without a disturbance all of the text lands. -/
theorem Lands.eq {s : σ} {p : Path} {text landed : String} (h : Lands s p text landed)
    (hcalm : (Host.disturb (.fill p text) s).1 = none) : landed = text := by
  unfold Lands at h
  rw [hcalm] at h
  exact h

/-- To fill a file is one step, of which it may not be told that it is disturbed. -/
theorem fillBehind_apply (p : Path) (text : String) (w : World σ) : fillBehind p text w =
    (if (Host.disturb (.fill p text) w.host).1.any (fun d => !isTold text d.kept) then .ok (.ok ())
      else (step (.fill p text) w).1, (step (.fill p text) w).2) := by
  unfold fillBehind
  rcases step (.fill p text) w with ⟨r, w'⟩
  rfl

/-- Filling a file leaves it as it was, or with some text in it; with what lands there if it is said to be filled. -/
theorem fillBehind_leaves (p : Path) (text : String) (w : World σ) : (fillBehind p text).Ends w fun r t w' =>
    t = [.file (.fill p text)] ∧ (w'.files = w.files ∨ ∃ landed, w.files.write w.here p landed = .ok w'.files) ∧
      (r = .ok (.ok ()) → ∃ landed, Lands w.host p text landed ∧
        ∀ files, w.files.write w.here p landed = .ok files → w'.files = files) := by
  obtain ⟨_, hl, rfl, hleft⟩ := step_leaves (.fill p text) w
  unfold Act.Ends
  rw [fillBehind_apply]
  refine ⟨_, hl, rfl, ?_, fun hfilled => ?_⟩
  · rcases hleft with ⟨-, happly⟩ | ⟨-, -, hsame | ⟨kept, hpart⟩⟩
    · exact .inr ⟨text, happly⟩
    · exact .inl hsame
    · unfold FileAction.leave at hpart
      dsimp only at hpart
      split at hpart
      · rename_i files hwrite
        exact .inr ⟨first kept text, hpart ▸ hwrite⟩
      · exact .inl hpart
  · unfold Lands
    rw [step_apply] at hfilled ⊢
    cases hdisturb : (Host.disturb (.fill p text) w.host).1 with
    | some d =>
      rw [hdisturb] at hfilled
      cases htold : isTold text d.kept with
      | false => exact ⟨_, ⟨htold, rfl⟩, fun files hwrite => by simp [FileAction.leave, hwrite]⟩
      | true =>
        have hquiet : (some d).any (fun d => !isTold text d.kept) = false := by rw [Option.any_some, htold]; rfl
        rw [if_neg (ne_true_of_eq_false hquiet)] at hfilled
        cases hfilled
    | none =>
      refine ⟨text, rfl, fun files hwrite => ?_⟩
      have happly : (FileAction.fill p text).apply w.files w.here = .ok files := hwrite
      rw [happly]

/-- A file that could be read is read, unless the host disturbs that. -/
theorem read_apply {p : Path} {text : String} {w : World σ} (h : w.files.read w.here p = .ok text) :
    read p w = (.ok (match (Host.disturb (.read p) w.host).1 with
      | some d => .error d.fault
      | none => .ok text), { w with host := (Host.disturb (.read p) w.host).2 }.note (.file (.read p))) := by
  have happly : (FileAction.read p).apply w.files w.here = .ok w.files := congrArg (Except.map fun _ => w.files) h
  unfold read
  rw [Act.bind_apply, step_apply]
  cases (Host.disturb (.read p) w.host).1 with
  | some d => rfl
  | none =>
    rw [happly]
    exact congrArg (fun text => (Except.ok text, _)) h

/-- On the way from a world to another one some of a row of directories were made, and nothing else was. -/
structure Makes (w : World σ) (ps : List Path) (t : List Event) (w' : World σ) : Prop where
  here : w'.here = w.here
  steps : ∀ e ∈ t, ∃ p ∈ ps, e = .file (.makeDir p)
  made : w.files.Made w'.files (ps.map (FileTree.target w.here))

variable {w w' w'' : World σ} {ps : List Path} {p : Path} {t t' : List Event}

omit [Host σ] in
theorem Makes.refl (w : World σ) (ps : List Path) : Makes w ps [] w := ⟨rfl, by simp, .refl _ _⟩

omit [Host σ] in
theorem Makes.trans (h : Makes w ps t w') (h' : Makes w' ps t' w'') : Makes w ps (t ++ t') w'' := by
  refine ⟨h'.here.trans h.here, fun e he => ?_, ?_⟩
  · rcases List.mem_append.mp he with he | he
    · exact h.steps e he
    · exact h'.steps e he
  · have hmade := h'.made
    rw [h.here] at hmade
    exact h.made.trans hmade

omit [Host σ] in
theorem Makes.cons (h : Makes w ps t w') (p : Path) : Makes w (p :: ps) t w' where
  here := h.here
  steps e he := (h.steps e he).imp fun _ ⟨hp, heq⟩ => ⟨List.mem_cons_of_mem _ hp, heq⟩
  made := h.made.mono (List.map_subset _ (List.subset_cons_self _ _))

theorem makeDir_makes (hp : p ∈ ps) (w : World σ) : (step (.makeDir p)).Ends w fun _ t w' => Makes w ps t w' := by
  refine (step_leaves _ w).mono ?_
  rintro r t w' hl ⟨rfl, hfiles⟩
  refine ⟨hl.here, by simp [hp], ?_⟩
  rcases hfiles with ⟨-, happly⟩ | ⟨e, -, hsame | ⟨kept, hsame⟩⟩
  · exact (FileTree.made_of_makeDir happly).mono (by simpa using List.mem_map_of_mem hp)
  · exact hsame ▸ .refl _ _
  · exact hsame ▸ .refl _ _

/-- However far a row of directories is made, nothing but these directories is made. -/
theorem makeDirsIn_makes (ps : List Path) (w : World σ) :
    (makeDirsIn ps).Ends w fun _ t w' => Makes w ps t w' := by
  induction ps generalizing w with
  | nil => exact Act.ends_pure (.refl w _)
  | cons p above ih =>
    have hp : p ∈ p :: above := List.mem_cons_self
    -- Whether the directory is there after all is only looked at.
    have hthere (e : OsFault) (w : World σ) : (do
        if ← Act.asks fun w => w.files.containsDir w.here p then return .ok () else return .error e :
          Act σ (Except OsFault Unit)).Ends w fun _ t w' => Makes w (p :: above) t w' := by
      refine Act.ends_bind (Act.ends_asks ?_)
      dsimp only
      split
      · exact Act.ends_pure (.refl w _)
      · exact Act.ends_pure (.refl w _)
    unfold makeDirsIn
    by_cases hempty : p = ""
    · rw [if_pos hempty]
      exact Act.ends_pure (.refl w _)
    rw [if_neg hempty]
    refine Act.ends_bind ((makeDir_makes hp w).mono ?_)
    rintro (e | r) t w₁ - h₁
    · exact h₁
    dsimp only
    split
    · exact Act.ends_pure (h₁.trans (.refl _ _))
    · refine Act.ends_bind ((ih w₁).mono ?_)
      rintro (e | r) t₂ w₂ - h₂
      · exact h₁.trans (h₂.cons p)
      dsimp only
      split
      · exact Act.ends_pure (by simpa using h₁.trans (h₂.cons p))
      · refine Act.ends_bind ((makeDir_makes hp w₂).mono ?_)
        rintro (e | r) t₃ w₃ - h₃
        · simpa using (h₁.trans (h₂.cons p)).trans h₃
        dsimp only
        split
        · exact Act.ends_pure (by simpa using (h₁.trans (h₂.cons p)).trans h₃)
        · refine (hthere _ w₃).mono ?_
          rintro r t₄ w₄ - h₄
          simpa using ((h₁.trans (h₂.cons p)).trans h₃).trans h₄
    · refine (hthere _ w₁).mono ?_
      rintro r t₂ w₂ - h₂
      exact h₁.trans h₂

end Disk

end Rollout
