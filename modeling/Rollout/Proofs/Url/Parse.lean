import Mathlib.Data.List.DropRight
import Rollout.Url.Parse

/-!
# Rollout.Proofs.Url.Parse — addresses with something put behind them

An address of the web is read from the left, and what is put behind a slash at its end belongs to its path, however
the address begins.

* `Url.kept`: what is read of the end of an address.
* `Url.ReadsOn`: a path goes on behind an address.
* `Url.readsOn_of_parse?`: the path of an address of the web does, unless a query or a fragment follows it.
-/

namespace Rollout.Url

variable {address scheme : String} {u : Url} {cs more : List Char} {c : Char}

/-! ## Characters that are not read -/

/-- What is not read at the ends of an address: a blank or a control. -/
def isEdge (c : Char) : Bool := c.toNat ≤ 0x20

theorem isDropped_of_not_isEdge (h : isEdge c = false) : isDropped c = false := by
  by_contra hdropped
  simp only [isDropped, Bool.not_eq_false, Bool.or_eq_true, decide_eq_true_eq] at hdropped
  rcases hdropped with (rfl | rfl) | rfl
  all_goals exact absurd h (by decide)

/-- The characters that an address can hold. -/
def bare (cs : List Char) : List Char := cs.filter fun c => !isDropped c

@[simp] theorem bare_nil : bare [] = [] := rfl

@[simp] theorem bare_append (cs more : List Char) : bare (cs ++ more) = bare cs ++ bare more := List.filter_append ..

theorem bare_singleton (h : isEdge c = false) : bare [c] = [c] := by
  simp [bare, isDropped_of_not_isEdge h]

/-- What is read of the end of an address. -/
def kept (cs : List Char) : List Char := bare (cs.rdropWhile isEdge)

/-- The last character is one that is read at the end. -/
def EndsWell (cs : List Char) : Prop := ∃ c, cs.getLast? = some c ∧ isEdge c = false

/-- Only the end of the last part is left out. -/
theorem rdropWhile_append (h : EndsWell cs) (more : List Char) :
    (cs ++ more).rdropWhile isEdge = cs ++ more.rdropWhile isEdge := by
  obtain ⟨c, hlast, hedge⟩ := h
  induction more using List.reverseRecOn with
  | nil =>
    obtain ⟨front, rfl⟩ := List.getLast?_eq_some_iff.mp hlast
    rw [List.append_nil, List.rdropWhile_concat_neg isEdge front c (by simp [hedge])]
    simp
  | append_singleton more d ih =>
    rw [← List.append_assoc]
    by_cases hd : isEdge d = true
    · rw [List.rdropWhile_concat_pos _ _ _ hd, List.rdropWhile_concat_pos _ _ _ hd, ih]
    · rw [List.rdropWhile_concat_neg _ _ _ hd, List.rdropWhile_concat_neg _ _ _ hd, List.append_assoc]

theorem kept_append (h : EndsWell cs) (more : List Char) : kept (cs ++ more) = bare cs ++ kept more := by
  rw [kept, rdropWhile_append h, bare_append]
  rfl

/-- What is not read at the end consists of blanks and controls. -/
theorem exists_edges (cs : List Char) :
    ∃ edges : List Char, (∀ c ∈ edges, isEdge c = true) ∧ bare cs = kept cs ++ edges := by
  refine ⟨bare (cs.rtakeWhile isEdge), ?_, ?_⟩
  · intro c hc
    exact List.mem_rtakeWhile_imp (List.mem_of_mem_filter hc)
  · rw [kept, ← bare_append, List.rdropWhile_append_rtakeWhile]

/-- What is read of an address: nothing of the blanks around it. -/
def readable (cs : List Char) : List Char := kept (cs.dropWhile isEdge)

theorem readable_append_cons (hc : isEdge c = false) (front more : List Char) :
    readable (front ++ c :: more) = bare (front.dropWhile isEdge) ++ c :: kept more := by
  have hdrop : (front ++ c :: more).dropWhile isEdge = front.dropWhile isEdge ++ [c] ++ more := by
    rw [List.dropWhile_append, List.append_assoc, List.singleton_append]
    split
    · rename_i hempty
      rw [List.isEmpty_iff.mp hempty, List.nil_append, List.dropWhile_cons_of_neg (by simp [hc])]
    · rfl
  have hends : EndsWell (front.dropWhile isEdge ++ [c]) := ⟨c, by simp, hc⟩
  rw [readable, hdrop, kept_append hends, bare_append, bare_singleton hc, List.append_assoc, List.singleton_append]

/-- What is read of an address stays if something is put behind it. -/
theorem readable_append (h : EndsWell cs) (more : List Char) : readable (cs ++ more) = readable cs ++ kept more := by
  obtain ⟨c, hlast, hedge⟩ := h
  obtain ⟨front, rfl⟩ := List.getLast?_eq_some_iff.mp hlast
  rw [List.append_assoc, List.singleton_append, readable_append_cons hedge, readable_append_cons hedge]
  simp [kept]

theorem getLast?_readable (h : EndsWell cs) : (readable cs).getLast? = cs.getLast? := by
  obtain ⟨c, hlast, hedge⟩ := h
  obtain ⟨front, rfl⟩ := List.getLast?_eq_some_iff.mp hlast
  rw [readable_append_cons hedge]
  simp [kept]

/-! ## Schemes -/

/-- The schemes of addresses that a server can be asked for. -/
def IsWeb (scheme : String) : Prop := scheme = "http" ∨ scheme = "https"

theorem IsWeb.isSpecial (h : IsWeb scheme) : isSpecial scheme = true := by
  rcases h with rfl | rfl
  all_goals decide

theorem IsWeb.ne_file (h : IsWeb scheme) : scheme ≠ "file" := by
  rcases h with rfl | rfl
  all_goals decide

theorem takeWhile_append_of_dropWhile {p : Char → Bool} {c : Char} {rest : List Char}
    (h : cs.dropWhile p = c :: rest) (more : List Char) :
    (cs ++ more).takeWhile p = cs.takeWhile p ∧ (cs ++ more).dropWhile p = c :: rest ++ more := by
  have hsplit : cs.takeWhile p ++ c :: rest = cs := h ▸ List.takeWhile_append_dropWhile
  have hlength : (cs.takeWhile p).length ≠ cs.length := by
    intro hlength
    have := congrArg List.length hsplit
    rw [List.length_append, hlength, List.length_cons] at this
    omega
  rw [List.takeWhile_append, List.dropWhile_append, if_neg hlength, h]
  exact ⟨rfl, rfl⟩

/-- What is put behind an address leaves its scheme alone. -/
theorem scheme?_append {rest : List Char} (h : scheme? cs = some (scheme, rest)) (more : List Char) :
    scheme? (cs ++ more) = some (scheme, rest ++ more) := by
  cases cs with
  | nil => exact nomatch h
  | cons c cs =>
    unfold scheme? at h
    simp only at h
    split at h
    · exact nomatch h
    rename_i halpha
    split at h
    · rename_i rest' hcolon
      obtain ⟨rfl, rfl⟩ := Prod.mk.inj (Option.some.inj h)
      obtain ⟨htake, hdrop⟩ := takeWhile_append_of_dropWhile hcolon more
      rw [List.cons_append] at htake hdrop ⊢
      simp only [scheme?, if_neg halpha, hdrop, htake, List.cons_append]
    · exact nomatch h

/-! ## Authorities -/

/-- No address of the web is without a host. -/
theorem special?_nil : UrlHost.special? [] = none := by decide

theorem splitPort_go_mem {inside : Bool} {host port : List Char}
    (h : (splitPort.go inside host cs).2 = some port) : ∀ c ∈ port, c ∈ cs := by
  induction cs generalizing inside host with
  | nil => exact nomatch h
  | cons d cs ih =>
    unfold splitPort.go at h
    split at h
    · obtain rfl := Option.some.inj h
      exact fun c hc => List.mem_cons_of_mem d hc
    · exact fun c hc => List.mem_cons_of_mem d (ih h c hc)

theorem splitLast_mem {before after : List Char} {sep : Char} (h : splitLast sep cs = some (before, after)) :
    ∀ c ∈ after, c ∈ cs := by
  unfold splitLast at h
  split at h
  · obtain ⟨-, rfl⟩ := Prod.mk.inj (Option.some.inj h)
    intro c hc
    exact List.mem_reverse.mp (List.takeWhile_subset _ (List.mem_reverse.mp hc))
  · exact nomatch h

/-- Whether a character ends the authority of an address of the web. -/
def endsAuthority (c : Char) : Bool := c = '/' || c = '?' || c = '#' || c = '\\'

/-- In an address of the web no port holds a backslash. -/
theorem splitAuthority_special (cs : List Char) : splitAuthority true cs = splitBefore endsAuthority cs := by
  have hends : (fun c : Char => c = '/' || c = '?' || c = '#' || (true && c = '\\')) = endsAuthority := by
    funext c
    simp [endsAuthority]
  unfold splitAuthority
  rw [hends]
  have hauthority : ∀ c ∈ (splitBefore endsAuthority cs).1, c ≠ '\\' := by
    intro c hc hbackslash
    have hnot := List.mem_takeWhile_imp hc
    simp [hbackslash, endsAuthority] at hnot
  generalize splitBefore endsAuthority cs = parts at hauthority ⊢
  obtain ⟨authority, path⟩ := parts
  simp only at hauthority ⊢
  split
  · rename_i port hport
    have hdrop : port.dropWhile (· ≠ '\\') = [] := by
      refine List.dropWhile_eq_nil_iff.mpr fun c hc => ?_
      have hmem := splitPort_go_mem hport c hc
      refine decide_eq_true (hauthority c ?_)
      cases hlast : splitLast '@' authority with
      | none => simpa [hlast] using hmem
      | some parts => exact splitLast_mem hlast c (by simpa [hlast] using hmem)
    rw [if_pos hdrop]
  · rfl

/-- An address of the web has a host, so it does not matter to its credentials whether it ends with them. -/
theorem authority?_atEnd (h : isSpecial scheme = true) (a b : Bool) :
    authority? scheme a cs = authority? scheme b cs := by
  unfold authority?
  simp only [h, if_true]
  generalize splitLast '@' cs = parts
  rcases parts with _ | ⟨credentials, hostPort⟩
  · rfl
  · simp only
    generalize splitPort hostPort = hostAndPort
    obtain ⟨host, port⟩ := hostAndPort
    by_cases hhost : host = []
    · simp only [hhost, special?_nil]
      split
      · split <;> rfl
      · split <;> rfl
    · simp only [hhost, decide_false, Bool.false_and]

theorem authority?_nil (h : isSpecial scheme = true) (atEnd : Bool) : authority? scheme atEnd [] = none := by
  rw [authority?_atEnd h atEnd true]
  simp [authority?, h, splitLast, splitPort, splitPort.go, special?_nil]

/-! ## Paths -/

theorem splitBefore_append {p : Char → Bool} (hc : p c = true) (more : List Char) :
    splitBefore p (cs ++ c :: more) = ((splitBefore p cs).1, (splitBefore p cs).2 ++ c :: more) := by
  induction cs with
  | nil => simp [splitBefore, hc]
  | cons d cs ih =>
    by_cases hd : p d = true
    · simp [splitBefore, hd]
    · have hsplit (cs : List Char) : splitBefore p (d :: cs) = (d :: (splitBefore p cs).1, (splitBefore p cs).2) := by
        simp [splitBefore, hd]
      rw [List.cons_append, hsplit, hsplit, ih]

/-- Whether a character ends the path of an address. -/
def endsPath (c : Char) : Bool := c = '?' || c = '#'

/-- Without a query and a fragment all is path. -/
theorem withPath_ends_iff {authority : Option Authority} : ((withPath scheme authority cs).query = none ∧
    (withPath scheme authority cs).fragment = none) ↔ ∀ c ∈ cs, endsPath c = false := by
  have htail : ((withPath scheme authority cs).query, (withPath scheme authority cs).fragment) =
      tail (isSpecial scheme) (cs.dropWhile fun c => !endsPath c) := rfl
  rw [← Prod.mk.injEq, htail]
  constructor
  · intro hnone
    have hdrop : (cs.dropWhile fun c => !endsPath c) = [] := by
      cases hrest : cs.dropWhile fun c => !endsPath c with
      | nil => rfl
      | cons c rest =>
        have hends : endsPath c = true := by
          have hhead := List.head?_dropWhile_not (fun c => !endsPath c) cs
          simpa [hrest] using hhead
        rw [hrest] at hnone
        simp only [endsPath, Bool.or_eq_true, decide_eq_true_eq] at hends
        rcases hends with rfl | rfl
        all_goals simp [tail, splitBefore] at hnone
    simpa using hdrop
  · intro hplain
    rw [List.dropWhile_eq_nil_iff.mpr fun c hc => by simp [hplain c hc]]
    rfl

theorem withPath_of_plain (h : ∀ c ∈ cs, endsPath c = false) (scheme : String) (authority : Option Authority) :
    withPath scheme authority cs = ⟨scheme, authority, (withPath scheme authority cs).path, none, none⟩ := by
  obtain ⟨hquery, hfragment⟩ : (withPath scheme authority cs).query = none ∧
      (withPath scheme authority cs).fragment = none := withPath_ends_iff.mpr h
  have hparts : withPath scheme authority cs = ⟨scheme, authority, (withPath scheme authority cs).path,
      (withPath scheme authority cs).query, (withPath scheme authority cs).fragment⟩ := rfl
  exact hparts.trans (by rw [hquery, hfragment])

/-! ## Reading -/

/-- A slash of an address of the web may be a backslash. -/
def isSlash (c : Char) : Bool := c = '/' || c = '\\'

theorem parse?_eq (text : String) : parse? text = (scheme? (readable text.toList)).bind fun (scheme, rest) =>
    if scheme = "file" then file? rest
    else if isSpecial scheme then withAuthority? scheme (rest.dropWhile isSlash)
    else
      match rest with
      | '/' :: '/' :: rest => withAuthority? scheme rest
      | '/' :: _ => some (withPath scheme none rest)
      | _ =>
        let (path, after) := splitBefore endsPath rest
        let (query, fragment) := tail false after
        some ⟨scheme, none, .opaqueText (percent [] path), query, fragment⟩ := rfl

theorem parse?_of_web {text : String} {rest : List Char}
    (h : scheme? (readable text.toList) = some (scheme, rest)) (hweb : IsWeb scheme) :
    parse? text = withAuthority? scheme (rest.dropWhile isSlash) := by
  rw [parse?_eq, h]
  simp only [Option.bind_some, if_neg hweb.ne_file, if_pos hweb.isSpecial]

theorem scheme_of_file? (h : file? cs = some u) : u.scheme = "file" := by
  have hfile (host : UrlHost) (cs : List Char) : (file host cs).scheme = "file" := rfl
  have hsome {v : Url} (hv : some v = some u) (hscheme : v.scheme = "file") : u.scheme = "file" :=
    Option.some.inj hv ▸ hscheme
  unfold file? at h
  simp only at h
  split at h
  · split at h
    · split at h
      · exact hsome h (hfile _ _)
      · split at h
        · exact hsome h (hfile _ _)
        · obtain ⟨host, -, hhost⟩ := Option.bind_eq_some_iff.mp h
          exact hsome hhost (hfile _ _)
    · exact hsome h (hfile _ _)
  · exact hsome h (hfile _ _)
  · exact hsome h (hfile _ _)

theorem withAuthority?_eq_some (h : withAuthority? scheme cs = some u) : ∃ a,
    authority? scheme ((splitAuthority (isSpecial scheme) cs).2 = []) (splitAuthority (isSpecial scheme) cs).1 =
      some a ∧ u = withPath scheme (some a) (splitAuthority (isSpecial scheme) cs).2 := by
  obtain ⟨a, ha, hu⟩ := Option.bind_eq_some_iff.mp h
  exact ⟨a, ha, (Option.some.inj hu).symm⟩

/-- How an address of the web was read. -/
theorem exists_scheme? {text : String} (h : parse? text = some u) (hweb : IsWeb u.scheme) :
    ∃ rest, scheme? (readable text.toList) = some (u.scheme, rest) ∧
      withAuthority? u.scheme (rest.dropWhile isSlash) = some u := by
  rw [parse?_eq] at h
  obtain ⟨⟨scheme, rest⟩, hscheme, hread⟩ := Option.bind_eq_some_iff.mp h
  simp only at hread
  -- Only an address that is read in the scheme it is written in can be of the web.
  suffices hsame : u.scheme = scheme by
    subst hsame
    rw [if_neg hweb.ne_file, if_pos hweb.isSpecial] at hread
    exact ⟨rest, hscheme, hread⟩
  have hauthority {cs : List Char} (h : withAuthority? scheme cs = some u) : u.scheme = scheme := by
    obtain ⟨a, -, rfl⟩ := withAuthority?_eq_some h
    rfl
  split at hread
  · rename_i hfile
    exact (scheme_of_file? hread).trans hfile.symm
  · split at hread
    · exact hauthority hread
    · split at hread
      · exact hauthority hread
      · exact (congrArg Url.scheme (Option.some.inj hread)).symm
      · exact (congrArg Url.scheme (Option.some.inj hread)).symm

theorem withAuthority?_append (hweb : IsWeb scheme) (h : withAuthority? scheme cs = some u) (more : List Char) :
    withAuthority? scheme (cs ++ '/' :: more) =
      some (withPath scheme u.authority ((splitBefore endsAuthority cs).2 ++ '/' :: more)) := by
  obtain ⟨a, ha, rfl⟩ := withAuthority?_eq_some h
  rw [hweb.isSpecial, splitAuthority_special] at ha
  have hmore : splitAuthority (isSpecial scheme) (cs ++ '/' :: more) =
      ((splitBefore endsAuthority cs).1, (splitBefore endsAuthority cs).2 ++ '/' :: more) := by
    rw [hweb.isSpecial, splitAuthority_special, splitBefore_append (by decide)]
  have hread : withAuthority? scheme (cs ++ '/' :: more) =
      (authority? scheme ((splitAuthority (isSpecial scheme) (cs ++ '/' :: more)).2 = [])
        (splitAuthority (isSpecial scheme) (cs ++ '/' :: more)).1).bind fun a =>
          some (withPath scheme (some a) (splitAuthority (isSpecial scheme) (cs ++ '/' :: more)).2) := rfl
  rw [hread, hmore, authority?_atEnd hweb.isSpecial _ _, ha]
  rfl

/-- The path of an address goes on with what is put behind the address. -/
structure ReadsOn (address : String) (u : Url) (path : List Char) : Prop where
  reads : u = withPath u.scheme u.authority path
  begins : ∀ c, path.head? = some c → isSlash c = true
  ends : ∀ c, path.getLast? = some c → isSlash c = false
  plain : ∀ c ∈ path, endsPath c = false
  goesOn : ∀ more : List Char, parse? (address ++ String.ofList ('/' :: more)) =
    some (withPath u.scheme u.authority (path ++ '/' :: kept more))

theorem scheme?_suffix {rest : List Char} (h : scheme? cs = some (scheme, rest)) : rest <:+ cs := by
  cases cs with
  | nil => exact nomatch h
  | cons c cs =>
    unfold scheme? at h
    simp only at h
    split at h
    · exact nomatch h
    split at h
    · rename_i rest' hcolon
      obtain ⟨-, rfl⟩ := Prod.mk.inj (Option.some.inj h)
      have hdrop := List.dropWhile_suffix (l := c :: cs) fun c => c.isAlphanum || c = '+' || c = '-' || c = '.'
      exact (List.suffix_cons ':' rest').trans (hcolon ▸ hdrop)
    · exact nomatch h

/-- An address of the web that ends in no blank and no slash, and has neither query nor fragment, ends in its path. -/
theorem readsOn_of_parse? (h : parse? address = some u) (hweb : IsWeb u.scheme) (hquery : u.query = none)
    (hfragment : u.fragment = none)
    (hend : ∀ c, address.toList.getLast? = some c → isEdge c = false ∧ isSlash c = false) :
    ∃ path, ReadsOn address u path := by
  obtain ⟨rest, hscheme, hread⟩ := exists_scheme? h hweb
  have hends : EndsWell address.toList := by
    cases hlast : address.toList.getLast? with
    | some c => exact ⟨c, hlast, (hend c hlast).left⟩
    | none =>
      rw [List.getLast?_eq_none_iff.mp hlast] at hscheme
      exact nomatch hscheme
  refine ⟨(splitBefore endsAuthority (rest.dropWhile isSlash)).2, ?_⟩
  have hreads : u = withPath u.scheme u.authority (splitBefore endsAuthority (rest.dropWhile isSlash)).2 := by
    obtain ⟨a, -, hu⟩ := withAuthority?_eq_some hread
    rw [hweb.isSpecial, splitAuthority_special] at hu
    rw [hu]
    rfl
  have hplain := withPath_ends_iff.mp ⟨hreads ▸ hquery, hreads ▸ hfragment⟩
  have hsuffix : (splitBefore endsAuthority (rest.dropWhile isSlash)).2 <:+ readable address.toList :=
    ((List.dropWhile_suffix _).trans (List.dropWhile_suffix _)).trans (scheme?_suffix hscheme)
  refine ⟨hreads, ?_, ?_, hplain, ?_⟩
  · intro c hhead
    have hpath := hplain c (List.mem_of_mem_head? hhead)
    have hstop : endsAuthority c = true := by
      have hnot := List.head?_dropWhile_not (fun c => !endsAuthority c) (rest.dropWhile isSlash)
      rw [splitBefore] at hhead
      simpa [hhead] using hnot
    simp only [endsPath, Bool.or_eq_false_iff, decide_eq_false_iff_not] at hpath
    simpa [endsAuthority, isSlash, hpath] using hstop
  · intro c hlast
    obtain ⟨front, hfront⟩ := hsuffix
    refine (hend c ?_).right
    rw [← getLast?_readable hends, ← hfront, List.getLast?_append, hlast]
    rfl
  · intro more
    have hmore : scheme? (readable (address ++ String.ofList ('/' :: more)).toList) =
        some (u.scheme, rest ++ '/' :: kept more) := by
      have hslash : EndsWell ['/'] := ⟨'/', rfl, by decide⟩
      have hkept : kept ('/' :: more) = '/' :: kept more := kept_append hslash more
      rw [String.toList_append, String.toList_ofList, readable_append hends, hkept]
      exact scheme?_append hscheme _
    have hrest : (rest ++ '/' :: kept more).dropWhile isSlash = rest.dropWhile isSlash ++ '/' :: kept more := by
      rw [List.dropWhile_append, if_neg]
      intro hempty
      obtain ⟨a, ha, -⟩ := withAuthority?_eq_some (List.isEmpty_iff.mp hempty ▸ hread)
      rw [hweb.isSpecial, splitAuthority_special] at ha
      exact nomatch (authority?_nil hweb.isSpecial _).symm.trans ha
    rw [parse?_of_web hmore hweb, hrest]
    exact withAuthority?_append hweb hread _

end Rollout.Url
