import Rollout.Proofs.Provisioner.Backend
import Rollout.Proofs.Url.Encoded

/-!
# Rollout.Proofs.Registry.Addresses — where the names of a server lead

The address of a name is that of its collection with one more segment, from which the name is read off, unless nothing
is left of the name without tabs and line ends, or a dot segment is.  Such a name leads to the collection itself, or to
what the collection stands in.

* `Server.Way`, `Server.way`: where a name leads.
* `Server.url_way`: the address of a name is that of its way.
* `Server.urlOf_inj`: two names have one address if they have one way.
* `Server.addresses`: all that is asked of a server is asked under these addresses.
* `Server.led_away`: a name that leads out of its collection.
-/

namespace Rollout.Server

open Directory (isKey)

variable {s : Server} {address collection name : String}

/-! ## Ways -/

/-- Where a name leads from the address of a server. -/
inductive Way
  /-- To an entry of the collection. -/
  | entry (text : List Char)
  /-- To the collection itself. -/
  | collection
  /-- To the collection itself, with a slash at the end. -/
  | listing
  /-- To what the collection stands in. -/
  | above
deriving DecidableEq

/-- Whether a name stands for an entry: without tabs and line ends it is not empty and no dot segment. -/
def IsName (name : String) : Prop := Url.bare name.toList ∉ [[], ['.'], ['.', '.']]

instance (name : String) : Decidable (IsName name) := inferInstanceAs (Decidable (_ ∉ _))

/-- The way of a name.  A dot segment is left out if it is one as it stands, and takes effect if it becomes one. -/
def way (name : String) : Way :=
  if name = "." ∨ name = ".." then .collection
  else if Url.bare name.toList = ['.', '.'] then .above
  else if Url.bare name.toList ∈ [[], ['.']] then .listing
  else .entry (Url.bare name.toList)

/-- The segments of the address of a server; of two slashes alone nothing is kept. -/
def root (s : Server) : List String :=
  match s.base.path with
  | .segments items => if Url.trimEmpty items = [""] then [] else Url.trimEmpty items
  | .opaqueText _ => []

/-- A name as one segment. -/
def segment (s : Server) (text : List Char) : String :=
  Url.percent (Url.segmentMarks (Url.isSpecial s.base.scheme)) text

/-- The segments to which a way leads. -/
def items (s : Server) (collection : String) : Way → List String
  | .entry text => s.root ++ [collection, s.segment text]
  | .collection => s.root ++ [collection]
  | .listing => s.root ++ [collection, ""]
  | .above => s.root ++ [""]

/-- The address to which a way leads. -/
def urlOf (s : Server) (collection : String) (lead : Way) : Url :=
  { s.base with path := .segments (s.items collection lead) }

theorem way_of_isName (h : IsName name) : way name = .entry (Url.bare name.toList) := by
  simp only [IsName, List.mem_cons, List.not_mem_nil, or_false, not_or] at h
  obtain ⟨hempty, hdot, hup⟩ := h
  have hplain : ¬ (name = "." ∨ name = "..") := by
    rintro (rfl | rfl)
    · exact hdot (by decide)
    · exact hup (by decide)
  rw [way, if_neg hplain, if_neg hup, if_neg (by simp [hempty, hdot])]

theorem way_eq_entry {text : List Char} (h : way name = .entry text) : IsName name ∧ text = Url.bare name.toList := by
  unfold way at h
  split at h
  · exact nomatch h
  · split at h
    · exact nomatch h
    · split at h
      · exact nomatch h
      · rename_i hup hlisting
        have htext : text = Url.bare name.toList := (Way.entry.inj h).symm
        simp only [List.mem_cons, List.not_mem_nil, or_false, not_or] at hlisting
        exact ⟨by simp [IsName, hup, hlisting], htext⟩

/-! ## Addresses -/

theorem mem_segmentMarks (special : Bool) : '%' ∈ Url.segmentMarks special ∧ '.' ∉ Url.segmentMarks special := by
  cases special
  all_goals decide

theorem segment_ne_empty {text : List Char} (h : text ≠ []) : s.segment text ≠ "" := Url.percent_ne_empty h

/-- The text of an entry is read off its segment. -/
theorem decoded_segment (text : List Char) : Url.decoded (s.segment text) = text.flatMap Text.encodeChar :=
  Url.decoded_percent (mem_segmentMarks _).1 text

theorem not_staysPut_key (hkey : isKey collection = true) : Url.staysPut collection = false := by
  have hbegins : Url.beginsDrive collection.toList = false := by
    unfold Url.beginsDrive
    split
    · rename_i a b rest hlist
      have hb : Directory.isKeyChar b = true := Directory.isKeyChar_of_mem hkey (by simp [hlist])
      have hcolon : b ≠ ':' := by
        rintro rfl
        exact absurd hb (by decide)
      have hbar : b ≠ '|' := by
        rintro rfl
        exact absurd hb (by decide)
      simp [hcolon, hbar]
    · rfl
  simp [Url.staysPut, Url.isDrive, hbegins]

/-- What is added behind a collection, whose name is no drive. -/
theorem addSegment_percent (hcollection : isKey collection = true) (scheme : String) (items : List String)
    (text : List Char) :
    let encoded := Url.percent (Url.segmentMarks (Url.isSpecial scheme)) text
    Url.addSegment scheme (items ++ [collection]) encoded true =
      if text = ['.', '.'] then items ++ [""]
      else if text = ['.'] then items ++ [collection, ""]
      else items ++ [collection, encoded] := by
  intro encoded
  obtain ⟨hmark, hpoint⟩ := mem_segmentMarks (Url.isSpecial scheme)
  obtain ⟨hdot, hup⟩ := Url.dot_percent_iff text hmark hpoint
  unfold Url.addSegment
  by_cases htwo : text = ['.', '.']
  · rw [if_pos (hup.mpr htwo), if_pos htwo]
    simp [not_staysPut_key hcollection]
  rw [if_neg (mt hup.mp htwo), if_neg htwo]
  by_cases hone : text = ['.']
  · rw [if_pos (hdot.mpr hone), if_pos hone]
    simp
  · rw [if_neg (mt hdot.mp hone), if_neg hone, if_neg (by simp)]
    simp [encoded]

/-- The path of a server has segments. -/
theorem segments_of_ofAddress (haddress : ofAddress address = .ok s) : ∃ path, s.base.path = .segments path := by
  unfold ofAddress at haddress
  simp only at haddress
  split at haddress
  · split at haddress
    · rename_i hhierarchical
      obtain rfl := Except.ok.inj haddress
      unfold Url.isHierarchical at hhierarchical
      split at hhierarchical
      · exact ⟨_, ‹_›⟩
      · exact nomatch hhierarchical
    · exact nomatch haddress
  · exact nomatch haddress

theorem url_way (haddress : ofAddress address = .ok s) (hcollection : isKey collection = true) (hname : name ≠ "") :
    s.url collection name = .ok (s.urlOf collection (way name)) := by
  obtain ⟨path, hpath⟩ := segments_of_ofAddress haddress
  have hroot : (if Url.trimEmpty path = [""] then [] else Url.trimEmpty path) = s.root := by rw [root, hpath]
  have hne : s.root ++ [collection] ≠ [""] := by
    intro h
    obtain ⟨-, hlast⟩ := List.append_inj' (h.trans (List.nil_append [""]).symm) rfl
    rw [List.singleton_inj.mp hlast] at hcollection
    exact absurd hcollection (by decide)
  unfold url Url.extend? urlOf
  rw [if_neg hname, hpath]
  simp only [List.foldl_cons, List.foldl_nil]
  rw [Url.pushSegment_key hcollection, hroot]
  refine congrArg (fun items => Except.ok { s.base with path := UrlPath.segments items }) ?_
  unfold Url.pushSegment way
  by_cases hplain : name = "." ∨ name = ".."
  · rw [if_pos (by simpa using hplain), if_pos hplain]
    rfl
  rw [if_neg (by simpa using hplain), if_neg hne, if_neg hplain]
  have hadd := addSegment_percent hcollection s.base.scheme s.root (Url.bare name.toList)
  refine hadd.trans ?_
  by_cases htwo : Url.bare name.toList = ['.', '.']
  · rw [if_pos htwo, if_pos htwo]
    rfl
  rw [if_neg htwo, if_neg htwo]
  by_cases hone : Url.bare name.toList = ['.']
  · rw [if_pos hone, if_pos (by simp [hone])]
    rfl
  rw [if_neg hone]
  by_cases hempty : Url.bare name.toList = []
  · rw [if_pos (by simp [hempty]), hempty]
    rfl
  · rw [if_neg (by simp [hone, hempty])]
    rfl

theorem url_empty (s : Server) (collection : String) :
    s.url collection "" = .error (.registry (.invalidKey "")) := by
  rw [url, if_pos rfl]

/-! ## Names apart -/

theorem segment_inj {text text' : List Char} : s.segment text = s.segment text' ↔ text = text' :=
  Url.percent_inj (mem_segmentMarks _).1

theorem way_ne_entry_nil (name : String) : way name ≠ .entry [] := by
  intro h
  obtain ⟨hname, htext⟩ := way_eq_entry h
  exact hname (by simp [← htext])

/-- Two ways that lead to the same address are one, as no collection and no entry has an empty segment. -/
theorem urlOf_inj (hcollection : collection ≠ "") {lead lead' : Way} (hlead : lead ≠ .entry [])
    (hlead' : lead' ≠ .entry []) : s.urlOf collection lead = s.urlOf collection lead' ↔ lead = lead' := by
  refine ⟨fun h => ?_, fun h => h ▸ rfl⟩
  have hitems : s.items collection lead = s.items collection lead' := UrlPath.segments.inj (congrArg Url.path h)
  have hsegment {text : List Char} (htext : Way.entry text ≠ .entry []) : s.segment text ≠ "" :=
    segment_ne_empty fun hnil => htext (congrArg Way.entry hnil)
  cases lead with
  | entry text =>
    cases lead' with
    | entry text' => simpa [items, segment_inj] using hitems
    | collection | listing | above => simp [items, hsegment hlead, hcollection] at hitems
  | collection =>
    cases lead' with
    | entry | listing | above => simp [items, hcollection] at hitems
    | collection => rfl
  | listing =>
    cases lead' with
    | entry text' => simp [items, (hsegment hlead').symm] at hitems
    | collection | above => simp [items] at hitems
    | listing => rfl
  | above =>
    cases lead' with
    | entry | collection | listing => simp [items, hcollection.symm] at hitems
    | above => rfl

/-! ## Calls -/

/-- What can be asked of a server. -/
inductive Call
  | get (key : String)
  | put (key : String) (value : Json)
  | delete (key : String)
  | lock (plan : String)
  | unlock (plan : String) (lock : Lock)

namespace Call

/-- The collection that is asked about. -/
def home : Call → String
  | .get _ | .put _ _ | .delete _ => documents
  | .lock _ => locks
  | .unlock _ _ => unlocks

/-- The name that is asked about: that of a plan, or a key. -/
def about : Call → String
  | .get key | .put key _ | .delete key => key
  | .lock plan | .unlock plan _ => plan

/-- The request that is made under an address. -/
def request (u : Url) : Call → Http.Request
  | .get _ | .lock _ => ⟨.get, u, ""⟩
  | .put _ value => ⟨.put, u, value.compact⟩
  | .delete _ => ⟨.delete, u, ""⟩
  | .unlock _ held => ⟨.put, u, held.toJson.compact⟩

theorem isKey_home (call : Call) : isKey call.home = true := by
  have hall : ∀ collection ∈ [documents, locks, unlocks], isKey collection = true := by decide
  refine hall _ ?_
  cases call
  all_goals simp [home]

variable {σ : Type} [Host σ] {u : Url}

/-- The world after a call. -/
def after (s : Server) (w : World σ) : Call → World σ
  | .get key => (s.get key w).2
  | .put key value => (s.put key value w).2
  | .delete key => (s.delete key w).2
  | .lock plan => (s.lock plan w).2
  | .unlock plan held => (s.unlock plan held w).2

/-- A call asks for one address, if it can be asked for, and for nothing else. -/
theorem after_since (call : Call) (hurl : s.url call.home call.about = .ok u) (w : World σ) :
    (call.after s w).since w = if u.isAskable then [.request (call.request u)] else [] := by
  cases call with
  | get key =>
    have hworld : (s.get key w).2 = (fetch u w).2 := by
      have hurl : s.url documents key = .ok u := hurl
      unfold Server.get
      rw [hurl, Act.bind_ofExcept_ok, Act.world_bind]
      intro found w
      cases found with
      | none => rfl
      | some value => cases hvalue : unwrap key value with
        | ok => simp only [hvalue]; rfl
        | error => simp only [hvalue]; rfl
    rw [after, hworld, fetch_world, send_since]
    rfl
  | put key value =>
    have hworld : (s.put key value w).2 = (upload u value.compact w).2 := by
      have hurl : s.url documents key = .ok u := hurl
      unfold Server.put
      rw [hurl, Act.bind_ofExcept_ok]
    rw [after, hworld, upload_world, send_since]
    rfl
  | delete key =>
    have hworld : (s.delete key w).2 = (send ⟨.delete, u, ""⟩ w).2 := by
      have hurl : s.url documents key = .ok u := hurl
      unfold Server.delete
      rw [hurl, Act.bind_ofExcept_ok, Act.world_bind]
      intro response w
      split
      · rfl
      · split
        · rfl
        · rfl
    rw [after, hworld, send_since]
    rfl
  | lock => exact lock_since hurl w
  | unlock plan held => exact unlock_since hurl held w

/-- A call under a name that has no address does nothing. -/
theorem after_refused (call : Call) {e : Fault} (hurl : s.url call.home call.about = .error e) (w : World σ) :
    call.after s w = w := by
  cases call with
  | get | put | delete =>
    simp only [about, home] at hurl
    simp only [after, Server.get, Server.put, Server.delete, hurl]
    rfl
  | lock | unlock =>
    simp only [about, home] at hurl
    simp only [after, Server.lock, Server.unlock, hurl]
    rfl

end Call

/-- Each name has an address under its collection, or one that is the collection's own or lies outside. -/
structure Addresses (σ : Type) [Host σ] (s : Server) : Prop where
  /-- The address of a name is that of its way. -/
  leads : ∀ collection name, isKey collection = true → name ≠ "" →
    s.url collection name = .ok (s.urlOf collection (way name))
  /-- Exactly the names of entries have two segments behind the address of the server, the second of them not empty. -/
  inside : ∀ collection name, isKey collection = true → (IsName name ↔ ∃ segment, segment ≠ "" ∧
    s.url collection name = .ok { s.base with path := .segments (s.root ++ [collection, segment]) })
  /-- The name of an entry is read off the second one, up to tabs and line ends. -/
  decodes : ∀ collection name segment, isKey collection = true → segment ≠ "" →
    s.url collection name = .ok { s.base with path := .segments (s.root ++ [collection, segment]) } →
      Url.decoded segment = Text.encode (String.ofList (Url.bare name.toList))
  /-- Two names share an address if and only if they share their way. -/
  apart : ∀ collection name name', isKey collection = true → name ≠ "" → name' ≠ "" →
    (s.url collection name = s.url collection name' ↔ way name = way name')
  /-- Every call asks for the address of its name and for nothing else. -/
  asks : ∀ (call : Call) (w : World σ), call.about ≠ "" →
    let u := s.urlOf call.home (way call.about)
    (call.after s w).since w = if u.isAskable then [.request (call.request u)] else []
  /-- An empty name is refused before anything is asked. -/
  refuses : ∀ (call : Call) (w : World σ), call.about = "" →
    s.url call.home call.about = .error (.registry (.invalidKey "")) ∧ call.after s w = w

/-- Where the names of a server lead. -/
theorem addresses (σ : Type) [Host σ] (haddress : ofAddress address = .ok s) : s.Addresses σ := by
  have hfilled {collection : String} (hcollection : isKey collection = true) : collection ≠ "" := by
    rintro rfl
    exact absurd hcollection (by decide)
  have hway (collection name segment : String) (hcollection : isKey collection = true) (hsegment : segment ≠ "")
      (hurl : s.url collection name = .ok { s.base with path := .segments (s.root ++ [collection, segment]) }) :
      ∃ text, way name = .entry text ∧ segment = s.segment text := by
    have hname : name ≠ "" := by
      rintro rfl
      rw [url_empty] at hurl
      exact nomatch hurl
    rw [url_way haddress hcollection hname] at hurl
    have hitems : s.items collection (way name) = s.root ++ [collection, segment] :=
      UrlPath.segments.inj (congrArg Url.path (Except.ok.inj hurl))
    cases hlead : way name with
    | entry text => exact ⟨text, rfl, by simpa [hlead, items] using hitems.symm⟩
    | collection | above => simp [hlead, items] at hitems
    | listing => simp [hlead, items, hsegment.symm] at hitems
  refine ⟨fun collection name => url_way haddress, ?inside, ?decodes, ?apart, ?asks, ?refuses⟩
  case inside =>
    intro collection name hcollection
    refine ⟨fun hname => ?_, fun ⟨segment, hsegment, hurl⟩ => ?_⟩
    · have hne : name ≠ "" := by
        rintro rfl
        exact absurd hname (by decide)
      have hbare : Url.bare name.toList ≠ [] := fun hnil => hname (by simp [hnil])
      refine ⟨s.segment (Url.bare name.toList), segment_ne_empty hbare, ?_⟩
      rw [url_way haddress hcollection hne, way_of_isName hname]
      rfl
    · obtain ⟨text, hlead, -⟩ := hway collection name segment hcollection hsegment hurl
      exact (way_eq_entry hlead).1
  case decodes =>
    intro collection name segment hcollection hsegment hurl
    obtain ⟨text, hlead, rfl⟩ := hway collection name segment hcollection hsegment hurl
    rw [decoded_segment, (way_eq_entry hlead).2, Text.encode, String.toList_ofList]
  case apart =>
    intro collection name name' hcollection hname hname'
    rw [url_way haddress hcollection hname, url_way haddress hcollection hname', Except.ok.injEq]
    exact urlOf_inj (hfilled hcollection) (way_ne_entry_nil name) (way_ne_entry_nil name')
  case asks => exact fun call w hname => call.after_since (url_way haddress call.isKey_home hname) w
  case refuses =>
    intro call w hname
    have hurl : s.url call.home call.about = .error (.registry (.invalidKey "")) := by
      rw [hname, url_empty]
    exact ⟨hurl, call.after_refused hurl w⟩

theorem addresses_cluster : ofAddress "https://[fd00::1]:7000/1.0/" = .ok Deployment.cluster ∧
    Deployment.cluster.url documents "plans/openstack?v=1 x" = .ok { Deployment.cluster.base with
      path := .segments ["1.0", "config", "plans%2Fopenstack%3Fv=1%20x"] } := by
  have hleads := (addresses Obliging Deployment.ofAddress_cluster).leads documents "plans/openstack?v=1 x"
    (by decide) (by decide)
  refine ⟨Deployment.ofAddress_cluster, hleads.trans ?_⟩
  decide +kernel

/-- A name with a line end between two points leads out of its collection. -/
theorem led_away : ¬ ∀ (address : String) (s : Server), ofAddress address = .ok s → ∀ collection name,
    isKey collection = true → name ≠ "" → ∃ segment, segment ≠ "" ∧ Url.decoded segment = Text.encode name ∧
      s.url collection name = .ok { s.base with path := .segments (s.root ++ [collection, segment]) } := by
  intro h
  obtain ⟨segment, -, -, hurl⟩ :=
    h _ Deployment.cluster Deployment.ofAddress_cluster documents ".\n." (by decide) (by decide)
  rw [url_way Deployment.ofAddress_cluster (by decide) (by decide)] at hurl
  have hlead : way ".\n." = .above := by decide
  have hitems := UrlPath.segments.inj (congrArg Url.path (Except.ok.inj hurl))
  simp [hlead, items] at hitems

end Rollout.Server
