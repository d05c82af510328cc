import Rollout.Deploy.Deployment
import Rollout.Proofs.Obliging
import Rollout.Proofs.Registry.Server
import Rollout.Proofs.Trace
import Rollout.Proofs.Url.Segments

/-!
# Rollout.Proofs.Provisioner.Backend — where the lock of a plan is

The provisioner is told where to take the lock of a plan by a text, and the registry looks for the lock under an address
of its own making.

* `Url.ReadsOn.parse?_below`: how an address is read that has a collection and a name behind it.
* `Server.url_eq`: the address of a name in a collection.
* `Server.url_meets`: an address that is put together as text is the address of the name if the name is plain.
* `Server.lock_since`, `Server.unlock_since`: the registry asks for its addresses, and for nothing else.
* `Deployment.lock_addresses`: the two are the same address if the name of the plan is plain, and differ in their paths
  if it is not.
-/

namespace Rollout

namespace Url

open Directory (isKey isKeyChar)

variable {scheme address key name : String} {path : List Char} {u : Url}

/-! ## Names behind an address -/

theorem not_break_key (hkey : isKey key = true) : ∀ c ∈ key.toList, c ∉ breaks := by
  intro c hc hbreak
  have hnone : breaks.any isKeyChar = false := by decide
  exact List.any_eq_false.mp hnone c hbreak (Directory.isKeyChar_of_mem hkey hc)

theorem bare_key (hkey : isKey key = true) : bare key.toList = key.toList :=
  List.filter_eq_self.mpr fun c hc => by simp [Directory.not_isDropped (Directory.isKeyChar_of_mem hkey hc)]

theorem kept_key (hkey : isKey key = true) (more : List Char) :
    kept (key.toList ++ '/' :: more) = key.toList ++ '/' :: kept more := by
  have hends : EndsWell (key.toList ++ ['/']) := ⟨'/', by simp, by decide⟩
  rw [List.append_cons, kept_append hends, bare_append, bare_key hkey, List.append_cons]
  rfl

/-- A key is read as it stands. -/
theorem enter_key (hkey : isKey key = true) (hweb : IsWeb scheme) (items : List String) :
    enter scheme items key.toList = items ++ [key] := by
  obtain ⟨hdot, hup⟩ := not_dot_key hkey
  have hpercent : percent pathMarks key.toList = key := by
    rw [percent_of_not_break (not_break_key hkey), ← bare_key hkey, bare, percent_key hkey]
  rw [enter, hpercent, addSegment, if_neg (by simp [hup]), if_neg (by simp [hdot]), if_neg (by simp [hweb.ne_file])]

theorem path_below (hkey : isKey key = true) (hweb : IsWeb scheme) (items : List String) (name : String) :
    segments.go scheme items (pieces (splitBefore endsPath (kept (key.toList ++ '/' :: name.toList))).1) =
      read scheme (items ++ [key]) name := by
  have hplain : ∀ c ∈ key.toList, endsPath c = false := fun c hc =>
    not_endsPath_of_not_break (not_break_key hkey c hc)
  obtain ⟨piece, others, hpieces⟩ := exists_pieces (splitBefore endsPath (kept name.toList)).1
  rw [kept_key hkey, splitBefore_of_plain hplain, splitBefore_slash, pieces_append_slash,
    pieces_of_not_break (not_break_key hkey), hpieces, segments_go_append, read, hpieces, ← enter_key hkey hweb]
  rfl

/-- How an address is read that has a key and a name behind it. -/
theorem ReadsOn.parse?_below (h : ReadsOn address u path) (hweb : IsWeb u.scheme) (hkey : isKey key = true)
    (name : String) : ∃ v, parse? (address ++ "/" ++ key ++ "/" ++ name) = some v ∧
      v.path = .segments (read u.scheme (stem u.scheme path ++ [key]) name) ∧
      (isPlainSegment name = true →
        v = { u with path := .segments (read u.scheme (stem u.scheme path ++ [key]) name) }) := by
  have htext : address ++ "/" ++ key ++ "/" ++ name =
      address ++ String.ofList ('/' :: (key.toList ++ '/' :: name.toList)) := by
    apply String.toList_injective
    simp
  have hpath : (withPath u.scheme u.authority (path ++ '/' :: kept (key.toList ++ '/' :: name.toList))).path =
      .segments (read u.scheme (stem u.scheme path ++ [key]) name) := by
    rw [path_withPath_append hweb h.plain, path_below hkey hweb]
  rw [htext]
  refine ⟨_, h.goesOn _, hpath, fun hplain => ?_⟩
  have hall : ∀ c ∈ path ++ '/' :: kept (key.toList ++ '/' :: name.toList), endsPath c = false := by
    rw [kept_key hkey, kept_of_plain hplain]
    intro c hc
    simp only [List.mem_append, List.mem_cons] at hc
    rcases hc with hc | rfl | hc | rfl | hc
    · exact h.plain c hc
    · decide
    · exact not_endsPath_of_not_break (not_break_key hkey c hc)
    · decide
    · exact not_endsPath_of_not_break ((isPlainSegment_iff.mp hplain).2.2.1 c hc)
  obtain ⟨hquery, hfragment⟩ : u.query = none ∧ u.fragment = none := h.reads ▸ withPath_ends_iff.mpr h.plain
  rw [withPath_of_plain hall, hpath, hquery, hfragment]

end Url

/-! ## Two addresses of one name -/

namespace Server

variable {s : Server} {address key name : String} {path : List Char}

open Directory (isKey)

theorem ofAddress_eq_ok (h : ofAddress address = .ok s) :
    s.address = trimSlashes address ∧ Url.parse? s.address = some s.base := by
  unfold ofAddress at h
  simp only at h
  split at h
  · rename_i base hbase
    split at h
    · obtain rfl := Except.ok.inj h
      exact ⟨rfl, hbase⟩
    · exact nomatch h
  · exact nomatch h

theorem ofAddress_of_parse? {base : Url} (h : Url.parse? (trimSlashes address) = some base)
    (hpath : base.isHierarchical = true) : ofAddress address = .ok ⟨trimSlashes address, base⟩ := by
  simp [ofAddress, h, hpath]

theorem trimSlashes_trimSlashes (s : String) : trimSlashes (trimSlashes s) = trimSlashes s := by
  have hidem := List.rdropWhile_idempotent (fun c : Char => decide (c = '/')) s.toList
  unfold trimSlashes
  rw [String.toList_ofList]
  exact congrArg String.ofList hidem

/-- An address of the web, which alone is asked for, that ends in its path: neither a query nor a fragment follows, no
blank and no backslash is at its end, and its path is not just two slashes. -/
structure Settled (s : Server) : Prop where
  web : Url.IsWeb s.base.scheme
  query : s.base.query = none
  fragment : s.base.fragment = none
  ending : ∀ c, s.address.toList.getLast? = some c → Url.isEdge c = false ∧ c ≠ '\\'
  path : s.base.path ≠ .segments ["", ""]

theorem getLast?_trimSlashes {c : Char} (h : (trimSlashes address).toList.getLast? = some c) : c ≠ '/' := by
  have hlast : (address.toList.rdropWhile fun c => decide (c = '/')).getLast? = some c := by
    rwa [trimSlashes, String.toList_ofList] at h
  obtain ⟨front, hfront⟩ := List.getLast?_eq_some_iff.mp hlast
  have hnot := List.rdropWhile_last_not (fun c => decide (c = '/')) address.toList (by simp [hfront])
  simpa [hfront] using hnot

/-- The address of a name in a collection. -/
theorem url_eq (h : Url.ReadsOn s.address s.base path) (hsettled : s.Settled) (hkey : isKey key = true)
    (hname : name ≠ "") : s.url key name = .ok { s.base with
      path := .segments (Url.pushSegment s.base.scheme (Url.stem s.base.scheme path ++ [key]) name) } := by
  obtain ⟨items, hitems, htrim⟩ := h.exists_segments hsettled.web
  -- Only of a path of two slashes would the first segment take the place of what is there.
  have hstem : Url.stem s.base.scheme path ≠ [""] := by
    rw [← htrim]
    unfold Url.trimEmpty
    split
    · rename_i hlast
      obtain ⟨front, rfl⟩ := List.getLast?_eq_some_iff.mp hlast
      rw [List.dropLast_concat]
      rintro rfl
      exact hsettled.path hitems
    · rename_i hlast
      rintro rfl
      exact hlast rfl
  unfold url Url.extend?
  rw [if_neg hname, hitems]
  simp only [List.foldl_cons, List.foldl_nil]
  rw [htrim, Url.pushSegment_key hkey, if_neg hstem]

/-- The address that is put together as text and the one that is built of segments. -/
theorem url_meets (haddress : ofAddress address = .ok s) (hsettled : s.Settled) (hkey : isKey key = true)
    (hstays : Url.staysPut key = false) (hname : name ≠ "") : ∃ u v, s.url key name = .ok u ∧
      Url.parse? (s.address ++ "/" ++ key ++ "/" ++ name) = some v ∧
      (v.path = u.path ↔ Url.isPlainSegment name = true) ∧ (Url.isPlainSegment name = true → v = u) := by
  obtain ⟨htrim, hparse⟩ := ofAddress_eq_ok haddress
  have hend : ∀ c, s.address.toList.getLast? = some c → Url.isEdge c = false ∧ Url.isSlash c = false := by
    intro c hlast
    obtain ⟨hedge, hbackslash⟩ := hsettled.ending c hlast
    have hslash : c ≠ '/' := getLast?_trimSlashes (htrim ▸ hlast)
    exact ⟨hedge, by simp [Url.isSlash, hslash, hbackslash]⟩
  obtain ⟨path, hreads⟩ := Url.readsOn_of_parse? hparse hsettled.web hsettled.query hsettled.fragment hend
  obtain ⟨v, hv, hpath, hplain⟩ := hreads.parse?_below hsettled.web hkey name
  have hsegment : key ≠ "" := by
    rintro rfl
    exact absurd hkey (by decide)
  have hiff := Url.read_eq_pushed_iff hsettled.web (Url.stem s.base.scheme path) hsegment hstays name
  refine ⟨_, v, url_eq hreads hsettled hkey hname, hv, ?_, fun hname => ?_⟩
  · rw [hpath, UrlPath.segments.injEq]
    exact hiff
  · rw [hplain hname, hiff.mpr hname]

/-! ### Requests -/

section Requests

variable {σ : Type} [Host σ] {u : Url}

/-- A request is made if its address can be asked for. -/
theorem send_since (r : Http.Request) (w : World σ) :
    (send r w).2.since w = if r.url.isAskable then [.request r] else [] := by
  unfold send
  by_cases hurl : r.url.isAskable = true
  · rw [if_neg (by simp [hurl]), if_pos hurl, Act.world_bind]
    · exact World.since_eq rfl
    · intro response w
      split
      · split
        · rfl
        · rfl
      · rfl
  · rw [if_pos (by simp [hurl]), if_neg hurl]
    exact World.since_eq rfl

theorem fetch_world (u : Url) (w : World σ) : (fetch u w).2 = (send ⟨.get, u, ""⟩ w).2 := by
  unfold fetch
  rw [Act.world_bind]
  intro response w
  split
  · rfl
  · split
    · rfl
    · cases envelope.ofText response.content with
      | ok => rfl
      | error => rfl

theorem upload_world (u : Url) (body : String) (w : World σ) : (upload u body w).2 = (send ⟨.put, u, body⟩ w).2 := by
  unfold upload
  rw [Act.world_bind]
  intro response w
  split
  · rfl
  · rfl

/-- To look at the lock of a plan is to ask for its address. -/
theorem lock_since (hurl : s.url locks name = .ok u) (w : World σ) :
    (s.lock name w).2.since w = if u.isAskable then [.request ⟨.get, u, ""⟩] else [] := by
  unfold lock
  rw [hurl, Act.bind_ofExcept_ok, Act.world_bind]
  · rw [fetch_world, send_since]
  · intro found w
    split
    · rfl
    · rw [Act.world_bind]
      · rfl
      · intro value w
        split
        · rfl
        · rfl
        · cases Lock.decoder.ofJson value with
          | ok => rfl
          | error => rfl

/-- To release the lock of a plan is to store it under its address. -/
theorem unlock_since (hurl : s.url unlocks name = .ok u) (lock : Lock) (w : World σ) :
    (s.unlock name lock w).2.since w = if u.isAskable then [.request ⟨.put, u, lock.toJson.compact⟩] else [] := by
  unfold unlock
  rw [hurl, Act.bind_ofExcept_ok, upload_world, send_since]

end Requests

end Server

namespace Deployment

variable {σ : Type} [Host σ] {d : Deployment} {s : Server} {address : String} {p : Config.Plan} {b : StateBackend}

/-- The lock of a plan is taken where it is looked for and released if and only if the name of the plan is plain.  The
registry asks for one address to see the lock and for one to release it, and for nothing else; the provisioner is told
two addresses, which are these if the name is plain, and otherwise have other paths. -/
theorem lock_addresses (haddress : Server.ofAddress address = .ok s) (hsettled : s.Settled)
    (hregistry : d.registry = .server s) (hname : p.name ≠ "") (hbackend : (d.provisionerOf p).backend = some b) :
    ∃ seen released locked unlocked : Url,
      (∀ w : World σ, (s.lock p.name w).2.since w = if seen.isAskable then [.request ⟨.get, seen, ""⟩] else []) ∧
      (∀ lock, ∀ w : World σ, (s.unlock p.name lock w).2.since w =
        if released.isAskable then [.request ⟨.put, released, lock.toJson.compact⟩] else []) ∧
      Url.parse? b.lockAddress = some locked ∧ Url.parse? b.unlockAddress = some unlocked ∧
      (locked.path = seen.path ↔ Url.isPlainSegment p.name = true) ∧
      (unlocked.path = released.path ↔ Url.isPlainSegment p.name = true) ∧
      (Url.isPlainSegment p.name = true → locked = seen ∧ unlocked = released) := by
  have htrim : Server.trimSlashes s.address = s.address := by
    rw [(Server.ofAddress_eq_ok haddress).1, Server.trimSlashes_trimSlashes]
  have hb : b = { StateBackend.forPlan s.address p.name with
      skipCertVerification := d.config.registry.skipCertVerification } := by
    unfold provisionerOf at hbackend
    rw [hregistry] at hbackend
    exact (Option.some.inj hbackend).symm
  have hlock : b.lockAddress = s.address ++ "/" ++ Server.locks ++ "/" ++ p.name := by
    rw [hb]
    simp only [StateBackend.forPlan, htrim]
  have hunlock : b.unlockAddress = s.address ++ "/" ++ Server.unlocks ++ "/" ++ p.name := by
    rw [hb]
    simp only [StateBackend.forPlan, htrim]
  have hlocks : Directory.isKey Server.locks = true := by decide
  have hunlocks : Directory.isKey Server.unlocks = true := by decide
  obtain ⟨seen, locked, hseen, hlocked, hlockPath, hlockPlain⟩ :=
    Server.url_meets haddress hsettled hlocks (by decide) hname
  obtain ⟨released, unlocked, hreleased, hunlocked, hunlockPath, hunlockPlain⟩ :=
    Server.url_meets haddress hsettled hunlocks (by decide) hname
  exact ⟨seen, released, locked, unlocked, Server.lock_since hseen, Server.unlock_since hreleased, hlock ▸ hlocked,
    hunlock ▸ hunlocked, hlockPath, hunlockPath, fun hplain => ⟨hlockPlain hplain, hunlockPlain hplain⟩⟩

/-- The server of a cluster. -/
def cluster : Server :=
  ⟨"https://[fd00::1]:7000/1.0",
    ⟨"https", some ⟨"", "", .ipv6 [0xFD00, 0, 0, 0, 0, 0, 0, 1], some 7000⟩, .segments ["1.0"], none, none⟩⟩

theorem ofAddress_cluster : Server.ofAddress "https://[fd00::1]:7000/1.0/" = .ok cluster := by
  have htrim : Server.trimSlashes "https://[fd00::1]:7000/1.0/" = cluster.address := by decide +kernel
  have hparse : Url.parse? cluster.address = some cluster.base := by decide +kernel
  rw [Server.ofAddress_of_parse? (htrim ▸ hparse) rfl, htrim]

/-- An installation with the registry on the server. -/
def remote : Deployment := ⟨Config.default, Manifest.empty, .server cluster, .direct⟩

theorem lock_addresses_cluster : Server.ofAddress "https://[fd00::1]:7000/1.0/" = .ok cluster ∧ cluster.Settled ∧
    ∃ (p : Config.Plan) (b : StateBackend) (u : Url), p.name = "openstack-plan" ∧
      (remote.provisionerOf p).backend = some b ∧ Url.parse? b.lockAddress = some u ∧
      ∀ w : World Obliging, (cluster.lock p.name w).2.since w =
        if u.isAskable then [.request ⟨.get, u, ""⟩] else [] := by
  let p : Config.Plan := ⟨"openstack-plan", "/", "TerraformVarsOpenstack", Bindings.empty, none⟩
  have hsettled : cluster.Settled := by
    refine ⟨.inr rfl, rfl, rfl, ?_, by decide⟩
    intro c hlast
    obtain rfl : '0' = c := Option.some.inj hlast
    decide
  have hmeets := lock_addresses (σ := Obliging) (d := remote) (p := p) ofAddress_cluster hsettled rfl (by decide) rfl
  obtain ⟨seen, released, locked, unlocked, hlock, -, hlocked, -, -, -, hsame⟩ := hmeets
  obtain ⟨rfl, -⟩ := hsame (by decide +kernel)
  exact ⟨ofAddress_cluster, hsettled, p, _, locked, rfl, rfl, hlocked, hlock⟩

/-- With a slash in its name a plan has its lock in two places. -/
theorem locks_apart : ¬ ∀ (address plan : String) (s : Server), Server.ofAddress address = .ok s →
    s.base.query = none → s.base.fragment = none → plan ≠ "" → ∀ seen, s.url Server.locks plan = .ok seen →
      ∃ locked, Url.parse? (StateBackend.forPlan s.address plan).lockAddress = some locked ∧
        locked.path = seen.path := by
  intro h
  let below (items : List String) : Url := { cluster.base with path := .segments ("1.0" :: "terraformlock" :: items) }
  have hseen : cluster.url Server.locks "a/b" = .ok (below ["a%2Fb"]) := by
    have hextend : cluster.base.extend? [Server.locks, "a/b"] = some (below ["a%2Fb"]) := by decide +kernel
    rw [Server.url, if_neg (by decide), hextend]
  have hlocked : Url.parse? (StateBackend.forPlan cluster.address "a/b").lockAddress = some (below ["a", "b"]) := by
    decide +kernel
  obtain ⟨locked, hparse, hpath⟩ := h _ "a/b" cluster ofAddress_cluster rfl rfl (by decide) _ hseen
  rw [hlocked] at hparse
  obtain rfl := Option.some.inj hparse
  exact absurd hpath (by decide)

end Deployment

end Rollout
