import Rollout.Proofs.Doc.Reads
import Rollout.Proofs.Json.Quoted
import Rollout.Proofs.Registry.Directory

/-!
# Rollout.Proofs.Registry.Server — a server keeps documents by key

The address of a key differs from that of another key in its last segment only, and no character of a key is encoded
there, so a server that tells addresses apart by their decoded paths tells the keys apart.

* `Url.pushSegment_key`: a key is a segment as it stands.
* `Server.decodedPath_inj`: two keys never share a decoded path.
* `Server.Keeper`: what is expected of the server.
* `Server.keeps`: the registry keeps a table in the texts that the server keeps.
-/

namespace Rollout

/-! ## Keys in addresses -/

namespace UrlHost

/-- The value of a byte as a digit of an encoded one. -/
def hexDigit? (b : UInt8) : Option Nat := Text.digit? 16 (Char.ofNat b.toNat)

theorem unpercent_cons_of_ne {b : UInt8} (h : b ≠ 0x25) (bs : List UInt8) :
    unpercent (b :: bs) = b :: unpercent bs := by
  rw [unpercent]
  intro _ _ _ hmark
  exact absurd hmark h

/-- A mark that two digits do not follow stands for itself. -/
theorem unpercent_mark {bs : List UInt8}
    (h : ∀ a b, bs[0]? = some a → bs[1]? = some b → hexDigit? a = none ∨ hexDigit? b = none) :
    unpercent (0x25 :: bs) = 0x25 :: unpercent bs := by
  match bs, h with
  | [], _ | [_], _ => rfl
  | a :: b :: rest, h =>
    rw [unpercent]
    split
    · rename_i x y hx hy
      rcases h a b rfl rfl with hnone | hnone
      · exact nomatch hx.symm.trans hnone
      · exact nomatch hy.symm.trans hnone
    · rfl

theorem unpercent_of_not_mem {bs : List UInt8} (h : 0x25 ∉ bs) : unpercent bs = bs := by
  induction bs with
  | nil => rfl
  | cons b bs ih =>
    obtain ⟨hb, hbs⟩ := List.ne_and_not_mem_of_not_mem_cons h
    rw [unpercent_cons_of_ne (Ne.symm hb), ih hbs]

/-- A slash is no part of an encoded byte. -/
theorem unpercent_append (before after : List UInt8) :
    unpercent (before ++ 0x2F :: after) = unpercent before ++ 0x2F :: unpercent after := by
  have hslash (rest : List UInt8) : unpercent (0x2F :: rest) = 0x2F :: unpercent rest :=
    unpercent_cons_of_ne (by decide) rest
  have hdigit : hexDigit? 0x2F = none := by decide
  induction before using unpercent.induct with
  | case1 a b rest x y hb ha ih =>
    simp only [List.cons_append, unpercent, ha, hb, ih]
  | case2 a b rest h ih =>
    have hnone : hexDigit? a = none ∨ hexDigit? b = none := by
      cases ha : hexDigit? a with
      | none => exact .inl rfl
      | some x =>
        cases hb : hexDigit? b with
        | none => exact .inr rfl
        | some y => exact (h x y ha hb).elim
    have hplain : unpercent (0x25 :: a :: b :: rest) = 0x25 :: unpercent (a :: b :: rest) :=
      unpercent_mark (by simpa using hnone)
    have hplain' : unpercent (0x25 :: (a :: b :: rest ++ 0x2F :: after)) =
        0x25 :: unpercent (a :: b :: rest ++ 0x2F :: after) := unpercent_mark (by simpa using hnone)
    rw [List.cons_append, hplain', ih, hplain, List.cons_append]
  | case3 c rest hmark ih =>
    by_cases hc : c = 0x25
    · -- At most one byte stands between the mark and the slash, which is no digit.
      subst hc
      match rest, hmark with
      | [], _ =>
        have hplain : unpercent (0x25 :: 0x2F :: after) = 0x25 :: unpercent (0x2F :: after) :=
          unpercent_mark fun _ _ ha _ => .inl (Option.some.inj ha ▸ hdigit)
        exact hplain.trans (congrArg _ (hslash after))
      | [a], _ =>
        have hplain : unpercent (0x25 :: a :: 0x2F :: after) = 0x25 :: unpercent (a :: 0x2F :: after) :=
          unpercent_mark (by simp [hdigit])
        exact hplain.trans (congrArg _ ih)
      | a :: b :: rest, hmark => exact (hmark a b rest rfl rfl).elim
    · rw [List.cons_append, unpercent_cons_of_ne hc, unpercent_cons_of_ne hc, ih, List.cons_append]
  | case4 => exact hslash after

end UrlHost

namespace Directory

variable {key : String} {c : Char}

theorem isKeyChar_ascii (h : isKeyChar c = true) : 0x20 ≤ c.toNat ∧ c.toNat ≤ 0x7E := by
  have hle {a b : Char} : a ≤ b ↔ a.toNat ≤ b.toNat := Iff.rfl
  simp only [isKeyChar, Bool.or_eq_true, Bool.and_eq_true, decide_eq_true_eq, hle] at h
  rcases h with ((((h | h) | h) | rfl) | rfl) | rfl
  · exact ⟨Nat.le_trans (by decide) h.1, Nat.le_trans h.2 (by decide)⟩
  · exact ⟨Nat.le_trans (by decide) h.1, Nat.le_trans h.2 (by decide)⟩
  · exact ⟨Nat.le_trans (by decide) h.1, Nat.le_trans h.2 (by decide)⟩
  · decide
  · decide
  · decide

/-- No character of a key is encoded in an address. -/
theorem not_mem_marks (special : Bool) (h : isKeyChar c = true) : c ∉ Url.segmentMarks special := by
  have hmarks : (Url.segmentMarks special).any isKeyChar = false := by cases special <;> rfl
  exact fun hmem => List.any_eq_false.mp hmarks c hmem h

theorem not_isDropped (h : isKeyChar c = true) : Url.isDropped c = false := by
  have hascii := isKeyChar_ascii h
  simp only [Url.isDropped, Bool.or_eq_false_iff, decide_eq_false_iff_not]
  refine ⟨⟨?_, ?_⟩, ?_⟩
  all_goals
    rintro rfl
    exact absurd hascii (by decide)

/-- The characters of a key are read off its bytes. -/
theorem map_encode_key (hkey : isKey key = true) :
    (Text.encode key).map (fun b => Char.ofNat b.toNat) = key.toList := by
  have hchar : ∀ c ∈ key.toList, (Text.encodeChar c).map (fun b => Char.ofNat b.toNat) = [c] := by
    intro c hc
    obtain ⟨-, hupper⟩ := isKeyChar_ascii (isKeyChar_of_mem hkey hc)
    have hbyte : c.toNat.toUInt8.toNat = c.toNat := Nat.mod_eq_of_lt (by omega)
    rw [Text.encodeChar, if_pos (by omega), List.map_singleton, hbyte, Char.ofNat_toNat]
  rw [Text.encode, List.map_flatMap, List.flatMap_congr hchar, List.flatMap_singleton']

theorem not_mark_mem_encode (hkey : isKey key = true) : 0x25 ∉ Text.encode key := by
  intro hmem
  have hchar := List.mem_map_of_mem (f := fun b : UInt8 => Char.ofNat b.toNat) hmem
  rw [map_encode_key hkey] at hchar
  exact absurd (isKeyChar_of_mem hkey hchar) (by decide)

end Directory

namespace Url

variable {key : String}

open Directory (isKey isKeyChar)

/-- A key is encoded as it stands. -/
theorem percent_key (hkey : isKey key = true) (special : Bool) :
    percent (segmentMarks special) (key.toList.filter fun c => !isDropped c) = key := by
  have hkept : key.toList.filter (fun c => !isDropped c) = key.toList := by
    refine List.filter_eq_self.mpr fun c hc => ?_
    rw [Directory.not_isDropped (Directory.isKeyChar_of_mem hkey hc)]
    rfl
  have hchar : ∀ c ∈ key.toList, percentChar (segmentMarks special) c = [c] := by
    intro c hc
    have hkeyChar := Directory.isKeyChar_of_mem hkey hc
    obtain ⟨hlower, hupper⟩ := Directory.isKeyChar_ascii hkeyChar
    have hmark := Directory.not_mem_marks special hkeyChar
    unfold percentChar
    rw [if_neg]
    simp [hmark, Nat.not_lt.mpr hlower, Nat.not_lt.mpr hupper]
  rw [percent, hkept, List.flatMap_congr hchar, List.flatMap_singleton', String.ofList_toList]

/-- No dot segment is a key: such a segment begins with a point, encoded or not. -/
theorem not_dot_key (hkey : isKey key = true) : isDot key = false ∧ isDotDot key = false := by
  have hhead : key.toList.head? ≠ some '.' ∧ key.toList.head? ≠ some '%' := by
    refine ⟨?_, fun hmark => absurd (Directory.isKeyChar_of_mem hkey (List.mem_of_mem_head? hmark)) (by decide)⟩
    unfold isKey at hkey
    simp only [Bool.and_eq_true, decide_eq_true_eq] at hkey
    exact hkey.1.2
  have hnot {dots : List String} (hdots : ∀ s ∈ dots, s.toList.head? = some '.' ∨ s.toList.head? = some '%') :
      dots.contains key = false := by
    rw [List.contains_eq_mem, decide_eq_false_iff_not]
    intro hmem
    rcases hdots key hmem with h | h
    · exact hhead.1 h
    · exact hhead.2 h
  exact ⟨hnot (by decide), hnot (by decide)⟩

/-- No drive is a key: the second character of its name is a colon or a bar. -/
theorem not_isDrive_key (hkey : isKey key = true) : isDrive key = false := by
  unfold isDrive beginsDrive
  split
  · rename_i a b _ heq
    have hb : isKeyChar b = true := Directory.isKeyChar_of_mem hkey (by simp [heq])
    have hcolon : b ≠ ':' := by
      rintro rfl
      exact absurd hb (by decide)
    have hbar : b ≠ '|' := by
      rintro rfl
      exact absurd hb (by decide)
    simp [hcolon, hbar]
  · simp

/-- A key is a segment as it stands. -/
theorem pushSegment_key (hkey : isKey key = true) (scheme : String) (items : List String) :
    pushSegment scheme items key = (if items = [""] then [] else items) ++ [key] := by
  obtain ⟨hdot, hup⟩ := not_dot_key hkey
  have hplain : ¬ (key = "." || key = "..") = true := by
    rw [Bool.or_eq_true, decide_eq_true_eq, decide_eq_true_eq]
    rintro (rfl | rfl)
    · exact absurd hdot (by decide)
    · exact absurd hup (by decide)
  unfold pushSegment addSegment
  dsimp only
  rw [if_neg hplain, percent_key hkey, if_neg (by simp [hup]), if_neg (by simp [hdot]),
    if_neg (by simp [not_isDrive_key hkey])]

theorem pathText_append (before : List String) (segment : String) :
    pathText (.segments (before ++ [segment])) = pathText (.segments before) ++ ("/" ++ segment) := by
  simp [pathText, String.join_append]

end Url

namespace Server

/-- The segments of the address of a key that come before it. -/
def before (s : Server) : List String :=
  match s.base.path with
  | .segments items =>
    let items := Url.pushSegment s.base.scheme (Url.trimEmpty items) documents
    if items = [""] then [] else items
  | .opaqueText _ => []

/-- The path of an address, as bytes without percent encoding. -/
def decodedPath (u : Url) : List UInt8 := UrlHost.unpercent (Text.encode (Url.pathText u.path))

variable {s : Server} {key key' : String} {u u' : Url}

theorem path_of_url (hkey : Directory.isKey key = true) (hurl : s.url documents key = .ok u) :
    u.path = .segments (s.before ++ [key]) := by
  have hname : key ≠ "" := by
    rintro rfl
    exact absurd hkey (by decide)
  unfold url Url.extend? at hurl
  rw [if_neg hname] at hurl
  unfold before
  cases hpath : s.base.path with
  | opaqueText text =>
    rw [hpath] at hurl
    cases hurl
  | segments items =>
    rw [hpath] at hurl
    rw [← Except.ok.inj hurl]
    exact congrArg UrlPath.segments (Url.pushSegment_key hkey _ _)

theorem decodedPath_of_url (hkey : Directory.isKey key = true) (hurl : s.url documents key = .ok u) :
    decodedPath u = UrlHost.unpercent (Text.encode (Url.pathText (.segments s.before))) ++ 0x2F :: Text.encode key := by
  have htext : Text.encode (Url.pathText u.path) =
      Text.encode (Url.pathText (.segments s.before)) ++ 0x2F :: Text.encode key := by
    rw [path_of_url hkey hurl, Url.pathText_append, Text.encode_append, Text.encode_append]
    rfl
  rw [decodedPath, htext, UrlHost.unpercent_append,
    UrlHost.unpercent_of_not_mem (Directory.not_mark_mem_encode hkey)]

/-- Two keys never share a decoded path. -/
theorem decodedPath_inj (hkey : Directory.isKey key = true) (hkey' : Directory.isKey key' = true)
    (hurl : s.url documents key = .ok u) (hurl' : s.url documents key' = .ok u') (h : decodedPath u = decodedPath u') :
    key = key' := by
  rw [decodedPath_of_url hkey hurl, decodedPath_of_url hkey' hurl', List.append_cancel_left_eq] at h
  have hbytes : Text.encode key = Text.encode key' := (List.cons.inj h).2
  rw [← String.toList_inj, ← Directory.map_encode_key hkey, ← Directory.map_encode_key hkey', hbytes]

/-! ## What a server keeps -/

section Keeping

variable {σ : Type} {kept : σ → List UInt8 → Option String} {w w' : World σ} {h : String → Option Json}

/-- The host is a server that keeps, as `kept` tells, a text for each decoded path: it stores the body of a request to
put it, tells the text in the metadata of its answer, and answers with 404 where it keeps none. -/
structure Keeper (σ : Type) [Host σ] (kept : σ → List UInt8 → Option String) : Prop where
  puts : ∀ (u : Url) (body : String) (host : σ), ∃ response host',
    Host.exchange ⟨.put, u, body⟩ host = (some response, host') ∧ response.success = true ∧
      kept host' = Function.update (kept host) (decodedPath u) (some body)
  tells : ∀ (u : Url) (text : String) (host : σ), kept host (decodedPath u) = some text → ∃ response host',
    Host.exchange ⟨.get, u, ""⟩ host = (some response, host') ∧ response.success = true ∧
      Decoder.ofText envelope response.content = .ok (.str text) ∧ kept host' = kept host
  tells_none : ∀ (u : Url) (host : σ), kept host (decodedPath u) = none → ∃ response host',
    Host.exchange ⟨.get, u, ""⟩ host = (some response, host') ∧ response.status = 404 ∧ kept host' = kept host
  removes : ∀ (u : Url) (text : String) (host : σ), kept host (decodedPath u) = some text → ∃ response host',
    Host.exchange ⟨.delete, u, ""⟩ host = (some response, host') ∧ response.success = true ∧
      kept host' = Function.update (kept host) (decodedPath u) none
  removes_none : ∀ (u : Url) (host : σ), kept host (decodedPath u) = none → ∃ response host',
    Host.exchange ⟨.delete, u, ""⟩ host = (some response, host') ∧ response.status = 404 ∧ kept host' = kept host

/-- Whether the address of a key is one that a server can be asked for. -/
def reaches (s : Server) (key : String) : Bool :=
  match s.url documents key with
  | .ok u => u.isAskable
  | .error _ => false

theorem exists_url (h : s.reaches key = true) : ∃ u, s.url documents key = .ok u ∧ u.isAskable = true := by
  unfold reaches at h
  split at h
  · exact ⟨_, ‹_›, h⟩
  · cases h

/-- The server keeps, under the address of each key, the text of the document that the key holds. -/
structure Holds (kept : σ → List UInt8 → Option String) (s : Server) (h : String → Option Json) (w : World σ) :
    Prop where
  texts : ∀ key u, Directory.isKey key = true → s.url documents key = .ok u →
    kept w.host (decodedPath u) = (h key).map Json.compact
  /-- The documents can be read from their texts. -/
  readable : ∀ key value, h key = some value → Json.ofText value.compact = .ok value

theorem Holds.same (hholds : Holds kept s h w) (hkept : kept w'.host = kept w.host) : Holds kept s h w' := by
  refine ⟨?_, hholds.readable⟩
  rw [hkept]
  exact hholds.texts

/-- A server whose text is changed at the address of a key only. -/
theorem Holds.changed (hholds : Holds kept s h w) (hkey : Directory.isKey key = true)
    (hurl : s.url documents key = .ok u) {held : Option Json}
    (hreadable : ∀ value, held = some value → Json.ofText value.compact = .ok value)
    (hkept : kept w'.host = Function.update (kept w.host) (decodedPath u) (held.map Json.compact)) :
    Holds kept s (Function.update h key held) w' := by
  refine ⟨?_, Registry.forall_update hholds.readable hreadable⟩
  intro key' u' hkey' hurl'
  rw [hkept]
  by_cases heq : key' = key
  · subst heq
    have hsame : u' = u := Except.ok.inj (hurl'.symm.trans hurl)
    rw [hsame, Function.update_self, Function.update_self]
  · have hpath : decodedPath u' ≠ decodedPath u := mt (decodedPath_inj hkey' hkey hurl' hurl) heq
    rw [Function.update_of_ne hpath, Function.update_of_ne heq]
    exact hholds.texts key' u' hkey' hurl'

/-- A server that keeps nothing holds no document. -/
theorem holds_nothing (hempty : ∀ path, kept w.host path = none) : Holds kept s (fun _ => none) w :=
  ⟨fun _ _ _ _ => hempty _, fun _ _ hnone => nomatch hnone⟩

/-- The metadata of an answer is the text in it. -/
theorem envelope_ofText (text : String) :
    Decoder.ofText envelope (Json.obj [("metadata", .str text)]).compact = .ok (.str text) := by
  have hjson : Decoder.json.Reads (.str text) (.str text) := by
    intro p
    unfold Decoder.json Decoder.valueWithin
    exact Reading.Gives.bind (fun _ => rfl) (Reading.gives_pure _ p)
  have hgives : (envelope (.map [(.str "metadata", .str text)] none)).Gives ⟨.plain .text, Json.maxDepth, []⟩
      (.str text) :=
    Fields.closed_gives _ (some (.str text)) _ rfl
      (fun _ p => Fields.walk_cons (Fields.one_takes hjson) (Fields.walk_nil _ _ p)) rfl _
  exact Decoder.ofText_of_gives (Doc.ofText_member _ _) hgives

theorem ofText_empty : Json.ofText "" = .error (.text .endInValue) := by
  have hdoc : Doc.ofText "" = (.broken (.hard .endInValue), none) := rfl
  unfold Json.ofText Decoder.ofText
  rw [hdoc]
  dsimp only
  unfold Decoder.json Decoder.valueWithin
  rfl

/-- The document is read back from its text, which never is empty. -/
theorem unwrap_compact {value : Json} (hreadable : Json.ofText value.compact = .ok value) :
    unwrap key (.str value.compact) = .ok value := by
  have htext : value.compact ≠ "" := by
    intro hempty
    rw [hempty, ofText_empty] at hreadable
    cases hreadable
  unfold unwrap
  split
  · rename_i heq
    exact absurd (Json.str.inj heq) htext
  · rename_i text _ heq
    rw [← Json.str.inj heq, hreadable]
  · rename_i hstr
    exact absurd rfl (hstr _)

variable [Host σ]

/-- A request that is answered. -/
theorem send_eq {r : Http.Request} {response : Http.Response} {host' : σ} (hurl : r.url.isAskable = true)
    (hexchange : Host.exchange r w.host = (some response, host')) (hfinal : response.isFinal = true) :
    send r w = (.ok response, { w with host := host' }.note (.request r)) := by
  have hasked : Act.exchange r w = (.ok (some response), { w with host := host' }.note (.request r)) := by
    unfold Act.exchange
    rw [hexchange]
  unfold send
  rw [if_neg (by simp [hurl]), Act.bind_of_ok hasked]
  dsimp only
  rw [if_pos hfinal]
  rfl

omit [Host σ] in
theorem isFinal_of_success {response : Http.Response} (h : response.success = true) : response.isFinal = true := by
  simp only [Http.Response.success, Bool.and_eq_true, decide_eq_true_eq] at h
  simp [Http.Response.isFinal]
  omega

omit [Host σ] in
theorem isFinal_of_missing {response : Http.Response} (h : response.status = 404) : response.isFinal = true := by
  simp [Http.Response.isFinal, h]

omit [Host σ] in
theorem not_missing_of_success {response : Http.Response} (h : response.success = true) : response.status ≠ 404 := by
  intro hmissing
  simp [Http.Response.success, hmissing] at h

theorem fetch_missing {response : Http.Response} (hsend : send ⟨.get, u, ""⟩ w = (.ok response, w'))
    (hmissing : response.status = 404) : fetch u w = (.ok none, w') := by
  unfold fetch
  rw [Act.bind_of_ok hsend, if_pos hmissing]
  rfl

theorem fetch_success {response : Http.Response} {value : Json} (hsend : send ⟨.get, u, ""⟩ w = (.ok response, w'))
    (hsuccess : response.success = true) (hvalue : Decoder.ofText envelope response.content = .ok value) :
    fetch u w = (.ok (some value), w') := by
  unfold fetch
  rw [Act.bind_of_ok hsend, if_neg (not_missing_of_success hsuccess), if_neg (by simp [hsuccess]), hvalue]
  rfl

variable (hkeeper : Keeper σ kept) (hholds : Holds kept s h w) (hkey : Directory.isKey key = true)
  (hreaches : s.reaches key = true)
include hkeeper hholds hkey hreaches

/-- The document of a key is read from the metadata of the answer. -/
theorem get_eq : ∃ w', s.get key w = (.ok (h key), w') ∧ Holds kept s h w' := by
  obtain ⟨u, hurl, haskable⟩ := exists_url hreaches
  have htext := hholds.texts key u hkey hurl
  unfold get
  rw [hurl, Act.bind_ofExcept_ok]
  cases hheld : h key with
  | none =>
    rw [hheld] at htext
    obtain ⟨response, host', hexchange, hmissing, hkept⟩ := hkeeper.tells_none u w.host htext
    have hfetch := fetch_missing (send_eq haskable hexchange (isFinal_of_missing hmissing)) hmissing
    rw [Act.bind_of_ok hfetch]
    exact ⟨_, rfl, hholds.same hkept⟩
  | some value =>
    rw [hheld] at htext
    obtain ⟨response, host', hexchange, hsuccess, hmetadata, hkept⟩ := hkeeper.tells u _ w.host htext
    have hfetch := fetch_success (send_eq haskable hexchange (isFinal_of_success hsuccess)) hsuccess hmetadata
    rw [Act.bind_of_ok hfetch]
    dsimp only
    rw [unwrap_compact (hholds.readable key value hheld)]
    exact ⟨_, rfl, hholds.same hkept⟩

/-- The text of a document is stored. -/
theorem put_eq {value : Json} (hreadable : Json.ofText value.compact = .ok value) :
    ∃ w', s.put key value w = (.ok (), w') ∧ Holds kept s (Function.update h key (some value)) w' := by
  obtain ⟨u, hurl, haskable⟩ := exists_url hreaches
  obtain ⟨response, host', hexchange, hsuccess, hkept⟩ := hkeeper.puts u value.compact w.host
  have hput : s.put key value w = (.ok (), { w with host := host' }.note (.request ⟨.put, u, value.compact⟩)) := by
    unfold put upload
    rw [hurl, Act.bind_ofExcept_ok, Act.bind_of_ok (send_eq haskable hexchange (isFinal_of_success hsuccess)),
      if_pos hsuccess]
    rfl
  refine ⟨_, hput, hholds.changed hkey hurl ?_ hkept⟩
  intro value' hvalue
  rw [← Option.some.inj hvalue]
  exact hreadable

/-- The text of a document is removed. -/
theorem delete_eq (hheld : (h key).isSome = true) :
    ∃ w', s.delete key w = (.ok (), w') ∧ Holds kept s (Function.update h key none) w' := by
  obtain ⟨u, hurl, haskable⟩ := exists_url hreaches
  obtain ⟨value, hvalue⟩ := Option.isSome_iff_exists.mp hheld
  have htext := hholds.texts key u hkey hurl
  rw [hvalue] at htext
  obtain ⟨response, host', hexchange, hsuccess, hkept⟩ := hkeeper.removes u _ w.host htext
  have hdelete : s.delete key w = (.ok (), { w with host := host' }.note (.request ⟨.delete, u, ""⟩)) := by
    unfold delete
    rw [hurl, Act.bind_ofExcept_ok, Act.bind_of_ok (send_eq haskable hexchange (isFinal_of_success hsuccess)),
      if_neg (not_missing_of_success hsuccess), if_pos hsuccess]
    rfl
  exact ⟨_, hdelete, hholds.changed hkey hurl (fun _ hnone => nomatch hnone) hkept⟩

theorem delete_absent (hnone : h key = none) :
    ∃ w', s.delete key w = (.error (.registry (.notFound key)), w') ∧ Holds kept s h w' := by
  obtain ⟨u, hurl, haskable⟩ := exists_url hreaches
  have htext := hholds.texts key u hkey hurl
  rw [hnone] at htext
  obtain ⟨response, host', hexchange, hmissing, hkept⟩ := hkeeper.removes_none u w.host htext
  have hdelete : s.delete key w = (.error (.registry (.notFound key)),
      { w with host := host' }.note (.request ⟨.delete, u, ""⟩)) := by
    unfold delete
    rw [hurl, Act.bind_ofExcept_ok, Act.bind_of_ok (send_eq haskable hexchange (isFinal_of_missing hmissing)),
      if_pos hmissing]
    rfl
  exact ⟨_, hdelete, hholds.same hkept⟩

end Keeping

/-- A server keeps a table of documents, if each key has an address that it can be asked for. -/
theorem keeps {σ : Type} [Host σ] {kept : σ → List UInt8 → Option String} (hkeeper : Keeper σ kept) (s : Server) :
    (Registry.server s).Keeps (fun key => Directory.isKey key = true ∧ s.reaches key = true)
      (fun value => Json.ofText value.compact = .ok value) (Holds kept s) where
  get key hkey hholds := by
    obtain ⟨w', hget, hholds'⟩ := get_eq hkeeper hholds hkey.1 hkey.2
    exact ⟨_, Registry.noted_of_ok _ hget, hholds'.same rfl⟩
  put key _ hkey hreadable hholds := by
    obtain ⟨w', hput, hholds'⟩ := put_eq hkeeper hholds hkey.1 hkey.2 hreadable
    exact ⟨_, Registry.noted_of_ok _ hput, hholds'.same rfl⟩
  delete key hkey hheld hholds := by
    obtain ⟨w', hdelete, hholds'⟩ := delete_eq hkeeper hholds hkey.1 hkey.2 hheld
    exact ⟨_, Registry.noted_of_ok _ hdelete, hholds'.same rfl⟩
  delete_absent key hkey hnone hholds := by
    obtain ⟨w', hdelete, hholds'⟩ := delete_absent hkeeper hholds hkey.1 hkey.2 hnone
    exact ⟨_, Registry.noted_of_error _ hdelete, hholds'.same rfl⟩

end Server

end Rollout
