import Rollout.Proofs.Doc.Values
import Rollout.Proofs.Obliging
import Rollout.Proofs.Registry.Server

/-!
# Rollout.Proofs.Registry.Agree — all registries answer alike

The shared store, a directory and a server keep documents in three forms, but the replies to requests do not tell which
it is: they are those that the requests alone determine, and those under one key do not depend on the requests under
others.

* `Registry.replies_agree`: rows of requests to the three, each of them empty at first.
* `Shelf`: a server that keeps texts.
-/

namespace Rollout

/-- Both texts of a document are read back as the document. -/
def Json.Faithful (value : Json) : Prop :=
  Json.ofText value.pretty = .ok value ∧ Json.ofText value.compact = .ok value

namespace Registry

/-- A shared store, a directory and a server that have nothing at first give the same replies to a row of requests: what
is found under a key is the document stored last, if it was not removed since, and only a document that is there is
removed.  The replies under one key are those to the requests with this key alone.  The host of the store refuses
nothing, the host of the directory disturbs nothing and takes the names, and the host of the server keeps what it is
told to. -/
theorem replies_agree {μ δ σ : Type} [Host μ] [Host δ] [Host σ] (ops : List Op)
    (hkeys : ∀ op ∈ ops, Directory.isKey op.key = true)
    (hvalues : ∀ op ∈ ops, ∀ value, op.stored? = some value → value.Faithful)
    (endpoint : Option String) (memory : World μ) (hstore : memory.store = Table.empty)
    (hgrants : ∀ (a : Access) (host : μ), (Host.refuse a host).1 = none)
    (dir : Path) (place : String) (disk : World δ) (hlocate : disk.files.locate disk.here dir = .ok place)
    (hdirectory : disk.files.isDirectory place = true)
    (hempty : ∀ name, disk.files.node? (place ++ "/" ++ name) = none)
    (hcalm : ∀ (a : FileAction) (host : δ), (Host.disturb a host).1 = none)
    (hfits : ∀ op ∈ ops, Directory.Fits dir op.key)
    (s : Server) (net : World σ) (kept : σ → List UInt8 → Option String) (hkeeper : Server.Keeper σ kept)
    (hnothing : ∀ path, kept net.host path = none) (hreaches : ∀ op ∈ ops, s.reaches op.key = true) :
    ((shared endpoint).replies ops memory).1 = answers [] ops ∧
      ((directory dir).replies ops disk).1 = answers [] ops ∧
      ((server s).replies ops net).1 = answers [] ops ∧
      ∀ key, (ops.zip (answers [] ops)).filter (fun p => p.1.key = key) =
        (ops.filter fun op => op.key = key).zip (answers [] (ops.filter fun op => op.key = key)) := by
  refine ⟨?_, ?_, ?_, fun key => answers_filter key [] ops⟩
  · refine (shared_keeps endpoint hgrants).replies_eq [] ops (fun _ _ => trivial) (fun _ _ _ _ => trivial) fun key => ?_
    rw [hstore]
    rfl
  · exact (Directory.keeps hcalm dir place).replies_eq [] ops (fun op hop => ⟨hkeys op hop, hfits op hop⟩)
      (fun op hop value hvalue => (hvalues op hop value hvalue).1)
      (Directory.holds_nothing hlocate hdirectory hempty)
  · exact (Server.keeps hkeeper s).replies_eq [] ops (fun op hop => ⟨hkeys op hop, hreaches op hop⟩)
      (fun op hop value hvalue => (hvalues op hop value hvalue).2) (Server.holds_nothing hnothing)

end Registry

/-! ## A server -/

/-- A server that keeps a text for each path. -/
structure Shelf where
  texts : List UInt8 → Option String

namespace Shelf

/-- The answer where a text is kept or none is. -/
def found : Option String → Http.Response
  | some text => ⟨200, (Json.obj [("metadata", .str text)]).compact⟩
  | none => ⟨404, ""⟩

instance : Host Shelf where
  run _ _ _ s := ((0, .ok ⟨some 0, "", ""⟩), s)
  answer _ s := ((0, .error (.internal "no orchestrator")), s)
  exchange r s :=
    let path := Server.decodedPath r.url
    match r.method with
    | .put => (some ⟨200, ""⟩, ⟨Function.update s.texts path (some r.body)⟩)
    | .get => (some (found (s.texts path)), s)
    | .delete => (some ⟨if (s.texts path).isSome then 200 else 404, ""⟩, ⟨Function.update s.texts path none⟩)
  disturb _ s := (none, s)
  refuse _ s := (none, s)

/-- The server while it keeps nothing. -/
def empty : Shelf := ⟨fun _ => none⟩

/-- Where the server is asked. -/
def address : Server := ⟨"http://h", ⟨"http", some ⟨"", "", .name "h", none⟩, .segments [""], none, none⟩⟩

/-- The server does what is expected of one. -/
theorem keeper : Server.Keeper Shelf Shelf.texts where
  puts _ _ _ := ⟨_, _, rfl, rfl, rfl⟩
  tells u text host h := by
    have hexchange : Host.exchange ⟨.get, u, ""⟩ host = (some (found (some text)), host) := by rw [← h]; rfl
    exact ⟨_, _, hexchange, rfl, Server.envelope_ofText text, rfl⟩
  tells_none u host h := by
    have hexchange : Host.exchange ⟨.get, u, ""⟩ host = (some (found none), host) := by rw [← h]; rfl
    exact ⟨_, _, hexchange, rfl, rfl⟩
  removes u text host h := by
    refine ⟨_, _, rfl, ?_, rfl⟩
    rw [h]
    rfl
  removes_none u host h := by
    refine ⟨_, _, rfl, ?_, ?_⟩
    · rw [h]
      rfl
    · show Function.update host.texts (Server.decodedPath u) none = host.texts
      rw [← h, Function.update_eq_self]

end Shelf

namespace Json

theorem faithful_null : null.Faithful := by
  have htext : ofText "null" = .ok null := ofText_of_toDoc (j := null) rfl (Nat.zero_le _)
  exact ⟨htext, htext⟩

/-- Every text is read back. -/
theorem faithful_str (s : String) : (str s).Faithful := by
  have htext : ofText (quote s) = .ok (str s) := ofText_of_toDoc (j := str s) (Doc.ofText_quote s) (Nat.zero_le _)
  exact ⟨htext, htext⟩

end Json

namespace Registry

/-- Requests under three keys, two of which are the first one with an ending. -/
def row : List Op :=
  [.get "a", .put "a" .null, .get "a", .put "a.tmp" (.str ""), .put "a.json" (.str "c"), .delete "a", .delete "a",
    .get "a.tmp", .update "a" (.str "b"), .deleteIfPresent "a.json", .deleteIfPresent "a.json", .get "a"]

theorem row_faithful : ∀ op ∈ row, ∀ value, op.stored? = some value → value.Faithful := by
  have hstored : row.filterMap Op.stored? = [.null, .str "", .str "c", .str "b"] := rfl
  intro op hop value hvalue
  have hmem : value ∈ row.filterMap Op.stored? := List.mem_filterMap.mpr ⟨op, hop, hvalue⟩
  rw [hstored] at hmem
  simp only [List.mem_cons, List.not_mem_nil, or_false] at hmem
  rcases hmem with rfl | rfl | rfl | rfl
  · exact Json.faithful_null
  all_goals exact Json.faithful_str _

/-- A directory with nothing in it. -/
def docs : FileTree := FileTree.empty.put "/docs" .directory

theorem docs_empty (name : String) : docs.node? ("/docs" ++ "/" ++ name) = none := by
  have hne : "/docs" ++ "/" ++ name ≠ "/docs" := by
    intro h
    have hlength := congrArg (fun s => s.toList.length) h
    simp at hlength
  have hroot : "/docs" ++ "/" ++ name ≠ "" := Directory.below_ne_root _ _
  rw [docs, FileTree.node?_put_of_ne hne, FileTree.node?, if_neg hroot]
  rfl

theorem replies_agree_row :
    ((shared none).replies row (Obliging.world "db")).1 = answers [] row ∧
      ((directory "/docs").replies row (.start (⟨Obliging.single "db"⟩ : Obliging) "" docs)).1 = answers [] row ∧
      ((server Shelf.address).replies row (.start Shelf.empty "" FileTree.empty)).1 = answers [] row ∧
      answers [] row = [.ok (.found none), .ok .done, .ok (.found (some .null)), .ok .done, .ok .done, .ok .done,
        .error (.registry (.notFound "a")), .ok (.found (some (.str ""))), .ok .done, .ok (.removed true),
        .ok (.removed false), .ok (.found (some (.str "b")))] := by
  have hkeys : ∀ op ∈ row, Directory.isKey op.key = true := by decide
  have hfits : ∀ op ∈ row, Directory.Fits "/docs" op.key := by decide
  have hreaches : ∀ op ∈ row, Shelf.address.reaches op.key = true := by decide
  have hall := replies_agree row hkeys row_faithful none (Obliging.world "db") rfl (fun _ _ => rfl) "/docs" "/docs"
    (.start (⟨Obliging.single "db"⟩ : Obliging) "" docs) (by rfl) (by rfl) docs_empty (fun _ _ => rfl) hfits
    Shelf.address (.start Shelf.empty "" FileTree.empty) Shelf.texts Shelf.keeper (fun _ => rfl) hreaches
  exact ⟨hall.1, hall.2.1, hall.2.2.1, rfl⟩

end Registry

end Rollout
