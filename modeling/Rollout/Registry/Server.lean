import Rollout.Json.Decode
import Rollout.Json.Printer
import Rollout.Registry.Lock
import Rollout.Url.Parse
import Rollout.World.Basic

/-!
# Rollout.Registry.Server — documents on a server

A server keeps documents and the locks of plans, each under an address of its own: the address of the server, a
collection and a name, which is encoded as one path segment.

* `Server.ofAddress`: accepts an address that can have a path.
* `Server.url`: the address of a name in a collection.
* `Server.get`, `Server.put`, `Server.delete`: documents.
* `Server.lock`, `Server.unlock`: locks.
-/

namespace Rollout

/-- A server: its address as written, without slashes at its end, and as understood. -/
structure Server where
  address : String
  base : Url
deriving DecidableEq, Repr, Inhabited

namespace Server

def documents : String := "config"

def locks : String := "terraformlock"

def unlocks : String := "terraformunlock"

/-- A text without slashes at its end. -/
def trimSlashes (s : String) : String := String.ofList (s.toList.reverse.dropWhile (· = '/')).reverse

def transport (message : String) : Fault := .registry (.transport message)

/-- The server at an address. -/
def ofAddress (address : String) : Except Fault Server :=
  let address := trimSlashes address
  match Url.parse? address with
  | some base => if base.isHierarchical then .ok ⟨address, base⟩ else .error (refusal address)
  | none => .error (refusal address)
where
  refusal (address : String) : Fault := transport ("Invalid registry address: " ++ address)

/-- The address of a name in a collection. -/
def url (s : Server) (collection name : String) : Except Fault Url :=
  if name = "" then .error (.registry (.invalidKey name))
  else match s.base.extend? [collection, name] with
    | some url => .ok url
    | none => .error (transport ("Invalid registry address: " ++ s.address))

/-- What is wrong when a request gets no response. -/
def unanswered (r : Http.Request) (what : String) : Fault :=
  transport (r.method.text ++ " " ++ r.url.text ++ " failed: " ++ what ++ " for url (" ++ r.url.anonymous.text ++ ")")

/-- What is wrong when a response tells of no success. -/
def refused (r : Http.Request) (response : Http.Response) : Fault :=
  transport (r.method.text ++ " " ++ r.url.text ++ " returned " ++ response.statusText ++ ": " ++ response.content)

variable {σ : Type} [Host σ]

/-- Sends a request. -/
def send (r : Http.Request) : Act σ Http.Response := do
  if !r.url.isAskable then Act.fail (unanswered r "builder error")
  else match ← Act.exchange r with
    | some response =>
      if response.isFinal then return response else Act.fail (unanswered r "error sending request")
    | none => Act.fail (unanswered r "error sending request")

/-- A response holds its value in one member, which is null if it is missing. -/
def envelope : Decoder Json := Fields.closed "Envelope" (Fields.withDefault "metadata" Decoder.json .null)

/-- The value under an address; none if there is nothing. -/
def fetch (url : Url) : Act σ (Option Json) := do
  let request : Http.Request := ⟨.get, url, ""⟩
  let response ← send request
  if response.status = 404 then return none
  else if !response.success then Act.fail (refused request response)
  else match Decoder.ofText envelope response.content with
    | .ok value => return some value
    | .error _ =>
      Act.fail (transport ("GET " ++ url.text ++ " returned an invalid body: error decoding response body"))

/-- Stores a text under an address. -/
def upload (url : Url) (body : String) : Act σ Unit := do
  let request : Http.Request := ⟨.put, url, body⟩
  let response ← send request
  if response.success then return () else Act.fail (refused request response)

/-- A document may come as a value or as its text; an empty text is null. -/
def unwrap (key : String) : Json → Except Fault Json
  | .str "" => .ok .null
  | .str text =>
    match Json.ofText text with
    | .ok value => .ok value
    | .error e => .error (.registry (.corrupted key e.message))
  | value => .ok value

/-- The document of a key. -/
def get (s : Server) (key : String) : Act σ (Option Json) := do
  match ← fetch (← Act.ofExcept (s.url documents key)) with
  | some value => return some (← Act.ofExcept (unwrap key value))
  | none => return none

/-- Stores the document of a key. -/
def put (s : Server) (key : String) (value : Json) : Act σ Unit := do
  upload (← Act.ofExcept (s.url documents key)) value.compact

/-- Removes the document of a key. -/
def delete (s : Server) (key : String) : Act σ Unit := do
  let request : Http.Request := ⟨.delete, ← Act.ofExcept (s.url documents key), ""⟩
  let response ← send request
  if response.status = 404 then Act.fail (.registry (.notFound key))
  else if response.success then return ()
  else Act.fail (refused request response)

/-- The lock on a plan; null and an empty object stand for none. -/
def lock (s : Server) (plan : String) : Act σ (Option Lock) := do
  let key := locks ++ "/" ++ plan
  match ← fetch (← Act.ofExcept (s.url locks plan)) with
  | none => return none
  | some value =>
    match ← Act.ofExcept (unwrap key value) with
    | .null => return none
    | .obj [] => return none
    | value => match Lock.decoder.ofJson value with
      | .ok lock => return some lock
      | .error e => Act.fail (.registry (.corrupted key e.message))

/-- Releases the lock on a plan. -/
def unlock (s : Server) (plan : String) (lock : Lock) : Act σ Unit := do
  upload (← Act.ofExcept (s.url unlocks plan)) lock.toJson.compact

end Server

end Rollout
