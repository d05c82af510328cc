import Rollout.Doc.Record
import Rollout.Text.Utf8
import Rollout.Yaml.Scan

/-!
# Rollout.Yaml.Reader — from tokens to a document

The tokens of a configuration file form one document: nested blocks and brackets, scalars, anchors that name a
node and aliases that repeat it.

* `Composer.node?`: reads one node from the tokens in front.
* `Doc.ofYaml?`: the document of a text with the nodes of its anchors; none where the text is refused or holds more
  than one document.
* `Decoder.ofYaml`: typed decoding of such a text.
-/

namespace Rollout.Yaml

/-- What is left of the tokens, what the handles of tags stand for, and the nodes named so far: the number of each
name, the nodes by number, the last one to begin first, and how many parts all nodes have. -/
structure Composer where
  tokens : List Token
  handles : List (String × List UInt8)
  names : Table Nat
  nodes : List (Nat × Doc)
  parts : Nat
deriving Inhabited

/-- Where a node stands: among blocks, where a list need not be indented, or between brackets. -/
inductive Position
  | block
  | blockOrList
  | flow
deriving DecidableEq

/-- What a node carries before its content. -/
structure Properties where
  anchor : Option String
  tag : Option Tag

/-- The start that the tags of the core schema share. -/
def coreTag : List UInt8 := Text.encode "tag:yaml.org,2002:"

/-- The tag of so many octets; they end before the first that is zero. -/
def tagOf (octets : List UInt8) : Tag :=
  match octets.takeWhile (· ≠ 0) with
  | 0x21 :: name =>
    match Text.decode? (if name = [] then [0x21] else name) with
    | some name => .own (String.ofList name)
    | none => .unreadable
  | octets =>
    let core (name : String) : Bool := octets = coreTag ++ Text.encode name
    if core "int" then .integer
    else if core "float" then .fraction
    else if core "bool" then .truth
    else if core "null" then .nothing
    else .foreign

namespace Composer

def ofTokens (tokens : List Token) : Composer := ⟨tokens, [], Table.empty, [], 0⟩

def head? (c : Composer) : Option Token := c.tokens.head?

def advance (c : Composer) : Composer := { c with tokens := c.tokens.tail }

/-- With so many more parts. -/
def count (parts : Nat) (c : Composer) : Composer := { c with parts := c.parts + parts }

/-- A scalar that is left out. -/
def absent : Doc := .scalar "" .plain none

/-- What a handle stands for. -/
def handle? (c : Composer) (handle : String) : Option (List UInt8) :=
  if handle = "" then some []
  else match c.handles.find? (·.1 = handle) with
    | some (_, uri) => some uri
    | none => if handle = "!" then some (Text.encode "!") else if handle = "!!" then some coreTag else none

/-- A tag written with a handle. -/
def tag? (c : Composer) (handle : String) (suffix : List UInt8) : Option Tag :=
  (c.handle? handle).map fun uri => tagOf (uri.takeWhile (· ≠ 0) ++ suffix)

/-- The anchor and the tag of a node, in either order. -/
def properties? (c : Composer) : Option (Properties × Composer) := do
  match c.tokens with
  | .anchor a :: .tag h s :: rest => return (⟨some a, some (← c.tag? h s)⟩, { c with tokens := rest })
  | .tag h s :: .anchor a :: rest => return (⟨some a, some (← c.tag? h s)⟩, { c with tokens := rest })
  | .anchor a :: rest => return (⟨some a, none⟩, { c with tokens := rest })
  | .tag h s :: rest => return (⟨none, some (← c.tag? h s)⟩, { c with tokens := rest })
  | _ => return (⟨none, none⟩, c)

/-- A list or mapping with its tag. -/
def collection (tag : Option Tag) (doc : Doc) : Doc :=
  match tag with
  | some (.own name) => .tagged name doc
  | _ => doc

/-- Begins a node: its anchor gets the number of the names known so far.  A name that is used again counts once, so
another node may come to have the same number; the last to begin is the one that an alias stands for. -/
def begin (anchor : Option String) (c : Composer) : Composer :=
  match anchor with
  | some a => { c with names := c.names.insert a c.names.size }
  | none => c

/-- Ends a node that began at `start`. -/
def finish (anchor : Option String) (start : Composer) (doc : Doc) (c : Composer) : Composer :=
  match anchor with
  | some _ =>
    let inner := c.nodes.length - start.nodes.length
    { c with nodes := c.nodes.take inner ++ (start.names.size, doc) :: start.nodes }
  | none => c

/-- Whether the next token is one of those after which a node is left out. -/
def leavesOut (c : Composer) (ends : List Token) : Bool := c.head?.all ends.contains

mutual

/-- Reads a node. -/
def node? (fuel : Nat) (place : Position) (c : Composer) : Option (Doc × Composer) :=
  match fuel with
  | 0 => none
  | fuel + 1 =>
    match c.head? with
    | some (.alias a) => (c.names.get? a).map fun number => (.alias number, c.advance.count 1)
    | _ => do
      let (p, c) ← c.properties?
      let (doc, after) ← content? fuel place p (begin p.anchor c)
      some (doc, finish p.anchor c doc after)

/-- Reads the content of a node. -/
def content? (fuel : Nat) (place : Position) (p : Properties) (c : Composer) : Option (Doc × Composer) :=
  match fuel with
  | 0 => none
  | fuel + 1 =>
    let items (r : List Doc × Composer) : Doc × Composer := (collection p.tag (.seq r.1 none), r.2.count 2)
    let members (r : List (Doc × Doc) × Composer) : Doc × Composer := (collection p.tag (.map r.1 none), r.2.count 2)
    match c.head?, place with
    | some .blockEntry, .blockOrList => (looseItems? fuel [] c).map items
    | some (.scalar text style), _ => some (.scalar text style p.tag, c.advance.count 1)
    | some .flowSequenceStart, _ => (flowItems? fuel true [] c.advance).map items
    | some .flowMappingStart, _ => (flowMembers? fuel true [] c.advance).map members
    | some .blockSequenceStart, .block | some .blockSequenceStart, .blockOrList =>
      (blockItems? fuel [] c.advance).map items
    | some .blockMappingStart, .block | some .blockMappingStart, .blockOrList =>
      (blockMembers? fuel [] c.advance).map members
    | _, _ =>
      if p.anchor.isSome || p.tag.isSome then some (.scalar "" .plain p.tag, c.count 1) else none

/-- A node, or nothing where one of the given tokens follows. -/
def nodeUnless? (fuel : Nat) (place : Position) (ends : List Token) (c : Composer) : Option (Doc × Composer) :=
  match fuel with
  | 0 => none
  | fuel + 1 => if c.leavesOut ends then some (absent, c.count 1) else node? fuel place c

/-- The value after its sign, or nothing where the sign is not there. -/
def value? (fuel : Nat) (place : Position) (ends : List Token) (c : Composer) : Option (Doc × Composer) :=
  match fuel with
  | 0 => none
  | fuel + 1 =>
    if c.head? = some .value then nodeUnless? fuel place ends c.advance else some (absent, c.count 1)

/-- The entries of an indented list. -/
def blockItems? (fuel : Nat) (items : List Doc) (c : Composer) : Option (List Doc × Composer) :=
  match fuel with
  | 0 => none
  | fuel + 1 =>
    match c.head? with
    | some .blockEntry => do
      let (doc, c) ← nodeUnless? fuel .block [.blockEntry, .blockEnd] c.advance
      blockItems? fuel (doc :: items) c
    | some .blockEnd => some (items.reverse, c.advance)
    | _ => none

/-- The entries of a list as deep as the mapping around it. -/
def looseItems? (fuel : Nat) (items : List Doc) (c : Composer) : Option (List Doc × Composer) :=
  match fuel with
  | 0 => none
  | fuel + 1 =>
    match c.head? with
    | some .blockEntry => do
      let (doc, c) ← nodeUnless? fuel .block [.blockEntry, .key, .value, .blockEnd] c.advance
      looseItems? fuel (doc :: items) c
    | _ => some (items.reverse, c)

/-- The members of an indented mapping; each begins with a key. -/
def blockMembers? (fuel : Nat) (members : List (Doc × Doc)) (c : Composer) :
    Option (List (Doc × Doc) × Composer) :=
  match fuel with
  | 0 => none
  | fuel + 1 =>
    let ends := [Token.key, .value, .blockEnd]
    match c.head? with
    | some .key => do
      let (k, c) ← nodeUnless? fuel .blockOrList ends c.advance
      let (v, c) ← value? fuel .blockOrList ends c
      blockMembers? fuel ((k, v) :: members) c
    | some .blockEnd => some (members.reverse, c.advance)
    | _ => none

/-- The entries of a bracketed list; a pair among them is a mapping of its own.  Where the key of a pair is left out,
the sign in its place is passed over. -/
def flowItems? (fuel : Nat) (first : Bool) (items : List Doc) (c : Composer) : Option (List Doc × Composer) :=
  match fuel with
  | 0 => none
  | fuel + 1 =>
    if c.head? = some .flowSequenceEnd then some (items.reverse, c.advance)
    else do
      let c ← if first then some c else if c.head? = some .flowEntry then some c.advance else none
      match c.head? with
      | some .flowSequenceEnd => some (items.reverse, c.advance)
      | some .key => do
        let c := c.advance
        let (k, c) ←
          if c.leavesOut [.value, .flowEntry, .flowSequenceEnd] then some (absent, c.advance.count 1)
          else node? fuel .flow c
        let (v, c) ← value? fuel .flow [.flowEntry, .flowSequenceEnd] c
        flowItems? fuel false (.map [(k, v)] none :: items) (c.count 2)
      | _ => do
        let (doc, c) ← node? fuel .flow c
        flowItems? fuel false (doc :: items) c

/-- The members of a bracketed mapping. -/
def flowMembers? (fuel : Nat) (first : Bool) (members : List (Doc × Doc)) (c : Composer) :
    Option (List (Doc × Doc) × Composer) :=
  match fuel with
  | 0 => none
  | fuel + 1 =>
    if c.head? = some .flowMappingEnd then some (members.reverse, c.advance)
    else do
      let c ← if first then some c else if c.head? = some .flowEntry then some c.advance else none
      match c.head? with
      | some .flowMappingEnd => some (members.reverse, c.advance)
      | some .key => do
        let (k, c) ← nodeUnless? fuel .flow [.value, .flowEntry, .flowMappingEnd] c.advance
        let (v, c) ← value? fuel .flow [.flowEntry, .flowMappingEnd] c
        flowMembers? fuel false ((k, v) :: members) c
      | _ => do
        let (k, c) ← node? fuel .flow c
        flowMembers? fuel false ((k, absent) :: members) (c.count 1)

end

/-- The directives in front of a document, one version at most and each handle once, and whether there are any. -/
def directives? (version : Bool) (handles : List (String × List UInt8)) :
    List Token → Option (Bool × List (String × List UInt8) × List Token)
  | .versionDirective supported :: rest => if version || !supported then none else directives? true handles rest
  | .tagDirective handle uri :: rest =>
    if handles.any (·.1 = handle) then none else directives? version ((handle, uri) :: handles) rest
  | tokens => some (version || !handles.isEmpty, handles, tokens)

/-- Whether a document without content ends before a token. -/
def endsDocument : Token → Bool
  | .documentStart | .documentEnd | .versionDirective _ | .tagDirective .. => true
  | _ => false

/-- One document up to the end of the text, and what its nodes amount to. -/
def document? (tokens : List Token) : Option (Doc × Composer) := do
  if tokens = [] then return (absent, ofTokens [])
  let (directed, handles, tokens) ← directives? false [] tokens
  let explicit := tokens.head? = some .documentStart
  if directed && !explicit then none
  let c := { ofTokens (if explicit then tokens.tail else tokens) with handles }
  let (doc, c) ←
    if explicit && c.head?.all endsDocument then some (absent, c.count 1)
    else node? (4 * tokens.length + 8) .block c
  if c.tokens.all (· = .documentEnd) then some (doc, c) else none

end Composer

end Rollout.Yaml

namespace Rollout

/-- How many lists and mappings may stand in one another in a configuration file. -/
def Yaml.maxDepth : Nat := 128

/-- The document of a configuration file with its source; none where the text is refused.  So many aliases may be
followed as a hundred times the parts of the document. -/
def Doc.ofYaml? (text : String) : Option (Doc × Source) := do
  let (doc, c) ← Yaml.Composer.document? (← Yaml.Token.ofText? text)
  return (doc, ⟨.file, c.nodes, 100 * c.parts⟩)

/-- Why a configuration file is refused. -/
inductive FileFault
  | malformed
  | unfit (fault : LocatedFault)
deriving DecidableEq, Repr, Inhabited

def FileFault.message : FileFault → String
  | malformed => "not well-formed"
  | unfit fault => fault.message

/-- Decodes a configuration file. -/
def Decoder.ofYaml (d : Decoder α) (text : String) : Except FileFault α :=
  match Doc.ofYaml? text with
  | none => .error .malformed
  | some (doc, source) => ((d doc).run source Yaml.maxDepth).mapError FileFault.unfit

end Rollout
