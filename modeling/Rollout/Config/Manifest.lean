import Rollout.Doc.Record

/-!
# Rollout.Config.Manifest — the desired software

A manifest says, for each component, which channel and revision to run and with what configuration.  Components
stand in the core section or in extensions; the core section wins, then the first extension that has the name.

* `Manifest.component?`, `Manifest.attr?`: what the manifest says of a component.
* `Component.track?`: the channel up to its first slash.
-/

namespace Rollout

/-- What is desired of one component. -/
structure Component where
  channel : Option String
  revision : Option Nat
  config : Option (Table Json)
  further : Table Json

/-- A named set of further components. -/
structure Extension where
  name : String
  components : Table Component

/-- The desired software. -/
structure Manifest where
  core : Table Component
  extensions : List Extension

namespace Component

def empty : Component := ⟨none, none, none, Table.empty⟩

instance : Inhabited Component := ⟨empty⟩

/-- The value of an attribute. -/
def attr? (c : Component) (name : String) : Option Json :=
  if name = "channel" then c.channel.map .str
  else if name = "revision" then c.revision.map .nat
  else if name = "config" then c.config.map .ofTable
  else c.further.get? name

/-- The channel up to its first slash. -/
def track? (c : Component) : Option String :=
  c.channel.map fun channel => String.ofList (channel.toList.takeWhile (· ≠ '/'))

def toJson (c : Component) : Json :=
  .ofEntries ([("channel", .ofOption .str c.channel), ("revision", .ofOption .nat c.revision),
    ("config", .ofOption .ofTable c.config)] ++ c.further.entries)

def decoder : Decoder Component := fun doc => do
  let ((channel, revision, config), further) ← Fields.spread "ComponentManifest"
    ((fun channel revision config => (channel, revision, config))
      <$> Fields.optional "channel" Decoder.string
      <*> Fields.optional "revision" Decoder.u64
      <*> Fields.optional "config" (Decoder.table Decoder.json)) doc
  return ⟨channel, revision, config, further⟩

end Component

namespace Manifest

def empty : Manifest := ⟨Table.empty, []⟩

instance : Inhabited Manifest := ⟨empty⟩

/-- What the manifest says of a component. -/
def component? (m : Manifest) (name : String) : Option Component :=
  match m.core.get? name with
  | some c => some c
  | none => m.extensions.findSome? fun e => e.components.get? name

/-- The value of an attribute of a component. -/
def attr? (m : Manifest) (component attr : String) : Option Json :=
  (m.component? component).bind fun c => c.attr? attr

/-- The manifest with one more core component. -/
def withCore (m : Manifest) (name : String) (c : Component) : Manifest :=
  { m with core := m.core.insert name c }

/-- The section that lists components. -/
def softwareJson (components : Table Component) : Json :=
  .obj [("components", .ofTable (components.map Component.toJson))]

def toJson (m : Manifest) : Json :=
  .obj [("core", .obj [("software", softwareJson m.core)]),
    ("extensions", .arr (m.extensions.map fun e =>
      .obj [("name", .str e.name), ("software", softwareJson e.components)]))]

def softwareDecoder : Decoder (Table Component) :=
  Fields.closed "Software" (Fields.withDefault "components" (Decoder.table Component.decoder) Table.empty)

def coreDecoder : Decoder (Table Component) :=
  Fields.closed "SoftwareSection" (Fields.withDefault "software" softwareDecoder Table.empty)

def extensionDecoder : Decoder Extension :=
  Fields.closed "Extension"
    (Extension.mk <$> Fields.required "name" Decoder.string
      <*> Fields.withDefault "software" softwareDecoder Table.empty)

def decoder : Decoder Manifest :=
  Fields.closed "Manifest"
    (Manifest.mk <$> Fields.withDefault "core" coreDecoder Table.empty
      <*> Fields.withDefault "extensions" (Decoder.list extensionDecoder) [])

end Manifest

end Rollout
