import Rollout.Config.Engine
import Rollout.Config.Manifest
import Rollout.Fault
import Rollout.Yaml.Reader

/-!
# Rollout.Config.File — configuration and manifest texts

A text that is refused gives a fault that names where it came from.
-/

namespace Rollout

/-- The configuration of a text. -/
def Config.ofText (text : String) (source : Option Path) : Except Fault Config :=
  (Decoder.ofYaml Config.decoder text).mapError fun fault =>
    .config (.unreadable ("YAML parse error: " ++ fault.message) source)

/-- The manifest of a text. -/
def Manifest.ofText (text : String) (source : Path) : Except Fault Manifest :=
  (Decoder.ofYaml Manifest.decoder text).mapError fun fault =>
    .config (.unreadable ("Manifest parse error: " ++ fault.message) (some source))

end Rollout
