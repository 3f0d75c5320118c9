import SaveManifest.Constraint
import SaveManifest.Text.Ascii
import SaveManifest.Text.Blank

/-!
# Placeholders

The tokens a wiki page may use inside a path, such as `game` or `appdata`, what each stands for
in the manifest, and what its use says about the path. A token is looked up without regard to
the case of ASCII letters and to white space around it.
-/

namespace SaveManifest

/-- A token of the wiki and its meaning. -/
structure Placeholder where
  token : String
  normalized : String
  applies : Constraint := {}
  registryRoot : Bool := false
  unsupported : Bool := false
deriving DecidableEq, Repr

namespace Placeholder

private def onWindows : Constraint := { os := some .windows }

/-- The tokens of the wiki, in the order in which they are resolved. The 64-bit view of the
registry is known but cannot be written in a manifest. -/
def known : List Placeholder := [
  { token := "game", normalized := "<base>" },
  { token := "uid", normalized := "<storeUserId>" },
  { token := "steam", normalized := "<root>", applies := { store := some .steam } },
  { token := "uplay", normalized := "<root>", applies := { store := some .uplay } },
  { token := "ubisoftconnect", normalized := "<root>", applies := { store := some .uplay } },
  { token := "hkcu", normalized := "HKEY_CURRENT_USER", applies := onWindows,
    registryRoot := true },
  { token := "hklm", normalized := "HKEY_LOCAL_MACHINE", applies := onWindows,
    registryRoot := true },
  { token := "wow64", normalized := "<regWow64>", applies := onWindows, registryRoot := true,
    unsupported := true },
  { token := "username", normalized := "<osUserName>", applies := onWindows },
  { token := "userprofile", normalized := "<home>", applies := onWindows },
  { token := "userprofile\\documents", normalized := "<winDocuments>", applies := onWindows },
  { token := "userprofile\\appdata\\locallow", normalized := "<home>/AppData/LocalLow",
    applies := onWindows },
  { token := "appdata", normalized := "<winAppData>", applies := onWindows },
  { token := "localappdata", normalized := "<winLocalAppData>", applies := onWindows },
  { token := "public", normalized := "<winPublic>", applies := onWindows },
  { token := "allusersprofile", normalized := "<winProgramData>", applies := onWindows },
  { token := "programdata", normalized := "<winProgramData>", applies := onWindows },
  { token := "windir", normalized := "<winDir>", applies := onWindows },
  { token := "syswow64", normalized := "<winDir>/SysWOW64", applies := onWindows },
  { token := "osxhome", normalized := "<home>", applies := { os := some .mac } },
  { token := "linuxhome", normalized := "<home>", applies := { os := some .linux } },
  { token := "xdgdatahome", normalized := "<xdgData>", applies := { os := some .linux } },
  { token := "xdgconfighome", normalized := "<xdgConfig>", applies := { os := some .linux } }]

def lookup? (token : String) : Option Placeholder :=
  let wanted := Text.trimmed token
  known.find? fun placeholder => Text.sameIgnoringCase placeholder.token wanted

/-- Tokens are known once each, whatever the case of their letters. -/
theorem known_tokens_distinct :
    known.Pairwise fun left right => Text.sameIgnoringCase left.token right.token = false := by
  decide +kernel

end Placeholder

end SaveManifest
