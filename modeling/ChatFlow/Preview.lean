import ChatFlow.Diagnostic.Finding
import ChatFlow.Session.Basic
import ChatFlow.Text.Sha256

/-!
# Previews

A preview keeps a source being edited compiled, diagnosed and running side by
side.  The digest of the source is its version: an edit that leaves it as it
is changes nothing, and any other edit puts the new program into the running
session.
-/

namespace ChatFlow

open Source (Compilation)

structure Preview where
  /-- The digest of the source. -/
  version : String
  compilation : Compilation
  findings : List Finding
  session : Session
deriving DecidableEq

namespace Preview

def start (source : String) (options : Options) : Preview :=
  let compilation := Compilation.ofSource source
  { version := Text.Sha256.digest source
    compilation
    findings := compilation.findings
    session := Session.start compilation.program options }

/-- The preview after an edit, or nothing if the version stays the same. -/
def edit? (preview : Preview) (source : String) : Option Preview :=
  let version := Text.Sha256.digest source
  if version = preview.version then none
  else
    let compilation := Compilation.ofSource source
    some
      { version
        compilation
        findings := compilation.findings
        session := preview.session.reload compilation.program }

/-- The preview after an edit. -/
def edit (preview : Preview) (source : String) : Preview :=
  (preview.edit? source).getD preview

def diagnostics (preview : Preview) : List Diagnostic :=
  preview.findings.map Finding.diagnostic

end Preview

end ChatFlow
