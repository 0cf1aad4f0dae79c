import LaunchPolicy.Text.Basic
import LaunchPolicy.Text.Search

/-!
Image references: `nginx:1.25`, `quay.io/org/app`, or a URI with its transport.
-/

namespace LaunchPolicy.ImageReference

def defaultTransport : Text := "docker://"
def defaultRegistry : Text := "docker.io/library/"

/-- The URI of a reference: one with a transport is a URI, one with a registry lacks the
transport, a bare name lacks both. -/
def uri (transport registry reference : Text) : Text :=
  if Text.occurs ("://".toList.map .char) reference.points then reference
  else if reference.points.contains '/' then transport ++ reference
  else transport ++ registry ++ reference

/-- The name under which a bare reference is filed, which is what precedes its first colon. -/
def key (reference : Text) : Text := Text.ofPoints (reference.points.takeWhile (· ≠ ':'))

end LaunchPolicy.ImageReference
