import Mathlib.Init

/-!
# Errors

`PluginError` is what emitters and ingestors return; `Status` is what the gRPC
service answers with.
-/

namespace Polku

/-- Errors of plugin operations. -/
inductive PluginError where
  | init (message : String)
  | transform (message : String)
  | send (message : String)
  | connection (message : String)
  | notReady
  | shutdown (message : String)
deriving DecidableEq, Repr

/-- The text `Display` gives an error. -/
def PluginError.toText : PluginError → String
  | .init message => "initialization failed: " ++ message
  | .transform message => "transform failed: " ++ message
  | .send message => "send failed: " ++ message
  | .connection message => "connection error: " ++ message
  | .notReady => "plugin not ready"
  | .shutdown message => "shutdown error: " ++ message

/-- The gRPC status codes the service answers with. -/
inductive Code where
  | invalidArgument
  | unimplemented
  | resourceExhausted
deriving DecidableEq, Repr

/-- A gRPC error status. -/
structure Status where
  code : Code
  message : String
deriving DecidableEq, Repr

end Polku
