import Guestkeeper.Configuration
import Guestkeeper.Host.Files

set_option autoImplicit false

/-! # Loading the client configuration

The configuration is read from a file; where there is no file, the defaults hold. -/

namespace Guestkeeper.Configuration

open Guestkeeper.Host

/-- The configuration that comes of what was found at the path. -/
def ofContents (path : String) : Except Cause String → Except Error Configuration
  | .ok text => ofText text
  | .error .notFound => .ok {}
  | .error cause => .error (.io path cause)

/-- Loads the configuration at a path. -/
def load {m : Type → Type} [Monad m] [Files m] (path : String) : ExceptT Error m Configuration :=
  ExceptT.mk (readText path >>= fun contents => pure (ofContents path contents))

end Guestkeeper.Configuration
