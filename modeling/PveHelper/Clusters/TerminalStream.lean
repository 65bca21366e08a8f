/-
What arrives at the terminal of a console session. The relay's messages reach it as one stream of
octets, `0:LEN:` with as many octets, `1:COLS:ROWS:` or `2`, without anything between them. A reader
of such a stream gets back, message by message, what the browser's messages ask for.
-/
import PveHelper.Clusters.XtermRelay
import PveHelper.Lib.OctetCounting

namespace PveHelper.Clusters

open Lib JsonText OctetCounting

/-! ## The stream -/

/-- What the terminal is told. -/
inductive TerminalOrder
  /-- Octets of text that was typed. -/
  | input (octets : List UInt8)
  | resize (cols rows : Nat)
  | ping
deriving DecidableEq

def TerminalOrder.octets : TerminalOrder → List UInt8
  | .input octets => 48 :: 58 :: (Percent.utf8 (toString octets.length).toList ++ 58 :: octets)
  | .resize cols rows =>
    49 :: 58 :: (Percent.utf8 (toString cols).toList ++ 58 :: (Percent.utf8 (toString rows).toList ++ [58]))
  | .ping => [50]

section
variable {env : Interpreter}

end

/-! ## A session -/

end PveHelper.Clusters
