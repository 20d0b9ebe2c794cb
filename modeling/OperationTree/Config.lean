import OperationTree.ContentFault
import OperationTree.Depth
import OperationTree.Toml.Excerpt
import OperationTree.Toml.Parse
import OperationTree.WalkError

namespace OperationTree

structure Config where
  maxDepth : UInt32 := Depth.defaultLimit
  deriving DecidableEq, Repr, Inhabited

inductive ConfigFault where
  | malformed
  | content (fault : ContentFault) (extent : Toml.Extent)
  | zeroDepth
  deriving DecidableEq, Repr, Inhabited

namespace Config

open Toml (Extent Item Key Members)

def fileName : String := "opwalk.toml"

/-- A depth, at `fallback` where the item has no place of its own. -/
def decodeDepth (fallback : Extent) (item : Item) : Except ConfigFault UInt32 :=
  let extent := item.extent?.getD fallback
  match item with
  | .scalar (.integer n) _ =>
    if 0 ≤ n ∧ n < UInt32.size then .ok (UInt32.ofNat n.toNat)
    else .error (.content (.wrongValue item.describe "u32") extent)
  | _ => .error (.content (.wrongType item.describe "u32") extent)

def decodeSection : Members → Except ConfigFault (Option UInt32)
  | [] => .ok none
  | (key, item) :: rest =>
    if key.text = "max-depth" then do
      let depth ← decodeDepth key.extent item
      let _ ← decodeSection rest
      return some depth
    else .error (.content (.unknownField key.text ["max-depth"]) key.extent)

/-- A section may also be an array that begins with the depth. -/
def decodeWalker (fallback : Extent) (item : Item) : Except ConfigFault (Option UInt32) :=
  let extent := item.extent?.getD fallback
  match item with
  | .table _ members _ => decodeSection members
  | .scalar .moment _ =>
    .error (.content (.unknownField "$__toml_private_datetime" ["max-depth"]) extent)
  | .array [] _ | .tables [] =>
    .error (.content (.wrongLength 0 "struct TomlWalker with 1 element") extent)
  | .array (first :: _) _ | .tables (first :: _) => some <$> decodeDepth extent first
  | .scalar _ _ => .error (.content (.wrongType item.describe "struct TomlWalker") extent)

def decodeRoot : Members → Except ConfigFault (Option UInt32)
  | [] => .ok none
  | (key, item) :: rest =>
    if key.text = "walker" then do
      let depth ← decodeWalker key.extent item
      let _ ← decodeRoot rest
      return depth
    else .error (.content (.unknownField key.text ["walker"]) key.extent)

def ofTable (members : Members) : Except ConfigFault Config := do
  match ← decodeRoot members with
  | none => return {}
  | some 0 => .error .zeroDepth
  | some depth => return ⟨depth⟩

def ofText (text : String) : Except ConfigFault Config :=
  match Toml.parse? text with
  | none => .error .malformed
  | some members => ofTable members

end Config

namespace ConfigFault

def reason (text : String) : ConfigFault → String
  | .malformed => Config.fileName ++ ": not a TOML document"
  | .content fault extent =>
    Config.fileName ++ ": " ++ Toml.excerpt text extent fault.message
  | .zeroDepth => "[walker] max-depth must be at least 1"

end ConfigFault

def Config.read (text path : String) : Except WalkError Config :=
  (Config.ofText text).mapError fun fault => .config (fault.reason text) path

end OperationTree
