import Mathlib.Data.BitVec

/-!
# `OciRuntime.Agent.MountAttributes` — the masks of the recursive mount options

`agent/src/executor/mount/attributes.rs`: the options of a mount that apply to the whole tree below
it are folded, in the order they are listed, into the two masks of `mount_setattr`.
-/

namespace OciRuntime

def mountAttrRdonly : BitVec 64 := 0x00000001
def mountAttrNosuid : BitVec 64 := 0x00000002
def mountAttrNodev : BitVec 64 := 0x00000004
def mountAttrNoexec : BitVec 64 := 0x00000008
def mountAttrNoatime : BitVec 64 := 0x00000010
def mountAttrStrictatime : BitVec 64 := 0x00000020
def mountAttrAtime : BitVec 64 := 0x00000070
def mountAttrNodiratime : BitVec 64 := 0x00000080
def mountAttrNosymfollow : BitVec 64 := 0x00200000

structure RecursiveMountAttributes where
  attrSet : BitVec 64 := 0
  attrClr : BitVec 64 := 0
  deriving DecidableEq

/-- Whether the option clears, and which flag. -/
def optionAttribute : String → Option (Bool × BitVec 64)
  | "rro" => some (false, mountAttrRdonly)
  | "rrw" => some (true, mountAttrRdonly)
  | "rnosuid" => some (false, mountAttrNosuid)
  | "rsuid" => some (true, mountAttrNosuid)
  | "rnodev" => some (false, mountAttrNodev)
  | "rdev" => some (true, mountAttrNodev)
  | "rnoexec" => some (false, mountAttrNoexec)
  | "rexec" => some (true, mountAttrNoexec)
  | "rnoatime" => some (false, mountAttrNoatime)
  | "ratime" => some (true, mountAttrNoatime)
  | "rnodiratime" => some (false, mountAttrNodiratime)
  | "rdiratime" => some (true, mountAttrNodiratime)
  | "rrelatime" => some (false, 0)
  | "rnorelatime" => some (false, mountAttrStrictatime)
  | "rstrictatime" => some (false, mountAttrStrictatime)
  | "rnostrictatime" => some (true, mountAttrStrictatime)
  | "rnosymfollow" => some (false, mountAttrNosymfollow)
  | "rsymfollow" => some (true, mountAttrNosymfollow)
  | _ => none

/-- The masks with a flag set or cleared. -/
def RecursiveMountAttributes.record (attributes : RecursiveMountAttributes) (clear : Bool)
    (flag : BitVec 64) : RecursiveMountAttributes :=
  let attributes :=
    if clear then ⟨attributes.attrSet &&& ~~~flag, attributes.attrClr ||| flag⟩
    else ⟨attributes.attrSet ||| flag, attributes.attrClr &&& ~~~flag⟩
  if flag &&& mountAttrAtime = flag then
    { attributes with attrClr := attributes.attrClr ||| mountAttrAtime }
  else attributes

/-- The masks after the option, and whether it is a recursive one. -/
def recordOption (attributes : Option RecursiveMountAttributes) (option : String) :
    Option RecursiveMountAttributes × Bool :=
  match optionAttribute option with
  | none => (attributes, false)
  | some (clear, flag) => (some ((attributes.getD {}).record clear flag), true)

/-- The loop of `MountPlan::new` over the options, as far as it builds the masks. -/
def recordOptions (options : List String) : Option RecursiveMountAttributes :=
  options.foldl (fun attributes option => (recordOption attributes option).1) none

/-- `apply`, with the kernel: the clear mask is cleared, then the set mask is set. -/
def applyAttributes (attributes : Option RecursiveMountAttributes) (mount : BitVec 64) :
    BitVec 64 :=
  match attributes with
  | none => mount
  | some attributes => mount &&& ~~~attributes.attrClr ||| attributes.attrSet

end OciRuntime
