import Guestkeeper.Error
import Guestkeeper.IpAddress

set_option autoImplicit false

/-! # Framebuffers

A framebuffer shows the guest's screen to a remote viewer. It has a size, the address and
port it listens on, the treatment of the VGA registers, and whether the guest waits for the
first viewer. -/

namespace Guestkeeper

open Guestkeeper.Text

inductive VgaMode
  | on
  | off
  | io
  deriving DecidableEq, Repr

namespace VgaMode

def text : VgaMode → String
  | .on => "on"
  | .off => "off"
  | .io => "io"

def ofText (text : String) : Except Error VgaMode :=
  match text with
  | "on" => .ok .on
  | "off" => .ok .off
  | "io" => .ok .io
  | _ => invalid (.unknownVgaMode text)

end VgaMode

structure Framebuffer where
  width : UInt32
  height : UInt32
  address : IpAddress
  port : UInt16
  vga : VgaMode
  wait : Bool
  deriving DecidableEq

namespace Framebuffer

/-- The hypervisor shows at most 1920 by 1200 points. -/
def validate (f : Framebuffer) : Except Error Unit :=
  if f.width.toNat = 0 ∨ 1920 < f.width.toNat then invalid (.framebufferWidth f.width)
  else if f.height.toNat = 0 ∨ 1200 < f.height.toNat then invalid (.framebufferHeight f.height)
  else .ok ()

/-- The address and port, with a version 6 address in brackets. -/
def endpoint (f : Framebuffer) : String :=
  match f.address with
  | .v4 _ => f.address.text ++ ":" ++ decimal f.port.toNat
  | .v6 _ => "[" ++ f.address.text ++ "]:" ++ decimal f.port.toNat

def arguments (f : Framebuffer) : List String :=
  ["tcp=" ++ f.endpoint, "w=" ++ decimal f.width.toNat, "h=" ++ decimal f.height.toNat,
   "vga=" ++ f.vga.text] ++ if f.wait then ["wait"] else []

end Framebuffer

end Guestkeeper
