/-
  The binary compiler and the shader modules it creates.

  Requests are expanded and lowered to binary code; the lowering itself is a parameter.  With
  a device, every success also creates a shader module on it.  The compiler owns its modules and
  destroys them when it is closed.  Sessions use it without a device, where it only yields code
  (`Script.binary`).

  Compiling and closing each have two halves, because other calls may come in between: a module is
  created and then adopted (or destroyed, if the compiler has been closed meanwhile), and the
  modules are taken and then destroyed.
-/
import KernelGraph.Compile.Compiler

namespace KernelGraph

/-- The name of the binary format. -/
def binaryFormat : String := "spirv"

/-- The little-endian 32-bit words of a byte string; bytes beyond the last whole word are left
    out. -/
def littleEndianWords : List UInt8 → List UInt32
  | a :: b :: c :: d :: rest =>
    (a.toUInt32 ||| (b.toUInt32 <<< 8) ||| (c.toUInt32 <<< 16) ||| (d.toUInt32 <<< 24)) ::
      littleEndianWords rest
  | _ => []

/-- The first word of binary code. -/
def binaryMagic : UInt32 := 0x07230203

/-- What a device does when a module is to be created on it. -/
inductive Device
  | working
  | lost
  deriving DecidableEq

/-- What a provider of devices hands out. -/
inductive DeviceProvider
  /-- It does not hand out devices. -/
  | bare
  /-- It hands out a value that is no device, of the type named. -/
  | other (typeName : String)
  | device (d : Device)
  deriving DecidableEq

/-- A provider without a device. -/
structure NoDevice where
  found : Option String
  deriving DecidableEq

/-- The message of the error. -/
def NoDevice.message (e : NoDevice) : String :=
  "spirv: provider does not expose a hal.Device" ++
    match e.found with
    | none => ""
    | some typeName => ": HalDevice is " ++ typeName

/-- The binary compiler: its device, level and live modules, and the modules created and destroyed
    so far.  By default a module is known by its label; `M` is what tells modules apart. -/
structure BinaryCompiler (M : Type := String) where
  device : Option Device := none
  level : FeatureLevel := .sm6
  modules : List M := []
  closed : Bool := false
  created : List M := []
  destroyed : List M := []

/-- Why the binary compiler gives up. -/
inductive BinaryError
  | expansion (e : ExpansionError)
  | cancelled
  /-- The lowering rejects the source. -/
  | lowering (friendlyName : String) (text : String)
  | moduleCreation (friendlyName : String)
  | closed
  deriving DecidableEq

/-- The message of the error. -/
def BinaryError.message : BinaryError → String
  | expansion e => e.message
  | cancelled => "context canceled"
  | lowering name text => "spirv: " ++ name ++ ": " ++ text
  | moduleCreation name => "spirv: create shader module for " ++ name ++ ": device lost"
  | closed => "spirv: compiler closed"

/-- True when an output comes along with the error. -/
def BinaryError.hasOutput : BinaryError → Bool
  | cancelled | closed => false
  | _ => true

/-- The verdict of the binary compiler without a device on a request. -/
def binaryVerdict (lower : String → Except String String) (r : Request) :
    Except Rejection Output :=
  match r.expand .wgsl with
  | .error e => .error ⟨.expansion e, some { diagnostics := [e.message] }⟩
  | .ok text =>
    match lower text with
    | .ok code => .ok { code }
    | .error message =>
      .error ⟨.reported (BinaryError.lowering r.friendlyName message).message,
        some { diagnostics := [message] }⟩

/-- The binary compiler without a device, as it is registered with sessions. -/
def Script.binary (lower : String → Except String String) : Script where
  format := binaryFormat
  level := .sm6
  verdict := some (binaryVerdict lower)

namespace BinaryCompiler

variable {M : Type}

/-- A compiler that shares the device of a provider. -/
def ofProvider (p : DeviceProvider) (level : FeatureLevel) : Except NoDevice BinaryCompiler :=
  match p with
  | .bare => .error ⟨none⟩
  | .other typeName => .error ⟨some typeName⟩
  | .device d => .ok { device := some d, level }

/-- The label of a request's module. -/
def label (r : Request) : String := r.friendlyName ++ "#" ++ toString r.permutation.toInt

/-- Lowers a request. -/
def lowered (lower : String → Except String Unit) (cancelled : Bool) (r : Request) :
    Except BinaryError Unit :=
  match r.expand .wgsl with
  | .error e => .error (.expansion e)
  | .ok text =>
    if cancelled then .error .cancelled
    else (lower text).mapError (.lowering r.friendlyName)

/-- Creates a module that no one owns yet. -/
def create (c : BinaryCompiler M) (m : M) : BinaryCompiler M :=
  { c with created := c.created ++ [m] }

/-- Takes a created module over, or destroys it if the compiler has been closed. -/
def adopt (c : BinaryCompiler M) (m : M) : Bool × BinaryCompiler M :=
  if c.closed then (false, { c with destroyed := c.destroyed ++ [m] })
  else (true, { c with modules := c.modules ++ [m] })

/-- Compiles a request; the answer tells whether a module was created. -/
def compile (lower : String → Except String Unit) (cancelled : Bool) (c : BinaryCompiler)
    (r : Request) : Except BinaryError Bool × BinaryCompiler :=
  match lowered lower cancelled r with
  | .error e => (.error e, c)
  | .ok () =>
    match c.device with
    | none => (.ok false, c)
    | some .lost => (.error (.moduleCreation r.friendlyName), c)
    | some .working =>
      match (c.create (label r)).adopt (label r) with
      | (true, c) => (.ok true, c)
      | (false, c) => (.error .closed, c)

/-- Closes the compiler and hands its modules over for destruction. -/
def takeModules (c : BinaryCompiler M) : List M × BinaryCompiler M :=
  (c.modules, { c with modules := [], closed := true })

/-- Destroys modules. -/
def destroy (c : BinaryCompiler M) (modules : List M) : BinaryCompiler M :=
  { c with destroyed := c.destroyed ++ modules }

/-- Destroys every live module; later compiles create none. -/
def close (c : BinaryCompiler M) : BinaryCompiler M :=
  let (modules, c) := c.takeModules
  c.destroy modules

end BinaryCompiler

end KernelGraph
