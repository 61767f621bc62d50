/-
  Data providers of a graph: which functions of a slot are connected, and creating and rebinding the
  providers of a binding group.
-/
import KernelGraph.Graph.Basic
import KernelGraph.Graph.Validation

namespace KernelGraph.Graph

/-- The number of functions that a mask can tell apart. -/
def maskWidth : Int := 64

/-- The mask with the function of an edge, if the edge is one of the slot and of the direction and
    the function fits. -/
def mark (slot : Int) (input : Bool) (m : UInt64) (e : Edge) : UInt64 :=
  if e.interface = slot && e.input = input && (0 : Int) ≤ e.interfaceFunction &&
      e.interfaceFunction < maskWidth then
    m ||| ((1 : UInt64) <<< e.interfaceFunction.toNat.toUInt64)
  else m

/-- The mask of the functions of a slot that edges of one direction use; indices that do not fit
    are left out. -/
def mask (g : Graph) (slot : Int) (input : Bool) : UInt64 := g.edges.foldl (mark slot input) 0

/-- The masks of a slot's inputs and outputs. -/
def masks (g : Graph) (slot : Int) : UInt64 × UInt64 := (g.mask slot true, g.mask slot false)

/-- The binding group at an index, if it takes the object. -/
def bindingFor (g : Graph) (i : Int) (object : Option BoundObject) : Except GraphError Binding :=
  match elementAt? g.bindings i with
  | none => .error (.bindingIndex i)
  | some b =>
    match object with
    | none => .ok b
    | some x =>
      if b.accepts x then .ok b else .error (.bindingObject b.name x.typeName)

/-- The slots with their interfaces and positions. -/
def slots (g : Graph) : List (Option DataInterface × Nat) := g.interfaces.zipIdx

/-! ## Initialisations -/

/-- One call that initialises the provider of a slot. -/
structure Initialization where
  slot : Nat
  interface : DataInterface
  object : Option BoundObject
  inputs : UInt64
  outputs : UInt64

/-- The call that binds the provider of a slot to an object. -/
def initialization (g : Graph) (object : Option BoundObject) (d : DataInterface) (n : Nat) :
    Initialization where
  slot := n
  interface := d
  object := object
  inputs := (g.masks n).1
  outputs := (g.masks n).2

/-- The provider after a call. -/
def Initialization.apply (call : Initialization) (p : Provider) : Provider :=
  p.bind call.interface call.object call.inputs call.outputs

/-- What comes of a slot: its provider, the calls that were made and the warnings. -/
structure Provision where
  provider : Option Provider
  calls : List Initialization := []
  notes : List Log.Record := []

/-- Creates and binds the provider of a slot in the group `i`.  A failure yields a warning. -/
def createProvider (g : Graph) (i : Int) (b : Binding) (object : Option BoundObject)
    (slot : Option DataInterface × Nat) : Provision :=
  match slot with
  | (none, _) => { provider := none }
  | (some d, n) =>
    if g.group? n = some i then
      let failed (text : String) : Provision :=
        { provider := none
          notes :=
            [{ level := .warn
               message := "computegraph: data provider creation failed"
               attributes :=
                [("graph", g.name), ("data_interface", d.interface.className),
                 ("data_interface_index", n), ("binding", b.name), ("error", text)] }] }
      match d.interface.provider with
      | .error text => failed text
      | .ok none => failed ("computegraph: " ++ d.interface.className ++ " returned no provider")
      | .ok (some p) =>
        let call := g.initialization object d n
        { provider := some (call.apply p), calls := [call] }
    else { provider := none }

/-- Creates and binds the providers of a group: the result, which has one entry per slot, and the
    calls that were made. -/
def creation (g : Graph) (i : Int) (object : Option BoundObject) :
    Except GraphError (List (Option Provider) × List Log.Record) × List Initialization :=
  match g.bindingFor i object with
  | .error e => (.error e, [])
  | .ok b =>
    let made := g.slots.map (g.createProvider i b object)
    (.ok (made.map Provision.provider, made.flatMap Provision.notes),
      made.flatMap Provision.calls)

/-- Creates and binds the providers of a group; the result has one entry per slot. -/
def createProviders (g : Graph) (i : Int) (object : Option BoundObject) :
    Except GraphError (List (Option Provider) × List Log.Record) := (g.creation i object).1

/-- Rebinds the provider of a slot in the group `i`. -/
def rebind (g : Graph) (i : Int) (object : Option BoundObject) (provider : Option Provider)
    (slot : Option DataInterface × Nat) : Provision :=
  match provider, slot with
  | some p, (some d, n) =>
    if g.group? n = some i then
      let call := g.initialization object d n
      { provider := some (call.apply p), calls := [call] }
    else { provider := some p }
  | p, _ => { provider := p }

/-- Rebinds the providers of a group, of which there has to be one entry per slot: the result and
    the calls that were made. -/
def rebinding (g : Graph) (i : Int) (object : Option BoundObject)
    (providers : List (Option Provider)) :
    Except GraphError (List (Option Provider)) × List Initialization :=
  match g.bindingFor i object with
  | .error e => (.error e, [])
  | .ok _ =>
    if providers.length = g.interfaces.length then
      let bound := providers.zipWith (g.rebind i object) g.slots
      (.ok (bound.map Provision.provider), bound.flatMap Provision.calls)
    else (.error (.providerCount providers.length g.interfaces.length), [])

/-- Rebinds the providers of a group; there has to be one entry per slot. -/
def initializeProviders (g : Graph) (i : Int) (object : Option BoundObject)
    (providers : List (Option Provider)) : Except GraphError (List (Option Provider)) :=
  (g.rebinding i object providers).1

/-- True when there is one entry per slot, absent only where the slot is empty. -/
def validateProviders (g : Graph) (providers : List (Option Provider)) : Bool :=
  providers.length = g.interfaces.length &&
    (providers.zip g.interfaces).all fun (p, d) => p.isSome || d.isNone

end KernelGraph.Graph
