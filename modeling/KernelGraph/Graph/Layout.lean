/-
  Parameter layouts.

  The layout of a kernel lists the parameters of the interfaces bound to it, slot by slot in order
  of the first edge, and binds them one after the other in one group.  A parameter that a slot
  declares twice is ignored the second time.
-/
import KernelGraph.Graph.Basic

namespace KernelGraph

/-- A parameter of a kernel. -/
structure Parameter where
  /-- The symbol in the kernel. -/
  name : String
  /-- The name that the interface declared. -/
  localName : String
  kind : ParameterKind
  type : String
  size : UInt64
  binding : UInt32
  slot : Int
  deriving DecidableEq, Repr, Inhabited

/-- The parameters that the program of a kernel expects. -/
structure Layout where
  name : String
  group : UInt32 := 0
  parameters : List Parameter := []
  /-- The scopes of the bound slots. -/
  scopes : List (Int × Scope) := []
  deriving Inhabited

namespace Layout

/-- The scope of a slot; an empty one if the slot is not bound. -/
def scope (l : Layout) (slot : Int) : Scope := (l.scopes.lookup slot).getD {}

/-- The parameter with a symbol. -/
def lookup? (l : Layout) (name : String) : Option Parameter :=
  l.parameters.find? fun p => p.name = name

/-- True when both layouts declare the same parameters in the same order. -/
def same (a b : Layout) : Bool :=
  a.name = b.name && a.group = b.group && a.parameters = b.parameters

/-- The name and the group, then one parameter per line. -/
def listing (l : Layout) : String :=
  l.name ++ " (group " ++ toString l.group.toNat ++ ")\n" ++
    String.join (l.parameters.map fun p =>
      "  @binding(" ++ toString p.binding.toNat ++ ") " ++ p.kind.name ++ " " ++ p.name ++ ": " ++
        p.type ++ "\n")

/-- Adds a parameter of a slot to the layout and to the slot's scope, unless the scope has it. -/
def addParameter (slot : Int) (state : Layout × Scope) (p : ParameterDecl) : Layout × Scope :=
  let (l, scope) := state
  if (scope.binding? p.name).isSome then (l, scope)
  else
    let binding := l.parameters.length.toUInt32
    ({ l with parameters := l.parameters ++
        [⟨scope.symbol p.name, p.name, p.kind, p.type, p.size, binding, slot⟩] },
      { scope with bindings := scope.bindings ++ [(p.name, binding)] })

/-- Adds the parameters of the interface at a slot. -/
def addSlot (l : Layout) (slot : Int) (d : DataInterface) : Layout :=
  let uid := d.uid slot
  let (l, scope) := (d.interface.parameters uid).foldl (addParameter slot)
    (l, { uid, group := l.group })
  { l with scopes := l.scopes ++ [(slot, scope)] }

end Layout

namespace Graph

/-- The parameter layout of a kernel. -/
def layout (g : Graph) (k : Int) : Layout :=
  (g.boundInterfaces k).foldl (fun l (i, d) => l.addSlot i d) { name := g.friendlyName k }

/-- The elements that occur before in the list. -/
def repeated : List String → List String → List String
  | _, [] => []
  | seen, x :: xs => if seen.contains x then x :: repeated seen xs else repeated (x :: seen) xs

/-- The warnings about parameters that are declared twice. -/
def layoutNotes (g : Graph) (k : Int) : List Log.Record :=
  (g.boundInterfaces k).flatMap fun (i, d) =>
    let uid := d.uid i
    (repeated [] ((d.interface.parameters uid).map ParameterDecl.name)).map fun (name : String) =>
      { level := .warn
        message := "computegraph: duplicate shader parameter ignored"
        attributes :=
          [("layout", g.friendlyName k), ("data_interface", uid), ("parameter", name)] }

end Graph

end KernelGraph
