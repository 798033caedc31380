import BoxedDeduction.Settings.Notation.Tagged
import BoxedDeduction.Settings.Notation.Takeover
import BoxedDeduction.Settings.Value

/-!
# Values of nodes

The nodes of a document are built in rounds. A round fills the lists and objects
of the round before with what they hold: texts get their values at once, lists
and objects wait for the next round. So the first fault that is met lies in an
outer node before it lies in an inner one. Afterwards every node that is reached
is built, and the value of the outermost node can be put together.
-/

namespace BoxedDeduction

/-- A node that is built. -/
inductive BuiltNode where
  /-- A plain value. -/
  | plain (value : PlainValue)
  /-- A list, an object or a set that waits for its content. -/
  | waiting
  /-- A list of nodes. -/
  | list (items : List Nat)
  /-- A list of pairs of nodes. -/
  | pairs (items : List (Nat × Nat))
  /-- An object with nodes under keys. -/
  | object (fields : List (PlainValue × Nat))
  /-- A set. -/
  | members (items : List PlainValue)

/-- The state of building. -/
structure Building where
  /-- The nodes. -/
  nodes : SettingNodes
  /-- What is built of them, by the same numbers. -/
  built : Array (Option BuiltNode)
  /-- The nodes that wait for the next round, the last one first. -/
  waiting : List Nat := []

/-- A step of building. -/
abbrev Builder (α : Type) := StateT Building (Except NotationFault) α

namespace Building

/-- Note what is built of a node. -/
def put (number : Nat) (node : BuiltNode) : Builder Unit :=
  modify fun state => { state with built := state.built.setIfInBounds number (some node) }

/-- Let a node wait for the next round. -/
def wait (number : Nat) : Builder Unit := do
  put number .waiting
  modify fun state => { state with waiting := number :: state.waiting }

/-- The plain value of a node. A moment stands only in a text. -/
def plainValue (nodes : SettingNodes) (number : Nat) : Except NotationFault PlainValue := do
  let text ← nodes.text number
  if nodes.tag number = .moment ∧ (nodes.pairs? number).isSome then throw .noText
  (nodes.tag number).plainValue text

/-- Build a node unless it is already built. -/
def touch (number : Nat) : Builder Unit := do
  let state ← get
  if (state.built[number]?.join).isSome then return ()
  match state.nodes.tag number with
  | .list | .object | .members | .pairs => wait number
  | .merge | .value | .unknown => throw .badValue
  | _ => put number (.plain (← plainValue state.nodes number))

/-- The plain value that stands for a key. -/
def keyOf (number : Nat) : Builder PlainValue := do
  match (← get).built[number]?.join with
  | some (.plain value) => return value
  | _ => throw .badValue

/-- Whether what is not defined is one value. The words for it stand for one value, but a text that
is tagged as a number makes a value of its own. -/
def isWordNode (nodes : SettingNodes) (number : Nat) : Bool :=
  match nodes[number]? with
  | some ⟨_, .text text⟩ => '.' ∈ text.toList
  | _ => false

/-- Whether two keys count as one. -/
def isSameKey (nodes : SettingNodes) (one other : Nat × PlainValue) : Bool :=
  one.1 = other.1 || (one.2.isSame other.2 &&
    (one.2 ≠ .fraction .undefined || (isWordNode nodes one.1 && isWordNode nodes other.1)))

/-- Put a node under a key. A key that is there keeps its place and its form. -/
def insertField (nodes : SettingNodes) (key : Nat × PlainValue) (value : Nat) :
    List ((Nat × PlainValue) × Nat) → List ((Nat × PlainValue) × Nat)
  | [] => [(key, value)]
  | (other, old) :: rest =>
    if isSameKey nodes key other then (other, value) :: rest
    else (other, old) :: insertField nodes key value rest

/-- Build the pairs of an object, each key before its value. -/
def fields : List (Nat × Nat) → Builder (List ((Nat × PlainValue) × Nat))
  | [] => return []
  | (key, value) :: rest => do
    touch key
    let name ← keyOf key
    touch value
    return ((key, name), value) :: (← fields rest)

/-- The fields of an object with what it takes over, in the order of their first keys, each with its
last value. -/
def fieldsOf (number : Nat) : Builder (List (PlainValue × Nat)) := do
  let state ← get
  if (state.nodes.pairs? number).isNone then throw .badValue
  let nodes ← state.nodes.takeOver number
  set { state with nodes := nodes }
  let found ← fields (nodes.pairs number)
  return (found.foldl (fun kept (key, value) => insertField nodes key value kept) []).map
    fun (key, value) => (key.2, value)

/-- The single pair of a node in a list of pairs. -/
def pairOf (number : Nat) : Builder (Nat × Nat) := do
  match (← get).nodes.pairs number with
  | [(key, value)] =>
    touch key
    touch value
    return (key, value)
  | _ => throw .badValue

/-- The items of a node that is a list. -/
def itemsOf (number : Nat) : Builder (List Nat) := do
  match (← get).nodes[number]? with
  | some ⟨_, .list items⟩ => return items
  | _ => throw .badValue

/-- Fill a node with its content. -/
def fill (number : Nat) : Builder Unit := do
  match (← get).nodes.tag number with
  | .object => put number (.object (← fieldsOf number))
  | .members =>
    put number (.members (PlainValue.arrange ((← fieldsOf number).map Prod.fst)))
  | .pairs => put number (.pairs (← (← itemsOf number).mapM pairOf))
  | _ => do
    let items ← itemsOf number
    items.forM touch
    put number (.list items)

/-- Build in rounds until no node waits. -/
def rounds : Nat → Builder Unit
  | 0 => return ()
  | fuel + 1 => do
    let waiting := (← get).waiting.reverse
    if waiting.isEmpty then return ()
    modify fun state => { state with waiting := [] }
    waiting.forM fill
    rounds fuel

/-- Build the nodes that can be reached from the outermost one. -/
def ofDocument (document : SettingDocument) : Except NotationFault Building := do
  let start : Building := ⟨document.nodes, document.nodes.map fun _ => none, []⟩
  let work : Builder Unit := do
    touch document.root
    rounds (document.nodes.size + 1)
  return (← work.run start).2

/-! ## Values -/

/-- A node on the way to another one, or one of the pairs of a list. -/
structure WayPoint where
  /-- The number of the node. -/
  number : Nat
  /-- The position of a pair. -/
  position : Option Nat
  deriving DecidableEq

/-- The kind of a node that holds others. -/
def kindOf : BuiltNode → HolderKind
  | .object _ => .object
  | _ => .list

/-- The value of a node, given the way to it. Behind a pair a node on the way is not repeated;
elsewhere it would never end. -/
def valueFrom (built : Array (Option BuiltNode)) :
    Nat → Bool → List WayPoint → Nat → Except NotationFault Value
  | 0, _, _, _ => .error .endless
  | fuel + 1, behindPair, way, number =>
    match built[number]?.join with
    | none | some .waiting => .error .badValue
    | some (.plain value) => .ok (.plain value)
    | some (.members items) => .ok (.members items)
    | some node =>
      let here : WayPoint := ⟨number, none⟩
      if way.contains here then
        if behindPair then .ok (.again (kindOf node)) else .error .endless
      else
        let inside := valueFrom built fuel behindPair (here :: way)
        match node with
        | .list items => (items.mapM inside).map .list
        | .object fields =>
          let fieldAt (field : PlainValue × Nat) : Except NotationFault (PlainValue × Value) := do
            return (field.1, ← inside field.2)
          (fields.mapM fieldAt).map .object
        | .pairs items =>
          let pairAt (entry : (Nat × Nat) × Nat) : Except NotationFault Value := do
            let pair : WayPoint := ⟨number, some entry.2⟩
            if behindPair ∧ way.contains pair then return .again .pair
            let on := if behindPair then pair :: here :: way else [pair]
            return .pair (← valueFrom built fuel true on entry.1.1)
              (← valueFrom built fuel true on entry.1.2)
          (items.zipIdx.mapM pairAt).map .list
        | _ => .error .badValue

/-- The value of a node. A way to it passes each node and each pair at most once, outside of pairs
and again behind them. -/
def value (state : Building) (number : Nat) : Except NotationFault Value :=
  valueFrom state.built (2 * state.nodes.places + 2) false [] number

end Building

/-- The value that a document holds. -/
def SettingDocument.value (document : SettingDocument) : Except NotationFault Value := do
  (← Building.ofDocument document).value document.root

end BoxedDeduction
