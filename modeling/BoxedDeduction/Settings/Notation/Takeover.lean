import BoxedDeduction.Settings.Notation.Node

/-!
# Fields taken over

An object may take over the fields of other objects under the key for that. The
fields that it takes over go before its own fields, which may replace them. Of
several objects in a list the first goes behind the others, so that it wins.
What an object takes over, it takes over in place: the pairs for that are gone
afterwards, also where the object is part of what it takes over.
-/

namespace BoxedDeduction

namespace SettingNodes

/-- The pairs of a node that is an object. -/
def pairs? (nodes : SettingNodes) (number : Nat) : Option (List (Nat × Nat)) :=
  match nodes[number]? with
  | some ⟨_, .object pairs⟩ => some pairs
  | _ => none

/-- The pairs of a node. Only objects have some. -/
def pairs (nodes : SettingNodes) (number : Nat) : List (Nat × Nat) :=
  (nodes.pairs? number).getD []

/-- What a node stands for. -/
def tag (nodes : SettingNodes) (number : Nat) : SettingTag :=
  ((nodes[number]?).map SettingNode.tag).getD .unknown

/-- The text of a node. An object has the text under its first sign for values, unless it stands
there itself. -/
def textFrom (nodes : SettingNodes) : Nat → Nat → Except NotationFault String
  | 0, _ => .error .endless
  | fuel + 1, number =>
    match nodes[number]? with
    | some ⟨_, .text text⟩ => .ok text
    | some ⟨_, .object pairs⟩ =>
      match pairs.find? fun (key, _) => nodes.tag key = .value with
      | some (_, value) => nodes.textFrom fuel value
      | none => .error .badValue
    | _ => .error .badValue

/-- The text of a node. -/
def text (nodes : SettingNodes) (number : Nat) : Except NotationFault String :=
  nodes.textFrom (nodes.size + 1) number

/-- The nodes with other pairs in an object. -/
def withPairs (nodes : SettingNodes) (number : Nat) (pairs : List (Nat × Nat)) : SettingNodes :=
  nodes.modify number fun node => { node with content := .object pairs }

/-- The nodes with another tag on one of them. -/
def withTag (nodes : SettingNodes) (number : Nat) (tag : SettingTag) : SettingNodes :=
  nodes.modify number fun node => { node with tag := tag }

mutual

/-- Let an object take over fields: go through its pairs from a position on, with the pairs that are
already found to be taken over. A sign for values becomes a text. -/
def takeFrom (fuel position : Nat) (taken : List (Nat × Nat)) (number : Nat)
    (nodes : SettingNodes) : Except NotationFault SettingNodes :=
  match fuel with
  | 0 => .error .badValue
  | fuel + 1 =>
    let pairs := nodes.pairs number
    match pairs[position]? with
    | none => .ok (if taken = [] then nodes else nodes.withPairs number (taken ++ pairs))
    | some (key, value) =>
      match nodes.tag key with
      | .merge => do
        let (found, next) ← source fuel value (nodes.withPairs number (pairs.eraseIdx position))
        takeFrom fuel position (taken ++ found) number next
      | .value => takeFrom fuel (position + 1) taken number (nodes.withTag key .text)
      | _ => takeFrom fuel (position + 1) taken number nodes

/-- The pairs that are taken over from an object or from a list of objects. -/
def source (fuel number : Nat) (nodes : SettingNodes) :
    Except NotationFault (List (Nat × Nat) × SettingNodes) :=
  match fuel with
  | 0 => .error .badValue
  | fuel + 1 =>
    match nodes[number]? with
    | some ⟨_, .list items⟩ => sources fuel items nodes
    | _ => do
      if (nodes.pairs? number).isNone then throw .badValue
      let next ← takeFrom fuel 0 [] number nodes
      return (next.pairs number, next)

/-- The pairs that are taken over from the objects of a list. -/
def sources (fuel : Nat) (numbers : List Nat) (nodes : SettingNodes) :
    Except NotationFault (List (Nat × Nat) × SettingNodes) :=
  match fuel, numbers with
  | 0, _ => .error .badValue
  | _ + 1, [] => .ok ([], nodes)
  | fuel + 1, number :: rest => do
    if (nodes.pairs? number).isNone then throw .badValue
    let next ← takeFrom fuel 0 [] number nodes
    let (others, last) ← sources fuel rest next
    return (others ++ next.pairs number, last)

end

/-- The count of nodes and of their places in lists and objects. -/
def places (nodes : SettingNodes) : Nat :=
  nodes.foldl (fun places node =>
    places + 1 + match node.content with
      | .text _ => 0
      | .list items => items.length
      | .object pairs => pairs.length) 0

/-- Let an object take over fields. Each step behind a pair that is gone is bounded by the count of
places, and so is the number of such pairs. -/
def takeOver (number : Nat) (nodes : SettingNodes) : Except NotationFault SettingNodes :=
  let needed := (nodes.pairs number).any fun (key, _) =>
    nodes.tag key = .merge || nodes.tag key = .value
  if needed then takeFrom ((nodes.places + 3) * (nodes.places + 3)) 0 [] number nodes else .ok nodes

end SettingNodes

end BoxedDeduction
