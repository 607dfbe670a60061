import RelayCollections.Descriptor
import RelayCollections.QuotedName

namespace RelayCollections

/-!
# Events

What a run tells about itself. Events are values; `Event.text` words them and
`Event.level` says how much they matter.
-/

/-- How much an event matters. -/
inductive Level where
  | warning
  | debug
  | trace
  deriving DecidableEq, Repr

/-- Something that happened during a run. -/
inductive Event where
  /-- A custom entry for a built-in scalar has no effect. -/
  | ignoredEntry (name : String) (storage : Storage)
  /-- A node type cannot be referred to since a scalar has its name. -/
  | shadowedNode (name : String)
  /-- A declared scalar cannot be stored. -/
  | unmappedScalar (name : String)
  /-- A definition of a syntax tree has no name and is left out. -/
  | skippedUnnamed (kind : String)
  /-- A definition of a syntax tree is of no kind that counts and is left out. -/
  | skippedDefinition (kind name : String)
  /-- A schema text was read. -/
  | readText (definitions : Nat)
  /-- A syntax tree was read. -/
  | readTree (definitions : Nat)
  /-- The definitions of a document were told apart. -/
  | classified (scalars interfaces nodes connections edges : Nat)
  /-- The registry of a document is complete. -/
  | completedRegistry (refTargets polymorphicTargets aliases : Nat)
  /-- A name stands for another. -/
  | substituted (name resolved : String)
  /-- A field of a node was described. -/
  | describedField (node field : String) (descriptor : Descriptor)
  /-- All fields of a node were described. -/
  | builtCollection (name : String) (fields : Nat)
  /-- All nodes have collections. -/
  | builtCollections (count : Nat)
  deriving DecidableEq, Repr

/-- How much each event matters. -/
def Event.level : Event → Level
  | .ignoredEntry .. | .shadowedNode _ | .unmappedScalar _ => .warning
  | .substituted .. | .describedField .. => .trace
  | _ => .debug

/-! ### Wording -/

/-- A base type as events show it. -/
def BaseType.shown : BaseType → String
  | .primitive storage => "Primitive(" ++ storage.name ++ ")"
  | .reference none => "Reference(None)"
  | .reference (some target) => "Reference(Some(" ++ quotedName target ++ "))"

/-- A descriptor as events show it, with all its flags. -/
def Descriptor.shown (d : Descriptor) : String :=
  "FieldDescriptor \x7b base_type: " ++ d.base.shown
    ++ ", is_list: " ++ toString d.isList
    ++ ", required: " ++ toString d.required
    ++ ", list_required: " ++ toString d.listRequired ++ " \x7d"

/-- The wording of an event. -/
def Event.text : Event → String
  | .ignoredEntry name storage =>
    "Ignoring custom mapping " ++ name ++ " -> " ++ storage.name
      ++ ": built-in scalars cannot be remapped"
  | .shadowedNode name =>
    "Node type " ++ name ++ " shares its name with a scalar; the scalar mapping wins"
  | .unmappedScalar name => "Scalar " ++ name ++ " has no storage mapping"
  | .skippedUnnamed kind => "Skipping unnamed " ++ kind ++ " definition"
  | .skippedDefinition kind name => "Skipping " ++ kind ++ " definition " ++ name
  | .readText n => "Parsed " ++ toString n ++ " type definitions from SDL"
  | .readTree n => "Read " ++ toString n ++ " type definitions from JSON AST"
  | .classified scalars interfaces nodes connections edges =>
    "Classified " ++ toString scalars ++ " scalars, " ++ toString interfaces ++ " interfaces, "
      ++ toString nodes ++ " nodes, " ++ toString connections ++ " connections, "
      ++ toString edges ++ " edges"
  | .completedRegistry refTargets polymorphicTargets aliases =>
    "Sealed registry: " ++ toString refTargets ++ " reference targets, "
      ++ toString polymorphicTargets ++ " polymorphic targets, "
      ++ toString aliases ++ " aliases"
  | .substituted name resolved => "Substituted " ++ name ++ " with " ++ resolved
  | .describedField node field d => node ++ "." ++ field ++ " -> " ++ d.shown
  | .builtCollection name fields =>
    "Collection " ++ name ++ " with " ++ toString fields ++ " fields"
  | .builtCollections n => "Built " ++ toString n ++ " collections"

end RelayCollections
