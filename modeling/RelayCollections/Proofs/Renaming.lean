import Mathlib.Logic.Equiv.Basic
import RelayCollections.Proofs.Independence

namespace RelayCollections

/-!
# Renaming of types

Apart from the conventions a compilation does not look into the names of types. A renaming
keeps to the conventions: it leaves the marker interface and the scalars alone and renames a
connection with what it connects. Everything that is looked up in a renamed document is then
found as before, under its new name.

* `Renaming` — renamings that keep to the conventions;
* `Document.rename`, `Collection.rename`, `Failure.rename` — what they rename; names of
  fields stay;
* `base?_rename`, `firstFailure?_rename` — lookups and failures commute with renaming;
* `outcome_compile_rename` — and so does compilation.
-/

/-- A renaming of types that keeps to the conventions, beside a table of scalars. -/
structure Renaming (scalars : ScalarTable) where
  /-- The new name of a name. -/
  apply : String → String
  injective : Function.Injective apply
  node : apply nodeInterface = nodeInterface
  scalar : ∀ name, scalars.contains name = true → apply name = name
  /-- A renamed name is a connection's iff the name was, and connects the renamed type. -/
  base : ∀ name, connectionBase? (apply name) = (connectionBase? name).map apply

/-! ### What is renamed -/

/-- The type with its leaf renamed. -/
def TypeRef.rename (apply : String → String) : TypeRef → TypeRef
  | named name => named (apply name)
  | nonNull inner => nonNull (inner.rename apply)
  | list inner => list (inner.rename apply)

/-- The field with the leaf of its type renamed. -/
def Field.rename (apply : String → String) (f : Field) : Field :=
  { f with type := f.type.rename apply }

/-- The object type with its own name, its interfaces and its leaves renamed. -/
def ObjectType.rename (apply : String → String) (type : ObjectType) : ObjectType where
  name := apply type.name
  interfaces := type.interfaces.map apply
  fields := type.fields.map (Field.rename apply)

/-- The definition with all names of types in it renamed. -/
def Definition.rename (apply : String → String) : Definition → Definition
  | scalar name => scalar (apply name)
  | interface name fields => interface (apply name) (fields.map (Field.rename apply))
  | object type => object (type.rename apply)
  | other name => other (apply name)

/-- The document with all names of types in it renamed. -/
def Document.rename (apply : String → String) (d : Document) : Document where
  definitions := d.definitions.map (Definition.rename apply)

/-- The base type with its target renamed. -/
def BaseType.rename (apply : String → String) : BaseType → BaseType
  | primitive storage => primitive storage
  | reference target => reference (target.map apply)

/-- The descriptor with its target renamed. -/
def Descriptor.rename (apply : String → String) (d : Descriptor) : Descriptor :=
  { d with base := d.base.rename apply }

/-- The collection with its own name and its targets renamed. -/
def Collection.rename (apply : String → String) (c : Collection) : Collection where
  name := apply c.name
  fields := c.fields.map fun entry => (entry.1, entry.2.rename apply)

/-- The failure with the type that it names renamed. -/
def Failure.rename (apply : String → String) : Failure → Failure
  | unknownType name => unknownType (apply name)
  | unmappedScalar name => unmappedScalar (apply name)
  | failure => failure

@[simp] theorem TypeRef.leaf_rename (apply : String → String) (type : TypeRef) :
    (type.rename apply).leaf = apply type.leaf := by
  induction type with
  | named name => rfl
  | nonNull inner ih => exact ih
  | list inner ih => exact ih

@[simp] theorem TypeRef.modifiers_rename (apply : String → String) (type : TypeRef) :
    (type.rename apply).modifiers = type.modifiers := by
  induction type with
  | named name => rfl
  | nonNull inner ih => rw [rename, modifiers, modifiers, ih]
  | list inner ih => rw [rename, modifiers, modifiers, ih]

@[simp] theorem Definition.name_rename (apply : String → String) (definition : Definition) :
    (definition.rename apply).name = apply definition.name := by
  cases definition <;> rfl

@[simp] theorem Definition.isScalar_rename (apply : String → String)
    (definition : Definition) : (definition.rename apply).isScalar = definition.isScalar := by
  cases definition <;> rfl

/-! ### Lookups of renamed names -/

namespace Renaming

section

variable {scalars : ScalarTable} (r : Renaming scalars)

/-- A renamed name stands for the renamed name that the name stood for. -/
theorem substituteConnection_apply (name : String) :
    substituteConnection (r.apply name) = r.apply (substituteConnection name) := by
  rw [substituteConnection, substituteConnection, r.base]
  cases connectionBase? name <;> rfl

/-- A name is stored under its new name as it was: scalars keep their names, and no other
    type gets one of these. -/
theorem storage?_apply (name : String) :
    scalars.storage? (r.apply name) = scalars.storage? name := by
  by_cases hname : scalars.contains name = true
  · rw [r.scalar name hname]
  · by_cases happly : scalars.contains (r.apply name) = true
    · -- The new name would be renamed to itself, as the old one is.
      rw [r.injective (r.scalar _ happly)]
    · rw [ScalarTable.contains, Option.not_isSome_iff_eq_none] at hname happly
      rw [hname, happly]

theorem contains_apply (name : String) :
    scalars.contains (r.apply name) = scalars.contains name := by
  rw [ScalarTable.contains, ScalarTable.contains, r.storage?_apply]

/-- A renamed type is a node iff it was one. -/
theorem isNode_rename (type : ObjectType) :
    (type.rename r.apply).isNode = type.isNode := by
  rw [Bool.eq_iff_iff, ObjectType.isNode, ObjectType.isNode, List.contains_iff_mem,
    List.contains_iff_mem, ObjectType.rename]
  conv_lhs => rw [← r.node, List.mem_map_of_injective r.injective]

theorem node?_rename (definition : Definition) :
    (definition.rename r.apply).node? = definition.node?.map (ObjectType.rename r.apply) := by
  cases definition with
  | object type =>
    simp only [Definition.rename, Definition.node?, r.isNode_rename]
    split <;> rfl
  | _ => rfl

/-- The nodes of a renamed document are the renamed nodes. -/
theorem nodes_rename (d : Document) :
    (d.rename r.apply).nodes = d.nodes.map (ObjectType.rename r.apply) := by
  rw [Document.nodes, Document.nodes, Document.rename, List.filterMap_map, List.map_filterMap]
  exact List.filterMap_congr fun definition _ => r.node?_rename definition

/-- The scalars of a renamed document have the renamed names. -/
theorem names_scalars_rename (d : Document) :
    (d.rename r.apply).scalars.map Definition.name
      = (d.scalars.map Definition.name).map r.apply := by
  simp [Document.scalars, Document.rename, List.filter_map, Function.comp_def]

theorem declaresNode_rename (d : Document) (name : String) :
    (d.rename r.apply).declaresNode (r.apply name) = d.declaresNode name := by
  rw [Bool.eq_iff_iff, Document.declaresNode_iff, Document.declaresNode_iff, r.nodes_rename]
  simp [ObjectType.rename, r.injective.eq_iff]

theorem declaresInterface_rename (d : Document) (name : String) :
    (d.rename r.apply).declaresInterface (r.apply name) = d.declaresInterface name := by
  rw [Document.declaresInterface, Document.declaresInterface, Document.rename, List.any_map]
  congr 1
  funext definition
  cases definition with
  | interface declared fields =>
    rw [Function.comp_apply, Definition.rename, Bool.eq_iff_iff, beq_iff_eq, beq_iff_eq,
      r.injective.eq_iff]
  | _ => rfl

end

/-! ### Compilation of renamed documents -/

variable {config : Config} (r : Renaming config.scalars) (d : Document)

/-- A renamed leaf has the renamed base type. -/
theorem base?_rename (leaf : String) :
    (d.rename r.apply).base? config (r.apply leaf)
      = (d.base? config leaf).map (BaseType.rename r.apply) := by
  rw [Document.base?_eq, Document.base?_eq, r.substituteConnection_apply, r.storage?_apply,
    r.declaresNode_rename, r.declaresInterface_rename]
  cases config.scalars.storage? (substituteConnection leaf) with
  | some storage => rfl
  | none =>
    dsimp only
    split
    · rfl
    · split <;> rfl

/-- A renamed field is stored with the renamed descriptor. -/
theorem storedField?_rename (f : Field) :
    (d.rename r.apply).storedField? config (f.rename r.apply)
      = (d.storedField? config f).map fun entry => (entry.1, entry.2.rename r.apply) := by
  rw [Document.storedField?, Document.storedField?, Field.rename, TypeRef.leaf_rename,
    TypeRef.modifiers_rename, r.base?_rename, Option.map_map, Option.map_map]
  rfl

/-- A renamed type has the renamed collection. -/
theorem collection_rename (type : ObjectType) :
    (type.rename r.apply).collection ((d.rename r.apply).storedField? config)
      = (type.collection (d.storedField? config)).rename r.apply := by
  rw [ObjectType.collection, ObjectType.collection, ObjectType.rename, Collection.rename,
    List.filterMap_map, List.map_filterMap]
  congr 1
  exact List.filterMap_congr fun f _ => r.storedField?_rename d f

/-- The first scalar that cannot be stored is the renamed one. -/
theorem firstUnmapped?_rename :
    (d.rename r.apply).firstUnmapped? config = (d.firstUnmapped? config).map r.apply := by
  rw [Document.firstUnmapped?, Document.firstUnmapped?]
  split
  · rw [r.names_scalars_rename, List.find?_map]
    simp only [Function.comp_def, r.contains_apply]
  · rfl

/-- The first leaf without a base type is the renamed one. -/
theorem firstUnresolved?_rename :
    (d.rename r.apply).firstUnresolved? config = (d.firstUnresolved? config).map r.apply := by
  have hleaves : (((d.rename r.apply).nodes.flatMap ObjectType.fields).map fun f => f.type.leaf)
      = ((d.nodes.flatMap ObjectType.fields).map fun f => f.type.leaf).map r.apply := by
    rw [r.nodes_rename]
    simp [List.flatMap_map, List.map_flatMap, ObjectType.rename, Field.rename,
      Function.comp_def]
  rw [Document.firstUnresolved?, Document.firstUnresolved?, hleaves, List.find?_map]
  simp only [Function.comp_def, r.base?_rename, Option.isNone_map]

/-- The failure that comes first is the renamed one. -/
theorem firstFailure?_rename :
    (d.rename r.apply).firstFailure? config
      = (d.firstFailure? config).map (Failure.rename r.apply) := by
  rw [Document.firstFailure?, Document.firstFailure?, r.firstUnmapped?_rename,
    r.firstUnresolved?_rename]
  cases d.firstUnmapped? config with
  | some name => rfl
  | none =>
    cases d.firstUnresolved? config with
    | some leaf =>
      simp [Failure.rename, r.substituteConnection_apply]
    | none => rfl

end Renaming

/-- **Names of types are opaque.** If all types of a document are renamed in a way that keeps
    to the conventions, its collections are the renamed ones, in the same order, and its
    failure is the renamed one. -/
theorem outcome_compile_rename {config : Config} (r : Renaming config.scalars) (d : Document) :
    (compile (d.rename r.apply) config).outcome
      = ((compile d config).outcome.map (List.map (Collection.rename r.apply))).mapError
          (Failure.rename r.apply) := by
  have hcollections :
      (d.rename r.apply).nodes.map (ObjectType.collection ((d.rename r.apply).storedField? config))
        = (d.nodes.map (ObjectType.collection (d.storedField? config))).map
            (Collection.rename r.apply) := by
    rw [r.nodes_rename, List.map_map, List.map_map]
    exact List.map_congr_left fun type _ => r.collection_rename d type
  rw [Document.outcome_compile_eq_unlessFound, Document.outcome_compile_eq_unlessFound,
    r.firstFailure?_rename, hcollections]
  cases d.firstFailure? config <;> rfl

/-! ### Exchanging two initials

Two letters can be exchanged where types begin with them. A connection begins as what it
connects, so this is a renaming if neither the marker interface nor a scalar begins with one
of the letters.
-/

/-- Exchanges two initials. -/
def exchangeInitials (a b : Char) (name : String) : String :=
  match name.toList with
  | [] => ""
  | c :: rest => String.ofList (Equiv.swap a b c :: rest)

section

variable (a b : Char)

theorem toList_exchangeInitials (name : String) :
    (exchangeInitials a b name).toList
      = (name.toList.take 1).map (Equiv.swap a b) ++ name.toList.drop 1 := by
  unfold exchangeInitials
  cases name.toList <;> simp

/-- To exchange twice is not to exchange. -/
theorem exchangeInitials_involutive : Function.Involutive (exchangeInitials a b) := by
  intro name
  apply String.toList_injective
  rw [toList_exchangeInitials, toList_exchangeInitials]
  cases name.toList <;> simp

/-- What stands behind something keeps its initial. -/
theorem exchangeInitials_append {name : String} (h : name ≠ "") (rest : String) :
    exchangeInitials a b (name ++ rest) = exchangeInitials a b name ++ rest := by
  apply String.toList_injective
  rw [String.toList_append, toList_exchangeInitials, toList_exchangeInitials,
    String.toList_append]
  cases hname : name.toList with
  | nil => exact absurd (String.toList_injective (by simpa using hname)) h
  | cons c cs => simp

/-- A connection is renamed with what it connects. -/
theorem connectionBase?_exchangeInitials (name : String) :
    connectionBase? (exchangeInitials a b name)
      = (connectionBase? name).map (exchangeInitials a b) := by
  have hinvolutive := exchangeInitials_involutive a b
  have hempty : exchangeInitials a b "" = "" := rfl
  apply Option.ext
  intro base
  rw [Option.map_eq_some_iff, connectionBase?, baseBefore?_eq_some_iff]
  constructor
  · rintro ⟨hne, hname⟩
    refine ⟨exchangeInitials a b base, baseBefore?_eq_some_iff.2 ⟨?_, ?_⟩, hinvolutive base⟩
    · exact fun h => hne (hinvolutive.injective (h.trans hempty.symm))
    · rw [← exchangeInitials_append a b hne, ← hname, hinvolutive]
  · rintro ⟨base', hbase, rfl⟩
    obtain ⟨hne, rfl⟩ := baseBefore?_eq_some_iff.1 hbase
    refine ⟨?_, exchangeInitials_append a b hne _⟩
    exact fun h => hne (hinvolutive.injective (h.trans hempty.symm))

end

/-- The scalars that can be stored where tags are strings. -/
theorem mem_of_contains_tagsAsStrings {name : String}
    (h : tagsAsStrings.scalars.contains name = true) :
    name ∈ ["Time", "ID", "String", "Int", "Float", "Boolean", "Tag"] := by
  rw [ScalarTable.contains, ScalarTable.storage?, Option.isSome_or, Bool.or_eq_true] at h
  rcases h with h | h
  · unfold builtInStorage? at h
    split at h <;> simp at h ⊢
  · have htag : "Tag" = name := by
      simpa [tagsAsStrings, Std.ExtTreeMap.ofList_singleton] using h
    simp [← htag]

/-- Posts become hosts and the other way round. -/
def postsAsHosts : Renaming tagsAsStrings.scalars where
  apply := exchangeInitials 'P' 'H'
  injective := (exchangeInitials_involutive 'P' 'H').injective
  node := by decide
  scalar name h := by
    have hmem := mem_of_contains_tagsAsStrings h
    simp only [List.mem_cons, List.not_mem_nil, or_false] at hmem
    rcases hmem with rfl | rfl | rfl | rfl | rfl | rfl | rfl <;> decide
  base := connectionBase?_exchangeInitials 'P' 'H'

/-- The collections of `forwardReferences` with hosts for posts. -/
theorem outcome_compile_rename_postsAsHosts :
    postsAsHosts.apply "PostConnection" = "HostConnection"
      ∧ (compile (forwardReferences.rename postsAsHosts.apply) tagsAsStrings).outcome
        = .ok (forwardCollections.map (Collection.rename postsAsHosts.apply)) := by
  have hcompile : (compile forwardReferences tagsAsStrings).outcome = .ok forwardCollections :=
    rfl
  refine ⟨by decide, ?_⟩
  rw [outcome_compile_rename postsAsHosts forwardReferences, hcompile]
  rfl

end RelayCollections
