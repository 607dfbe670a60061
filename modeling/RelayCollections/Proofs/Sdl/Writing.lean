import Mathlib.Data.List.Forall2
import RelayCollections.Proofs.Sdl.Layout

namespace RelayCollections

/-!
# Documents written as tokens

A document is written definition by definition. What a schema text says beyond its document
is up to the writer: whether a definition that counts by its name alone is an enum, a union
or an input object, and what is in it; which interfaces an interface implements; and
whether a separator stands before the first of several names.

* `Field.IsWritable`, `Definition.IsWritable`, `Document.IsWritable` — what can be written;
* `Sdl.Writes`, `Sdl.WritesDocument` — the ways to write a definition and a document;
* `Sdl.legible_of_writesDocument` — all tokens of a document can be laid out.
-/

/-! ### What can be written -/

/-- No non-null stands directly around a non-null. -/
def TypeRef.HasSingleBangs (type : TypeRef) : Prop :=
  ¬ [.nonNull, .nonNull] <:+: type.modifiers

/-- The type inside a list has no more modifiers. -/
theorem TypeRef.HasSingleBangs.of_list {inner : TypeRef} (h : inner.list.HasSingleBangs) :
    inner.HasSingleBangs :=
  fun hinner => h (hinner.trans (List.prefix_append _ _).isInfix)

/-- What can be made non-null is not non-null, and has no more modifiers. -/
theorem TypeRef.HasSingleBangs.of_nonNull {inner : TypeRef} (h : inner.nonNull.HasSingleBangs) :
    inner.HasSingleBangs ∧ ∀ type, inner ≠ nonNull type := by
  refine ⟨fun hinner => h (hinner.trans (List.prefix_append _ _).isInfix), ?_⟩
  rintro type rfl
  refine h ⟨type.modifiers, [], ?_⟩
  simp [modifiers]

/-- The names of the field can be written and its type can. -/
structure Field.IsWritable (f : Field) : Prop where
  name : Sdl.isLegalName f.name = true
  leaf : Sdl.isLegalName f.type.leaf = true
  type : f.type.HasSingleBangs

/-- The names of the definition can be written, and it has fields that can be, if it is one
    that has fields. -/
def Definition.IsWritable : Definition → Prop
  | scalar name | other name => Sdl.isLegalName name = true
  | interface name fields =>
    Sdl.isLegalName name = true ∧ fields ≠ [] ∧ ∀ f ∈ fields, f.IsWritable
  | object type =>
    Sdl.isLegalName type.name = true
      ∧ (∀ name ∈ type.interfaces, Sdl.isLegalName name = true)
      ∧ type.fields ≠ [] ∧ ∀ f ∈ type.fields, f.IsWritable

/-- The document has definitions, and each can be written. -/
structure Document.IsWritable (d : Document) : Prop where
  nonempty : d.definitions ≠ []
  definitions : ∀ definition ∈ d.definitions, definition.IsWritable

end RelayCollections

namespace RelayCollections.Sdl

/-! ### Writing -/

/-- A type: its name in brackets for its lists, with marks for non-null. -/
def typeTokens : TypeRef → List Token
  | .named name => [.name name]
  | .nonNull inner => typeTokens inner ++ [.mark .bang]
  | .list inner => .mark .openBracket :: (typeTokens inner ++ [.mark .closeBracket])

/-- A field without arguments. -/
def fieldTokens (f : Field) : List Token :=
  .name f.name :: .mark .colon :: typeTokens f.type

/-- Parts in braces. -/
def bracedTokens (parts : List (List Token)) : List Token :=
  .mark .openBrace :: (parts.flatten ++ [.mark .closeBrace])

/-- Names with separators between them, and perhaps one before the first. -/
def separatedTokens (separator : Mark) (leads : Bool) (first : String) (others : List String) :
    List Token :=
  (if leads then [.mark separator] else [])
    ++ .name first :: others.flatMap fun name => [.mark separator, .name name]

/-- The interfaces that a type implements, if there are any. -/
def implementsTokens (leads : Bool) : List String → List Token
  | [] => []
  | first :: others => .name "implements" :: separatedTokens .ampersand leads first others

/-- The tokens write the definition. -/
inductive Writes : Definition → List Token → Prop where
  | scalar (name : String) : Writes (.scalar name) [.name "scalar", .name name]
  | interface (name : String) (fields : List Field) (leads : Bool) {interfaces : List String}
      (hinterfaces : ∀ name ∈ interfaces, isLegalName name = true) :
      Writes (.interface name fields) (.name "interface" :: .name name ::
        (implementsTokens leads interfaces ++ bracedTokens (fields.map fieldTokens)))
  | object (type : ObjectType) (leads : Bool) :
      Writes (.object type) (.name "type" :: .name type.name ::
        (implementsTokens leads type.interfaces ++ bracedTokens (type.fields.map fieldTokens)))
  | enum (name : String) {values : List String} (hvalues : values ≠ [])
      (hlegal : ∀ value ∈ values, isLegalName value = true) :
      Writes (.other name) (.name "enum" :: .name name ::
        bracedTokens (values.map fun value => [.name value]))
  | union (name : String) (leads : Bool) {first : String} {others : List String}
      (hlegal : ∀ member ∈ first :: others, isLegalName member = true) :
      Writes (.other name) (.name "union" :: .name name :: .mark .equals ::
        separatedTokens .bar leads first others)
  | input (name : String) {fields : List Field} (hfields : fields ≠ [])
      (hwritable : ∀ f ∈ fields, f.IsWritable) :
      Writes (.other name) (.name "input" :: .name name :: bracedTokens (fields.map fieldTokens))

/-- The tokens write the definitions of the document one after another. -/
def WritesDocument (d : Document) (ts : List Token) : Prop :=
  ∃ parts, List.Forall₂ Writes d.definitions parts ∧ ts = parts.flatten

/-! ### What is written is legible -/

/-- All tokens are legible. -/
def Legible (ts : List Token) : Prop :=
  ∀ t ∈ ts, t.isLegible = true

@[simp] theorem legible_nil : Legible [] :=
  List.forall_mem_nil _

@[simp] theorem legible_cons {t : Token} {ts : List Token} :
    Legible (t :: ts) ↔ t.isLegible = true ∧ Legible ts :=
  List.forall_mem_cons

@[simp] theorem legible_append {ts us : List Token} :
    Legible (ts ++ us) ↔ Legible ts ∧ Legible us :=
  List.forall_mem_append

/-- Parts are legible together if each is. -/
theorem legible_flatten {parts : List (List Token)} (h : ∀ part ∈ parts, Legible part) :
    Legible parts.flatten := by
  intro t ht
  obtain ⟨part, hpart, ht⟩ := List.mem_flatten.1 ht
  exact h part hpart t ht

@[simp] theorem legible_mark (m : Mark) : (Token.mark m).isLegible = true :=
  rfl

theorem legible_typeTokens {type : TypeRef} (h : isLegalName type.leaf = true) :
    Legible (typeTokens type) := by
  induction type with
  | named name => exact legible_cons.2 ⟨h, legible_nil⟩
  | nonNull inner ih => simpa [typeTokens] using ih h
  | list inner ih => simpa [typeTokens] using ih h

theorem legible_fieldTokens {f : Field} (h : f.IsWritable) : Legible (fieldTokens f) := by
  simp only [fieldTokens, legible_cons, legible_mark, true_and]
  exact ⟨h.name, legible_typeTokens h.leaf⟩

theorem legible_bracedTokens {ι : Type} {items : List ι} {write : ι → List Token}
    (h : ∀ i ∈ items, Legible (write i)) : Legible (bracedTokens (items.map write)) := by
  have hparts : Legible (items.map write).flatten :=
    legible_flatten (List.forall_mem_map.2 h)
  simp [bracedTokens, hparts]

theorem legible_separatedTokens (separator : Mark) (leads : Bool) {first : String}
    {others : List String} (h : ∀ name ∈ first :: others, isLegalName name = true) :
    Legible (separatedTokens separator leads first others) := by
  obtain ⟨hfirst, hothers⟩ := List.forall_mem_cons.1 h
  have hrest : Legible (others.flatMap fun name => [.mark separator, .name name]) := by
    refine legible_flatten (List.forall_mem_map.2 fun name hname => ?_)
    simpa [Token.isLegible] using hothers name hname
  have hlead : Legible (if leads then [.mark separator] else []) := by
    cases leads <;> simp
  simp only [separatedTokens, legible_append, legible_cons]
  exact ⟨hlead, hfirst, hrest⟩

theorem legible_implementsTokens (leads : Bool) {interfaces : List String}
    (h : ∀ name ∈ interfaces, isLegalName name = true) :
    Legible (implementsTokens leads interfaces) := by
  cases interfaces with
  | nil => exact legible_nil
  | cons first others =>
    exact legible_cons.2 ⟨by decide, legible_separatedTokens .ampersand leads h⟩

/-- A definition that can be written is written in legible tokens. -/
theorem legible_of_writes {definition : Definition} {ts : List Token} (h : Writes definition ts)
    (hwritable : definition.IsWritable) : Legible ts := by
  have hkeyword : ∀ {keyword name : String} {ts : List Token}, isLegalName keyword = true →
      isLegalName name = true → Legible ts → Legible (.name keyword :: .name name :: ts) :=
    fun hkeyword hname hts => legible_cons.2 ⟨hkeyword, legible_cons.2 ⟨hname, hts⟩⟩
  cases h with
  | scalar name => exact hkeyword (by decide) hwritable legible_nil
  | interface name fields leads hinterfaces =>
    obtain ⟨hname, _, hfields⟩ := hwritable
    refine hkeyword (by decide) hname (legible_append.2 ⟨?_, ?_⟩)
    · exact legible_implementsTokens leads hinterfaces
    · exact legible_bracedTokens fun f hf => legible_fieldTokens (hfields f hf)
  | object type leads =>
    obtain ⟨hname, hinterfaces, _, hfields⟩ := hwritable
    refine hkeyword (by decide) hname (legible_append.2 ⟨?_, ?_⟩)
    · exact legible_implementsTokens leads hinterfaces
    · exact legible_bracedTokens fun f hf => legible_fieldTokens (hfields f hf)
  | enum name _ hlegal =>
    refine hkeyword (by decide) hwritable (legible_bracedTokens fun value hvalue => ?_)
    exact legible_cons.2 ⟨hlegal value hvalue, legible_nil⟩
  | union name leads hlegal =>
    refine hkeyword (by decide) hwritable (legible_cons.2 ⟨rfl, ?_⟩)
    exact legible_separatedTokens .bar leads hlegal
  | input name _ hfields =>
    refine hkeyword (by decide) hwritable (legible_bracedTokens fun f hf => ?_)
    exact legible_fieldTokens (hfields f hf)

/-- A document that can be written is written in legible tokens. -/
theorem legible_of_writesDocument {d : Document} {ts : List Token} (h : WritesDocument d ts)
    (hd : d.IsWritable) : Legible ts := by
  obtain ⟨parts, hparts, rfl⟩ := h
  obtain ⟨_, hdefinitions⟩ := hd
  generalize d.definitions = definitions at hparts hdefinitions
  induction hparts with
  | nil => exact legible_nil
  | cons hpart _ ih =>
    obtain ⟨hdefinition, hrest⟩ := List.forall_mem_cons.1 hdefinitions
    exact legible_append.2 ⟨legible_of_writes hpart hdefinition, ih hrest⟩

end RelayCollections.Sdl
