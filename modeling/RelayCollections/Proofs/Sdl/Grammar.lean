import RelayCollections.Proofs.Sdl.Settling

namespace RelayCollections.Sdl

/-!
# Invariants of the grammar

Every rule of the grammar leaves a tail of its tokens, so what passes to tails is kept from
the first definition of a text to the last. Rules that hold types return types for which
the rule of types vouches.

* `Declaration.FieldTypes` — a property of all types of declared fields;
* `ensures_declarations` — what is so of all types is so of all types of declared fields.
-/

/-! ### Fields of declarations -/

/-- All fields that the declaration lists have types with the property. -/
def Declaration.FieldTypes (P : TypeRef → Prop) : Declaration → Prop
  | .type t | .extension t => ∀ f ∈ t.fields, P f.type
  | .schema | .directive _ => True

/-- What follows from a property of types follows for all types of declared fields. -/
theorem Declaration.FieldTypes.mono {P Q : TypeRef → Prop} {d : Declaration}
    (h : d.FieldTypes P) (hPQ : ∀ type, P type → Q type) : d.FieldTypes Q := by
  cases d with
  | schema => trivial
  | directive name => trivial
  | type t => exact fun f hf => hPQ f.type (h f hf)
  | extension t => exact fun f hf => hPQ f.type (h f hf)

open Rule

variable {inv : List Token → Prop} (hinv : TailClosed inv)

include hinv

/-! ### Fields

Types of fields are given a property by hypothesis; all rules that hold types pass it on.
-/

theorem ensures_braced {part : Rule α} {post : α → Prop} (hpart : part.Ensures inv post) :
    (braced part).Ensures inv fun as => ∀ a ∈ as, post a := by
  refine (Keeps.mark hinv .openBrace).bind fun _ => ?_
  refine hpart.oneOrMore.bind fun as has => ?_
  refine (Keeps.mark hinv .closeBrace).bind fun _ => ?_
  exact Ensures.pure has

/-- Fields in braces, if there are any. -/
theorem ensures_fields {P : TypeRef → Prop} {part : Rule Field}
    (hpart : part.Ensures inv fun f => P f.type) :
    Ensures inv (whenNext (Token.isMark .openBrace) (braced part) [])
      fun fields => ∀ f ∈ fields, P f.type :=
  (ensures_braced hinv hpart).whenNext (List.forall_mem_nil _)

section

variable {P : TypeRef → Prop} (htype : typeRef.Ensures inv P)

include htype

theorem ensures_inputValue : inputValue.Ensures inv fun f => P f.type := by
  have hdefault : Keeps inv (do mark .equals; skipValue false) :=
    (Keeps.mark hinv .equals).bind fun _ => (settles_skipValue false).keeps hinv
  refine (settles_description.keeps hinv).bind fun _ => ?_
  refine (Keeps.name hinv).bind fun _ => ?_
  refine (Keeps.mark hinv .colon).bind fun _ => ?_
  refine htype.bind fun type hP => ?_
  refine (hdefault.whenNext trivial).keeps.bind fun _ => ?_
  refine (settles_directives.keeps hinv).bind fun _ => ?_
  exact Ensures.pure hP

theorem ensures_field : field.Ensures inv fun f => P f.type := by
  refine (settles_description.keeps hinv).bind fun _ => ?_
  refine (Keeps.name hinv).bind fun _ => ?_
  refine ((settles_inputValues.keeps hinv).whenNext trivial).keeps.bind fun _ => ?_
  refine (Keeps.mark hinv .colon).bind fun _ => ?_
  refine htype.bind fun type hP => ?_
  refine (settles_directives.keeps hinv).bind fun _ => ?_
  exact Ensures.pure hP

end

/-! ### Definitions -/

omit hinv in
theorem ensures_checked {r : Rule α} {post : α → Prop} (hr : r.Ensures inv post)
    (does : α → Bool) : (checked r does).Ensures inv post := by
  intro ts a rest hts h
  unfold checked at h
  split at h
  case h_1 => contradiction
  case h_2 b left hb =>
    split at h
    · rw [Except.ok.injEq, Prod.mk.injEq] at h
      obtain ⟨rfl, rfl⟩ := h
      exact hr hts hb
    · contradiction

/-- A directive definition lists no fields. -/
theorem ensures_directiveDefinition (P : TypeRef → Prop) :
    directiveDefinition.Ensures inv (Declaration.FieldTypes P) := by
  have hlocations : locations.Keeps inv :=
    ((settles_locationList.keeps hinv).whenNext trivial).keeps
  rw [directiveDefinition_eq]
  refine (settles_directiveFront.keeps hinv).bind fun _ => ?_
  refine (Keeps.word hinv "on").bind fun _ => ?_
  refine hlocations.bind fun _ => ?_
  exact Ensures.pure trivial

variable {P : TypeRef → Prop} (htype : typeRef.Ensures inv P)

include htype

theorem ensures_typeDeclaration (kind : Kind) :
    (typeDeclaration kind).Ensures inv fun t => ∀ f ∈ t.fields, P f.type := by
  have hdirectives := settles_directives.keeps hinv
  refine (Keeps.name hinv).bind fun typeName => ?_
  cases kind with
  | scalar =>
    exact hdirectives.bind fun _ => Ensures.pure (List.forall_mem_nil _)
  | object | interface =>
    refine (settles_implementedInterfaces.keeps hinv).bind fun _ => ?_
    refine hdirectives.bind fun _ => ?_
    refine (ensures_fields hinv (ensures_field hinv htype)).bind fun fields hfields => ?_
    exact Ensures.pure hfields
  | union =>
    refine hdirectives.bind fun _ => ?_
    refine (settles_members.keeps hinv).bind fun _ => ?_
    exact Ensures.pure (List.forall_mem_nil _)
  | enum =>
    refine hdirectives.bind fun _ => ?_
    refine (settles_values.keeps hinv).bind fun _ => ?_
    exact Ensures.pure (List.forall_mem_nil _)
  | input =>
    refine hdirectives.bind fun _ => ?_
    refine (ensures_fields hinv (ensures_inputValue hinv htype)).bind
      fun fields hfields => ?_
    exact Ensures.pure hfields

theorem ensures_declaredType :
    declaredType.Ensures inv fun t => ∀ f ∈ t.fields, P f.type := by
  intro ts t rest hts h
  unfold declaredType at h
  split at h
  · split at h
    case h_1 kind _ => exact ensures_typeDeclaration hinv htype kind (hinv hts) h
    case h_2 => contradiction
  · contradiction

theorem ensures_describedDefinition :
    describedDefinition.Ensures inv (Declaration.FieldTypes P) := by
  have htypes : Ensures inv (do return .type (← declaredType)) (Declaration.FieldTypes P) :=
    (ensures_declaredType hinv htype).bind fun t ht => Ensures.pure ht
  intro ts d rest hts h
  unfold describedDefinition at h
  split at h
  · exact ensures_directiveDefinition hinv P (hinv hts) h
  · exact htypes hts h

/-- Every definition keeps the invariant, and types of declared fields have the property
    of types. -/
theorem ensures_declaration : declaration.Ensures inv (Declaration.FieldTypes P) := by
  -- Which kind of definition it is shows on the first token.
  have hschema : schemaDefinition.Ensures inv (Declaration.FieldTypes P) := by
    have hroots : Keeps inv (do word "schema"; rootTypes) :=
      (Keeps.word hinv "schema").bind fun _ => settles_rootTypes.keeps hinv
    refine (ensures_checked hroots areOperations).keeps.bind fun _ => ?_
    exact Ensures.pure trivial
  have hextension : extension.Ensures inv (Declaration.FieldTypes P) := by
    refine (Keeps.word hinv "extend").bind fun _ => ?_
    refine (ensures_checked (ensures_declaredType hinv htype) _).bind fun t ht => ?_
    exact Ensures.pure ht
  have hdescribed : Ensures inv (do description; describedDefinition)
      (Declaration.FieldTypes P) :=
    (settles_description.keeps hinv).bind fun _ => ensures_describedDefinition hinv htype
  intro ts d rest hts h
  unfold declaration at h
  split at h
  · exact hschema hts h
  · exact hextension hts h
  · exact hdescribed hts h

/-- **What is so of all types is so of all types of declared fields.** -/
theorem ensures_declarations :
    declarations.Ensures inv fun ds => ∀ d ∈ ds, d.FieldTypes P :=
  (ensures_declaration hinv htype).oneOrMore

end RelayCollections.Sdl
