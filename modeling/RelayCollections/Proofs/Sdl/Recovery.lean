import Mathlib.Data.List.Infix
import RelayCollections.Proofs.Sdl.Settling
import RelayCollections.Proofs.Sdl.Writing

namespace RelayCollections.Sdl

/-!
# Documents are read back from every layout

The grammar looks one token ahead, so what it reads from the tokens of a part depends on
the token behind them: an optional part that is absent must not be taken to start there. In
the tokens of a document every field, value and definition ends at a name or a closing
bracket, and neither starts anything that could still follow. So each rule reads back what
is written for it, and leaves the rest.

* `EndsPart` — what stands behind a part; `ReadsBack` — rules that need no more;
* `typeRef_typeTokens`, `field_fieldTokens`, … — the rules read back types and fields;
* `declaration_of_writes` — definitions are read back, however they are written;
* `outcome_parseSchema_of_isLayout` — documents are, however they are laid out.
-/

open Rule

variable {α ι : Type} {rest : List Token}

/-! ### Where parts end -/

/-- A field, a value or a definition ends here: the next token is a name or a closing
    bracket, if there is one. -/
def EndsPart (ts : List Token) : Prop :=
  ∀ t ∈ ts.head?, t.isName = true ∨ t.closes = true

/-- The rule reads the tokens as the value, and leaves what stands behind them, if a part
    ends there. -/
def ReadsBack (r : Rule α) (ts : List Token) (a : α) : Prop :=
  ∀ ⦃rest : List Token⦄, EndsPart rest → r (ts ++ rest) = .ok (a, rest)

/-- No mark stands where a part ends, unless it closes a bracket. -/
theorem EndsPart.nextIsNot_mark (h : EndsPart rest) {m : Mark} (hm : m.closes = false) :
    NextIsNot (Token.isMark m) rest := by
  intro t ht
  rw [Token.isMark, beq_eq_false_iff_ne]
  rintro rfl
  rcases h _ ht with hname | hcloses
  · contradiction
  · rw [Token.closes, hm] at hcloses
    contradiction

/-- There are no directives if the next token is no at sign. -/
theorem directives_of_nextIsNot (h : NextIsNot (Token.isMark .atSign) rest) :
    directives rest = .ok (0, rest) := by
  rw [directives, bind_of_ok (many_of_nextIsNot h directive)]
  rfl

/-- A name has no description before it. -/
theorem description_name (text : String) :
    description (.name text :: rest) = .ok ((), .name text :: rest) :=
  whenNext_of_not_starts rfl usable () rest

/-! ### Types and fields -/

/-- A type takes the mark behind it, unless it has one. -/
def takeBang : TypeRef → List Token → TypeRef × List Token
  | .nonNull inner, ts => (.nonNull inner, ts)
  | type, ts => withBang type ts

/-- A type is itself where no mark for non-null stands behind it. -/
theorem takeBang_of_nextIsNot (h : NextIsNot (Token.isMark .bang) rest) (type : TypeRef) :
    takeBang type rest = (type, rest) := by
  cases type with
  | named name => exact withBang_of_nextIsNot h _
  | nonNull inner => rfl
  | list inner => exact withBang_of_nextIsNot h _

/-- A type is read back together with the mark behind it. -/
private theorem typeRef_typeTokens_takeBang {type : TypeRef} (h : type.HasSingleBangs)
    (rest : List Token) : typeRef (typeTokens type ++ rest) = .ok (takeBang type rest) := by
  induction type generalizing rest with
  | named name => rfl
  | nonNull inner ih =>
    obtain ⟨hinner, hsingle⟩ := h.of_nonNull
    have hread := ih hinner (.mark .bang :: rest)
    rw [typeTokens, List.append_assoc, List.singleton_append, hread]
    -- The type inside has no mark of its own, so it takes this one.
    cases inner with
    | named name => rfl
    | nonNull type => exact absurd rfl (hsingle type)
    | list type => rfl
  | list inner ih =>
    have hread := ih h.of_list (.mark .closeBracket :: rest)
    have hclosed : NextIsNot (Token.isMark .bang) (.mark .closeBracket :: rest) := by
      rintro _ ⟨⟩
      rfl
    rw [takeBang_of_nextIsNot hclosed] at hread
    rw [typeTokens, List.cons_append, List.append_assoc, List.singleton_append, typeRef, hread]
    rfl

/-- A type is read back. -/
theorem typeRef_typeTokens {type : TypeRef} (h : type.HasSingleBangs)
    (hrest : NextIsNot (Token.isMark .bang) rest) :
    typeRef (typeTokens type ++ rest) = .ok (type, rest) := by
  rw [typeRef_typeTokens_takeBang h, takeBang_of_nextIsNot hrest]

/-- A field is read back. -/
theorem field_fieldTokens {f : Field} (h : f.type.HasSingleBangs) :
    ReadsBack field (fieldTokens f) f := by
  intro rest hrest
  rw [field, fieldTokens, List.cons_append, List.cons_append,
    bind_of_ok (description_name f.name), bind_of_ok (name_cons f.name _),
    bind_of_ok (whenNext_of_not_starts rfl inputValues () _), bind_of_ok (mark_self .colon _),
    bind_of_ok (typeRef_typeTokens h (hrest.nextIsNot_mark rfl)),
    bind_of_ok (directives_of_nextIsNot (hrest.nextIsNot_mark rfl))]
  rfl

/-- A field of an input object is read back. -/
theorem inputValue_fieldTokens {f : Field} (h : f.type.HasSingleBangs) :
    ReadsBack inputValue (fieldTokens f) f := by
  intro rest hrest
  rw [inputValue, fieldTokens, List.cons_append, List.cons_append,
    bind_of_ok (description_name f.name), bind_of_ok (name_cons f.name _),
    bind_of_ok (mark_self .colon _),
    bind_of_ok (typeRef_typeTokens h (hrest.nextIsNot_mark rfl)),
    bind_of_ok (whenNext_of_nextIsNot (hrest.nextIsNot_mark rfl) _ ()),
    bind_of_ok (directives_of_nextIsNot (hrest.nextIsNot_mark rfl))]
  rfl

/-- A value of an enum is read. -/
theorem enumValue_name (value : String) : ReadsBack enumValue [.name value] () := by
  intro rest hrest
  rw [enumValue, List.singleton_append, bind_of_ok (description_name value),
    bind_of_ok (name_cons value _),
    bind_of_ok (directives_of_nextIsNot (hrest.nextIsNot_mark rfl))]
  rfl

/-! ### Lists -/

section

variable {part : Rule α} {items : List ι} {write : ι → List Token} {value : ι → α}

/-- Parts that start with names are read back up to a closing bracket. -/
theorem many_flatten {closing : Mark} (hclosing : closing.closes = true) (rest : List Token)
    (hname : ∀ i ∈ items, ∃ text ts, write i = .name text :: ts)
    (hread : ∀ i ∈ items, ReadsBack part (write i) (value i)) :
    EndsPart ((items.map write).flatten ++ .mark closing :: rest) ∧
      many Token.startsDescribed part ((items.map write).flatten ++ .mark closing :: rest)
        = .ok (items.map value, .mark closing :: rest) := by
  -- Each part ends at the name that starts the next one, the last at the closing bracket.
  induction items with
  | nil =>
    refine ⟨?_, many_of_not_starts rfl part rest⟩
    rintro _ ⟨⟩
    exact Or.inr hclosing
  | cons i items ih =>
    obtain ⟨hi, hitems⟩ := List.forall_mem_cons.1 hname
    obtain ⟨hends, hmany⟩ := ih hitems fun j hj => hread j (List.mem_cons_of_mem i hj)
    have hfirst := hread i List.mem_cons_self hends
    obtain ⟨text, ts, hi⟩ := hi
    rw [List.map_cons, List.flatten_cons, List.append_assoc, hi, List.cons_append]
    rw [hi, List.cons_append] at hfirst
    refine ⟨?_, many_of_ok rfl hfirst ?_ hmany⟩
    · rintro _ ⟨⟩
      exact Or.inl rfl
    · exact (List.suffix_append ts _).length_le

/-- Parts in braces are read back. -/
theorem braced_bracedTokens (rest : List Token) (hne : items ≠ [])
    (hname : ∀ i ∈ items, ∃ text ts, write i = .name text :: ts)
    (hread : ∀ i ∈ items, ReadsBack part (write i) (value i)) :
    braced part (bracedTokens (items.map write) ++ rest) = .ok (items.map value, rest) := by
  obtain ⟨i, items, rfl⟩ := List.exists_cons_of_ne_nil hne
  obtain ⟨hfirst, hothers⟩ := List.forall_mem_cons.1 hread
  have hclosing : Mark.closeBrace.closes = true := rfl
  obtain ⟨hends, hmany⟩ :=
    many_flatten hclosing rest (List.forall_mem_cons.1 hname).2 hothers
  have hparts : oneOrMore Token.startsDescribed part
      (write i ++ ((items.map write).flatten ++ .mark .closeBrace :: rest))
        = .ok ((i :: items).map value, .mark .closeBrace :: rest) := by
    rw [oneOrMore, bind_of_ok (hfirst hends), bind_of_ok hmany]
    rfl
  rw [bracedTokens, List.map_cons, List.flatten_cons, List.cons_append, List.append_assoc,
    List.append_assoc, List.singleton_append, braced, bind_of_ok (mark_self .openBrace _),
    bind_of_ok hparts, bind_of_ok (mark_self .closeBrace _)]
  rfl

end

/-- Names with separators before them are read back. -/
theorem many_after {separator : Mark} (names : List String)
    (hrest : NextIsNot (Token.isMark separator) rest) :
    many (Token.isMark separator) (after separator name)
        ((names.flatMap fun text => [.mark separator, .name text]) ++ rest)
      = .ok (names, rest) := by
  induction names with
  | nil => exact many_of_nextIsNot hrest _
  | cons text names ih =>
    have hstarts : Token.isMark separator (.mark separator) = true := beq_self_eq_true _
    refine many_of_ok hstarts ?_ ?_ ih
    · exact bind_of_ok (mark_self separator _) _
    · exact Nat.le_succ _

/-- Names with separators between them are read back, also with one before the first. -/
theorem separated_separatedTokens {separator : Mark} (leads : Bool) (first : String)
    (others : List String) (hrest : NextIsNot (Token.isMark separator) rest) :
    separated separator name (separatedTokens separator leads first others ++ rest)
      = .ok (first :: others, rest) := by
  have hlead : whenNext (Token.isMark separator) (mark separator) ()
      (separatedTokens separator leads first others ++ rest)
        = .ok ((), .name first ::
            ((others.flatMap fun text => [.mark separator, .name text]) ++ rest)) := by
    cases leads with
    | false => exact whenNext_of_not_starts rfl _ _ _
    | true =>
      have hstarts : Token.isMark separator (.mark separator) = true := beq_self_eq_true _
      exact (whenNext_of_starts hstarts _ _ _).trans (mark_self separator _)
  rw [separated, bind_of_ok hlead, bind_of_ok (name_cons first _),
    bind_of_ok (many_after others hrest)]
  rfl

/-- The next token of parts in braces is the opening brace. -/
theorem nextIsNot_bracedTokens {starts : Token → Bool} (h : starts (.mark .openBrace) = false)
    (parts : List (List Token)) (rest : List Token) :
    NextIsNot starts (bracedTokens parts ++ rest) := by
  rintro _ ⟨⟩
  exact h

/-- Interfaces are read back before parts in braces. -/
theorem implementedInterfaces_implementsTokens (leads : Bool) (interfaces : List String)
    (parts : List (List Token)) (rest : List Token) :
    implementedInterfaces (implementsTokens leads interfaces ++ (bracedTokens parts ++ rest))
      = .ok (interfaces, bracedTokens parts ++ rest) := by
  cases interfaces with
  | nil => exact whenNext_of_nextIsNot (nextIsNot_bracedTokens rfl parts rest) _ []
  | cons first others =>
    refine (whenNext_of_starts (by decide) _ _ _).trans ?_
    rw [bind_of_ok (word_self "implements" _)]
    exact separated_separatedTokens leads first others (nextIsNot_bracedTokens rfl parts rest)

/-- Fields in braces are read back. -/
theorem fields_bracedTokens {part : Rule Field} {fields : List Field} (hne : fields ≠ [])
    (hread : ∀ f ∈ fields, ReadsBack part (fieldTokens f) f) (rest : List Token) :
    whenNext (Token.isMark .openBrace) (braced part) []
      (bracedTokens (fields.map fieldTokens) ++ rest) = .ok (fields, rest) := by
  have hbraced : braced part (bracedTokens (fields.map fieldTokens) ++ rest)
      = .ok (fields.map id, rest) :=
    braced_bracedTokens rest hne (fun f _ => ⟨f.name, _, rfl⟩) hread
  rw [List.map_id] at hbraced
  exact (whenNext_of_starts (by decide) _ _ _).trans hbraced

/-! ### Definitions -/

/-- A declared type is read back behind its keyword, whatever its kind. -/
theorem declaration_of_keyword {keyword : String} {kind : Kind}
    (hkind : Kind.ofKeyword? keyword = some kind) {ts : List Token} {t : TypeDeclaration}
    (ht : ReadsBack (typeDeclaration kind) ts t) :
    ReadsBack declaration (.name keyword :: ts) (.type t) := by
  intro rest hrest
  -- The keywords that are looked for first are those of no kind.
  have hne : ∀ word, Kind.ofKeyword? word = none → keyword ≠ word := by
    rintro word hword rfl
    rw [hword] at hkind
    contradiction
  have hdeclared : declaredType (.name keyword :: ts ++ rest) = .ok (t, rest) := by
    rw [List.cons_append, declaredType, hkind]
    exact ht hrest
  have hdescribed : describedDefinition (.name keyword :: ts ++ rest) = .ok (.type t, rest) := by
    unfold describedDefinition
    split
    case h_1 heq => exact absurd (Token.name.inj (List.cons.inj heq).1) (hne _ rfl)
    case h_2 =>
      rw [bind_of_ok hdeclared]
      rfl
  unfold declaration
  split
  case h_1 heq => exact absurd (Token.name.inj (List.cons.inj heq).1) (hne _ rfl)
  case h_2 heq => exact absurd (Token.name.inj (List.cons.inj heq).1) (hne _ rfl)
  case h_3 =>
    rw [List.cons_append, bind_of_ok (description_name keyword), ← List.cons_append, hdescribed]

/-- A scalar is read back. -/
theorem typeDeclaration_scalar (text : String) :
    ReadsBack (typeDeclaration .scalar) [.name text] { kind := .scalar, name := text } := by
  intro rest hrest
  have hnext : NextIsNot (Token.isMark .atSign) rest := hrest.nextIsNot_mark rfl
  rw [List.singleton_append, typeDeclaration, bind_of_ok (name_cons text _)]
  show (directives >>= _) rest = _
  rw [bind_of_ok (directives_of_nextIsNot hnext)]
  rfl

/-- An object type or an interface is read back. -/
theorem typeDeclaration_fields {kind : Kind} (hkind : kind = .object ∨ kind = .interface)
    (text : String) (leads : Bool) (interfaces : List String) {fields : List Field}
    (hne : fields ≠ []) (hfields : ∀ f ∈ fields, f.IsWritable) :
    ReadsBack (typeDeclaration kind)
      (.name text :: (implementsTokens leads interfaces ++ bracedTokens (fields.map fieldTokens)))
      { kind, name := text, interfaces, fields, hasBody := !fields.isEmpty } := by
  intro rest _
  have hbody := fields_bracedTokens hne
    (fun f hf => field_fieldTokens (hfields f hf).type) rest
  have hdirectives := directives_of_nextIsNot
    (nextIsNot_bracedTokens rfl (fields.map fieldTokens) rest)
  have hinterfaces := implementedInterfaces_implementsTokens leads interfaces
    (fields.map fieldTokens) rest
  rw [List.cons_append, List.append_assoc]
  -- Both kinds are read by the same rule.
  rcases hkind with rfl | rfl
  all_goals
    rw [typeDeclaration, bind_of_ok (name_cons text _)]
    show (implementedInterfaces >>= _) _ = _
    rw [bind_of_ok hinterfaces, bind_of_ok hdirectives, bind_of_ok hbody]
    rfl

/-- A body that is there is read. -/
theorem body_of_ok {opening : Mark} {r : Rule Unit} {ts : List Token}
    (h : r (.mark opening :: ts) = .ok ((), rest)) :
    body opening r (.mark opening :: ts) = .ok (true, rest) := by
  have hopens : Token.isMark opening (.mark opening) = true := beq_self_eq_true _
  rw [body, whenNext_of_starts hopens, bind_of_ok h]
  rfl

/-- An enum is read, whatever its values. -/
theorem typeDeclaration_enum (text : String) {values : List String} (hne : values ≠ []) :
    ReadsBack (typeDeclaration .enum)
      (.name text :: bracedTokens (values.map fun value => [.name value]))
      { kind := .enum, name := text, hasBody := true } := by
  intro rest _
  have hbraced := braced_bracedTokens rest hne
    (fun value _ => ⟨value, [], rfl⟩) fun value _ => enumValue_name value
  have hvalues : (do let _ ← braced enumValue : Rule Unit)
      (bracedTokens (values.map fun value => [.name value]) ++ rest) = .ok ((), rest) := by
    rw [bind_of_ok hbraced]
    rfl
  have hbody : body .openBrace (do let _ ← braced enumValue)
      (bracedTokens (values.map fun value => [.name value]) ++ rest) = .ok (true, rest) :=
    body_of_ok hvalues
  have hdirectives := directives_of_nextIsNot
    (nextIsNot_bracedTokens rfl (values.map fun value => [.name value]) rest)
  rw [List.cons_append, typeDeclaration, bind_of_ok (name_cons text _)]
  show (directives >>= _) _ = _
  rw [bind_of_ok hdirectives, bind_of_ok hbody]
  rfl

/-- A union is read, whatever its members. -/
theorem typeDeclaration_union (text : String) (leads : Bool) (first : String)
    (others : List String) :
    ReadsBack (typeDeclaration .union)
      (.name text :: .mark .equals :: separatedTokens .bar leads first others)
      { kind := .union, name := text, hasBody := true } := by
  intro rest hrest
  have hmembers : (do mark .equals; let _ ← separated .bar name : Rule Unit)
      (.mark .equals :: (separatedTokens .bar leads first others ++ rest)) = .ok ((), rest) := by
    rw [bind_of_ok (mark_self .equals _),
      bind_of_ok (separated_separatedTokens leads first others (hrest.nextIsNot_mark rfl))]
    rfl
  have hequals : NextIsNot (Token.isMark .atSign)
      (.mark .equals :: (separatedTokens .bar leads first others ++ rest)) := by
    rintro _ ⟨⟩
    rfl
  rw [List.cons_append, List.cons_append, typeDeclaration, bind_of_ok (name_cons text _)]
  show (directives >>= _) _ = _
  rw [bind_of_ok (directives_of_nextIsNot hequals), bind_of_ok (body_of_ok hmembers)]
  rfl

/-- An input object is read, whatever its fields. -/
theorem typeDeclaration_input (text : String) {fields : List Field} (hne : fields ≠ [])
    (hfields : ∀ f ∈ fields, f.IsWritable) :
    ReadsBack (typeDeclaration .input)
      (.name text :: bracedTokens (fields.map fieldTokens))
      { kind := .input, name := text, fields, hasBody := !fields.isEmpty } := by
  intro rest _
  have hbody := fields_bracedTokens hne
    (fun f hf => inputValue_fieldTokens (hfields f hf).type) rest
  have hdirectives := directives_of_nextIsNot
    (nextIsNot_bracedTokens rfl (fields.map fieldTokens) rest)
  rw [List.cons_append, typeDeclaration, bind_of_ok (name_cons text _)]
  show (directives >>= _) _ = _
  rw [bind_of_ok hdirectives, bind_of_ok hbody]
  rfl

/-- **Definitions are read back.** However a definition is written, it is declared. -/
theorem declaration_of_writes {definition : Definition} {ts : List Token}
    (h : Writes definition ts) (hwritable : definition.IsWritable) :
    ∃ t, ReadsBack declaration ts t ∧ t.toDefinition? = some definition := by
  cases h with
  | scalar name => exact ⟨_, declaration_of_keyword rfl (typeDeclaration_scalar name), rfl⟩
  | @interface name fields leads interfaces =>
    obtain ⟨_, hne, hfields⟩ := hwritable
    have hread := typeDeclaration_fields (Or.inr rfl) name leads interfaces hne hfields
    exact ⟨_, declaration_of_keyword rfl hread, rfl⟩
  | object type leads =>
    obtain ⟨_, _, hne, hfields⟩ := hwritable
    have hread := typeDeclaration_fields (Or.inl rfl) type.name leads type.interfaces hne hfields
    exact ⟨_, declaration_of_keyword rfl hread, rfl⟩
  | enum name hne => exact ⟨_, declaration_of_keyword rfl (typeDeclaration_enum name hne), rfl⟩
  | union name leads =>
    exact ⟨_, declaration_of_keyword rfl (typeDeclaration_union name leads _ _), rfl⟩
  | input name hne hfields =>
    exact ⟨_, declaration_of_keyword rfl (typeDeclaration_input name hne hfields), rfl⟩

/-- Every definition starts with a keyword. -/
theorem exists_name_of_writes {definition : Definition} {ts : List Token}
    (h : Writes definition ts) : ∃ keyword us, ts = .name keyword :: us := by
  cases h <;> exact ⟨_, _, rfl⟩

/-! ### Documents -/

/-- Definitions are read back one after another. -/
theorem many_declaration_of_writes {definitions : List Definition} {parts : List (List Token)}
    (h : List.Forall₂ Writes definitions parts)
    (hwritable : ∀ definition ∈ definitions, definition.IsWritable) :
    EndsPart parts.flatten ∧
      ∃ ds, many (fun _ => true) declaration parts.flatten = .ok (ds, [])
        ∧ ds.filterMap Declaration.toDefinition? = definitions := by
  -- What stands behind a definition is the keyword of the next one, or nothing.
  induction h with
  | nil => exact ⟨fun t ht => absurd ht (Option.not_mem_none t), [], many_nil _ _, rfl⟩
  | @cons definition part definitions parts hpart _ ih =>
    obtain ⟨hdefinition, hdefinitions⟩ := List.forall_mem_cons.1 hwritable
    obtain ⟨hends, ds, hmany, hds⟩ := ih hdefinitions
    obtain ⟨t, ht, htype⟩ := declaration_of_writes hpart hdefinition
    obtain ⟨keyword, us, rfl⟩ := exists_name_of_writes hpart
    refine ⟨?_, t :: ds, ?_, ?_⟩
    · rintro _ ⟨⟩
      exact Or.inl rfl
    · exact many_of_ok rfl (ht hends) (List.suffix_append us _).length_le hmany
    · rw [List.filterMap_cons_some htype, hds]

/-- A document is read back from its tokens. -/
theorem declarations_of_writesDocument {d : Document} {ts : List Token}
    (h : WritesDocument d ts) (hd : d.IsWritable) :
    ∃ ds, declarations ts = .ok (ds, []) ∧ toDocument ds = d := by
  obtain ⟨definitions⟩ := d
  obtain ⟨parts, hparts, rfl⟩ := h
  cases hparts with
  | nil => exact absurd rfl hd.nonempty
  | @cons definition part definitions parts hpart hparts =>
    obtain ⟨hdefinition, hdefinitions⟩ := List.forall_mem_cons.1 hd.definitions
    obtain ⟨hends, ds, hmany, hds⟩ := many_declaration_of_writes hparts hdefinitions
    obtain ⟨t, ht, htype⟩ := declaration_of_writes hpart hdefinition
    refine ⟨t :: ds, ?_, ?_⟩
    · rw [declarations, List.flatten_cons, oneOrMore, bind_of_ok (ht hends), bind_of_ok hmany]
      rfl
    · rw [toDocument, List.filterMap_cons_some htype, hds]

/-- **Documents are read back from every layout.** If the tokens of a document are laid out
    in a text in any way, with no more open brackets at once than may be, the text is read
    as just this document. -/
theorem outcome_parseSchema_of_isLayout {d : Document} (hd : d.IsWritable) {ts : List Token}
    (hts : WritesDocument d ts) (hbrackets : WithinBrackets ts) {text : String}
    (htext : IsLayout ts text.toList) : (parseSchema text).outcome = .ok d := by
  have htokens : tokens text = ts :=
    tokens_of_isLayout htext (legible_of_writesDocument hts hd) hbrackets
  obtain ⟨ds, hread, hdocument⟩ := declarations_of_writesDocument hts hd
  have hds : declarationsOfText text = .ok ds := by
    rw [declarationsOfText, htokens, hread]
  exact outcome_parseSchema.2 ⟨ds, hds, hdocument⟩

/-- A document whose names are keywords. -/
def keywordNamed : Document where
  definitions := [
    .object {
      name := "implements", interfaces := ["type"]
      fields := [{ name := "union", type := .nonNull (.list (.nonNull (.named "ID"))) }] },
    .other "enum"]

/-- The document with separators before its lists and a member for what may have any. -/
def keywordTokens : List Token := [
  .name "type", .name "implements", .name "implements", .mark .ampersand, .name "type",
  .mark .openBrace, .name "union", .mark .colon, .mark .openBracket, .name "ID", .mark .bang,
  .mark .closeBracket, .mark .bang, .mark .closeBrace,
  .name "union", .name "enum", .mark .equals, .mark .bar, .name "type"]

/-- Its tokens, with commas, comments and a byte order mark, and with nothing between them
    where nothing has to be. -/
def keywordText : String :=
  "\ufeff#type A\n type implements#\rimplements&type\x7bunion:[ID!]!,,\x7dunion\tenum=|type#"
    ++ " enum\r\n"

/-- The tokens write the document. -/
private theorem writesDocument_keywordTokens : WritesDocument keywordNamed keywordTokens := by
  have hmembers : ∀ member ∈ ["type"], isLegalName member = true := by decide
  exact ⟨_, .cons (.object _ true) (.cons (.union "enum" true hmembers) .nil), rfl⟩

/-- Nothing has to stand between tokens one of which is a mark. -/
private theorem laidOut_tight {t : Token} {ts : List Token} {cs : List Char}
    (h : wouldTouch t ts = false) (hcs : LaidOut ts cs) : LaidOut (t :: ts) (t.text ++ cs) :=
  .cons .nil (fun htouch => absurd (h.symm.trans htouch) Bool.false_ne_true) hcs

/-- Ignorable text that is not empty may stand between any tokens. -/
private theorem laidOut_spaced {c : Char} {t : Token} {ts : List Token} {gap cs : List Char}
    (hgap : Ignorable (c :: gap)) (hcs : LaidOut ts cs) :
    LaidOut (t :: ts) (t.text ++ (c :: gap ++ cs)) :=
  .cons hgap (fun _ => List.cons_ne_nil c gap) hcs

/-- The text is a layout of the tokens. -/
private theorem isLayout_keywordText : IsLayout keywordTokens keywordText.toList := by
  have hblank : ∀ {c}, isBlank c = true → Ignorable [c] := fun hc => .blank hc .nil
  have hlead : Ignorable ('\ufeff' :: '#' :: (['t', 'y', 'p', 'e', ' ', 'A'] ++ ['\n', ' '])) :=
    .blank rfl (.comment (by simp [endsLine]) rfl (hblank rfl))
  have hcomment : Ignorable ['#', '\r'] := .comment (List.forall_mem_nil _) rfl .nil
  have hcommas : Ignorable [',', ','] := .blank rfl (hblank rfl)
  have hend : Ignorable ('#' :: ([' ', 'e', 'n', 'u', 'm'] ++ ['\r', '\n'])) :=
    .comment (by simp [endsLine]) rfl (hblank rfl)
  have htail : LaidOut (keywordTokens.drop 14) _ :=
    laidOut_spaced (hblank (c := '\t') rfl) <| laidOut_tight rfl <| laidOut_tight rfl <|
      laidOut_tight rfl <| laidOut_spaced hend .nil
  have htypes : LaidOut (keywordTokens.drop 5) _ :=
    laidOut_tight rfl <| laidOut_tight rfl <| laidOut_tight rfl <| laidOut_tight rfl <|
      laidOut_tight rfl <| laidOut_tight rfl <| laidOut_tight rfl <|
      laidOut_spaced hcommas <| laidOut_tight rfl htail
  have htokens : LaidOut keywordTokens _ :=
    laidOut_spaced (hblank (c := ' ') rfl) <| laidOut_spaced hcomment <| laidOut_tight rfl <|
      laidOut_tight rfl <| laidOut_tight rfl htypes
  exact ⟨_, _, hlead, htokens, by decide +kernel⟩

/-- At no point more than two of its brackets are open. -/
private theorem withinBrackets_keywordTokens : WithinBrackets keywordTokens := by
  intro front hfront
  have hall : ∀ front ∈ keywordTokens.inits, openAfter 0 front ≤ bracketLimit := by decide
  exact hall front ((List.mem_inits _ _).2 hfront)

/-- The text is read as the document. -/
theorem outcome_parseSchema_of_isLayout_keywords :
    keywordNamed.IsWritable ∧ WritesDocument keywordNamed keywordTokens
      ∧ WithinBrackets keywordTokens ∧ IsLayout keywordTokens keywordText.toList
      ∧ (parseSchema keywordText).outcome = .ok keywordNamed := by
  have hbangs : ¬ [.nonNull, .nonNull] <:+: [Modifier.nonNull, .list, .nonNull] := by decide
  have hfields : ∀ f ∈ [Field.mk "union" (.nonNull (.list (.nonNull (.named "ID"))))],
      f.IsWritable := by
    rintro _ (_ | ⟨_, ⟨⟩⟩)
    exact ⟨by decide, by decide, hbangs⟩
  have hwritable : keywordNamed.IsWritable := by
    refine ⟨by decide, ?_⟩
    rintro _ (_ | ⟨_, _ | ⟨_, ⟨⟩⟩⟩)
    · exact ⟨by decide, by decide, by decide, hfields⟩
    · show isLegalName "enum" = true
      decide
  exact ⟨hwritable, writesDocument_keywordTokens, withinBrackets_keywordTokens,
    isLayout_keywordText, outcome_parseSchema_of_isLayout hwritable writesDocument_keywordTokens
      withinBrackets_keywordTokens isLayout_keywordText⟩

end RelayCollections.Sdl
