import RelayCollections.Proofs.Sdl.Extent

namespace RelayCollections.Sdl

/-!
# Where the rules of the grammar stop

Every rule of the grammar settles: inside of brackets because the bracket that closes them
follows, and behind the last part of a definition because no optional or repeated part goes
on with a token with which another definition starts. The one exception are the locations of
a directive definition. They may be missing, and then a keyword is taken for one.

* `Token.startsDefinition` — keywords and descriptions;
* `skipNested_cons`, `skipNested_ok` — a step inside brackets, and all steps up to their end;
* `settles_typeDeclaration`, `settles_extension`, … — the rules for definitions settle;
* `locations_eq_ok` — so do locations, if there are any.
-/

open Rule

/-! ### Where definitions start -/

/-- The keywords with which definitions start. -/
def definitionKeywords : List String :=
  ["schema", "extend", "directive", "scalar", "type", "interface", "union", "enum", "input"]

/-- A definition starts with a keyword, or with its description. -/
def Token.startsDefinition : Token → Bool
  | .name text => definitionKeywords.contains text
  | t => t.isString

/-- No mark starts a definition. -/
theorem Token.isMark_of_startsDefinition {t : Token} (h : t.startsDefinition = true) (m : Mark) :
    t.isMark m = false := by
  cases t with
  | mark => contradiction
  | name | number | quoted | block | unreadable => rfl

/-! ### Values -/

/-- Some tokens are one step on the way through brackets, whatever stands behind them. -/
structure SkipStep (allowVariables wanted : Bool) (nests : List Nest) (front : List Token)
    (wanted' : Bool) (nests' : List Nest) : Prop where
  nonempty : front ≠ []
  leads : Leads nests.length nests'.length front
  goesOn : ∀ more, skipNested allowVariables wanted nests (front ++ more)
    = skipNested allowVariables wanted' nests' more

/-- A value has ended, or its next token is a step or the first of two. -/
theorem skipNested_cons {allowVariables wanted : Bool} {nests : List Nest} {t : Token}
    {ts rest : List Token} (h : skipNested allowVariables wanted nests (t :: ts) = .ok rest) :
    (wanted = false ∧ nests = []) ∨
      ∃ front left wanted' nests', t :: ts = front ++ left
        ∧ SkipStep allowVariables wanted nests front wanted' nests' := by
  -- A single token is a value or a bracket, so nothing is wanted behind it.
  have hone : ∀ nests' : List Nest, Leads nests.length nests'.length [t] →
      (∀ more, skipNested allowVariables wanted nests (t :: more)
        = skipNested allowVariables false nests' more) →
      ∃ front left wanted' nests', t :: ts = front ++ left
        ∧ SkipStep allowVariables wanted nests front wanted' nests' :=
    fun nests' hleads hgoes => ⟨[t], ts, false, nests', rfl, List.cons_ne_nil _ _, hleads, hgoes⟩
  rw [skipNested.eq_def] at h
  dsimp only at h
  split at h
  case h_1 => exact Or.inl ⟨rfl, rfl⟩
  case h_2 outer => exact Or.inr (hone outer (.mark fun _ => rfl) fun _ => rfl)
  case h_3 outer => exact Or.inr (hone outer (.mark fun _ => rfl) fun _ => rfl)
  case h_4 outer text =>
    split at h
    case h_2 => contradiction
    case h_1 left =>
      have hleads : ∀ i, Leads i i [.name text, .mark .colon] := fun i =>
        (Leads.name text i).append (.mark fun _ => rfl)
      exact Or.inr ⟨_, left, true, .object :: outer, rfl, List.cons_ne_nil _ _, hleads _,
        fun _ => rfl⟩
  case h_5 => contradiction
  case h_6 text _ _ =>
    refine Or.inr (hone nests (.name text _) fun more => ?_)
    simp only [skipNested]
  case h_7 =>
    split at h
    case isFalse => contradiction
    case isTrue hallow =>
      split at h
      case h_2 => contradiction
      case h_1 text left =>
        have hleads : ∀ i, Leads i i [.mark .dollar, .name text] := fun i =>
          (Leads.mark fun _ => rfl).append (.name text i)
        refine Or.inr ⟨_, left, false, nests, rfl, List.cons_ne_nil _ _, hleads _, fun more => ?_⟩
        simp only [List.cons_append, List.nil_append, skipNested, if_pos hallow]
  case h_8 =>
    refine Or.inr (hone (.list :: nests) (.mark fun _ => rfl) fun more => ?_)
    simp only [skipNested]
  case h_9 =>
    refine Or.inr (hone (.object :: nests) (.mark fun _ => rfl) fun more => ?_)
    simp only [skipNested]
  case h_10 => contradiction
  case h_11 hmark _ _ _ =>
    split at h
    case isFalse => contradiction
    case isTrue husable =>
      have hreadable : t ≠ .unreadable := by
        rintro rfl
        contradiction
      refine Or.inr (hone nests (.single hmark hreadable _) fun more => ?_)
      simp only [skipNested, if_pos husable]

/-- What is read inside brackets is settled: the brackets are closed, and what stands behind
    does not matter. -/
theorem skipNested_ok {allowVariables wanted : Bool} {nests : List Nest}
    {ts rest : List Token} (h : skipNested allowVariables wanted nests ts = .ok rest) :
    ∃ used, ts = used ++ rest ∧ Leads nests.length 0 used
      ∧ ∀ more, skipNested allowVariables wanted nests (used ++ more) = .ok more := by
  -- On the number of tokens: every step goes on with fewer.
  induction hn : ts.length using Nat.strongRecOn generalizing wanted nests ts with
  | ind n ih =>
    have hdone : wanted = false → nests = [] → ∃ used, ts = used ++ rest
        ∧ Leads nests.length 0 used
        ∧ ∀ more, skipNested allowVariables wanted nests (used ++ more) = .ok more := by
      rintro rfl rfl
      have hstop : ∀ more, skipNested allowVariables false [] more = .ok more := by
        intro more
        cases more <;> rfl
      obtain rfl : ts = rest := Except.ok.inj ((hstop ts).symm.trans h)
      exact ⟨[], rfl, Leads.nil 0, hstop⟩
    cases ts with
    | nil =>
      rw [skipNested] at h
      split at h
      case isTrue => contradiction
      case isFalse hnone =>
        obtain ⟨hwanted, hnests⟩ := not_or.1 hnone
        exact hdone (Bool.eq_false_iff.2 hwanted) (Decidable.not_not.1 hnests)
    | cons t ts =>
      rcases skipNested_cons h with ⟨hwanted, hnests⟩ |
        ⟨front, left, wanted', nests', hts, hstep⟩
      · exact hdone hwanted hnests
      · rw [hts, hstep.goesOn] at h
        have hpos := List.length_pos_iff.2 hstep.nonempty
        rw [hts, List.length_append] at hn
        obtain ⟨used, rfl, hused, hread⟩ := ih left.length (by omega) h rfl
        refine ⟨front ++ used, ?_, hstep.leads.append hused, fun more => ?_⟩
        · rw [hts, List.append_assoc]
        · rw [List.append_assoc, hstep.goesOn, hread]

theorem settles_skipValue (allowVariables : Bool) :
    (skipValue allowVariables).Settles anywhere 0 0 := by
  intro ts a rest h
  unfold skipValue at h
  split at h
  case h_1 => contradiction
  case h_2 left hskip =>
    obtain ⟨rfl, rfl⟩ := Prod.mk.inj (Except.ok.inj h)
    obtain ⟨used, hts, hused, hread⟩ := skipNested_ok hskip
    refine ⟨used, hts, hused, fun more _ => ?_⟩
    rw [skipValue, hread]

/-! ### Directives and descriptions -/

theorem settles_argument : argument.Settles anywhere 0 0 := by
  refine Settles.name.bind fun _ => ?_
  refine (Settles.mark fun _ => rfl).bind fun _ => ?_
  exact settles_skipValue true

theorem settles_arguments : arguments.Settles anywhere 0 0 := by
  have hparts : (oneOrMore Token.isName argument).Settles nowhere 0 0 :=
    settles_argument.stopping.oneOrMore ⟨0, rfl⟩ nofun
  refine (Settles.mark (o := 1) fun _ => rfl).bind fun _ => ?_
  refine hparts.inside.bind_of_needsToken (fun _ => ⟨0, rfl⟩) fun _ => ?_
  exact Settles.mark fun _ => rfl

theorem settles_directive : directive.Settles Token.startsDefinition 0 0 := by
  refine (Settles.mark fun _ => rfl).bind fun _ => ?_
  refine Settles.name.bind fun _ => ?_
  exact settles_arguments.stopping.whenNext ⟨0, rfl⟩ fun _ ht =>
    Token.isMark_of_startsDefinition ht .openParen

theorem settles_directives : directives.Settles Token.startsDefinition 0 0 := by
  refine (settles_directive.many ⟨0, rfl⟩ fun _ ht => Token.isMark_of_startsDefinition ht _).bind
    fun _ => ?_
  exact Settles.pure _

/-- A description is a string, and behind it comes what it describes. -/
theorem settles_description : description.Settles nowhere 0 0 := by
  intro ts a rest h
  by_cases hstring : NextIsNot Token.isString ts
  · rw [description, whenNext_of_nextIsNot hstring, Except.ok.injEq, Prod.mk.injEq] at h
    obtain ⟨rfl, rfl⟩ := h
    exact ⟨[], rfl, Leads.nil 0, fun more hmore =>
      whenNext_of_nextIsNot (hmore.nextIsNot nofun hstring) usable ()⟩
  · obtain ⟨t, tail, rfl, ht⟩ := exists_of_not_nextIsNot hstring
    rw [description, whenNext_of_starts ht, usable] at h
    split at h
    case isFalse => contradiction
    case isTrue husable =>
      obtain ⟨rfl, rfl⟩ := Prod.mk.inj (Except.ok.inj h)
      have hleads : Leads 0 0 [t] := by
        refine Leads.single ?_ ?_ 0
        · rintro m rfl
          contradiction
        · rintro rfl
          contradiction
      refine ⟨[t], rfl, hleads, fun more _ => ?_⟩
      rw [List.singleton_append, description, whenNext_of_starts ht, usable, if_pos husable]

/-! ### Types -/

/-- A type is not non-null where no mark for that stands behind it. -/
theorem withBang_of_nextIsNot {rest : List Token} (h : NextIsNot (Token.isMark .bang) rest)
    (type : TypeRef) : withBang type rest = (type, rest) := by
  unfold withBang
  split
  · exact absurd (h _ rfl) (by decide)
  · rfl

/-- The mark after a type is read with it. -/
theorem settles_withBang {base type : TypeRef} {ts rest : List Token}
    (h : withBang base ts = (type, rest)) :
    ∃ used, ts = used ++ rest ∧ Leads 0 0 used ∧
      ∀ more, MayFollow nowhere rest more → withBang base (used ++ more) = (type, more) := by
  by_cases hbang : NextIsNot (Token.isMark .bang) ts
  · rw [withBang_of_nextIsNot hbang, Prod.mk.injEq] at h
    obtain ⟨rfl, rfl⟩ := h
    exact ⟨[], rfl, Leads.nil 0, fun more hmore =>
      withBang_of_nextIsNot (hmore.nextIsNot nofun hbang) base⟩
  · obtain ⟨t, tail, rfl, ht⟩ := exists_of_not_nextIsNot hbang
    obtain rfl : t = .mark .bang := beq_iff_eq.1 ht
    obtain ⟨rfl, rfl⟩ := Prod.mk.inj h
    exact ⟨[.mark .bang], rfl, Leads.mark fun _ => rfl, fun more _ => rfl⟩

theorem settles_typeRef : typeRef.Settles nowhere 0 0 := by
  intro ts type rest h
  fun_induction typeRef ts generalizing type rest
  case case1 text ts =>
    obtain ⟨used, rfl, hused, hread⟩ := settles_withBang (Except.ok.inj h)
    refine ⟨.name text :: used, rfl, (Leads.name text 0).append hused, fun more hmore => ?_⟩
    rw [List.cons_append, typeRef, hread more hmore]
  case case3 ts inner left hinner ih =>
    obtain ⟨used, rfl, hused, hread⟩ := settles_withBang (Except.ok.inj h)
    obtain ⟨front, rfl, hfront, hreadFront⟩ := ih hinner
    have hclosed : Leads 1 0 [.mark .closeBracket] := .mark fun _ => rfl
    have hopened : Leads 0 1 [.mark .openBracket] := .mark fun _ => rfl
    have hleads := (hopened.append hfront.inside).append (hclosed.append hused)
    refine ⟨_, ?_, hleads, fun more hmore => ?_⟩
    · simp
    · have hinside : typeRef (front ++ .mark .closeBracket :: (used ++ more))
          = .ok (inner, .mark .closeBracket :: (used ++ more)) :=
        hreadFront _ fun t ht => Or.inl ht
      simp only [List.cons_append, List.append_assoc, List.nil_append]
      rw [typeRef, hinside]
      show Except.ok (withBang inner.list (used ++ more)) = _
      rw [hread more hmore]
  all_goals contradiction

/-! ### Fields -/

theorem settles_inputValue : inputValue.Settles nowhere 0 0 := by
  have hdefault : Settles nowhere 0 0 (do mark .equals; skipValue false) :=
    (Settles.mark fun _ => rfl).bind fun _ => (settles_skipValue false).stopping
  refine settles_description.bind fun _ => ?_
  refine Settles.name.bind fun _ => ?_
  refine (Settles.mark fun _ => rfl).bind fun _ => ?_
  refine settles_typeRef.bind fun _ => ?_
  refine (hdefault.whenNext ⟨0, rfl⟩ nofun).bind fun _ => ?_
  refine settles_directives.staying.bind fun _ => ?_
  exact Settles.pure _

theorem settles_inputValues : inputValues.Settles anywhere 0 0 := by
  have hparts : (oneOrMore Token.startsDescribed inputValue).Settles nowhere 0 0 :=
    settles_inputValue.oneOrMore ⟨0, rfl⟩ nofun
  refine (Settles.mark (o := 1) fun _ => rfl).bind fun _ => ?_
  refine hparts.inside.bind_of_needsToken (fun _ => ⟨0, rfl⟩) fun _ => ?_
  exact Settles.mark fun _ => rfl

theorem settles_field : field.Settles nowhere 0 0 := by
  refine settles_description.bind fun _ => ?_
  refine Settles.name.bind fun _ => ?_
  refine (settles_inputValues.staying.whenNext ⟨0, rfl⟩ nofun).bind fun _ => ?_
  refine (Settles.mark fun _ => rfl).bind fun _ => ?_
  refine settles_typeRef.bind fun _ => ?_
  refine settles_directives.staying.bind fun _ => ?_
  exact Settles.pure _

theorem settles_enumValue : enumValue.Settles nowhere 0 0 := by
  refine settles_description.bind fun _ => ?_
  refine Settles.name.bind fun _ => ?_
  refine settles_directives.staying.bind fun _ => ?_
  exact Settles.pure _

theorem settles_braced {part : Rule α} (hpart : part.Settles nowhere 0 0)
    (hneeds : part.NeedsToken) : (braced part).Settles anywhere 0 0 := by
  have hparts : (oneOrMore Token.startsDescribed part).Settles nowhere 0 0 :=
    hpart.oneOrMore hneeds nofun
  refine (Settles.mark (o := 1) fun _ => rfl).bind fun _ => ?_
  refine hparts.inside.bind_of_needsToken (fun _ => ⟨0, rfl⟩) fun _ => ?_
  refine (Settles.mark (o := 0) fun _ => rfl).bind fun _ => ?_
  exact Settles.pure _

/-! ### Lists of names -/

theorem keeps_separated {inv : List Token → Prop} {separator : Mark} {part : Rule α}
    (hmark : (mark separator).Keeps inv) (hpart : part.Keeps inv) :
    (separated separator part).Keeps inv := by
  have hafter : (after separator part).Keeps inv := hmark.bind fun _ => hpart
  refine (hmark.whenNext trivial).keeps.bind fun _ => ?_
  refine hpart.bind fun _ => ?_
  refine hafter.many.keeps.bind fun _ => ?_
  exact Ensures.pure trivial

theorem settles_separated {separator : Mark}
    (hseparator : ∀ n, (Token.mark separator).openAfter n = n) {part : Rule α}
    (hpart : part.Settles Token.startsDefinition 0 0) (hneeds : part.NeedsToken) :
    (separated separator part).Settles Token.startsDefinition 0 0 := by
  have hafter : (after separator part).Settles Token.startsDefinition 0 0 :=
    (Settles.mark (i := 0) (o := 0) hseparator).bind fun _ => hpart
  have hlead : Settles nowhere 0 0 (whenNext (Token.isMark separator) (mark separator) ()) :=
    (Settles.mark (i := 0) (o := 0) hseparator).whenNext ⟨0, rfl⟩ nofun
  have hothers : Settles Token.startsDefinition 0 0
      (many (Token.isMark separator) (after separator part)) :=
    hafter.many ⟨0, rfl⟩ fun _ ht => Token.isMark_of_startsDefinition ht separator
  refine hlead.bind_of_needsToken (fun _ => ?_) fun _ => ?_
  · obtain ⟨left, hleft⟩ := hneeds
    exact ⟨left, bind_of_error hleft _⟩
  · refine hpart.bind fun _ => ?_
    refine hothers.bind fun _ => ?_
    exact Settles.pure _

theorem settles_implementedInterfaces :
    implementedInterfaces.Settles Token.startsDefinition 0 0 := by
  have hinterfaces : Settles Token.startsDefinition 0 0
      (do word "implements"; separated .ampersand name) :=
    (Settles.word "implements").bind fun _ =>
      settles_separated (fun _ => rfl) Settles.name ⟨0, rfl⟩
  refine hinterfaces.whenNext ⟨0, rfl⟩ fun t ht => ?_
  rw [Token.isWord, beq_eq_false_iff_ne]
  rintro rfl
  contradiction

/-! ### Types -/

theorem settles_body (opening : Mark) {r : Rule Unit}
    (hr : r.Settles Token.startsDefinition 0 0) (hneeds : r.NeedsToken) :
    (body opening r).Settles Token.startsDefinition 0 0 := by
  have hpresent : Settles Token.startsDefinition 0 0 (do r; return true) :=
    hr.bind fun _ => Settles.pure true
  obtain ⟨left, hleft⟩ := hneeds
  exact hpresent.whenNext ⟨left, bind_of_error hleft _⟩ fun _ ht =>
    Token.isMark_of_startsDefinition ht opening

theorem settles_fields {part : Rule Field} (hpart : part.Settles nowhere 0 0)
    (hneeds : part.NeedsToken) :
    Settles Token.startsDefinition 0 0
      (whenNext (Token.isMark .openBrace) (braced part) []) :=
  (settles_braced hpart hneeds).stopping.whenNext ⟨0, rfl⟩ fun _ ht =>
    Token.isMark_of_startsDefinition ht .openBrace

/-- The members of a union, if there are any. -/
theorem settles_members :
    (body .equals (do mark .equals; let _ ← separated .bar name)).Settles
      Token.startsDefinition 0 0 := by
  refine settles_body .equals ?_ ⟨0, rfl⟩
  refine (Settles.mark fun _ => rfl).bind fun _ => ?_
  refine (settles_separated (fun _ => rfl) Settles.name ⟨0, rfl⟩).bind fun _ => ?_
  exact Settles.pure _

/-- The values of an enum, if there are any. -/
theorem settles_values :
    (body .openBrace (do let _ ← braced enumValue)).Settles Token.startsDefinition 0 0 := by
  refine settles_body .openBrace ?_ ⟨0, rfl⟩
  refine (settles_braced settles_enumValue ⟨0, rfl⟩).stopping.bind fun _ => ?_
  exact Settles.pure _

theorem settles_typeDeclaration (kind : Kind) :
    (typeDeclaration kind).Settles Token.startsDefinition 0 0 := by
  refine Settles.name.bind fun typeName => ?_
  cases kind with
  | scalar => exact settles_directives.bind fun _ => Settles.pure _
  | object | interface =>
    refine settles_implementedInterfaces.bind fun _ => ?_
    refine settles_directives.bind fun _ => ?_
    refine (settles_fields settles_field ⟨0, rfl⟩).bind fun _ => ?_
    exact Settles.pure _
  | union =>
    refine settles_directives.bind fun _ => ?_
    refine settles_members.bind fun _ => ?_
    exact Settles.pure _
  | enum =>
    refine settles_directives.bind fun _ => ?_
    refine settles_values.bind fun _ => ?_
    exact Settles.pure _
  | input =>
    refine settles_directives.bind fun _ => ?_
    refine (settles_fields settles_inputValue ⟨0, rfl⟩).bind fun _ => ?_
    exact Settles.pure _

theorem settles_declaredType : declaredType.Settles Token.startsDefinition 0 0 := by
  intro ts t rest h
  unfold declaredType at h
  split at h
  case h_2 => contradiction
  case h_1 keyword tail =>
    split at h
    case h_2 => contradiction
    case h_1 kind hkind =>
      obtain ⟨used, rfl, hused, hread⟩ := settles_typeDeclaration kind h
      refine ⟨.name keyword :: used, rfl, (Leads.name keyword 0).append hused,
        fun more hmore => ?_⟩
      rw [List.cons_append, declaredType, hkind]
      exact hread more hmore

/-! ### Schema definitions and extensions -/

theorem settles_checked {stops : Token → Bool} {r : Rule α} (hr : r.Settles stops 0 0)
    (does : α → Bool) : (checked r does).Settles stops 0 0 := by
  intro ts a rest h
  unfold checked at h
  split at h
  case h_1 => contradiction
  case h_2 b left hb =>
    split at h
    case isFalse => contradiction
    case isTrue hdoes =>
      obtain ⟨rfl, rfl⟩ := Prod.mk.inj (Except.ok.inj h)
      obtain ⟨used, hts, hused, hread⟩ := hr hb
      refine ⟨used, hts, hused, fun more hmore => ?_⟩
      rw [checked, hread more hmore]
      exact if_pos hdoes

theorem settles_rootType : rootType.Settles anywhere 0 0 := by
  refine Settles.name.bind fun _ => ?_
  refine (Settles.mark fun _ => rfl).bind fun _ => ?_
  refine Settles.name.bind fun _ => ?_
  exact Settles.pure _

theorem settles_rootTypes : rootTypes.Settles anywhere 0 0 := by
  have hoperations : Settles nowhere 0 0 (many Token.isName rootType) :=
    settles_rootType.stopping.many ⟨0, rfl⟩ nofun
  refine settles_directives.staying.bind_of_needsToken (fun _ => ⟨0, rfl⟩) fun _ => ?_
  refine (Settles.mark (o := 1) fun _ => rfl).bind fun _ => ?_
  refine hoperations.inside.bind_of_needsToken (fun _ => ⟨0, rfl⟩) fun _ => ?_
  refine (Settles.mark (o := 0) fun _ => rfl).bind fun _ => ?_
  exact Settles.pure _

theorem settles_schemaDefinition : schemaDefinition.Settles anywhere 0 0 := by
  have hroots : Settles anywhere 0 0 (do word "schema"; rootTypes) :=
    (Settles.word "schema").bind fun _ => settles_rootTypes
  exact (settles_checked hroots areOperations).bind fun _ => Settles.pure _

theorem settles_extension : extension.Settles Token.startsDefinition 0 0 := by
  refine (Settles.word "extend").bind fun _ => ?_
  refine (settles_checked settles_declaredType _).bind fun _ => ?_
  exact Settles.pure _

/-! ### Directive definitions -/

/-- A directive definition up to where its keyword must come. -/
def directiveFront : Rule String := do
  mark .atSign
  let directiveName ← name
  whenNext (Token.isMark .openParen) inputValues ()
  whenNext (Token.isWord "repeatable") (word "repeatable") ()
  return directiveName

/-- The locations of a directive definition, if there are any. -/
def locations : Rule Unit :=
  whenNext startsLocations (do let _ ← separated .bar location) ()

theorem directiveDefinition_eq :
    directiveDefinition = (directiveFront >>= fun directiveName =>
      word "on" >>= fun _ => locations >>= fun _ => pure (.directive directiveName)) := by
  simp only [directiveFront, Rule.bind_assoc]
  rfl

theorem settles_directiveFront : directiveFront.Settles nowhere 0 0 := by
  have hrepeatable : (word "repeatable").Settles nowhere 0 0 := Settles.word _
  refine (Settles.mark fun _ => rfl).bind fun _ => ?_
  refine Settles.name.bind fun _ => ?_
  refine (settles_inputValues.staying.whenNext ⟨0, rfl⟩ nofun).bind fun _ => ?_
  refine (hrepeatable.whenNext ⟨0, rfl⟩ nofun).bind fun _ => ?_
  exact Settles.pure _

theorem location_eq_ok {ts rest : List Token} {a : Unit} (h : location ts = .ok (a, rest)) :
    ∃ text, directiveLocations.contains text = true ∧ ts = .name text :: rest := by
  unfold location at h
  split at h
  · split at h
    case isTrue htext =>
      obtain ⟨_, rfl⟩ := Prod.mk.inj (Except.ok.inj h)
      exact ⟨_, htext, rfl⟩
    case isFalse => contradiction
  · contradiction

theorem settles_location {stops : Token → Bool} : location.Settles stops 0 0 := by
  refine Settles.of_token fun ts a rest h => ?_
  obtain ⟨text, htext, rfl⟩ := location_eq_ok h
  exact ⟨_, rfl, Leads.name text 0, fun more => if_pos htext⟩

theorem settles_locationList :
    Settles Token.startsDefinition 0 0 (do let _ ← separated .bar location) :=
  (settles_separated (fun _ => rfl) settles_location ⟨0, rfl⟩).bind fun _ => Settles.pure _

/-- Some tokens are left, and the keyword of directive definitions is none of those before
    them. -/
def ReadWithoutOn (ts left : List Token) : Prop :=
  ∃ used, ts = used ++ left ∧ .name "on" ∉ used

/-- A rule that reads one other token does not read the keyword. -/
theorem keeps_readWithoutOn {ts : List Token} {r : Rule α}
    (hr : ∀ us a left, r us = .ok (a, left) → ∃ t, us = t :: left ∧ t ≠ .name "on") :
    r.Keeps (ReadWithoutOn ts) := by
  rintro us a left ⟨used, hts, hused⟩ hread
  obtain ⟨t, rfl, ht⟩ := hr us a left hread
  refine ⟨⟨used ++ [t], ?_, ?_⟩, trivial⟩
  · rw [hts, List.append_assoc, List.singleton_append]
  · rw [List.mem_append, List.mem_singleton]
    exact fun hon => hon.elim hused fun heq => ht heq.symm

/-- The keyword of directive definitions is none of the tokens that a list of locations is
    made of. -/
theorem readWithoutOn_of_locationList {ts rest : List Token} {places : List Unit}
    (h : separated .bar location ts = .ok (places, rest)) : ReadWithoutOn ts rest := by
  have hbar : (mark .bar).Keeps (ReadWithoutOn ts) :=
    keeps_readWithoutOn fun _ _ _ hread => ⟨_, mark_eq_ok hread, nofun⟩
  have hlocation : location.Keeps (ReadWithoutOn ts) := by
    refine keeps_readWithoutOn fun us a left hread => ?_
    obtain ⟨text, htext, rfl⟩ := location_eq_ok hread
    refine ⟨_, rfl, ?_⟩
    rintro ⟨⟩
    contradiction
  exact (keeps_separated hbar hlocation ⟨[], rfl, List.not_mem_nil⟩ h).1

/-- A keyword with which a definition starts is no location. -/
theorem locations_of_startsDefinition {t : Token} (ht : t.startsDefinition = true)
    (hstring : t.isString = false) (more : List Token) :
    ∃ left, locations (t :: more) = .error left := by
  cases t with
  | name text =>
    have hkeywords : ∀ keyword ∈ definitionKeywords,
        directiveLocations.contains keyword = false := by decide
    have hnone : directiveLocations.contains text = false :=
      hkeywords text (List.contains_iff_mem.1 ht)
    have hlocation : location (.name text :: more) = .error (more.length + 1) := by
      rw [location, hnone]
      rfl
    have hlead : whenNext (Token.isMark .bar) (mark .bar) () (.name text :: more)
        = .ok ((), .name text :: more) := whenNext_of_not_starts rfl _ _ _
    have hlist : separated .bar location (.name text :: more) = .error (more.length + 1) := by
      rw [separated, bind_of_ok hlead, bind_of_error hlocation]
    exact ⟨more.length + 1, bind_of_error hlist _⟩
  | mark | number | unreadable => contradiction
  | quoted | block => contradiction

/-- Behind the keyword of a directive definition come its locations. -/
theorem directiveDefinition_append {directiveName : String} {front more : List Token}
    (h : directiveFront (front ++ .name "on" :: more)
      = .ok (directiveName, .name "on" :: more)) :
    directiveDefinition (front ++ .name "on" :: more)
      = (locations >>= fun _ => pure (.directive directiveName) : Rule Declaration) more := by
  rw [directiveDefinition_eq, bind_of_ok h, bind_of_ok (word_self "on" more)]

/-- Locations that are there are read up to where another definition may start, and none of
    them is `on`. -/
theorem locations_eq_ok {ts rest : List Token} {a : Unit} (h : locations ts = .ok (a, rest)) :
    (NextIsNot startsLocations ts ∧ rest = ts) ∨
      ∃ used, ts = used ++ rest ∧ used ≠ [] ∧ .name "on" ∉ used ∧ Leads 0 0 used
        ∧ ∀ more, MayFollow Token.startsDefinition rest more →
          locations (used ++ more) = .ok ((), more) := by
  by_cases hnext : NextIsNot startsLocations ts
  · rw [locations, whenNext_of_nextIsNot hnext] at h
    exact Or.inl ⟨hnext, (Prod.mk.inj (Except.ok.inj h)).2.symm⟩
  · obtain ⟨t, tail, rfl, ht⟩ := exists_of_not_nextIsNot hnext
    rw [locations, whenNext_of_starts ht] at h
    obtain ⟨used, hused, hleads, hread⟩ := settles_locationList h
    obtain ⟨places, _, hplaces, hdone⟩ := bind_eq_ok h
    obtain ⟨-, rfl⟩ := Prod.mk.inj (Except.ok.inj hdone)
    -- Both ways the same tokens have been read.
    obtain ⟨_, hused', hnone⟩ := readWithoutOn_of_locationList hplaces
    obtain rfl := List.append_cancel_right (hused.symm.trans hused')
    have hne : used ≠ [] := NeedsToken.ne_nil ⟨0, rfl⟩ hread
    obtain ⟨u, used, rfl⟩ := List.exists_cons_of_ne_nil hne
    obtain rfl := (List.cons.inj hused).1
    refine Or.inr ⟨t :: used, hused, hne, hnone, hleads, fun more hmore => ?_⟩
    rw [List.cons_append, locations, whenNext_of_starts ht]
    exact hread more hmore

end RelayCollections.Sdl
