import Mathlib.Data.List.Basic
import RelayCollections.Proofs.Sdl.Settling

namespace RelayCollections.Sdl

/-!
# Where a definition ends and another starts

Behind a definition, the next one may start with a description or a keyword. Neither is
taken for a part of the definition before it, unless that is a directive definition without
locations: it goes on with the keyword, and fails.

* `EndsUnplaced` — tokens that end with a directive definition without locations;
* `Delimits` — what a definition has read, and what it does with the start of another;
* `delimits_declaration` — every definition is delimited;
* `startsDefinition_of_declaration` — how definitions start.
-/

open Rule

/-- The tokens end with a directive definition that names no location: its last token is its
    keyword. -/
def EndsUnplaced (ds : List Declaration) (ts : List Token) : Prop :=
  (∃ directiveName, ds.getLast? = some (.directive directiveName))
    ∧ ts.getLast? = some (.name "on")

/-- What a definition has read, and that it stops before every other, unless it is one of a
    directive and names no location: then it stops before a description only, and takes a
    keyword for a location. -/
structure Delimits (r : Rule Declaration) (used rest : List Token) (d : Declaration) : Prop where
  leads : Leads 0 0 used
  reads : ∀ more, MayFollow Token.startsDefinition rest more →
    (EndsUnplaced [d] used → MayFollow Token.isString rest more) → r (used ++ more) = .ok (d, more)
  refuses : EndsUnplaced [d] used → ∀ t more, t.startsDefinition = true → t.isString = false →
    ∃ left, r (used ++ t :: more) = .error left

/-- A rule that settles stops before every definition, and is none of a directive. -/
theorem Delimits.of_settles {r : Rule Declaration} (hr : r.Settles Token.startsDefinition 0 0)
    {ts rest : List Token} {d : Declaration} (h : r ts = .ok (d, rest))
    (hd : ∀ directiveName, d ≠ .directive directiveName) :
    ∃ used, ts = used ++ rest ∧ Delimits r used rest d := by
  obtain ⟨used, hts, hused, hread⟩ := hr h
  refine ⟨used, hts, hused, fun more hmore _ => hread more hmore, ?_⟩
  rintro ⟨⟨directiveName, hlast⟩, -⟩
  exact absurd (Option.some.inj hlast) (hd directiveName)

/-- A rule that needs a token has read one. -/
theorem Delimits.ne_nil {r : Rule Declaration} (hr : r.NeedsToken) {used rest : List Token}
    {d : Declaration} (h : Delimits r used rest d) : used ≠ [] := by
  rintro rfl
  obtain ⟨left, hleft⟩ := hr
  have hnil : r [] = .ok (d, []) := h.reads [] (MayFollow.nil _ _) fun _ => MayFollow.nil _ _
  rw [hleft] at hnil
  contradiction

/-- A definition goes on where a rule does, behind what stands before it. -/
theorem Delimits.prepend {r r' : Rule Declaration} {front used rest : List Token}
    {d : Declaration} (h : Delimits r used rest d) (hne : used ≠ []) (hfront : Leads 0 0 front)
    (hr : ∀ more, r' (front ++ (used ++ more)) = r (used ++ more)) :
    Delimits r' (front ++ used) rest d := by
  have hunplaced : EndsUnplaced [d] (front ++ used) → EndsUnplaced [d] used := by
    rintro ⟨hd, hlast⟩
    exact ⟨hd, List.getLast?_append_of_ne_nil front hne ▸ hlast⟩
  refine ⟨hfront.append h.leads, fun more hmore hstring => ?_, fun hends t more ht hstring => ?_⟩
  · rw [List.append_assoc, hr]
    refine h.reads more hmore fun hends => hstring ⟨hends.1, ?_⟩
    rw [List.getLast?_append_of_ne_nil front hne, hends.2]
  · rw [List.append_assoc, hr]
    exact h.refuses (hunplaced hends) t more ht hstring

/-! ### Kinds of definitions -/

section

variable {directiveName : String} {front : List Token} (hleads : Leads 0 0 front)
  (hread : ∀ more, directiveDefinition (front ++ .name "on" :: more)
    = (locations >>= fun _ => pure (.directive directiveName) : Rule Declaration) more)

include hleads hread

/-- A directive definition without locations stops before a description. -/
theorem delimits_unplaced {rest : List Token} (hnext : NextIsNot startsLocations rest) :
    Delimits directiveDefinition (front ++ [.name "on"]) rest (.directive directiveName) := by
  have hunplaced : EndsUnplaced [.directive directiveName] (front ++ [.name "on"]) :=
    ⟨⟨directiveName, rfl⟩, List.getLast?_concat⟩
  refine ⟨hleads.append (Leads.name "on" 0), ?_, ?_⟩
  · intro more _ hstring
    have hmore : NextIsNot startsLocations more := by
      refine (hstring hunplaced).nextIsNot (fun t ht => ?_) hnext
      cases t <;> first | contradiction | rfl
    have habsent : locations more = .ok ((), more) := whenNext_of_nextIsNot hmore _ _
    rw [← List.append_cons, hread, bind_of_ok habsent]
    rfl
  · intro _ t more hstarts hstring
    obtain ⟨left, hleft⟩ := locations_of_startsDefinition hstarts hstring more
    refine ⟨left, ?_⟩
    rw [← List.append_cons, hread, bind_of_error hleft]

/-- A directive definition with locations stops before every definition. -/
theorem delimits_placed {used rest : List Token} (hne : used ≠ []) (hnone : .name "on" ∉ used)
    (hused : Leads 0 0 used)
    (hlocations : ∀ more, MayFollow Token.startsDefinition rest more →
      locations (used ++ more) = .ok ((), more)) :
    Delimits directiveDefinition (front ++ .name "on" :: used) rest
      (.directive directiveName) := by
  have hplaced : ¬ EndsUnplaced [.directive directiveName] (front ++ .name "on" :: used) := by
    rintro ⟨-, hlast⟩
    rw [List.append_cons, List.getLast?_append_of_ne_nil _ hne] at hlast
    exact hnone (List.mem_of_getLast? hlast)
  refine ⟨hleads.append ((Leads.name "on" 0).append hused), ?_, fun h => absurd h hplaced⟩
  intro more hmore _
  rw [List.append_assoc, List.cons_append, hread, bind_of_ok (hlocations more hmore)]
  rfl

end

/-- Every directive definition has locations or none. -/
theorem delimits_directiveDefinition {ts rest : List Token} {d : Declaration}
    (h : directiveDefinition ts = .ok (d, rest)) :
    ∃ used, ts = used ++ rest ∧ Delimits directiveDefinition used rest d := by
  rw [directiveDefinition_eq] at h
  obtain ⟨directiveName, mid, hfront, h⟩ := bind_eq_ok h
  obtain ⟨_, tail, hword, h⟩ := bind_eq_ok h
  obtain ⟨_, left, hlocations, h⟩ := bind_eq_ok h
  obtain ⟨rfl, rfl⟩ := Prod.mk.inj (Except.ok.inj h)
  obtain rfl := word_eq_ok hword
  obtain ⟨front, rfl, hleads, hreadFront⟩ := settles_directiveFront hfront
  -- What follows the keyword does not matter before it.
  have hread : ∀ more, directiveDefinition (front ++ .name "on" :: more)
      = (locations >>= fun _ => pure (.directive directiveName) : Rule Declaration) more :=
    fun more => directiveDefinition_append (hreadFront _ fun t ht => Or.inl ht)
  rcases locations_eq_ok hlocations with
    ⟨hnext, rfl⟩ | ⟨used, rfl, hne, hnone, hused, hreadUsed⟩
  · exact ⟨_, List.append_cons .., delimits_unplaced hleads hread hnext⟩
  · exact ⟨front ++ .name "on" :: used, (List.append_assoc front (_ :: used) _).symm,
      delimits_placed hleads hread hne hnone hused hreadUsed⟩

theorem describedDefinition_of_nextIsNot {ts : List Token}
    (h : NextIsNot (Token.isWord "directive") ts) :
    describedDefinition ts = (do return .type (← declaredType) : Rule Declaration) ts := by
  unfold describedDefinition
  split
  · exact absurd (h _ rfl) (by decide)
  · rfl

/-- Behind its description, a definition is one of a directive or a declared type. -/
theorem describedDefinition_eq_ok {ts rest : List Token} {d : Declaration}
    (h : describedDefinition ts = .ok (d, rest)) :
    (∃ tail, ts = .name "directive" :: tail ∧ directiveDefinition tail = .ok (d, rest)) ∨
      (NextIsNot (Token.isWord "directive") ts
        ∧ ∃ t, d = .type t ∧ declaredType ts = .ok (t, rest)) := by
  by_cases hdirective : NextIsNot (Token.isWord "directive") ts
  · rw [describedDefinition_of_nextIsNot hdirective] at h
    obtain ⟨t, _, hdeclared, hd⟩ := bind_eq_ok h
    obtain ⟨rfl, rfl⟩ := Prod.mk.inj (Except.ok.inj hd)
    exact Or.inr ⟨hdirective, t, rfl, hdeclared⟩
  · obtain ⟨tail, rfl⟩ := exists_of_not_nextIsNot_isWord hdirective
    exact Or.inl ⟨tail, rfl, h⟩

theorem declaration_of_nextIsNot {ts : List Token} (hschema : NextIsNot (Token.isWord "schema") ts)
    (hextend : NextIsNot (Token.isWord "extend") ts) :
    declaration ts = (do description; describedDefinition : Rule Declaration) ts := by
  unfold declaration
  split
  · exact absurd (hschema _ rfl) (by decide)
  · exact absurd (hextend _ rfl) (by decide)
  · rfl

/-- A definition is one of the schema, an extension, or one that may be described. -/
theorem declaration_eq_ok {ts rest : List Token} {d : Declaration}
    (h : declaration ts = .ok (d, rest)) :
    (∃ tail, ts = .name "schema" :: tail ∧ schemaDefinition ts = .ok (d, rest)) ∨
      (∃ tail, ts = .name "extend" :: tail ∧ extension ts = .ok (d, rest)) ∨
      (NextIsNot (Token.isWord "schema") ts ∧ NextIsNot (Token.isWord "extend") ts
        ∧ ∃ mid, description ts = .ok ((), mid) ∧ describedDefinition mid = .ok (d, rest)) := by
  by_cases hschema : NextIsNot (Token.isWord "schema") ts
  · by_cases hextend : NextIsNot (Token.isWord "extend") ts
    · rw [declaration_of_nextIsNot hschema hextend] at h
      obtain ⟨_, mid, hdescription, hdescribed⟩ := bind_eq_ok h
      exact Or.inr (Or.inr ⟨hschema, hextend, mid, hdescription, hdescribed⟩)
    · obtain ⟨tail, rfl⟩ := exists_of_not_nextIsNot_isWord hextend
      exact Or.inr (Or.inl ⟨tail, rfl, h⟩)
  · obtain ⟨tail, rfl⟩ := exists_of_not_nextIsNot_isWord hschema
    exact Or.inl ⟨tail, rfl, h⟩

theorem delimits_describedDefinition {ts rest : List Token} {d : Declaration}
    (h : describedDefinition ts = .ok (d, rest)) :
    ∃ used, ts = used ++ rest ∧ Delimits describedDefinition used rest d := by
  rcases describedDefinition_eq_ok h with ⟨tail, rfl, hdirective⟩ | ⟨hnext, t, rfl, _⟩
  · obtain ⟨used, rfl, hused⟩ := delimits_directiveDefinition hdirective
    have hkeyword := Leads.name "directive" 0
    exact ⟨_, rfl, hused.prepend (hused.ne_nil ⟨0, rfl⟩) hkeyword fun more => rfl⟩
  · have hsettles : Settles Token.startsDefinition 0 0
        (do return .type (← declaredType) : Rule Declaration) :=
      settles_declaredType.bind fun _ => Settles.pure _
    rw [describedDefinition_of_nextIsNot hnext] at h
    obtain ⟨used, rfl, hused⟩ := Delimits.of_settles hsettles h nofun
    have hne := hused.ne_nil ⟨0, rfl⟩
    refine ⟨used, rfl, hused.prepend hne (Leads.nil 0) fun more => ?_⟩
    have hsame := MayFollow.append_of_ne_nil hne nowhere rest more
    exact describedDefinition_of_nextIsNot (hsame.nextIsNot nofun hnext)

/-- A definition with a keyword of its own goes on where the rule for it does. -/
theorem Delimits.of_keyword {keyword : String} {r : Rule Declaration}
    {ts used rest : List Token} {d : Declaration} (h : Delimits r used rest d)
    (hneeds : r.NeedsToken) (hts : .name keyword :: ts = used ++ rest)
    (hr : ∀ us, declaration (.name keyword :: us) = r (.name keyword :: us)) :
    used ≠ [] ∧ Delimits declaration used rest d := by
  have hne := h.ne_nil hneeds
  obtain ⟨u, us, rfl⟩ := List.exists_cons_of_ne_nil hne
  obtain rfl := (List.cons.inj hts).1
  exact ⟨hne, h.prepend hne (Leads.nil 0) fun more => hr (us ++ more)⟩

/-- Every definition stops before every other, but for directive definitions without
    locations. -/
theorem delimits_declaration {ts rest : List Token} {d : Declaration}
    (h : declaration ts = .ok (d, rest)) :
    ∃ used, ts = used ++ rest ∧ used ≠ [] ∧ Delimits declaration used rest d := by
  rcases declaration_eq_ok h with ⟨tail, rfl, hschema⟩ | ⟨tail, rfl, hextend⟩ |
    ⟨hschema, hextend, mid, hdescription, hdescribed⟩
  · obtain ⟨_, _, _, hd⟩ := bind_eq_ok hschema
    obtain ⟨rfl, -⟩ := Prod.mk.inj (Except.ok.inj hd)
    obtain ⟨used, hts, hused⟩ :=
      Delimits.of_settles settles_schemaDefinition.stopping hschema nofun
    exact ⟨used, hts, hused.of_keyword ⟨0, rfl⟩ hts fun _ => rfl⟩
  · obtain ⟨_, _, _, hadded⟩ := bind_eq_ok hextend
    obtain ⟨_, _, _, hd⟩ := bind_eq_ok hadded
    obtain ⟨rfl, -⟩ := Prod.mk.inj (Except.ok.inj hd)
    obtain ⟨used, hts, hused⟩ := Delimits.of_settles settles_extension hextend nofun
    exact ⟨used, hts, hused.of_keyword ⟨0, rfl⟩ hts fun _ => rfl⟩
  · obtain ⟨front, rfl, hfront, hreadFront⟩ := settles_description hdescription
    obtain ⟨used, rfl, hused⟩ := delimits_describedDefinition hdescribed
    have hne := hused.ne_nil ⟨0, rfl⟩
    refine ⟨front ++ used, (List.append_assoc ..).symm, ?_,
      hused.prepend hne hfront fun more => ?_⟩
    · exact fun hnil => hne (List.append_eq_nil_iff.1 hnil).2
    -- The first token is the same, so it is no other keyword here either.
    have hbehind := MayFollow.append_of_ne_nil hne nowhere rest more
    have hsame : MayFollow nowhere (front ++ (used ++ rest)) (front ++ (used ++ more)) :=
      hbehind.append
    rw [declaration_of_nextIsNot (hsame.nextIsNot nofun hschema) (hsame.nextIsNot nofun hextend),
      bind_of_ok (hreadFront _ hbehind)]

/-! ### First tokens -/

/-- A declared type starts with its keyword. -/
theorem startsDefinition_of_declaredType {ts rest : List Token} {t : TypeDeclaration}
    (h : declaredType ts = .ok (t, rest)) : ∃ u ∈ ts.head?, u.startsDefinition = true := by
  unfold declaredType at h
  split at h
  case h_2 => contradiction
  case h_1 keyword tail =>
    split at h
    case h_2 => contradiction
    case h_1 kind hkind =>
      refine ⟨_, rfl, ?_⟩
      unfold Kind.ofKeyword? at hkind
      split at hkind
      all_goals first | contradiction | decide

/-- Every definition starts with a description or a keyword. -/
theorem startsDefinition_of_declaration {ts rest : List Token} {d : Declaration}
    (h : declaration ts = .ok (d, rest)) : ∃ t ∈ ts.head?, t.startsDefinition = true := by
  rcases declaration_eq_ok h with ⟨tail, rfl, _⟩ | ⟨tail, rfl, _⟩ |
    ⟨_, _, mid, hdescription, hdescribed⟩
  · exact ⟨_, rfl, by decide⟩
  · exact ⟨_, rfl, by decide⟩
  · by_cases hstring : NextIsNot Token.isString ts
    · rw [description, whenNext_of_nextIsNot hstring] at hdescription
      obtain ⟨-, rfl⟩ := Prod.mk.inj (Except.ok.inj hdescription)
      rcases describedDefinition_eq_ok hdescribed with ⟨tail, rfl, _⟩ | ⟨_, t, _, hdeclared⟩
      · exact ⟨_, rfl, by decide⟩
      · exact startsDefinition_of_declaredType hdeclared
    · obtain ⟨t, tail, rfl, ht⟩ := exists_of_not_nextIsNot hstring
      refine ⟨t, rfl, ?_⟩
      cases t <;> first | contradiction | rfl

end RelayCollections.Sdl
