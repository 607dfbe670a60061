import RelayCollections.Config
import RelayCollections.Proofs.Json.Closed

namespace RelayCollections

/-!
# Configurations are read faithfully

A configuration is written as a list of entries and a flag. The list becomes a table in which,
of entries with one name, the last counts; looked up in the table, a built-in scalar is what it
is anyway. Nothing else can be written beside the two.

* `Config.lastStorage?` — the storage in the last entry of a name;
* `getElem?_ofList` — the table of entries has the last entry of each name;
* `ScalarTable.withoutClashes` — the entries that have an effect answer as all entries do;
* `Config.form` — the ways to write entries and a flag;
* `Config.reads_form`, `Config.keys_of_ofText` — these are read, and other keys are refused;
* `Config.ofText_faithful` — both, of whole texts.
-/

/-! ### Tables -/

/-- The storage in the last entry of a name. -/
def Config.lastStorage? (entries : List (String × Storage)) (name : String) : Option Storage :=
  entries.reverse.lookup name

/-- Entries that are put into a table cover what was there under their names. -/
theorem getElem?_insertMany (entries : List (String × Storage))
    (table : Std.ExtTreeMap String Storage) (name : String) :
    (table.insertMany entries)[name]? = (Config.lastStorage? entries name).or table[name]? := by
  induction entries generalizing table with
  | nil =>
    rw [Std.ExtTreeMap.insertMany_nil]
    rfl
  | cons entry rest ih =>
    obtain ⟨key, storage⟩ := entry
    -- The first entry counts only if the rest has none of its name.
    have hfirst : (table.insert key storage)[name]?
        = (List.lookup name [(key, storage)]).or table[name]? := by
      rw [Std.ExtTreeMap.getElem?_insert, List.lookup_cons]
      by_cases hkey : name = key
      · subst hkey
        simp
      · rw [if_neg (by simpa using Ne.symm hkey), beq_eq_false_iff_ne.2 hkey]
        rfl
    rw [Std.ExtTreeMap.insertMany_cons, ih, hfirst, ← Option.or_assoc]
    congr 1
    rw [Config.lastStorage?, Config.lastStorage?, List.reverse_cons, List.lookup_append]

/-- The table of entries has the last entry of each name. -/
theorem getElem?_ofList (entries : List (String × Storage)) (name : String) :
    (Std.ExtTreeMap.ofList entries)[name]? = Config.lastStorage? entries name := by
  rw [Std.ExtTreeMap.ofList_eq_insertMany_empty, getElem?_insertMany]
  simp

namespace ScalarTable

/-- The table of those entries alone that have an effect. -/
def withoutClashes (table : ScalarTable) : ScalarTable where
  custom := table.custom.filter fun name _ => (builtInStorage? name).isNone

/-- No entry that clashes with a built-in scalar is ever looked at. -/
theorem storage?_withoutClashes (table : ScalarTable) (name : String) :
    table.withoutClashes.storage? name = table.storage? name := by
  rw [storage?, storage?, withoutClashes, Std.ExtTreeMap.getElem?_filter']
  cases hbuiltIn : builtInStorage? name with
  | some storage => rfl
  | none =>
    cases table.custom[name]? with
    | none => rfl
    | some storage => simp

end ScalarTable

namespace Config

open Json (AreParts EntriesHave Form Members Reads Slot SlotsRead Tree)

/-! ### Forms -/

/-- A primitive: its name, or an object with its name as the one key and null behind it. -/
def storageForm (storage : Storage) : Form where
  Holds depth tree := (Form.string storage.name).Holds depth tree
    ∨ (Form.entries [(storage.name, .null)]).Holds depth tree
  isSound := by
    rintro depth tree (htree | htree)
    · exact Form.isSound _ htree
    · exact Form.isSound _ htree

/-- A table: an object with an entry for each name, in order and with repeats. -/
def tableForm (entries : List (String × Storage)) : Form :=
  .entries (entries.map fun (name, storage) => (name, storageForm storage))

/-- A configuration: the entries and the flag, and nothing else. The entries may be left out
    if there are none, and the flag if it does not hold. -/
def form (entries : List (String × Storage)) (strict : Bool) : Form :=
  .closedRecord [
    { key := "custom_scalars", mayBeAbsent := entries.isEmpty, form := tableForm entries },
    { key := "strict_scalars", mayBeAbsent := !strict, form := .flag strict }]

/-! ### Readers -/

/-- A primitive is found under its own name. -/
theorem storageOfName_name (storage : Storage) : storageOfName storage.name = .ok storage := by
  rw [storageOfName, Storage.ofName?_name]

variable {depth : Nat}

/-- Primitives are read in either form. -/
theorem reads_storageForm (s : Storage) : Reads storage depth (storageForm s) s := by
  rintro tree (⟨pieces, rfl, hpieces⟩ | hentries)
  · rw [storage, Json.wantedString, hpieces]
    exact storageOfName_name s
  · cases depth with
    | zero => exact hentries.elim
    | succ depth =>
      obtain ⟨members, rfl, hmembers⟩ := hentries
      -- There is one entry, and it has null.
      cases hmembers with
      | cons hkey hvalue hrest =>
        cases hrest
        obtain rfl : _ = Tree.null := hvalue
        rw [storage, Json.wantedString, hkey]
        show (storageOfName s.name >>= fun storage => Except.ok storage) = _
        rw [storageOfName_name]
        rfl

/-- Entries are read one after another. -/
theorem storageEntries_of_entriesHave {entries : List (String × Storage)} {members : Members}
    (h : EntriesHave depth (entries.map fun (name, storage) => (name, storageForm storage))
      members) : storageEntries depth members = .ok entries := by
  induction entries generalizing members with
  | nil =>
    cases h
    rfl
  | cons entry rest ih =>
    obtain ⟨name, s⟩ := entry
    cases h with
    | cons hkey hvalue hrest =>
      rw [storageEntries, Json.wantedString, hkey]
      show (storage depth _ >>= fun s => storageEntries depth _ >>= fun others =>
        Except.ok ((name, s) :: others)) = _
      rw [reads_storageForm s _ hvalue, ok_bind, ih hrest]
      rfl

/-- Tables are read in every form. -/
theorem reads_tableForm (entries : List (String × Storage)) :
    Reads storageTable depth (tableForm entries) { custom := .ofList entries } := by
  cases depth with
  | zero => exact fun _ h => h.elim
  | succ depth =>
    rintro _ ⟨members, rfl, hmembers⟩
    rw [storageTable, storageEntries_of_entriesHave hmembers]
    rfl

/-- The slots of a configuration with what is read from them. -/
private def entriesOf (entries : List (String × Storage)) (strict : Bool) : List (Slot × Part) := [
  ({ key := "custom_scalars", mayBeAbsent := entries.isEmpty, form := tableForm entries },
    .scalars { custom := .ofList entries }),
  ({ key := "strict_scalars", mayBeAbsent := !strict, form := .flag strict }, .strict strict)]

/-- The table in a part of a configuration. -/
private def Part.scalars? : Part → Option ScalarTable
  | .scalars table => some table
  | _ => none

/-- The flag in a part of a configuration. -/
private def Part.strict? : Part → Option Bool
  | .strict holds => some holds
  | _ => none

/-- **Configurations are read in every form.** -/
theorem reads_form (entries : List (String × Storage)) (strict : Bool) :
    Reads record.read (depth + 1) (form entries strict)
      { scalars := { custom := .ofList entries }, strict } := by
  have hslots : SlotsRead depth record.members (entriesOf entries strict) := by
    refine .cons ⟨rfl, ?_⟩ (.cons ⟨rfl, ?_⟩ .nil)
    · exact Json.reads_map Part.scalars (reads_tableForm entries)
    · exact Json.reads_map Part.strict (Json.reads_flag strict)
  refine Json.reads_closedRecord (by decide) hslots ?_
  intro absent parts h
  have hscalars : (parts.findSome? Part.scalars?).getD {} = { custom := .ofList entries } := by
    refine h.getD_findSome? (by simp [entriesOf, Part.scalars?]) fun hne => ?_
    refine ⟨_, List.mem_cons_self, ?_, rfl⟩
    -- Without entries the table would be the one that is there by default.
    rw [List.isEmpty_eq_false_iff]
    rintro rfl
    exact hne rfl
  have hstrict : (parts.findSome? Part.strict?).getD false = strict := by
    refine h.getD_findSome? (by simp [entriesOf, Part.strict?]) fun hne => ?_
    refine ⟨_, List.mem_cons_of_mem _ List.mem_cons_self, ?_, rfl⟩
    simpa using hne
  show Except.ok (Config.mk ((parts.findSome? Part.scalars?).getD {})
    ((parts.findSome? Part.strict?).getD false)) = _
  rw [hscalars, hstrict]

/-- What is read of an object has no other keys than the two, and neither of them twice. -/
theorem keys_of_ofText {text : String} {members : Members} {config : Config}
    (hsound : members.isSound = true)
    (hspells : Json.Spells text.toList (Tree.object members).tokens)
    (h : ofText text = .ok config) :
    (members.keys.map Json.decode?).Nodup
      ∧ ∀ pieces ∈ members.keys,
        Json.decode? pieces ∈ [some "custom_scalars", some "strict_scalars"] := by
  have hobject : (Tree.object members).isSound = true := hsound
  rw [ofText, Json.readWhole, Json.readText_of_spells hobject hspells] at h
  obtain ⟨_, hread, _⟩ := bind_eq_ok_iff.1 h
  obtain ⟨parts, hparts, _⟩ := bind_eq_ok_iff.1 hread
  obtain ⟨hnodup, hkeys⟩ := Json.keys_of_partsOfMembers (r := record) rfl members [] parts hparts
  refine ⟨hnodup, fun pieces hpieces => ?_⟩
  obtain ⟨key, hdeclared, _, hdecode⟩ := hkeys pieces hpieces
  rw [hdecode]
  exact List.mem_map_of_mem (f := some) hdeclared

/-! ### Whole texts -/

/-- **Configurations are read faithfully.** Every text that writes entries and a flag in one of
    their forms is read as the table of the entries, in which the last of each name counts, and
    the flag. Of the table, or of those of its entries that have an effect, a name is answered
    with its built-in storage, else with that of its last entry, if it has one. A JSON object
    with another key than the two, or with one of them twice, is refused. -/
theorem ofText_faithful (text : String) :
    (∀ entries strict, (form entries strict).Writes text →
        ∃ config, ofText text = .ok config
          ∧ config.strict = strict
          ∧ (∀ name, config.scalars.custom[name]? = lastStorage? entries name)
          ∧ ∀ name,
            config.scalars.storage? name = (builtInStorage? name).or (lastStorage? entries name)
            ∧ config.scalars.withoutClashes.storage? name
              = (builtInStorage? name).or (lastStorage? entries name))
      ∧ ∀ members : Members, members.isSound = true →
        Json.Spells text.toList (Tree.object members).tokens →
        (∃ pieces ∈ members.keys,
            Json.decode? pieces ∉ [some "custom_scalars", some "strict_scalars"])
          ∨ ¬ (members.keys.map Json.decode?).Nodup →
        ∃ fault, ofText text = .error fault := by
  constructor
  · intro entries strict hwrites
    have hread : ofText text = .ok { scalars := { custom := .ofList entries }, strict } :=
      Json.readWhole_of_writes (reads_form entries strict) hwrites
    refine ⟨_, hread, rfl, getElem?_ofList entries, fun name => ?_⟩
    rw [ScalarTable.storage?_withoutClashes, ScalarTable.storage?, getElem?_ofList]
    exact ⟨rfl, rfl⟩
  · intro members hsound hspells hkeys
    cases hread : ofText text with
    | error fault => exact ⟨fault, rfl⟩
    | ok config =>
      obtain ⟨hnodup, hdeclared⟩ := keys_of_ofText hsound hspells hread
      rcases hkeys with ⟨pieces, hpieces, hother⟩ | htwice
      · exact absurd (hdeclared pieces hpieces) hother
      · exact absurd hnodup htwice

/-- Three entries: one of a built-in scalar, and two of one name, which is spelled with an
    escape in the second; there the primitive is a key. -/
def respelledEntries : Members :=
  .cons (Json.encode "ID") (.string (Json.encode "Number")) <|
    .cons (Json.encode "Url") (.string (Json.encode "Date")) <|
      .cons [.unit '0' '0' '5' '5', .plain 'r', .plain 'l']
        (.object (.cons (Json.encode "String") .null .closed)) .closed

/-- The flag before the entries. -/
def respelledMembers : Members :=
  .cons (Json.encode "strict_scalars") (.bool true) <|
    .cons (Json.encode "custom_scalars") (.object respelledEntries) .closed

/-- The flag twice. -/
def repeatedMembers : Members :=
  .cons (Json.encode "strict_scalars") (.bool true) <|
    .cons (Json.encode "strict_scalars") (.bool true) .closed

/-- The text of an object without any white space. -/
def objectText (members : Members) : String :=
  String.ofList ((Tree.object members).tokens.flatMap Json.Token.text)

/-- The text of an object spells it, if nothing in it needs white space behind it. -/
private theorem spells_objectText {members : Members}
    (h : (Tree.object members).tokens.all Json.Token.isFree = true) :
    Json.Spells (objectText members).toList (Tree.object members).tokens := by
  rw [objectText, String.toList_ofList]
  exact Json.spells_flatMap_text h

/-- The entries are in the form of their table. -/
private theorem holds_respelledEntries :
    (tableForm [("ID", .number), ("Url", .date), ("Url", .string)]).Holds (depth + 2)
      (.object respelledEntries) := by
  refine ⟨_, rfl, .cons (Json.decode?_encode _) (Or.inl ⟨_, rfl, Json.decode?_encode _⟩) ?_⟩
  refine .cons (Json.decode?_encode _) (Or.inl ⟨_, rfl, Json.decode?_encode _⟩) ?_
  exact .cons (by decide) (Or.inr ⟨_, rfl, .cons (Json.decode?_encode _) rfl .closed⟩) .closed

/-- The first object is in the form of the entries and the flag. -/
private theorem holds_respelledMembers :
    (form [("ID", .number), ("Url", .date), ("Url", .string)] true).Holds Json.nestingLimit
      (.object respelledMembers) := by
  refine ⟨Or.inl ⟨_, rfl, ?_⟩, ?_⟩
  · -- The flag fills the second slot, and then the entries the first.
    refine @Json.MembersFill.member _ _ [_] [] _ _ _ _ (Json.decode?_encode _) rfl ?_
    exact @Json.MembersFill.member _ _ [] [] _ _ _ _ (Json.decode?_encode _)
      holds_respelledEntries (.closed (List.forall_mem_nil _))
  · show ∀ pieces ∈ respelledMembers.keys, _
    decide

/-- The entry of the built-in scalar has no effect, and of the two of one name the last counts.
    The other object is refused. -/
theorem ofText_faithful_respelled :
    (form [("ID", .number), ("Url", .date), ("Url", .string)] true).Writes
        (objectText respelledMembers)
      ∧ (∃ config, ofText (objectText respelledMembers) = .ok config ∧ config.strict = true
        ∧ config.scalars.storage? "ID" = some .objectId
        ∧ config.scalars.storage? "Url" = some .string
        ∧ config.scalars.storage? "Email" = none)
      ∧ ¬ (repeatedMembers.keys.map Json.decode?).Nodup
      ∧ ∃ fault, ofText (objectText repeatedMembers) = .error fault := by
  have hwrites : (form [("ID", .number), ("Url", .date), ("Url", .string)] true).Writes
      (objectText respelledMembers) :=
    ⟨_, holds_respelledMembers, spells_objectText (by decide)⟩
  have htwice : ¬ (repeatedMembers.keys.map Json.decode?).Nodup := by decide
  obtain ⟨config, hread, hstrict, _, hstorage⟩ :=
    (ofText_faithful (objectText respelledMembers)).1 _ _ hwrites
  refine ⟨hwrites, ⟨config, hread, hstrict, ?_, ?_, ?_⟩, htwice, ?_⟩
  · exact (hstorage "ID").1
  · exact (hstorage "Url").1
  · exact (hstorage "Email").1
  · exact (ofText_faithful (objectText repeatedMembers)).2 repeatedMembers rfl
      (spells_objectText (by decide)) (Or.inr htwice)

end Config

end RelayCollections
