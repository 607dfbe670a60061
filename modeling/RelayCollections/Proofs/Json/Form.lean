import Mathlib.Data.List.Nodup
import RelayCollections.Proofs.Json.Carrying

namespace RelayCollections.Json

/-!
# Forms of JSON values

A value can be written in many ways that a reader of a known shape takes to be the same: a
record as an object, with its members in any order and others between them, or as an array;
what a record lacks by leaving it out or as null; a string with any escapes. A form is the
set of these ways. It is built along the value, and says nothing of any reader.

* `Form` — the trees that write a value, given how many levels may be nested;
* `Form.string`, `Form.array`, `Form.record` — forms of strings, arrays and records;
* `Slot` — what a record has under a key, and whether it may be left out;
* `Form.Writes` — a text writes a value in one of these ways;
* `Reads` — a reader reads all trees of a form as one value;
* `reads_text`, `reads_many`, `reads_record`, … — the readers of this library do.
-/

/-- The trees that write a value, by the number of arrays and objects that may still be
    nested. All of them are JSON to their end. -/
structure Form where
  Holds : Nat → Tree → Prop
  isSound : ∀ {depth : Nat} {tree : Tree}, Holds depth tree → tree.isSound = true

/-- What a record has under a key. -/
structure Slot where
  key : String
  /-- The key may be left out. -/
  mayBeAbsent : Bool
  form : Form

/-! ### Forms of single values and arrays -/

/-- Null. -/
def Form.null : Form where
  Holds _ tree := tree = .null
  isSound := by
    rintro _ _ rfl
    rfl

/-- A string, with any escapes. -/
def Form.string (s : String) : Form where
  Holds _ tree := ∃ pieces, tree = .string pieces ∧ decode? pieces = some s
  isSound := by
    rintro _ _ ⟨pieces, rfl, _⟩
    rfl

/-- The items of an array have the forms, one after another. -/
inductive ItemsHave (depth : Nat) : List Form → Items → Prop where
  | closed : ItemsHave depth [] .closed
  | cons {f : Form} {fs : List Form} {item : Tree} {rest : Items} (hitem : f.Holds depth item)
      (hrest : ItemsHave depth fs rest) : ItemsHave depth (f :: fs) (.cons item rest)

theorem ItemsHave.isSound {depth : Nat} {fs : List Form} {items : Items}
    (h : ItemsHave depth fs items) : items.isSound = true := by
  induction h with
  | closed => rfl
  | cons hitem _ ih =>
    rw [Items.isSound, Form.isSound _ hitem, ih]
    rfl

/-- An array of forms takes one level. -/
def Form.array (fs : List Form) : Form where
  Holds
    | 0, _ => False
    | depth + 1, tree => ∃ items, tree = .array items ∧ ItemsHave depth fs items
  isSound := by
    rintro (_ | depth) tree h
    · exact h.elim
    · obtain ⟨items, rfl, hitems⟩ := h
      exact hitems.isSound

/-- An array of forms, or null in place of an array without items. -/
def Form.list (fs : List Form) : Form where
  Holds depth tree := (fs = [] ∧ tree = .null) ∨ (Form.array fs).Holds depth tree
  isSound := by
    rintro depth tree (⟨_, rfl⟩ | htree)
    · rfl
    · exact Form.isSound _ htree

/-! ### Forms of records -/

/-- The members of an object fill the slots, in any order, each slot at most once. Between
    them there may be members under keys that are not declared, with anything behind them. -/
inductive MembersFill (depth : Nat) (declared : List String) : List Slot → Members → Prop where
  | closed {slots : List Slot} (habsent : ∀ slot ∈ slots, slot.mayBeAbsent = true) :
      MembersFill depth declared slots .closed
  | member {before behind : List Slot} {slot : Slot} {pieces : List Piece} {value : Tree}
      {rest : Members} (hkey : decode? pieces = some slot.key)
      (hvalue : slot.form.Holds depth value)
      (hrest : MembersFill depth declared (before ++ behind) rest) :
      MembersFill depth declared (before ++ slot :: behind) (.cons pieces value rest)
  | added {slots : List Slot} {pieces : List Piece} {key : String} {value : Tree}
      {rest : Members} (hkey : decode? pieces = some key) (hnew : key ∉ declared)
      (hvalue : value.isSound = true) (hrest : MembersFill depth declared slots rest) :
      MembersFill depth declared slots (.cons pieces value rest)

/-- The items of an array fill the slots in their order. The last ones may be left out. -/
inductive ItemsFill (depth : Nat) : List Slot → Items → Prop where
  | closed {slots : List Slot} (habsent : ∀ slot ∈ slots, slot.mayBeAbsent = true) :
      ItemsFill depth slots .closed
  | cons {slot : Slot} {slots : List Slot} {item : Tree} {rest : Items}
      (hitem : slot.form.Holds depth item) (hrest : ItemsFill depth slots rest) :
      ItemsFill depth (slot :: slots) (.cons item rest)

theorem MembersFill.isSound {depth : Nat} {declared : List String} {slots : List Slot}
    {members : Members} (h : MembersFill depth declared slots members) :
    members.isSound = true := by
  induction h with
  | closed _ => rfl
  | member _ hvalue _ ih =>
    rw [Members.isSound, Form.isSound _ hvalue, ih]
    rfl
  | added _ _ hvalue _ ih =>
    rw [Members.isSound, hvalue, ih]
    rfl

theorem ItemsFill.isSound {depth : Nat} {slots : List Slot} {items : Items}
    (h : ItemsFill depth slots items) : items.isSound = true := by
  induction h with
  | closed _ => rfl
  | cons hitem _ ih =>
    rw [Items.isSound, Form.isSound _ hitem, ih]
    rfl

/-- A record takes one level, as an object or as an array. -/
def Form.record (slots : List Slot) : Form where
  Holds
    | 0, _ => False
    | depth + 1, tree =>
      (∃ members, tree = .object members ∧ MembersFill depth (slots.map Slot.key) slots members)
        ∨ ∃ items, tree = .array items ∧ ItemsFill depth slots items
  isSound := by
    rintro (_ | depth) tree h
    · exact h.elim
    · rcases h with ⟨members, rfl, hmembers⟩ | ⟨items, rfl, hitems⟩
      · exact hmembers.isSound
      · exact hitems.isSound

/-- What a record must have. -/
def Slot.required (key : String) (form : Form) : Slot where
  key
  mayBeAbsent := false
  form

/-- What a record may have: if it has nothing, the key is left out or null is written. -/
def Slot.optional (key : String) (form : Option Form) : Slot where
  key
  mayBeAbsent := form.isNone
  form := form.getD .null

/-- A list that a record may have: if it is empty, the key may be left out or null be
    written. -/
def Slot.list (key : String) (forms : List Form) : Slot where
  key
  mayBeAbsent := forms.isEmpty
  form := .list forms

/-- What a record has may not be left out. -/
theorem Slot.mayBeAbsent_optional {key : String} {form : α → Form} {o : Option α}
    (h : o ≠ none) : (Slot.optional key (o.map form)).mayBeAbsent = false := by
  cases o with
  | none => exact absurd rfl h
  | some a => rfl

/-- A list that is not empty may not be left out. -/
theorem Slot.mayBeAbsent_list {key : String} {form : α → Form} {as : List α} (h : as ≠ []) :
    (Slot.list key (as.map form)).mayBeAbsent = false := by
  cases as with
  | nil => exact absurd rfl h
  | cons a as => rfl

/-! ### Texts -/

/-- The text writes a value in the form, in any layout and within the levels that may be
    nested. -/
def Form.Writes (f : Form) (text : String) : Prop :=
  ∃ tree, f.Holds nestingLimit tree ∧ Spells text.toList tree.tokens

/-! ### Readers -/

/-- The reader reads every tree of the form as the value. -/
def Reads (read : Reader α) (depth : Nat) (f : Form) (a : α) : Prop :=
  ∀ tree, f.Holds depth tree → read depth tree = .ok a

section

variable {depth : Nat}

theorem reads_text (s : String) : Reads text depth (.string s) s := by
  rintro _ ⟨pieces, rfl, hpieces⟩
  rw [text, wantedString, hpieces]

theorem reads_map {read : Reader α} {f : Form} {a : α} (g : α → β)
    (h : Reads read depth f a) : Reads (fun depth tree => g <$> read depth tree) depth f (g a) := by
  intro tree htree
  show g <$> read depth tree = _
  rw [h tree htree]
  rfl

theorem reads_optional_null (read : Reader α) : Reads (optional read) depth .null none := by
  rintro _ rfl
  rfl

/-- What may be null but is not is read as itself. -/
theorem reads_optional_some {read : Reader α} {f : Form} {a : α}
    (hnull : ¬ f.Holds depth .null) (h : Reads read depth f a) :
    Reads (optional read) depth f (some a) := by
  intro tree htree
  refine optional_ok ?_ (h tree htree)
  rintro rfl
  exact hnull htree

/-- No record is null. -/
theorem not_holds_null_record (slots : List Slot) : ¬ (Form.record slots).Holds depth .null := by
  cases depth with
  | zero => exact fun h => h
  | succ depth => rintro (⟨_, h, _⟩ | ⟨_, h, _⟩) <;> contradiction

/-- No array is null. -/
theorem not_holds_null_array (fs : List Form) : ¬ (Form.array fs).Holds depth .null := by
  cases depth with
  | zero => exact fun h => h
  | succ depth =>
    rintro ⟨_, h, _⟩
    contradiction

/-- What a record may have is read as what it has. -/
theorem reads_slot_optional {read : Reader α} (key : String) {form : α → Form} {o : Option α}
    (hnull : ∀ a, ¬ (form a).Holds depth .null)
    (h : ∀ a, o = some a → Reads read depth (form a) a) :
    Reads (optional read) depth (Slot.optional key (o.map form)).form o := by
  cases o with
  | none => exact reads_optional_null read
  | some a => exact reads_optional_some (hnull a) (h a rfl)

/-- An array of forms is read item by item. -/
theorem reads_many {read : Reader α} {form : α → Form} {as : List α}
    (h : ∀ depth, ∀ a ∈ as, Reads read depth (form a) a) :
    Reads (many read) depth (.array (as.map form)) as := by
  cases depth with
  | zero => exact fun _ htree => htree.elim
  | succ depth =>
    rintro _ ⟨items, rfl, hitems⟩
    rw [many]
    induction as generalizing items with
    | nil =>
      cases hitems
      rfl
    | cons a as ih =>
      cases hitems with
      | cons hitem hrest =>
        have has : ∀ depth, ∀ a ∈ as, Reads read depth (form a) a := fun depth b hb =>
          h depth b (List.mem_cons_of_mem a hb)
        rw [Items.readAll, h depth a List.mem_cons_self _ hitem, ok_bind, ih has _ hrest]
        rfl

/-- A list that a record may have is read as the list, and null as the empty one. -/
theorem reads_slot_list {read : Reader α} (key : String) {form : α → Form} {as : List α}
    (f : List α → β) (h : ∀ depth, ∀ a ∈ as, Reads read depth (form a) a) :
    Reads (fun depth tree => do return f ((← optional (many read) depth tree).getD [])) depth
      (Slot.list key (as.map form)).form (f as) := by
  rintro tree (⟨hempty, rfl⟩ | htree)
  · rw [List.map_eq_nil_iff] at hempty
    subst hempty
    rfl
  · have hsome := reads_optional_some (not_holds_null_array _) (reads_many h) tree htree
    show (optional (many read) depth tree >>= fun as => pure (f (as.getD []))) = _
    rw [hsome]
    rfl

end

/-! ### Readers of records

What is read from a record are the parts in those of its slots that are filled. Each slot
comes with the part that is read from it; a part is missing only if its slot may be.
-/

section

variable {r : Record part α} {depth : Nat}

/-- The parts are parts of the slots, and lack no part that must be there. -/
structure AreParts (entries : List (Slot × part)) (parts : List part) : Prop where
  subset : parts ⊆ entries.map Prod.snd
  present : ∀ entry ∈ entries, entry.1.mayBeAbsent = false → entry.2 ∈ parts

/-- Slots that may all be left out have no part that must be there. -/
theorem areParts_nil {entries : List (Slot × part)}
    (habsent : ∀ entry ∈ entries, entry.1.mayBeAbsent = true) : AreParts entries [] := by
  refine ⟨List.nil_subset _, fun entry hentry hpresent => ?_⟩
  rw [habsent entry hentry] at hpresent
  contradiction

/-- A slot that is filled adds its part, wherever it stands. -/
theorem areParts_cons {before behind : List (Slot × part)} {entry : Slot × part}
    {parts : List part} (h : AreParts (before ++ behind) parts) :
    AreParts (before ++ entry :: behind) (entry.2 :: parts) := by
  constructor
  · rw [List.map_append, List.map_cons]
    refine List.cons_subset.2 ⟨List.mem_append_cons_self, fun p hp => ?_⟩
    have hothers := h.subset hp
    rw [List.map_append, List.mem_append] at hothers
    rw [List.mem_append, List.mem_cons]
    exact hothers.imp_right Or.inr
  · intro e he hneeded
    rw [List.mem_append, List.mem_cons] at he
    rcases he with he | rfl | he
    · exact List.mem_cons_of_mem _ (h.present e (List.mem_append_left _ he) hneeded)
    · exact List.mem_cons_self
    · exact List.mem_cons_of_mem _ (h.present e (List.mem_append_right _ he) hneeded)

/-- The slots are the members that the record reads, and each is read as its part. -/
def SlotsRead (depth : Nat) (members : List (String × Reader part))
    (entries : List (Slot × part)) : Prop :=
  List.Forall₂ (fun m entry => m.1 = entry.1.key ∧ Reads m.2 depth entry.1.form entry.2)
    members entries

theorem SlotsRead.keys_eq {members : List (String × Reader part)}
    {entries : List (Slot × part)} (h : SlotsRead depth members entries) :
    members.map Prod.fst = entries.map fun entry => entry.1.key := by
  induction h with
  | nil => rfl
  | cons hm _ ih => rw [List.map_cons, List.map_cons, hm.1, ih]

/-- Where keys are distinct, the reader of a slot is found under its key. -/
theorem SlotsRead.lookup {members : List (String × Reader part)}
    {entries : List (Slot × part)} (h : SlotsRead depth members entries)
    (hkeys : (members.map Prod.fst).Nodup) {entry : Slot × part} (hentry : entry ∈ entries) :
    ∃ read, members.lookup entry.1.key = some read ∧ Reads read depth entry.1.form entry.2 := by
  induction h with
  | nil => contradiction
  | @cons m e members entries hm hrest ih =>
    rw [List.map_cons, List.nodup_cons] at hkeys
    obtain ⟨hfirst, hkeys⟩ := hkeys
    rcases List.mem_cons.1 hentry with rfl | hentry
    · refine ⟨m.2, ?_, hm.2⟩
      rw [← hm.1, List.lookup_cons, beq_self_eq_true]
    · obtain ⟨read, hread, hreads⟩ := ih hkeys hentry
      refine ⟨read, ?_, hreads⟩
      -- The key is another member's, so it is not that of the first.
      have hne : (entry.1.key == m.1) = false := by
        rw [beq_eq_false_iff_ne]
        intro heq
        apply hfirst
        rw [← heq, SlotsRead.keys_eq hrest]
        exact List.mem_map.2 ⟨entry, hentry, rfl⟩
      rw [List.lookup_cons, hne]
      exact hread

/-- Members that fill slots are read as parts of these slots, whatever their order and
    whatever is added. -/
theorem partsOfMembers_of_fill (hopen : r.isClosed = false) {slots : List Slot}
    {members : Members} (h : MembersFill depth (r.members.map Prod.fst) slots members)
    {entries : List (Slot × part)} (hslots : slots = entries.map Prod.fst)
    (hkeys : (entries.map fun entry => entry.1.key).Nodup)
    (hread : ∀ entry ∈ entries, ∃ read, r.members.lookup entry.1.key = some read
      ∧ Reads read depth entry.1.form entry.2)
    {seen : List String} (hseen : ∀ entry ∈ entries, entry.1.key ∉ seen) :
    ∃ parts, r.partsOfMembers depth seen members = .ok parts ∧ AreParts entries parts := by
  -- No slot that is still to be filled has a key that was seen, since keys are distinct.
  induction h generalizing entries seen with
  | closed habsent =>
    subst hslots
    exact ⟨[], rfl, areParts_nil fun entry hentry => habsent _ (List.mem_map_of_mem hentry)⟩
  | @member before behind slot pieces value rest hkey hvalue _ ih =>
    -- The slot is that of some entry; the rest fills the others.
    obtain ⟨eb, tail, rfl, rfl, htail⟩ := List.map_eq_append_iff.1 hslots.symm
    obtain ⟨entry, eh, rfl, rfl, rfl⟩ := List.map_eq_cons_iff.1 htail
    have hothers : ∀ e ∈ eb ++ eh, e ∈ eb ++ entry :: eh := by
      intro e he
      rw [List.mem_append] at he
      rw [List.mem_append, List.mem_cons]
      exact he.imp_right Or.inr
    have hentry : entry ∈ eb ++ entry :: eh := List.mem_append_cons_self
    rw [List.map_append, List.map_cons, List.nodup_middle, List.nodup_cons, ← List.map_append]
      at hkeys
    obtain ⟨read, hlookup, hreads⟩ := hread entry hentry
    have hseen' : ∀ e ∈ eb ++ eh, e.1.key ∉ entry.1.key :: seen := by
      intro e he
      rw [List.mem_cons, not_or]
      refine ⟨fun heq => ?_, hseen e (hothers e he)⟩
      exact hkeys.1 (List.mem_map.2 ⟨e, he, heq⟩)
    obtain ⟨parts, hparts, hare⟩ := ih List.map_append.symm hkeys.2
      (fun e he => hread e (hothers e he)) hseen'
    refine ⟨entry.2 :: parts, ?_, areParts_cons hare⟩
    rw [partsOfMembers_wanted hkey hlookup, if_neg (hseen entry hentry), hreads _ hvalue, ok_bind,
      hparts]
    rfl
  | @added slots pieces key value rest hkey hnew hvalue _ ih =>
    have hlookup : r.members.lookup key = none := by
      rw [List.lookup_eq_none_iff]
      intro m hm
      rw [bne_iff_ne]
      rintro rfl
      exact hnew (List.mem_map_of_mem hm)
    obtain ⟨parts, hparts, hare⟩ := ih hslots hkeys hread hseen
    exact ⟨parts, by rw [partsOfMembers_skipped hopen hkey hlookup hvalue, hparts], hare⟩

/-- Items that fill slots are read as parts of these slots. -/
theorem partsOfItems_of_fill {slots : List Slot} {items : Items} (h : ItemsFill depth slots items)
    {entries : List (Slot × part)} (hslots : slots = entries.map Prod.fst)
    {members : List (String × Reader part)} (hread : SlotsRead depth members entries) :
    ∃ parts, Record.partsOfItems depth members items = .ok parts ∧ AreParts entries parts := by
  induction h generalizing entries members with
  | closed habsent =>
    subst hslots
    refine ⟨[], ?_, areParts_nil fun entry hentry => habsent _ (List.mem_map_of_mem hentry)⟩
    rw [Record.partsOfItems]
  | cons hitem _ ih =>
    obtain ⟨entry, rest, rfl, rfl, rfl⟩ := List.map_eq_cons_iff.1 hslots.symm
    cases hread with
    | cons hm hrest =>
      obtain ⟨parts, hparts, hare⟩ := ih rfl hrest
      have hall : AreParts ([] ++ entry :: rest) (entry.2 :: parts) := areParts_cons hare
      refine ⟨entry.2 :: parts, ?_, hall⟩
      rw [Record.partsOfItems, hm.2 _ hitem, ok_bind, hparts]
      rfl

/-- **Records are read in every form.** A record that refuses no key is read as one value
    from all trees of its form, if each slot is read as its part and the value can be made
    of the parts that must be there, whichever of the others are. -/
theorem reads_record (hopen : r.isClosed = false) (hkeys : (r.members.map Prod.fst).Nodup)
    {entries : List (Slot × part)} (hread : SlotsRead depth r.members entries) {a : α}
    (hmake : ∀ absent parts, AreParts entries parts → r.make absent parts = .ok a) :
    Reads r.read (depth + 1) (.record (entries.map Prod.fst)) a := by
  have hdeclared : (entries.map Prod.fst).map Slot.key = r.members.map Prod.fst := by
    rw [hread.keys_eq, List.map_map]
    rfl
  rintro _ (⟨members, rfl, hfill⟩ | ⟨items, rfl, hfill⟩)
  · rw [hdeclared] at hfill
    obtain ⟨parts, hparts, hare⟩ := partsOfMembers_of_fill hopen hfill rfl
      (hread.keys_eq ▸ hkeys) (fun _ hentry => hread.lookup hkeys hentry)
      (fun _ _ => List.not_mem_nil)
    rw [Record.read, hparts, ok_bind, hmake _ parts hare]
  · obtain ⟨parts, hparts, hare⟩ := partsOfItems_of_fill hfill rfl hread
    rw [Record.read, hparts, ok_bind, hmake _ parts hare]

end

/-! ### Parts

A record searches its parts for each of its members. All slots have one answer to such a
search or none, so it does not matter in which order their parts stand.
-/

section

variable {entries : List (Slot × part)} {parts : List part}

/-- A search among parts finds what the slots agree on, or nothing; and nothing only if no
    part that must be there is found by it. -/
theorem AreParts.findSome?_or_none (h : AreParts entries parts) {select : part → Option β}
    {b : Option β} (hagree : ∀ entry ∈ entries, select entry.2 = none ∨ select entry.2 = b) :
    parts.findSome? select = b ∨ (parts.findSome? select = none
      ∧ ∀ entry ∈ entries, entry.1.mayBeAbsent = false → select entry.2 = none) := by
  cases hfind : parts.findSome? select with
  | none =>
    refine Or.inr ⟨rfl, fun entry hentry hneeded => ?_⟩
    exact List.findSome?_eq_none_iff.1 hfind _ (h.present entry hentry hneeded)
  | some c =>
    obtain ⟨p, hp, hselect⟩ := List.exists_of_findSome?_eq_some hfind
    obtain ⟨entry, hentry, rfl⟩ := List.mem_map.1 (h.subset hp)
    rcases hagree entry hentry with hnone | hfound
    · rw [hnone] at hselect
      contradiction
    · exact Or.inl (hselect.symm.trans hfound)

/-- A search among parts finds what the slots agree on, if a part must be there for it. -/
theorem AreParts.findSome? (h : AreParts entries parts) {select : part → Option β} {b : Option β}
    (hagree : ∀ entry ∈ entries, select entry.2 = none ∨ select entry.2 = b)
    (hpresent : b ≠ none →
      ∃ entry ∈ entries, entry.1.mayBeAbsent = false ∧ select entry.2 = b) :
    parts.findSome? select = b := by
  rcases h.findSome?_or_none hagree with hfound | ⟨hnone, hmissing⟩
  · exact hfound
  · rw [hnone]
    by_contra hne
    obtain ⟨entry, hentry, hneeded, hselect⟩ := hpresent (Ne.symm hne)
    exact hne ((hmissing entry hentry hneeded).symm.trans hselect)

/-- A member that must be there is found. -/
theorem AreParts.required (h : AreParts entries parts) {select : part → Option β} {b : β}
    (hagree : ∀ entry ∈ entries, select entry.2 = none ∨ select entry.2 = some b)
    (hpresent : ∃ entry ∈ entries, entry.1.mayBeAbsent = false ∧ select entry.2 = some b)
    (absent : Fault) : Json.required select parts absent = .ok b := by
  rw [Json.required, h.findSome? hagree fun _ => hpresent]

/-- A member whose absence means a certain value is found as its value, or absent. -/
theorem AreParts.getD_findSome? (h : AreParts entries parts) {select : part → Option β} {b c : β}
    (hagree : ∀ entry ∈ entries, select entry.2 = none ∨ select entry.2 = some b)
    (hpresent : b ≠ c →
      ∃ entry ∈ entries, entry.1.mayBeAbsent = false ∧ select entry.2 = some b) :
    (parts.findSome? select).getD c = b := by
  rcases h.findSome?_or_none hagree with hfound | ⟨hnone, hmissing⟩
  · rw [hfound, Option.getD_some]
  · rw [hnone, Option.getD_none]
    by_contra hne
    obtain ⟨entry, hentry, hneeded, hselect⟩ := hpresent (Ne.symm hne)
    rw [hmissing entry hentry hneeded] at hselect
    contradiction

end

/-! ### Whole texts -/

/-- **Texts are read in every form.** -/
theorem readWhole_of_writes {read : Reader α} {f : Form} {a : α}
    (h : Reads read nestingLimit f a) {text : String} (htext : f.Writes text) :
    readWhole read text = .ok a := by
  obtain ⟨tree, htree, hspells⟩ := htext
  rw [readWhole, readText_of_spells (f.isSound htree) hspells]
  show (do let a ← read nestingLimit tree; if List.isEmpty [] then return a else _) = _
  rw [h tree htree]
  rfl

end RelayCollections.Json
