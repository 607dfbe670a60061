import RelayCollections.Json.Record
import RelayCollections.Proofs.Json.Writing
import RelayCollections.Proofs.Traversal

namespace RelayCollections.Json

/-!
# Texts that say more than is wanted

Tools that write JSON for others to read write more than every reader wants. A tree carries
a value if it is that value with members added to its objects, under keys that no reader
wants and with anything sound behind them, and with any spelling of its strings. Readers of
known shapes read such a tree as if nothing had been added.

* `Carries` — a tree is a value with members added to its objects;
* `carries_tree` — a value carries itself;
* `IgnoresAdded` — a reader reads what carries a value as that value;
* `ignoresAdded_text`, `ignoresAdded_many`, `ignoresAdded_read`, … — the readers do;
* `text_written`, `many_written`, `read_written`, … — what they read of a value as it is
  written.
-/

mutual

/-- The tree is the value with members added to its objects, none of them under a wanted
    key. -/
inductive Carries (wanted : List String) : Tree → Value → Prop where
  | null : Carries wanted .null .null
  | bool (b : Bool) : Carries wanted (.bool b) (.bool b)
  | string {pieces : List Piece} {s : String} (hs : decode? pieces = some s) :
      Carries wanted (.string pieces) (.string s)
  | array {items : Items} {vs : List Value} (hitems : CarriesItems wanted items vs) :
      Carries wanted (.array items) (.array vs)
  | object {members : Members} {kvs : List (String × Value)}
      (hmembers : CarriesMembers wanted members kvs) :
      Carries wanted (.object members) (.object kvs)

/-- The items carry the values, one after another. -/
inductive CarriesItems (wanted : List String) : Items → List Value → Prop where
  | closed : CarriesItems wanted .closed []
  | cons {item : Tree} {rest : Items} {v : Value} {vs : List Value}
      (hitem : Carries wanted item v) (hrest : CarriesItems wanted rest vs) :
      CarriesItems wanted (.cons item rest) (v :: vs)

/-- The members carry the keys and values in their order, with others between them. -/
inductive CarriesMembers (wanted : List String) : Members → List (String × Value) → Prop where
  | closed : CarriesMembers wanted .closed []
  | cons {pieces : List Piece} {key : String} {value : Tree} {v : Value} {rest : Members}
      {kvs : List (String × Value)} (hkey : decode? pieces = some key)
      (hvalue : Carries wanted value v) (hrest : CarriesMembers wanted rest kvs) :
      CarriesMembers wanted (.cons pieces value rest) ((key, v) :: kvs)
  | added {pieces : List Piece} {key : String} {value : Tree} {rest : Members}
      {kvs : List (String × Value)} (hkey : decode? pieces = some key) (hnew : key ∉ wanted)
      (hvalue : value.isSound = true) (hrest : CarriesMembers wanted rest kvs) :
      CarriesMembers wanted (.cons pieces value rest) kvs

end

variable {wanted : List String}

/-! ### Values themselves -/

mutual

/-- A value as it is written carries itself. -/
theorem carries_tree : ∀ v : Value, Carries wanted v.tree v
  | .null => .null
  | .bool b => .bool b
  | .string s => .string (decode?_encode s)
  | .array items => .array (carriesItems_itemsTree items)
  | .object members => .object (carriesMembers_membersTree members)

/-- Items as they are written carry themselves. -/
theorem carriesItems_itemsTree : ∀ vs : List Value, CarriesItems wanted (itemsTree vs) vs
  | [] => .closed
  | v :: vs => .cons (carries_tree v) (carriesItems_itemsTree vs)

/-- Members as they are written carry themselves. -/
theorem carriesMembers_membersTree : ∀ kvs : List (String × Value),
    CarriesMembers wanted (membersTree kvs) kvs
  | [] => .closed
  | (key, v) :: kvs =>
    .cons (decode?_encode key) (carries_tree v) (carriesMembers_membersTree kvs)

end

mutual

/-- What carries a value is sound. -/
theorem Carries.isSound : ∀ {tree : Tree} {v : Value}, Carries wanted tree v →
    tree.isSound = true
  | _, _, .null => rfl
  | _, _, .bool _ => rfl
  | _, _, .string _ => rfl
  | _, _, .array hitems => by rw [Tree.isSound, hitems.isSound]
  | _, _, .object hmembers => by rw [Tree.isSound, hmembers.isSound]

/-- Items that carry values are sound. -/
theorem CarriesItems.isSound : ∀ {items : Items} {vs : List Value},
    CarriesItems wanted items vs → items.isSound = true
  | _, _, .closed => rfl
  | _, _, .cons hitem hrest => by
    rw [Items.isSound, hitem.isSound, hrest.isSound]
    rfl

/-- Members that carry others are sound. -/
theorem CarriesMembers.isSound : ∀ {members : Members} {kvs : List (String × Value)},
    CarriesMembers wanted members kvs → members.isSound = true
  | _, _, .closed => rfl
  | _, _, .cons _ hvalue hrest => by
    rw [Members.isSound, hvalue.isSound, hrest.isSound]
    rfl
  | _, _, .added _ _ hvalue hrest => by
    rw [Members.isSound, hvalue, hrest.isSound]
    rfl

end

/-! ### Readers -/

/-- The reader reads what carries a value as that value, and fails where it fails. -/
def IgnoresAdded (wanted : List String) (read : Reader α) : Prop :=
  ∀ (depth : Nat) (tree : Tree) (v : Value), Carries wanted tree v →
    read depth tree = read depth v.tree

theorem ignoresAdded_text : IgnoresAdded wanted text := by
  intro depth tree v h
  cases h with
  | string hs =>
    rw [Value.tree, text, text, wantedString, wantedString, hs, decode?_encode]
  | _ => rfl

theorem ignoresAdded_map {read : Reader α} (hread : IgnoresAdded wanted read) (f : α → β) :
    IgnoresAdded wanted fun depth tree => f <$> read depth tree := by
  intro depth tree v h
  show f <$> read depth tree = f <$> read depth v.tree
  rw [hread depth tree v h]

theorem ignoresAdded_optional {read : Reader α} (hread : IgnoresAdded wanted read) :
    IgnoresAdded wanted (optional read) := by
  intro depth tree v h
  have hsome := ignoresAdded_map hread some depth tree v h
  cases h with
  | null => rfl
  | _ => exact hsome

/-- Items are read alike, one after another. -/
theorem readAll_of_carries {read : Tree → Except Fault α}
    (hread : ∀ tree v, Carries wanted tree v → read tree = read v.tree) :
    ∀ {items : Items} {vs : List Value}, CarriesItems wanted items vs →
      items.readAll read = (itemsTree vs).readAll read
  | _, _, .closed => rfl
  | _, _, .cons hitem hrest => by
    rw [itemsTree, Items.readAll, Items.readAll, hread _ _ hitem, readAll_of_carries hread hrest]

theorem ignoresAdded_many {read : Reader α} (hread : IgnoresAdded wanted read) :
    IgnoresAdded wanted (many read) := by
  intro depth tree v h
  cases depth with
  | zero => cases h <;> rfl
  | succ depth =>
    cases h with
    | array hitems => exact readAll_of_carries (hread depth) hitems
    | _ => rfl

/-! ### Records -/

section

variable {r : Record part α}

/-- A member that the record reads gives a part, unless its key has been seen. -/
theorem partsOfMembers_wanted {pieces : List Piece} {key : String} {read : Reader part}
    (hkey : decode? pieces = some key) (hread : r.members.lookup key = some read)
    (depth : Nat) (seen : List String) (value : Tree) (rest : Members) :
    r.partsOfMembers depth seen (.cons pieces value rest)
      = if key ∈ seen then .error (.duplicateField key)
        else do
          let part ← read depth value
          return part :: (← r.partsOfMembers depth (key :: seen) rest) := by
  have hwanted : wantedString pieces = .ok key := by rw [wantedString, hkey]
  rw [Record.partsOfMembers, hwanted, ok_bind, hread]

/-- A member that the record does not read gives no part. -/
theorem partsOfMembers_skipped {pieces : List Piece} {key : String} {value : Tree}
    (hopen : r.isClosed = false) (hkey : decode? pieces = some key)
    (hread : r.members.lookup key = none) (hvalue : value.isSound = true)
    (depth : Nat) (seen : List String) (rest : Members) :
    r.partsOfMembers depth seen (.cons pieces value rest) = r.partsOfMembers depth seen rest := by
  have hwanted : wantedString pieces = .ok key := by rw [wantedString, hkey]
  rw [Record.partsOfMembers, hwanted, ok_bind, hread, hopen, hvalue]
  rfl

/-- Members are read alike by the record: those that are added are skipped. -/
theorem partsOfMembers_of_carries (hopen : r.isClosed = false)
    (hkeys : ∀ m ∈ r.members, m.1 ∈ wanted)
    (hread : ∀ m ∈ r.members, IgnoresAdded wanted m.2) (depth : Nat) :
    ∀ (members : Members) (kvs : List (String × Value)) (seen : List String),
      CarriesMembers wanted members kvs →
        r.partsOfMembers depth seen members = r.partsOfMembers depth seen (membersTree kvs)
  | .closed, _, _, h => by
    cases h
    rfl
  | .broken, _, _, h => by cases h
  | .cons pieces value rest, _, seen, h => by
    have ih := partsOfMembers_of_carries hopen hkeys hread depth rest
    cases h with
    | @cons _ key _ v _ kvs hkey hvalue hrest =>
      -- A member of the value: the record reads it on both sides or on neither.
      rw [membersTree]
      cases hlookup : r.members.lookup key with
      | none =>
        rw [partsOfMembers_skipped hopen hkey hlookup hvalue.isSound,
          partsOfMembers_skipped hopen (decode?_encode key) hlookup (isSound_tree v),
          ih kvs seen hrest]
      | some read =>
        obtain ⟨before, behind, hmembers, _⟩ := List.lookup_eq_some_iff.1 hlookup
        have hmem : (key, read) ∈ r.members := by
          rw [hmembers]
          exact List.mem_append_right before List.mem_cons_self
        have hpart : read depth value = read depth v.tree := hread _ hmem depth value v hvalue
        rw [partsOfMembers_wanted hkey hlookup,
          partsOfMembers_wanted (decode?_encode key) hlookup, hpart, ih kvs (key :: seen) hrest]
    | @added _ key _ _ _ hkey hnew hvalue hrest =>
      -- An added member: all keys of the record are wanted, and this one is not.
      have hlookup : r.members.lookup key = none := by
        rw [List.lookup_eq_none_iff]
        intro m hm
        rw [bne_iff_ne]
        rintro rfl
        exact hnew (hkeys m hm)
      rw [partsOfMembers_skipped hopen hkey hlookup hvalue, ih _ seen hrest]

/-- Items are read alike by a record in the array form. -/
theorem partsOfItems_of_carries (depth : Nat) :
    ∀ (members : List (String × Reader part)) (items : Items) (vs : List Value),
      (∀ m ∈ members, IgnoresAdded wanted m.2) → CarriesItems wanted items vs →
        Record.partsOfItems depth members items
          = Record.partsOfItems depth members (itemsTree vs)
  | _, .closed, _, _, h => by
    cases h
    rfl
  | _, .broken, _, _, h => by cases h
  | [], .cons item rest, _, _, h => by
    cases h
    rfl
  | (key, read) :: members, .cons item rest, _, hread, h => by
    cases h with
    | @cons _ _ v vs hitem hrest =>
      obtain ⟨hfirst, hothers⟩ := List.forall_mem_cons.1 hread
      have hpart : read depth item = read depth v.tree := hfirst depth item v hitem
      rw [itemsTree, Record.partsOfItems, Record.partsOfItems, hpart,
        partsOfItems_of_carries depth members rest vs hothers hrest]

/-- **Records are read alike.** A record that refuses no key reads what carries a value as
    that value, if its keys are wanted and its readers do so too. -/
theorem ignoresAdded_read (hopen : r.isClosed = false) (hkeys : ∀ m ∈ r.members, m.1 ∈ wanted)
    (hread : ∀ m ∈ r.members, IgnoresAdded wanted m.2) : IgnoresAdded wanted r.read := by
  intro depth tree v h
  cases depth with
  | zero => cases h <;> rfl
  | succ depth =>
    cases h with
    | array hitems =>
      rw [Value.tree, Record.read, Record.read,
        partsOfItems_of_carries depth r.members _ _ hread hitems]
    | object hmembers =>
      rw [Value.tree, Record.read, Record.read,
        partsOfMembers_of_carries hopen hkeys hread depth _ _ [] hmembers]
    | _ => rfl

end

/-! ### Values as they are written -/

section

variable {r : Record part α} {depth : Nat} {seen : List String} {key : String} {v : Value}
  {kvs : List (String × Value)} {parts : List part}

/-- A written string is read as itself. -/
theorem text_written (depth : Nat) (s : String) : text depth (Value.string s).tree = .ok s := by
  rw [Value.tree, text, wantedString, decode?_encode]

/-- A value that may be null but is not is read as itself. -/
theorem optional_ok {read : Reader α} {tree : Tree} {a : α} (hnull : tree ≠ .null)
    (h : read depth tree = .ok a) : optional read depth tree = .ok (some a) := by
  have hsome : optional read depth tree = some <$> read depth tree := by
    cases tree with
    | null => exact absurd rfl hnull
    | _ => rfl
  rw [hsome, h]
  rfl

/-- Written items are read one after another. -/
theorem many_written {read : Reader α} {write : β → Value} {f : β → α} {bs : List β}
    (h : ∀ b ∈ bs, read depth (write b).tree = .ok (f b)) :
    many read (depth + 1) (Value.array (bs.map write)).tree = .ok (bs.map f) := by
  rw [Value.tree, many]
  induction bs with
  | nil => rfl
  | cons b bs ih =>
    rw [List.forall_mem_cons] at h
    rw [List.map_cons, itemsTree, Items.readAll, h.1, ok_bind, ih h.2]
    rfl

/-- A written member that the record reads gives its part. -/
theorem partsOfMembers_written {read : Reader part} {p : part}
    (hread : r.members.lookup key = some read) (hnew : key ∉ seen)
    (hpart : read depth v.tree = .ok p)
    (hrest : r.partsOfMembers depth (key :: seen) (membersTree kvs) = .ok parts) :
    r.partsOfMembers depth seen (membersTree ((key, v) :: kvs)) = .ok (p :: parts) := by
  rw [membersTree, partsOfMembers_wanted (decode?_encode key) hread, if_neg hnew, hpart, ok_bind,
    hrest]
  rfl

/-- A written member gives the part that is made of what is read. -/
theorem partsOfMembers_mapped {read : Reader β} (f : β → part) {b : β}
    (hread : r.members.lookup key = some fun depth tree => f <$> read depth tree)
    (hnew : key ∉ seen) (hvalue : read depth v.tree = .ok b)
    (hrest : r.partsOfMembers depth (key :: seen) (membersTree kvs) = .ok parts) :
    r.partsOfMembers depth seen (membersTree ((key, v) :: kvs)) = .ok (f b :: parts) := by
  refine partsOfMembers_written hread hnew ?_ hrest
  rw [hvalue]
  rfl

/-- A written member that the record does not read gives nothing. -/
theorem partsOfMembers_unread (hopen : r.isClosed = false) (hread : r.members.lookup key = none)
    (hrest : r.partsOfMembers depth seen (membersTree kvs) = .ok parts) :
    r.partsOfMembers depth seen (membersTree ((key, v) :: kvs)) = .ok parts := by
  rw [membersTree, partsOfMembers_skipped hopen (decode?_encode key) hread (isSound_tree v), hrest]

/-- A record is made of the parts in its written members. -/
theorem read_written (h : r.partsOfMembers depth [] (membersTree kvs) = .ok parts) :
    r.read (depth + 1) (Value.object kvs).tree = r.make .missingField parts := by
  rw [Value.tree, Record.read, h, ok_bind]

end

/-! ### Whole texts -/

/-- A text that spells what carries a value is read as that value. -/
theorem readWhole_of_carries {read : Reader α} (hread : IgnoresAdded wanted read)
    {text : String} {tree : Tree} {v : Value} (h : Carries wanted tree v)
    (hspells : Spells text.toList tree.tokens) :
    readWhole read text = read nestingLimit v.tree := by
  rw [readWhole, readText_of_spells h.isSound hspells]
  show (do let a ← read nestingLimit tree; if List.isEmpty [] then return a else _) = _
  rw [hread nestingLimit tree v h]
  exact bind_pure _

end RelayCollections.Json
