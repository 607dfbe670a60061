import RelayCollections.Proofs.Json.Form

namespace RelayCollections.Json

/-!
# Records that refuse other keys, and tables

A record may refuse the keys that it does not declare. It is still read in all of its forms,
apart from those in which something is added; and what it reads has declared keys alone, each
of them once. In a table the keys are data: all are read, in their order, and they may repeat.

* `Members.keys` — the keys of an object as they are written;
* `Form.closedRecord`, `Form.entries` — forms of such records and of tables;
* `partsOfMembers_opened` — where all keys are declared, none is refused;
* `reads_closedRecord` — records that refuse other keys are read in every form without them;
* `keys_of_partsOfMembers` — what such a record reads has no other keys and none twice.
-/

/-- The keys of an object, as they are written. -/
def Members.keys : Members → List (List Piece)
  | .closed | .broken => []
  | .cons pieces _ rest => pieces :: rest.keys

/-! ### Forms -/

/-- A truth value. -/
def Form.flag (b : Bool) : Form where
  Holds _ tree := tree = .bool b
  isSound := by
    rintro _ _ rfl
    rfl

/-- The members of an object have the keys and the forms, one after another. -/
inductive EntriesHave (depth : Nat) : List (String × Form) → Members → Prop where
  | closed : EntriesHave depth [] .closed
  | cons {key : String} {f : Form} {entries : List (String × Form)} {pieces : List Piece}
      {value : Tree} {rest : Members} (hkey : decode? pieces = some key)
      (hvalue : f.Holds depth value) (hrest : EntriesHave depth entries rest) :
      EntriesHave depth ((key, f) :: entries) (.cons pieces value rest)

theorem EntriesHave.isSound {depth : Nat} {entries : List (String × Form)} {members : Members}
    (h : EntriesHave depth entries members) : members.isSound = true := by
  induction h with
  | closed => rfl
  | cons _ hvalue _ ih =>
    rw [Members.isSound, Form.isSound _ hvalue, ih]
    rfl

/-- An object with the keys and the forms, in their order. It takes one level. -/
def Form.entries (entries : List (String × Form)) : Form where
  Holds
    | 0, _ => False
    | depth + 1, tree => ∃ members, tree = .object members ∧ EntriesHave depth entries members
  isSound := by
    rintro (_ | depth) tree h
    · exact h.elim
    · obtain ⟨members, rfl, hmembers⟩ := h
      exact hmembers.isSound

/-- If the value is an object, its keys are among the declared ones. -/
def Tree.HasOnly (declared : List String) : Tree → Prop
  | .object members => ∀ pieces ∈ members.keys, ∃ key ∈ declared, decode? pieces = some key
  | _ => True

/-- A record without other keys than those of its slots. -/
def Form.closedRecord (slots : List Slot) : Form where
  Holds depth tree := (Form.record slots).Holds depth tree ∧ tree.HasOnly (slots.map Slot.key)
  isSound h := Form.isSound _ h.1

/-! ### Readers -/

theorem reads_flag {depth : Nat} (b : Bool) : Reads flag depth (.flag b) b := by
  rintro _ rfl
  rfl

/-- A record that refuses no key, and is otherwise the same. -/
def Record.opened (r : Record part α) : Record part α :=
  { r with isClosed := false }

section

variable {r : Record part α} {depth : Nat}

/-- A declared key has a reader. -/
theorem exists_lookup_of_mem {key : String} (h : key ∈ r.members.map Prod.fst) :
    ∃ read, r.members.lookup key = some read := by
  cases hlookup : r.members.lookup key with
  | some read => exact ⟨read, rfl⟩
  | none =>
    obtain ⟨m, hm, rfl⟩ := List.mem_map.1 h
    have hne := List.lookup_eq_none_iff.1 hlookup m hm
    exact absurd rfl (bne_iff_ne.1 hne)

/-- Where all keys are declared, it does not matter whether others are refused. -/
theorem partsOfMembers_opened : ∀ (members : Members) (seen : List String),
    (∀ pieces ∈ members.keys, ∃ key ∈ r.members.map Prod.fst, decode? pieces = some key) →
      r.partsOfMembers depth seen members = r.opened.partsOfMembers depth seen members
  | .closed, _, _ => rfl
  | .broken, _, _ => rfl
  | .cons pieces value rest, seen, h => by
    rw [Members.keys, List.forall_mem_cons] at h
    obtain ⟨⟨key, hdeclared, hkey⟩, hrest⟩ := h
    obtain ⟨read, hread⟩ := exists_lookup_of_mem hdeclared
    have hopened : r.opened.members.lookup key = some read := hread
    rw [partsOfMembers_wanted hkey hread, partsOfMembers_wanted hkey hopened,
      partsOfMembers_opened rest (key :: seen) hrest]

/-- **Closed records are read in every form.** Whether or not a record refuses other keys, it
    is read as one value from all trees of its form that have none. -/
theorem reads_closedRecord (hkeys : (r.members.map Prod.fst).Nodup)
    {entries : List (Slot × part)} (hread : SlotsRead depth r.members entries) {a : α}
    (hmake : ∀ absent parts, AreParts entries parts → r.make absent parts = .ok a) :
    Reads r.read (depth + 1) (.closedRecord (entries.map Prod.fst)) a := by
  have hdeclared : (entries.map Prod.fst).map Slot.key = r.members.map Prod.fst := by
    rw [hread.keys_eq, List.map_map]
    rfl
  rintro tree ⟨hrecord, honly⟩
  have hopened : r.opened.read (depth + 1) tree = .ok a :=
    reads_record (r := r.opened) rfl hkeys hread hmake tree hrecord
  rw [← hopened]
  cases tree with
  | object members =>
    rw [Tree.HasOnly, hdeclared] at honly
    rw [Record.read, Record.read, partsOfMembers_opened members [] honly]
    rfl
  | _ => rfl

/-- **Closed records refuse the rest.** If a record refuses other keys, the members that it
    reads have declared keys alone, and no key twice. -/
theorem keys_of_partsOfMembers (hclosed : r.isClosed = true) :
    ∀ (members : Members) (seen : List String) (parts : List part),
      r.partsOfMembers depth seen members = .ok parts →
        (members.keys.map decode?).Nodup ∧ ∀ pieces ∈ members.keys,
          ∃ key ∈ r.members.map Prod.fst, key ∉ seen ∧ decode? pieces = some key
  | .closed, _, _, _ => ⟨List.nodup_nil, List.forall_mem_nil _⟩
  | .broken, _, _, _ => ⟨List.nodup_nil, List.forall_mem_nil _⟩
  | .cons pieces value rest, seen, parts, h => by
    -- A key that means nothing, or is not declared, is a fault, and so is one that was seen.
    cases hkey : decode? pieces with
    | none => simp [Record.partsOfMembers, wantedString, hkey] at h
    | some key =>
      cases hread : r.members.lookup key with
      | none => simp [Record.partsOfMembers, wantedString, hkey, hread, hclosed] at h
      | some read =>
        rw [partsOfMembers_wanted hkey hread] at h
        split at h
        · contradiction
        · rename_i hnew
          obtain ⟨_, _, h⟩ := bind_eq_ok_iff.1 h
          obtain ⟨others, hothers, _⟩ := bind_eq_ok_iff.1 h
          obtain ⟨hnodup, hkeys⟩ := keys_of_partsOfMembers hclosed rest _ _ hothers
          have hdeclared : key ∈ r.members.map Prod.fst := by
            obtain ⟨before, behind, hmembers, _⟩ := List.lookup_eq_some_iff.1 hread
            rw [hmembers, List.map_append, List.map_cons]
            exact List.mem_append_cons_self
          rw [Members.keys, List.map_cons, List.nodup_cons, List.forall_mem_cons]
          refine ⟨⟨fun hmem => ?_, hnodup⟩, ⟨key, hdeclared, hnew, hkey⟩, fun p hp => ?_⟩
          · -- The rest has been read with this key among those that were seen.
            obtain ⟨p, hp, hsame⟩ := List.mem_map.1 hmem
            obtain ⟨other, _, hunseen, hother⟩ := hkeys p hp
            rw [hother, hkey, Option.some.injEq] at hsame
            exact hunseen (hsame ▸ List.mem_cons_self)
          · obtain ⟨other, hmem, hunseen, hother⟩ := hkeys p hp
            exact ⟨other, hmem, fun hin => hunseen (List.mem_cons_of_mem key hin), hother⟩

end

end RelayCollections.Json
