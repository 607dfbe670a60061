import RelayCollections.Json.Value
import RelayCollections.Proofs.Json.Spelling

namespace RelayCollections.Json

/-!
# Values are read back from either layout

The two layouts of a value spell the same tokens, and these are the tokens of a sound tree
from which the value is recovered. So both texts are JSON and both are read as the value
that was written.

* `decode?_encode` — the pieces written for a string mean that string;
* `Tree.value?` — the value of a tree, with the order and the repeats of its members;
* `spells_compact`, `spells_indented` — both layouts spell the tokens of the value;
* `isJson_of_spells`, `readValue?_of_spells` — so they are JSON and read as the value.
-/

/-! ### Strings -/

/-- The digits written for a control character are the digits of its number. -/
private theorem ofHexDigits?_control : ∀ n < 0x20,
    Numeral.ofHexDigits? ['0', '0', hexDigit (n / 16), hexDigit (n % 16)] = some n := by
  decide

/-- A character is written as a letter that stands for it, as its number if it is a control
    character, and as itself otherwise. -/
theorem ofChar_cases (c : Char) :
    (∃ letter, Piece.ofChar c = .short letter ∧ escapeLetters.lookup letter = some c)
      ∨ (c.toNat < 0x20 ∧ Piece.ofChar c
          = .unit '0' '0' (hexDigit (c.toNat / 16)) (hexDigit (c.toNat % 16)))
      ∨ (c ≠ '"' ∧ c ≠ '\\' ∧ 0x20 ≤ c.toNat ∧ Piece.ofChar c = .plain c) := by
  by_cases hletter : ∃ letter, (letter, c) ∈ escapeLetters ∧ c ≠ '/'
  · obtain ⟨letter, hmem, hslash⟩ := hletter
    left
    simp only [escapeLetters, List.mem_cons, Prod.mk.injEq, List.not_mem_nil, or_false] at hmem
    rcases hmem with ⟨rfl, rfl⟩ | ⟨rfl, rfl⟩ | ⟨rfl, rfl⟩ | ⟨rfl, rfl⟩ | ⟨rfl, rfl⟩ | ⟨rfl, rfl⟩
      | ⟨rfl, rfl⟩ | ⟨rfl, rfl⟩
    case inr.inr.inl => exact absurd rfl hslash
    all_goals exact ⟨_, rfl, rfl⟩
  · right
    have hne : ∀ letter c', (letter, c') ∈ escapeLetters → c' ≠ '/' → c ≠ c' := by
      rintro letter c' hmem hslash rfl
      exact hletter ⟨letter, hmem, hslash⟩
    have hquote : c ≠ '"' := hne '"' '"' (by decide) (by decide)
    have hbackslash : c ≠ '\\' := hne '\\' '\\' (by decide) (by decide)
    unfold Piece.ofChar
    rw [if_neg hquote, if_neg hbackslash, if_neg (hne 'b' _ (by decide) (by decide)),
      if_neg (hne 'f' _ (by decide) (by decide)), if_neg (hne 'n' _ (by decide) (by decide)),
      if_neg (hne 'r' _ (by decide) (by decide)), if_neg (hne 't' _ (by decide) (by decide))]
    by_cases hcontrol : c.toNat < 0x20
    · exact Or.inl ⟨hcontrol, if_pos hcontrol⟩
    · exact Or.inr ⟨hquote, hbackslash, by omega, if_neg hcontrol⟩

/-- The piece written for a character can be read back. -/
theorem isReadable_ofChar (c : Char) : (Piece.ofChar c).isReadable = true := by
  rcases ofChar_cases c with ⟨letter, hpiece, hletter⟩ | ⟨hcontrol, hpiece⟩ | ⟨hq, hb, hc, hpiece⟩
  · rw [hpiece, Piece.isReadable, hletter]
    rfl
  · rw [hpiece, Piece.isReadable, ofHexDigits?_control c.toNat hcontrol]
    rfl
  · rw [hpiece]
    simp [Piece.isReadable, hq, hb, hc]

/-- The piece written for a character means that character. -/
theorem decodeChars?_ofChar (c : Char) (pieces : List Piece) :
    decodeChars? (Piece.ofChar c :: pieces) = (decodeChars? pieces).map (c :: ·) := by
  rcases ofChar_cases c with ⟨letter, hpiece, hletter⟩ | ⟨hcontrol, hpiece⟩ | ⟨_, _, _, hpiece⟩
  · rw [hpiece, decodeChars?, hletter]
    cases decodeChars? pieces <;> rfl
  · -- No control character is half of a pair.
    have htrailing : isTrailingUnit c.toNat = false := by simp [isTrailingUnit]; omega
    have hleading : isLeadingUnit c.toNat = false := by simp [isLeadingUnit]; omega
    rw [hpiece, decodeChars?, ofHexDigits?_control c.toNat hcontrol]
    simp only [Option.bind_eq_bind, Option.bind_some, htrailing, hleading, Bool.false_eq_true,
      if_false, Char.ofNat_toNat]
    cases decodeChars? pieces <;> rfl
  · rw [hpiece, decodeChars?]

/-- The pieces written for a string mean that string. -/
@[simp] theorem decode?_encode (s : String) : decode? (encode s) = some s := by
  have hchars : ∀ cs : List Char, decodeChars? (cs.map Piece.ofChar) = some cs := by
    intro cs
    induction cs with
    | nil => rfl
    | cons c cs ih => rw [List.map_cons, decodeChars?_ofChar, ih, Option.map_some]
  rw [decode?, encode, hchars, Option.map_some, String.ofList_toList]

/-- The pieces written for a string can be read back. -/
theorem isReadable_encode (s : String) : (encode s).all Piece.isReadable = true := by
  rw [encode, List.all_map, List.all_eq_true]
  intro c _
  exact isReadable_ofChar c

/-! ### Values as trees -/

mutual

/-- The tree of a value as it is written. -/
def Value.tree : Value → Tree
  | .null => .null
  | .bool b => .bool b
  | .string s => .string (encode s)
  | .array items => .array (itemsTree items)
  | .object members => .object (membersTree members)

/-- The items of an array as they are written. -/
def itemsTree : List Value → Items
  | [] => .closed
  | item :: rest => .cons item.tree (itemsTree rest)

/-- The members of an object as they are written. -/
def membersTree : List (String × Value) → Members
  | [] => .closed
  | (key, value) :: rest => .cons (encode key) value.tree (membersTree rest)

end

mutual

/-- The value that a tree stands for, if it holds no number and its strings have a meaning.
    Members keep their order, and none is dropped. -/
def Tree.value? : Tree → Option Value
  | .null => some .null
  | .bool b => some (.bool b)
  | .number _ => none
  | .string pieces => (decode? pieces).map .string
  | .array items => items.values?.map .array
  | .object members => members.values?.map .object
  | .broken => none

/-- The values of the items of an array. -/
def Items.values? : Items → Option (List Value)
  | .closed => some []
  | .broken => none
  | .cons item rest => do return (← item.value?) :: (← rest.values?)

/-- The keys and values of the members of an object. -/
def Members.values? : Members → Option (List (String × Value))
  | .closed => some []
  | .broken => none
  | .cons key value rest => do
    return (← decode? key, ← value.value?) :: (← rest.values?)

end

mutual

/-- A written value is sound. -/
theorem isSound_tree : ∀ v : Value, v.tree.isSound = true
  | .null => rfl
  | .bool _ => rfl
  | .string _ => rfl
  | .array items => by rw [Value.tree, Tree.isSound, isSound_itemsTree items]
  | .object members => by rw [Value.tree, Tree.isSound, isSound_membersTree members]

/-- Written items are sound. -/
theorem isSound_itemsTree : ∀ items : List Value, (itemsTree items).isSound = true
  | [] => rfl
  | item :: rest => by
    rw [itemsTree, Items.isSound, isSound_tree item, isSound_itemsTree rest]
    rfl

/-- Written members are sound. -/
theorem isSound_membersTree : ∀ members : List (String × Value),
    (membersTree members).isSound = true
  | [] => rfl
  | (_, value) :: rest => by
    rw [membersTree, Members.isSound, isSound_tree value, isSound_membersTree rest]
    rfl

end

mutual

/-- **A value is recovered from its tree.** -/
theorem value?_tree : ∀ v : Value, v.tree.value? = some v
  | .null => rfl
  | .bool _ => rfl
  | .string s => by rw [Value.tree, Tree.value?, decode?_encode]; rfl
  | .array items => by rw [Value.tree, Tree.value?, values?_itemsTree items]; rfl
  | .object members => by rw [Value.tree, Tree.value?, values?_membersTree members]; rfl

/-- Items are recovered in order. -/
theorem values?_itemsTree : ∀ items : List Value, (itemsTree items).values? = some items
  | [] => rfl
  | item :: rest => by
    rw [itemsTree, Items.values?, value?_tree item, values?_itemsTree rest]
    rfl

/-- Members are recovered in order and with their repeats. -/
theorem values?_membersTree : ∀ members : List (String × Value),
    (membersTree members).values? = some members
  | [] => rfl
  | (key, value) :: rest => by
    rw [membersTree, Members.values?, decode?_encode, value?_tree value,
      values?_membersTree rest]
    rfl

end

mutual

/-- The tokens of a written value are those of its tree. -/
theorem tokens_tree : ∀ v : Value, v.tree.tokens = v.tokens
  | .null => rfl
  | .bool _ => rfl
  | .string _ => rfl
  | .array [] => rfl
  | .array (item :: rest) => by
    rw [Value.tree, itemsTree, Tree.tokens, Value.tokens, tokens_tree item,
      tokensAfter_itemsTree item rest]
  | .object [] => rfl
  | .object ((key, value) :: rest) => by
    rw [Value.tree, membersTree, Tree.tokens, Value.tokens, tokens_tree value,
      tokensAfter_membersTree key value rest]

/-- The tokens of items behind an item. -/
theorem tokensAfter_itemsTree (item : Value) : ∀ rest : List Value,
    item.tokens ++ (itemsTree rest).tokensAfter = itemTokens (item :: rest) ++ [.closeArray]
  | [] => rfl
  | next :: rest => by
    have hitems : itemTokens (item :: next :: rest)
        = item.tokens ++ .comma :: itemTokens (next :: rest) := by
      rw [itemTokens]
      simp
    rw [itemsTree, Items.tokensAfter, tokens_tree next, tokensAfter_itemsTree next rest, hitems,
      List.append_assoc, List.cons_append]

/-- The tokens of members behind a member. -/
theorem tokensAfter_membersTree (key : String) (value : Value) :
    ∀ rest : List (String × Value),
      .string (encode key) :: .colon :: (value.tokens ++ (membersTree rest).tokensAfter)
        = memberTokens ((key, value) :: rest) ++ [.closeObject]
  | [] => rfl
  | (next, nextValue) :: rest => by
    have hmembers : memberTokens ((key, value) :: (next, nextValue) :: rest)
        = .string (encode key) :: .colon
          :: (value.tokens ++ .comma :: memberTokens ((next, nextValue) :: rest)) := by
      rw [memberTokens]
      simp
    rw [membersTree, Members.tokensAfter, tokens_tree nextValue,
      tokensAfter_membersTree next nextValue rest, hmembers, List.cons_append, List.cons_append,
      List.append_assoc, List.cons_append]

end

/-! ### Layouts -/

/-- A token that can be read back whatever follows it. -/
def Token.isFree (t : Token) : Bool :=
  t.isReadable && t.isDelimited

mutual

/-- The tokens of a written value can be read back whatever follows them. -/
theorem isFree_tokens : ∀ v : Value, v.tokens.all Token.isFree = true
  | .null => rfl
  | .bool _ => rfl
  | .string s => by
    simp [Value.tokens, Token.isFree, Token.isReadable, Token.isDelimited, isReadable_encode]
  | .array items => by
    rw [Value.tokens, List.all_cons, List.all_append, isFree_itemTokens items]
    rfl
  | .object members => by
    rw [Value.tokens, List.all_cons, List.all_append, isFree_memberTokens members]
    rfl

/-- The tokens of written items can be read back whatever follows them. -/
theorem isFree_itemTokens : ∀ items : List Value, (itemTokens items).all Token.isFree = true
  | [] => rfl
  | [item] => isFree_tokens item
  | item :: next :: rest => by
    have hrest := isFree_itemTokens (next :: rest)
    rw [itemTokens, List.all_append, List.all_cons, isFree_tokens item, hrest]
    · rfl
    · simp

/-- The tokens of written members can be read back whatever follows them. -/
theorem isFree_memberTokens : ∀ members : List (String × Value),
    (memberTokens members).all Token.isFree = true
  | [] => rfl
  | [(key, value)] => by
    rw [memberTokens, List.all_cons, List.all_cons, isFree_tokens value]
    simp [Token.isFree, Token.isReadable, Token.isDelimited, isReadable_encode]
  | (key, value) :: next :: rest => by
    have hrest := isFree_memberTokens (next :: rest)
    rw [memberTokens, List.all_cons, List.all_cons, List.all_append, List.all_cons,
      isFree_tokens value, hrest]
    · simp [Token.isFree, Token.isReadable, Token.isDelimited, isReadable_encode]
    · simp

end

/-- White space before a text changes nothing about what it spells. -/
theorem Spells.blanks {blanks cs : List Char} {ts : List Token}
    (hblanks : blanks.all isBlank = true) (h : Spells cs ts) : Spells (blanks ++ cs) ts := by
  induction blanks with
  | nil => exact h
  | cons c rest ih =>
    rw [List.all_cons, Bool.and_eq_true] at hblanks
    exact Spells.blank hblanks.1 (ih hblanks.2)

/-- A free token before a text is spelled before what the text spells. -/
theorem Spells.free {t : Token} {cs : List Char} {ts : List Token} (ht : t.isFree = true)
    (h : Spells cs ts) : Spells (t.text ++ cs) (t :: ts) := by
  rw [Token.isFree, Bool.and_eq_true] at ht
  refine Spells.token ht.1 ?_ h
  rw [Token.endsBefore, ht.2, Bool.true_or]

/-- Free tokens with nothing between them are spelled. -/
theorem spells_flatMap_text {ts : List Token} (h : ts.all Token.isFree = true) :
    Spells (ts.flatMap Token.text) ts := by
  induction ts with
  | nil => exact Spells.nil
  | cons t ts ih =>
    rw [List.all_cons, Bool.and_eq_true] at h
    exact Spells.free h.1 (ih h.2)

/-- A new line is white space. -/
private theorem isBlank_newLine (level : Nat) : (newLine level).all isBlank = true := by
  rw [newLine, List.all_cons, List.all_replicate]
  simp [isBlank]

/-- What stands between tokens of the indented layout is white space. -/
theorem isBlank_gap (level : Nat) (t next : Token) : (gap level t next).all isBlank = true := by
  unfold gap
  repeat' split
  all_goals first | rfl | exact isBlank_newLine _

/-- Free tokens in the indented layout are spelled. -/
theorem spells_indentedFrom {ts : List Token} (h : ts.all Token.isFree = true) (level : Nat) :
    Spells (indentedFrom level ts) ts := by
  induction ts generalizing level with
  | nil => exact Spells.nil
  | cons t ts ih =>
    rw [List.all_cons, Bool.and_eq_true] at h
    cases ts with
    | nil =>
      have hspells := Spells.free h.1 Spells.nil
      rwa [List.append_nil] at hspells
    | cons next rest =>
      rw [indentedFrom, List.append_assoc]
      exact Spells.free h.1 (Spells.blanks (isBlank_gap _ t next) (ih h.2 _))

/-- The compact text of a value spells its tokens. -/
theorem spells_compact (v : Value) : Spells v.compact.toList v.tree.tokens := by
  rw [Value.compact, String.toList_ofList, tokens_tree]
  exact spells_flatMap_text (isFree_tokens v)

/-- The indented text of a value spells its tokens. -/
theorem spells_indented (v : Value) : Spells v.indented.toList v.tree.tokens := by
  rw [Value.indented, String.toList_ofList, tokens_tree]
  exact spells_indentedFrom (isFree_tokens v) 0

/-! ### Reading values -/

/-- The value that a text holds: of the tree in front of the text, with nothing left. -/
def readValue? (text : String) : Option Value :=
  match readText text with
  | (tree, []) => tree.value?
  | _ => none

/-- A text that spells a written value is read as that value. -/
theorem readValue?_of_spells {text : String} {v : Value}
    (h : Spells text.toList v.tree.tokens) : readValue? text = some v := by
  rw [readValue?, readText_of_spells (isSound_tree v) h]
  exact value?_tree v

/-- A text that spells a written value is JSON. -/
theorem isJson_of_spells {text : String} {v : Value}
    (h : Spells text.toList v.tree.tokens) : IsJson text :=
  ⟨v.tree, isSound_tree v, h⟩

end RelayCollections.Json
