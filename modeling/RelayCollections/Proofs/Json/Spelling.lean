import RelayCollections.Json.Tree

namespace RelayCollections.Json

/-!
# Spellings of JSON texts

What a JSON text is, said without a reader: the tokens of a sound tree, each as it is
written, with any white space between them. The reader is then shown to be the way back.

* `Spells` — a text spells a sequence of tokens;
* `Tree.tokens` — the tokens of a tree;
* `IsJson` — a text spells the tokens of a sound tree;
* `tokens_of_spells`, `readTree_tokens`, `readText_of_spells` — what is spelled is what is
  read.
-/

/-! ### Strings -/

/-- A piece that stands inside a string and can be read back. -/
def Piece.isReadable : Piece → Bool
  | .plain c => c != '"' && c != '\\' && decide (0x20 ≤ c.toNat)
  | .short letter => (escapeLetters.lookup letter).isSome
  | .unit a b c d => (Numeral.ofHexDigits? [a, b, c, d]).isSome

/-- The letter of a unit is no short escape. -/
private theorem lookup_unitLetter : escapeLetters.lookup 'u' = none := rfl

/-- A readable piece in front of a text is read first. -/
theorem readPieces?_piece {p : Piece} (hp : p.isReadable = true) (cs : List Char) :
    readPieces? (p.text ++ cs)
      = (readPieces? cs).map fun (pieces, rest) => (p :: pieces, rest) := by
  cases p with
  | plain c =>
    simp only [Piece.isReadable, Bool.and_eq_true, bne_iff_ne, decide_eq_true_eq] at hp
    obtain ⟨⟨hquote, hslash⟩, hcontrol⟩ := hp
    -- Neither a quote nor a backslash, so the last case reads it.
    have hplain : plain? c = some (.plain c) := by
      rw [plain?, if_neg]
      rintro (h | h)
      · exact hslash h
      · omega
    show readPieces? (c :: cs) = _
    rw [readPieces?.eq_def]
    split
    case h_1 => contradiction
    case h_2 h => injection h with h _; exact absurd h hquote
    case h_3 h => injection h with h _; exact absurd h hslash
    case h_4 h => injection h with h _; exact absurd h hslash
    case h_5 h =>
      injection h with hc hcs
      subst hc hcs
      rw [hplain]
      cases readPieces? cs <;> rfl
  | short letter =>
    have hshort : short? letter = some (.short letter) := if_pos hp
    -- The letter of a unit would start a longer escape.
    have hunit : letter ≠ 'u' := by
      rintro rfl
      rw [Piece.isReadable, lookup_unitLetter] at hp
      exact absurd hp (by decide)
    show readPieces? ('\\' :: letter :: cs) = _
    rw [readPieces?.eq_def]
    split
    case h_1 => contradiction
    case h_2 h => injection h with h _; exact absurd h (by decide)
    case h_3 h => injection h with _ h; injection h with h _; exact absurd h hunit
    case h_4 h =>
      injection h with _ h
      injection h with hl hcs
      subst hl hcs
      rw [hshort]
      cases readPieces? cs <;> rfl
    case h_5 hne h =>
      injection h with hc hcs
      exact (hne _ _ hc.symm hcs.symm).elim
  | unit a b c d =>
    have hunit : unit? a b c d = some (.unit a b c d) := if_pos hp
    show readPieces? ('\\' :: 'u' :: a :: b :: c :: d :: cs) = _
    rw [readPieces?, hunit]
    cases readPieces? cs <;> rfl

/-- Readable pieces up to a closing quote are read. -/
theorem readPieces?_pieces {pieces : List Piece} (h : pieces.all Piece.isReadable = true)
    (cs : List Char) :
    readPieces? (pieces.flatMap Piece.text ++ '"' :: cs) = some (pieces, cs) := by
  induction pieces with
  | nil => rfl
  | cons p rest ih =>
    rw [List.all_cons, Bool.and_eq_true] at h
    rw [List.flatMap_cons, List.append_assoc, readPieces?_piece h.1, ih h.2]
    rfl

/-! ### Tokens -/

/-- A token that can be read back. -/
def Token.isReadable : Token → Bool
  | .number text => isNumber text && text.all isNumberChar
  | .string pieces => pieces.all Piece.isReadable
  | .unreadable => false
  | _ => true

/-- A token that ends where it does whatever follows: any but a number. -/
def Token.isDelimited : Token → Bool
  | .number _ => false
  | _ => true

/-- A token ends before a text: a number does if no character of numbers comes next. -/
def Token.endsBefore (t : Token) (cs : List Char) : Bool :=
  t.isDelimited || !cs.head?.any isNumberChar

/-- The text spells the tokens: they stand in it one after another, with white space
    before, between and after them. -/
inductive Spells : List Char → List Token → Prop where
  | nil : Spells [] []
  | blank {c : Char} {cs : List Char} {ts : List Token} (hc : isBlank c = true) :
      Spells cs ts → Spells (c :: cs) ts
  | token {t : Token} {cs : List Char} {ts : List Token} (ht : t.isReadable = true)
      (hends : t.endsBefore cs = true) : Spells cs ts → Spells (t.text ++ cs) (t :: ts)

/-- A number is read up to the first character that is none of a number's. -/
private theorem readNumber?_number {text cs : List Char} (hnumber : isNumber text = true)
    (hchars : text.all isNumberChar = true) (hends : cs.head?.any isNumberChar = false) :
    readNumber? (text ++ cs) = some (.number text, cs) := by
  have hcs : cs.takeWhile isNumberChar = [] ∧ cs.dropWhile isNumberChar = cs := by
    cases cs with
    | nil => exact ⟨rfl, rfl⟩
    | cons c cs =>
      have hc : isNumberChar c = false := by simpa using hends
      exact ⟨List.takeWhile_cons_of_neg (by simp [hc]), List.dropWhile_cons_of_neg (by simp [hc])⟩
  have hall : ∀ c ∈ text, isNumberChar c = true := List.all_eq_true.1 hchars
  rw [readNumber?, List.takeWhile_append_of_pos hall, List.dropWhile_append_of_pos hall, hcs.1,
    hcs.2, List.append_nil]
  exact if_pos hnumber

/-- A text that starts like a number starts with no other token. -/
private theorem readToken?_of_isNumberChar {c : Char} (hc : isNumberChar c = true)
    (cs : List Char) : readToken? (c :: cs) = readNumber? (c :: cs) := by
  rw [readToken?.eq_def]
  split
  case h_11 => rfl
  all_goals
    rename_i h
    injection h with h _
    subst h
    exact absurd hc (by decide)

/-- A readable token in front of a text is read first, where it ends before the text. -/
theorem readToken?_token {t : Token} {cs : List Char} (ht : t.isReadable = true)
    (hends : t.endsBefore cs = true) : readToken? (t.text ++ cs) = some (t, cs) := by
  cases t with
  | bool b => cases b <;> rfl
  | number text =>
    rw [Token.isReadable, Bool.and_eq_true] at ht
    have hnumber := readNumber?_number ht.1 ht.2 (by simpa [Token.endsBefore, Token.isDelimited]
      using hends)
    cases text with
    | nil => exact absurd ht.1 (by rw [isNumber_nil]; decide)
    | cons c text =>
      have hc : isNumberChar c = true := (List.all_eq_true.1 ht.2) c (List.mem_cons_self)
      exact (readToken?_of_isNumberChar hc _).trans hnumber
  | string pieces =>
    show readToken? ('"' :: (pieces.flatMap Piece.text ++ ['"']) ++ cs) = _
    rw [List.cons_append, List.append_assoc, readToken?, List.singleton_append,
      readPieces?_pieces ht]
    rfl
  | unreadable => exact absurd ht (by decide)
  | _ => rfl

/-- A readable token starts with a character, and that is no white space. -/
theorem exists_text_of_isReadable {t : Token} (ht : t.isReadable = true) :
    ∃ c cs, t.text = c :: cs ∧ isBlank c = false := by
  cases t with
  | bool b => cases b <;> exact ⟨_, _, rfl, rfl⟩
  | number text =>
    rw [Token.isReadable, Bool.and_eq_true] at ht
    cases text with
    | nil => exact absurd ht.1 (by rw [isNumber_nil]; decide)
    | cons c text =>
      refine ⟨c, text, rfl, ?_⟩
      have hc : isNumberChar c = true := (List.all_eq_true.1 ht.2) c (List.mem_cons_self)
      cases hb : isBlank c with
      | false => rfl
      | true =>
        simp only [isBlank, Bool.or_eq_true, beq_iff_eq] at hb
        rcases hb with ((rfl | rfl) | rfl) | rfl <;> exact absurd hc (by decide)
  | unreadable => exact absurd ht (by decide)
  | _ => exact ⟨_, _, rfl, rfl⟩

/-- **Tokens are read back.** The tokens that are read from a text are those it spells. -/
theorem tokens_of_spells {cs : List Char} {ts : List Token} (h : Spells cs ts) :
    tokens cs = ts := by
  induction h with
  | nil => rw [tokens]
  | blank hc _ ih => rw [tokens, if_pos hc, ih]
  | @token t cs ts ht hends _ ih =>
    obtain ⟨c, rest, htext, hblank⟩ := exists_text_of_isReadable ht
    have hread := readToken?_token ht hends
    rw [htext, List.cons_append] at hread ⊢
    rw [tokens, if_neg (by simp [hblank])]
    split
    · rename_i t' left h
      rw [hread, Option.some.injEq, Prod.mk.injEq] at h
      rw [← h.1, ← h.2, ih]
    · rename_i h
      rw [hread] at h
      exact absurd h (by simp)

/-! ### Trees -/

mutual

/-- The tokens of a value. -/
def Tree.tokens : Tree → List Token
  | .null => [.null]
  | .bool b => [.bool b]
  | .number text => [.number text]
  | .string pieces => [.string pieces]
  | .array .closed => [.openArray, .closeArray]
  | .array .broken => [.openArray]
  | .array (.cons item rest) => .openArray :: (item.tokens ++ rest.tokensAfter)
  | .object .closed => [.openObject, .closeObject]
  | .object .broken => [.openObject]
  | .object (.cons key value rest) =>
    .openObject :: .string key :: .colon :: (value.tokens ++ rest.tokensAfter)
  | .broken => []

/-- The tokens of items behind an item. -/
def Items.tokensAfter : Items → List Token
  | .closed => [.closeArray]
  | .broken => []
  | .cons item rest => .comma :: (item.tokens ++ rest.tokensAfter)

/-- The tokens of members behind a member. -/
def Members.tokensAfter : Members → List Token
  | .closed => [.closeObject]
  | .broken => []
  | .cons key value rest =>
    .comma :: .string key :: .colon :: (value.tokens ++ rest.tokensAfter)

end

/-- The text is JSON: it spells the tokens of a sound tree. -/
def IsJson (text : String) : Prop :=
  ∃ tree : Tree, tree.isSound = true ∧ Spells text.toList tree.tokens

/-- A sound value starts with a token that closes nothing. -/
theorem Tree.exists_tokens {tree : Tree} (h : tree.isSound = true) :
    ∃ t ts, tree.tokens = t :: ts ∧ t ≠ .closeArray ∧ t ≠ .closeObject := by
  cases tree with
  | null => exact ⟨_, _, rfl, by decide, by decide⟩
  | bool b => exact ⟨_, _, rfl, by simp, by simp⟩
  | number text => exact ⟨_, _, rfl, by simp, by simp⟩
  | string pieces => exact ⟨_, _, rfl, by simp, by simp⟩
  | array items => cases items <;> exact ⟨_, _, rfl, by decide, by decide⟩
  | object members => cases members <;> exact ⟨_, _, rfl, by decide, by decide⟩
  | broken => exact absurd h (by simp [Tree.isSound])

/-- An array whose first item is there is read item by item. -/
private theorem readTree_openArray {t : Token} (ht : t ≠ .closeArray) (ts : List Token) :
    readTree (.openArray :: t :: ts)
      = (.array (readItems (t :: ts)).1, (readItems (t :: ts)).2) := by
  rw [readTree]
  rintro rest h
  injection h with h _
  exact ht h

mutual

/-- **Values are read back.** In front of any tokens, the tokens of a sound value are read
    as that value. -/
theorem readTree_tokens : ∀ (tree : Tree), tree.isSound = true → ∀ rest : List Token,
    readTree (tree.tokens ++ rest) = (tree, rest)
  | .null, _, rest => by simp [Tree.tokens, readTree]
  | .bool b, _, rest => by simp [Tree.tokens, readTree]
  | .number text, _, rest => by simp [Tree.tokens, readTree]
  | .string pieces, _, rest => by simp [Tree.tokens, readTree]
  | .array .closed, _, rest => by simp [Tree.tokens, readTree]
  | .array .broken, h, _ => by simp [Tree.isSound, Items.isSound] at h
  | .array (.cons item items), h, rest => by
    simp only [Tree.isSound, Items.isSound, Bool.and_eq_true] at h
    have hitems := readItems_tokens items h.2 item (readTree_tokens item h.1) rest
    -- No item starts with the end of the array, so items are read.
    obtain ⟨t, ts, htokens, hclose, _⟩ := Tree.exists_tokens h.1
    rw [Tree.tokens, List.cons_append, List.append_assoc]
    rw [htokens, List.cons_append] at hitems ⊢
    rw [readTree_openArray hclose, hitems]
  | .object .closed, _, rest => by simp [Tree.tokens, readTree]
  | .object .broken, h, _ => by simp [Tree.isSound, Members.isSound] at h
  | .object (.cons key value members), h, rest => by
    simp only [Tree.isSound, Members.isSound, Bool.and_eq_true] at h
    have hmembers := readMembers_tokens members h.2 key value (readTree_tokens value h.1) rest
    simp only [Tree.tokens, List.cons_append, List.append_assoc]
    rw [readTree, hmembers]
    simp
  | .broken, h, _ => by simp [Tree.isSound] at h

/-- The items of an array are read from an item on that is read. -/
theorem readItems_tokens : ∀ (items : Items), items.isSound = true → ∀ item : Tree,
    (∀ rest : List Token, readTree (item.tokens ++ rest) = (item, rest)) →
    ∀ rest : List Token,
      readItems (item.tokens ++ (items.tokensAfter ++ rest)) = (.cons item items, rest)
  | .closed, _, item, hitem, rest => by
    rw [readItems, hitem]
    simp [Items.tokensAfter]
  | .broken, h, _, _, _ => by simp [Items.isSound] at h
  | .cons next items, h, item, hitem, rest => by
    simp only [Items.isSound, Bool.and_eq_true] at h
    have hitems := readItems_tokens items h.2 next (readTree_tokens next h.1) rest
    rw [readItems, hitem]
    simp only [Items.tokensAfter, List.cons_append, List.append_assoc]
    rw [if_pos (by simp; omega), hitems]

/-- The members of an object are read from a member on whose value is read. -/
theorem readMembers_tokens : ∀ (members : Members), members.isSound = true →
    ∀ (key : List Piece) (value : Tree),
    (∀ rest : List Token, readTree (value.tokens ++ rest) = (value, rest)) →
    ∀ rest : List Token,
      readMembers (.string key :: .colon :: (value.tokens ++ (members.tokensAfter ++ rest)))
        = (.cons key value members, rest)
  | .closed, _, key, value, hvalue, rest => by
    rw [readMembers, hvalue]
    simp [Members.tokensAfter]
  | .broken, h, _, _, _, _ => by simp [Members.isSound] at h
  | .cons next nextValue members, h, key, value, hvalue, rest => by
    simp only [Members.isSound, Bool.and_eq_true] at h
    have hmembers :=
      readMembers_tokens members h.2 next nextValue (readTree_tokens nextValue h.1) rest
    rw [readMembers, hvalue]
    simp only [Members.tokensAfter, List.cons_append, List.append_assoc]
    rw [if_pos (by simp; omega), hmembers]

end

/-- **Texts are read back.** A text that spells the tokens of a sound tree is read as that
    tree, with nothing left. -/
theorem readText_of_spells {text : String} {tree : Tree} (h : tree.isSound = true)
    (hspells : Spells text.toList tree.tokens) : readText text = (tree, []) := by
  have hread := readTree_tokens tree h []
  rw [List.append_nil] at hread
  rw [readText, tokens_of_spells hspells, hread]

end RelayCollections.Json
