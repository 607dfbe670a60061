import RelayCollections.Json.Token

namespace RelayCollections.Json

/-!
# JSON texts as trees

The tree of a JSON text, as far as the text can be read: members keep their order and
repeats, strings keep their spelling, and the place where the text breaks off or stops
being JSON is a leaf of the tree. A reader of typed values walks the tree from left to
right and so meets the faults of the text in the order in which they stand in it.

* `Tree`, `Items`, `Members` — values, the rest of an array, the rest of an object;
* `readTree` — the tree in front of a token sequence;
* `Tree.isSound` — nothing in the tree is broken.
-/

mutual

/-- A value. -/
inductive Tree where
  | null
  | bool (b : Bool)
  | number (text : List Char)
  | string (pieces : List Piece)
  | array (items : Items)
  | object (members : Members)
  /-- No value can be read here. -/
  | broken

/-- The items of an array, from some point on. -/
inductive Items where
  /-- The array ends. -/
  | closed
  /-- Neither an item nor the end can be read. -/
  | broken
  | cons (item : Tree) (rest : Items)

/-- The members of an object, from some point on. -/
inductive Members where
  /-- The object ends. -/
  | closed
  /-- Neither a member nor the end can be read. -/
  | broken
  | cons (key : List Piece) (value : Tree) (rest : Members)

end

/-! ### Soundness -/

mutual

/-- The text of this value is JSON to its end. -/
def Tree.isSound : Tree → Bool
  | .null | .bool _ | .number _ | .string _ => true
  | .array items => items.isSound
  | .object members => members.isSound
  | .broken => false

/-- The text of these items is JSON to the end of the array. -/
def Items.isSound : Items → Bool
  | .closed => true
  | .broken => false
  | .cons item rest => item.isSound && rest.isSound

/-- The text of these members is JSON to the end of the object. -/
def Members.isSound : Members → Bool
  | .closed => true
  | .broken => false
  | .cons _ value rest => value.isSound && rest.isSound

end

/-! ### From tokens -/

mutual

/-- The value in front of a token sequence, and the tokens after it. After a broken
    value there are none. -/
def readTree (ts : List Token) : Tree × List Token :=
  match ts with
  | .null :: rest => (.null, rest)
  | .bool b :: rest => (.bool b, rest)
  | .number text :: rest => (.number text, rest)
  | .string pieces :: rest => (.string pieces, rest)
  | .openArray :: .closeArray :: rest => (.array .closed, rest)
  | .openArray :: rest =>
    let (items, left) := readItems rest
    (.array items, left)
  | .openObject :: .closeObject :: rest => (.object .closed, rest)
  | .openObject :: rest =>
    let (members, left) := readMembers rest
    (.object members, left)
  | _ => (.broken, [])
termination_by 2 * ts.length

/-- The items of an array where an item must stand. -/
def readItems (ts : List Token) : Items × List Token :=
  let (item, left) := readTree ts
  match left with
  | .closeArray :: rest => (.cons item .closed, rest)
  | .comma :: rest =>
    if rest.length < ts.length then
      let (items, left) := readItems rest
      (.cons item items, left)
    else (.cons item .broken, [])
  | _ => (.cons item .broken, [])
termination_by 2 * ts.length + 1

/-- The members of an object where a member must stand. -/
def readMembers (ts : List Token) : Members × List Token :=
  match ts with
  | .string key :: .colon :: rest =>
    let (value, left) := readTree rest
    match left with
    | .closeObject :: rest' => (.cons key value .closed, rest')
    | .comma :: rest' =>
      if rest'.length < rest.length then
        let (members, left) := readMembers rest'
        (.cons key value members, left)
      else (.cons key value .broken, [])
    | _ => (.cons key value .broken, [])
  | .string key :: _ => (.cons key .broken .broken, [])
  | _ => (.broken, [])
termination_by 2 * ts.length + 1
decreasing_by all_goals (simp_all; omega)

end

/-- The value in front of a text, and the tokens after it. -/
def readText (text : String) : Tree × List Token :=
  readTree (tokens text.toList)

end RelayCollections.Json
