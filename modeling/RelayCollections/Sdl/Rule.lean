import RelayCollections.Sdl.Token

namespace RelayCollections.Sdl

/-!
# Rules of a grammar

A rule reads something from the front of a token sequence. Which alternative it takes
shows on the next token, and it never goes back; so it fails at the first token that does
not fit. The place of a failure is given by the number of tokens from there to the end.

* `Rule` — the type, with its monad;
* `mark`, `name`, `word`, `usable` — rules of one token;
* `whenNext`, `many`, `oneOrMore` — optional and repeated parts;
* `bind_of_ok`, `many_of_ok`, … — what rules do on tokens that they fit.
-/

/-- What a rule reads and the tokens it leaves, or how many tokens are left where it
    fails. -/
def Rule (α : Type) : Type := List Token → Except Nat (α × List Token)

namespace Rule

/-- A rule that reads nothing. -/
def done (a : α) : Rule α := fun ts => .ok (a, ts)

/-- One rule after another. -/
def andThen (r : Rule α) (next : α → Rule β) : Rule β := fun ts =>
  match r ts with
  | .ok (a, rest) => next a rest
  | .error left => .error left

instance : Monad Rule where
  pure := done
  bind := andThen

/-! ### Single tokens -/

/-- A given mark. -/
def mark (m : Mark) : Rule Unit
  | .mark m' :: ts => if m' = m then .ok ((), ts) else .error (ts.length + 1)
  | ts => .error ts.length

/-- Any name. -/
def name : Rule String
  | .name text :: ts => .ok (text, ts)
  | ts => .error ts.length

/-- A given name. -/
def word (w : String) : Rule Unit
  | .name text :: ts => if text = w then .ok ((), ts) else .error (ts.length + 1)
  | ts => .error ts.length

/-- Any token that can be used. -/
def usable : Rule Unit
  | t :: ts => if t.isUsable then .ok ((), ts) else .error (ts.length + 1)
  | [] => .error 0

/-! ### Parts that may be absent or repeated -/

/-- A part that is there if the next token starts it. -/
def whenNext (starts : Token → Bool) (r : Rule α) (absent : α) : Rule α
  | [] => .ok (absent, [])
  | t :: ts => if starts t then r (t :: ts) else .ok (absent, t :: ts)

/-- A part as often as the next token starts it. -/
def many (starts : Token → Bool) (r : Rule α) (ts : List Token) :
    Except Nat (List α × List Token) :=
  match ts with
  | [] => .ok ([], [])
  | t :: tail =>
    if starts t then
      match r (t :: tail) with
      | .error left => .error left
      | .ok (a, rest) =>
        if rest.length ≤ tail.length then
          match many starts r rest with
          | .error left => .error left
          | .ok (as, left) => .ok (a :: as, left)
        else .ok ([a], rest)
    else .ok ([], t :: tail)
termination_by ts.length

/-- A part once, and again as often as the next token starts it. -/
def oneOrMore (starts : Token → Bool) (r : Rule α) : Rule (List α) := do
  let a ← r
  return a :: (← many starts r)

/-! ### What rules do -/

@[simp] theorem pure_apply (a : α) (ts : List Token) : (pure a : Rule α) ts = .ok (a, ts) :=
  rfl

/-- The second of two rules reads what the first leaves. -/
theorem bind_of_ok {r : Rule α} {ts rest : List Token} {a : α} (h : r ts = .ok (a, rest))
    (next : α → Rule β) : (r >>= next) ts = next a rest := by
  show (match r ts with
    | .ok (a, rest) => next a rest
    | .error left => .error left) = _
  rw [h]

/-- The failure of the first of two rules is that of both. -/
theorem bind_of_error {r : Rule α} {ts : List Token} {left : Nat} (h : r ts = .error left)
    (next : α → Rule β) : (r >>= next) ts = .error left := by
  show (match r ts with
    | .ok (a, rest) => next a rest
    | .error left => .error left) = _
  rw [h]

@[simp] theorem mark_self (m : Mark) (ts : List Token) :
    mark m (.mark m :: ts) = .ok ((), ts) :=
  if_pos rfl

@[simp] theorem name_cons (text : String) (ts : List Token) :
    name (.name text :: ts) = .ok (text, ts) :=
  rfl

@[simp] theorem word_self (w : String) (ts : List Token) :
    word w (.name w :: ts) = .ok ((), ts) :=
  if_pos rfl

/-- A part that the next token starts is read. -/
theorem whenNext_of_starts {starts : Token → Bool} {t : Token} (h : starts t = true)
    (r : Rule α) (absent : α) (ts : List Token) :
    whenNext starts r absent (t :: ts) = r (t :: ts) :=
  if_pos h

/-- A part that the next token does not start is absent. -/
theorem whenNext_of_not_starts {starts : Token → Bool} {t : Token} (h : starts t = false)
    (r : Rule α) (absent : α) (ts : List Token) :
    whenNext starts r absent (t :: ts) = .ok (absent, t :: ts) := by
  rw [whenNext, h]
  rfl

/-- No part is repeated at the end. -/
@[simp] theorem many_nil (starts : Token → Bool) (r : Rule α) :
    many starts r [] = .ok ([], []) := by
  rw [many]

/-- A repeated part ends where the next token does not start it. -/
theorem many_of_not_starts {starts : Token → Bool} {t : Token} (h : starts t = false)
    (r : Rule α) (ts : List Token) : many starts r (t :: ts) = .ok ([], t :: ts) := by
  rw [many, h]
  rfl

/-- A repeated part that is read once is read on from there. -/
theorem many_of_ok {starts : Token → Bool} {t : Token} (h : starts t = true) {r : Rule α}
    {ts rest left : List Token} {a : α} {as : List α} (hr : r (t :: ts) = .ok (a, rest))
    (hlen : rest.length ≤ ts.length) (hrest : many starts r rest = .ok (as, left)) :
    many starts r (t :: ts) = .ok (a :: as, left) := by
  rw [many, if_pos h, hr]
  simp only [if_pos hlen, hrest]

end Rule

/-! ### Tokens that start parts -/

/-- The token is a given mark. -/
def Token.isMark (m : Mark) (t : Token) : Bool :=
  t == .mark m

/-- The token is a given name. -/
def Token.isWord (w : String) (t : Token) : Bool :=
  t == .name w

/-- The token is a name. -/
def Token.isName : Token → Bool
  | .name _ => true
  | _ => false

/-- The token is a string. -/
def Token.isString : Token → Bool
  | .quoted _ | .block _ => true
  | _ => false

/-- The token starts a name with an optional description before it. -/
def Token.startsDescribed (t : Token) : Bool :=
  t.isName || t.isString

end RelayCollections.Sdl
