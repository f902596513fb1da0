import ZBot.Js.Text

/-!
# JavaScript values

The values a configuration is made of: what `JSON.parse` returns, and `undefined` for a member that
is not there. Objects and arrays are kept as values, not as references; a member write gives a new
value, and the program's model says where it is stored.

A number is its decimal text (ECMAScript `Number::toString`), so that it needs no arithmetic here:
`0` is the only falsy one that JSON can denote, and string concatenation copies the text. An array
carries, besides its items, the named members a program may have set on it.

Reading a member of `undefined` or `null` throws, and so does writing one on a primitive (the
sources are in strict mode). No value that JSON denotes is a function, so calling one throws.
-/

namespace Js

/-- What a JavaScript program can throw, by class. -/
inductive Error where
  | typeError
  | syntaxError
  | error
  deriving DecidableEq, Repr

inductive Value where
  | undefined
  | null
  | bool (b : Bool)
  | num (text : Text)
  | str (s : Text)
  | arr (items : List Value) (fields : List (Text × Value))
  | obj (fields : List (Text × Value))

instance : Inhabited Value := ⟨.undefined⟩

namespace Value

/-- `ToBoolean`. -/
def truthy : Value → Bool
  | undefined => false
  | null => false
  | bool b => b
  | num t => t != lit "0"
  | str s => !s.isEmpty
  | arr .. => true
  | obj _ => true

/-- Neither `undefined` nor `null`: a member of it can be read. -/
def defined : Value → Bool
  | undefined => false
  | null => false
  | _ => true

/-- The own member `k` of a list of members. -/
def lookup (fields : List (Text × Value)) (k : Text) : Option Value :=
  (fields.find? (·.1 == k)).map Prod.snd

/-- The member list after writing `k`: in place when it is there, at the end when it is not. -/
def insert (fields : List (Text × Value)) (k : Text) (v : Value) : List (Text × Value) :=
  match fields with
  | [] => [(k, v)]
  | f :: fs => if f.1 == k then (k, v) :: fs else f :: insert fs k v

/-- The own members of a value. -/
def fields : Value → List (Text × Value)
  | arr _ fs => fs
  | obj fs => fs
  | _ => []

/-- `v.k`, where `k` is no member the language itself provides. -/
def get (v : Value) (k : Text) : Except Error Value :=
  if v.defined then .ok ((lookup v.fields k).getD undefined) else .error .typeError

/-- `v.k = x` in strict mode. -/
def set (v : Value) (k : Text) (x : Value) : Except Error Value :=
  match v with
  | arr xs fs => .ok (arr xs (insert fs k x))
  | obj fs => .ok (obj (insert fs k x))
  | _ => .error .typeError

theorem lookup_insert_self (fields : List (Text × Value)) (k : Text) (v : Value) :
    lookup (insert fields k v) k = some v := by
  induction fields with
  | nil => simp [insert, lookup]
  | cons f fs ih =>
    by_cases h : f.1 = k
    · simp [insert, lookup, h]
    · simpa [insert, lookup, h] using ih

theorem lookup_insert_of_ne (fields : List (Text × Value)) {k k' : Text} (v : Value)
    (hne : k' ≠ k) : lookup (insert fields k v) k' = lookup fields k' := by
  induction fields with
  | nil => simp [insert, lookup, hne.symm]
  | cons f fs ih =>
    by_cases h : f.1 = k
    · simp [insert, lookup, h, hne.symm]
    · by_cases h' : f.1 = k'
      · simp [insert, lookup, h', hne]
      · simpa [insert, lookup, h, h'] using ih

/-- Only a value with members can be written. -/
theorem set_ok {v v' x : Value} {k : Text} (h : v.set k x = .ok v') :
    v.defined = true ∧ v'.defined = true ∧ v'.fields = insert v.fields k x := by
  cases v with
  | arr xs fs => cases h; exact ⟨rfl, rfl, rfl⟩
  | obj fs => cases h; exact ⟨rfl, rfl, rfl⟩
  | _ => cases h

theorem get_set_self {v v' x : Value} {k : Text} (h : v.set k x = .ok v') : v'.get k = .ok x := by
  obtain ⟨-, hdefined, hfields⟩ := set_ok h
  rw [get, if_pos hdefined, hfields, lookup_insert_self, Option.getD_some]

theorem get_set_of_ne {v v' x : Value} {k k' : Text} (h : v.set k x = .ok v') (hne : k' ≠ k) :
    v'.get k' = v.get k' := by
  obtain ⟨hdefined, hdefined', hfields⟩ := set_ok h
  rw [get, if_pos hdefined', hfields, lookup_insert_of_ne _ x hne, get, if_pos hdefined]

/-- A member that is not `undefined` is there. -/
theorem lookup_of_get {v x : Value} {k : Text} (h : v.get k = .ok x) (hx : x.defined = true) :
    lookup v.fields k = some x := by
  unfold Value.get at h
  split at h
  swap
  · cases h
  cases hlookup : lookup v.fields k with
  | none =>
    rw [hlookup] at h
    cases h
    cases hx
  | some y =>
    rw [hlookup] at h
    cases h
    rfl

/-- A value that has a member can be written. -/
theorem set_of_get {v x : Value} {k : Text} (h : v.get k = .ok x) (hx : x.defined = true)
    (k' : Text) (y : Value) : ∃ v', v.set k' y = .ok v' := by
  cases v with
  | arr xs fs => exact ⟨_, rfl⟩
  | obj fs => exact ⟨_, rfl⟩
  | _ => cases h <;> cases hx

/-- `v.hasOwnProperty(k)`: it throws when the value has no members at all, and when a member of
that name stands where the method is looked up. -/
def hasOwnProperty (v : Value) (k : Text) : Except Error Bool :=
  if !v.defined then .error .typeError
  else if (lookup v.fields (lit "hasOwnProperty")).isSome then .error .typeError
  else .ok (lookup v.fields k).isSome

/-- The items `v.forEach` visits. It throws when `v` has no such method. -/
def items (v : Value) : Except Error (List Value) :=
  match v with
  | arr xs _ => .ok xs
  | _ => .error .typeError

/-- The items of an array, none for any other value. -/
def itemsD : Value → List Value
  | arr xs _ => xs
  | _ => []

/-- The decimal text of an array index. -/
def indexText (n : Nat) : Text := lit (toString n)

/-- The values `lodash.values` lists. -/
def values : Value → List Value
  | arr xs _ => xs
  | obj fs => fs.map Prod.snd
  | str s => s.map fun c => str [c]
  | _ => []

/-- The own enumerable members `lodash.assign` copies from a value. -/
def entries : Value → List (Text × Value)
  | arr xs fs => xs.mapIdx (fun i x => (indexText i, x)) ++ fs
  | obj fs => fs
  | str s => s.mapIdx fun i c => (indexText i, str [c])
  | _ => []

/-- `lodash.assign(lodash.clone(target), source)`. -/
def assign (target source : Value) : Value :=
  match target with
  | obj fs => obj (source.entries.foldl (fun fs e => insert fs e.1 e.2) fs)
  | arr xs fs => arr xs (source.entries.foldl (fun fs e => insert fs e.1 e.2) fs)
  | v => v

mutual

/-- `ToString`. An object's own member `toString` hides the method and is no function. -/
def toText : Value → Except Error Text
  | undefined => .ok (lit "undefined")
  | null => .ok (lit "null")
  | bool true => .ok (lit "true")
  | bool false => .ok (lit "false")
  | num t => .ok t
  | str s => .ok s
  | arr xs fs =>
    if (lookup fs (lit "toString")).isSome || (lookup fs (lit "join")).isSome then .error .typeError
    else joinTexts xs
  | obj fs =>
    if (lookup fs (lit "toString")).isSome then .error .typeError else .ok (lit "[object Object]")

/-- `xs.join(',')`: `undefined` and `null` add nothing between their commas. -/
def joinTexts : List Value → Except Error Text
  | [] => .ok []
  | x :: xs => do
    let t ← if x.defined then toText x else .ok []
    let rest ← joinTexts xs
    return if xs.isEmpty then t else t ++ (lit "," ++ rest)

end

/-- `v == s` for a string `s` that is no number: strings are compared, an object is converted
first, and every other value is different. -/
def looseEqText (v : Value) (s : Text) : Except Error Bool :=
  match v with
  | str t => .ok (t == s)
  | arr xs fs => do return (← toText (arr xs fs)) == s
  | obj fs => do return (← toText (obj fs)) == s
  | _ => .ok false

end Value

end Js
