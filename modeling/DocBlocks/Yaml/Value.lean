import DocBlocks.Binary64.Shortest

/-!
# YAML values

A YAML value is null, a boolean, a number, a string, a sequence, a mapping
(entries in their order) or a tagged value. Numbers are integers in the range
of 64-bit words, signed or unsigned, or binary64 floats.

Values compare as YAML compares them: an integer never equals a float, floats
compare as numbers (with every NaN equal to every NaN), and two mappings are
equal when they have as many entries and each entry of one has an equal key in
the other with an equal value there, whatever the order.
-/

namespace DocBlocks.Yaml

/-- The smallest integer a YAML integer may hold. -/
def minInteger : Int := -(Int.pow 2 63)

/-- One more than the largest integer a YAML integer may hold. -/
def integerBound : Int := Int.pow 2 64

/-- A YAML number. -/
inductive Number where
  /-- an integer in `[-2 ^ 63, 2 ^ 64)` -/
  | integer (i : Int)
  /-- a binary64 float -/
  | float (x : Binary64)
  deriving Inhabited, Repr

namespace Number

/-- The text of a number: decimal digits for integers, the shortest decimal
that reads back for floats. -/
def text : Number → String
  | integer i => toString i
  | float x => x.text

/-- Equality of numbers. -/
def same : Number → Number → Bool
  | integer i, integer j => i == j
  | float x, float y => x.sameNumber y
  | _, _ => false

end Number

/-- A YAML value. -/
inductive Value where
  | null
  | bool (b : Bool)
  | number (n : Number)
  | string (s : String)
  | sequence (items : List Value)
  | mapping (entries : List (Value × Value))
  /-- a value with a tag, kept as written with its leading `!` -/
  | tagged (tag : String) (value : Value)
  deriving Inhabited, Repr

namespace Value

/-- The name of a value's kind. -/
def kind : Value → String
  | null => "null"
  | bool _ => "boolean"
  | number _ => "number"
  | string _ => "string"
  | sequence _ => "sequence"
  | mapping _ => "mapping"
  | tagged _ _ => "tagged value"

mutual

/-- Equality of values. -/
def same : Value → Value → Bool
  | null, null => true
  | bool a, bool b => a == b
  | number a, number b => a.same b
  | string a, string b => a == b
  | sequence as, sequence bs => sameItems as bs
  | mapping as, mapping bs => as.length == bs.length && entriesFound as bs
  | tagged t a, tagged u b => t == u && same a b
  | _, _ => false
  termination_by a b => sizeOf a + sizeOf b

/-- Equality of two sequences, item by item. -/
def sameItems : List Value → List Value → Bool
  | [], [] => true
  | a :: as, b :: bs => same a b && sameItems as bs
  | _, _ => false
  termination_by as bs => sizeOf as + sizeOf bs

/-- Every entry of the first list has an equal key in the second with an
equal value. -/
def entriesFound : List (Value × Value) → List (Value × Value) → Bool
  | [], _ => true
  | (k, v) :: rest, bs => entryFound k v bs && entriesFound rest bs
  termination_by as bs => sizeOf as + sizeOf bs

/-- The first entry with a key equal to `k` has a value equal to `v`. -/
def entryFound (k v : Value) : List (Value × Value) → Bool
  | [] => false
  | (k', w) :: rest => if same k k' then same v w else entryFound k v rest
  termination_by bs => sizeOf k + sizeOf v + sizeOf bs

end

/-! Equality of values as data, structure for structure, so that values can be
compared by evaluation; unlike `same`, it tells apart the two zeros, NaNs and
mappings in another order. -/

instance : DecidableEq Number := fun a b =>
  match a, b with
  | .integer i, .integer j =>
    if h : i = j then isTrue (h ▸ rfl) else isFalse fun e => h (Number.integer.inj e)
  | .float x, .float y =>
    if h : x = y then isTrue (h ▸ rfl) else isFalse fun e => h (Number.float.inj e)
  | .integer _, .float _ => isFalse nofun
  | .float _, .integer _ => isFalse nofun

mutual

/-- Decides whether two values are the same data. -/
def decEq : (a b : Value) → Decidable (a = b)
  | null, null => isTrue rfl
  | bool x, bool y => if h : x = y then isTrue (h ▸ rfl) else isFalse fun e => h (bool.inj e)
  | number x, number y =>
    if h : x = y then isTrue (h ▸ rfl) else isFalse fun e => h (number.inj e)
  | string x, string y =>
    if h : x = y then isTrue (h ▸ rfl) else isFalse fun e => h (string.inj e)
  | sequence xs, sequence ys =>
    match decEqItems xs ys with
    | isTrue h => isTrue (h ▸ rfl)
    | isFalse h => isFalse fun e => h (sequence.inj e)
  | mapping xs, mapping ys =>
    match decEqEntries xs ys with
    | isTrue h => isTrue (h ▸ rfl)
    | isFalse h => isFalse fun e => h (mapping.inj e)
  | tagged t x, tagged u y =>
    if ht : t = u then
      match decEq x y with
      | isTrue h => isTrue (ht ▸ h ▸ rfl)
      | isFalse h => isFalse fun e => h (tagged.inj e).2
    else isFalse fun e => ht (tagged.inj e).1
  | null, bool _ | null, number _ | null, string _ | null, sequence _ | null, mapping _
  | null, tagged _ _ => isFalse nofun
  | bool _, null | bool _, number _ | bool _, string _ | bool _, sequence _ | bool _, mapping _
  | bool _, tagged _ _ => isFalse nofun
  | number _, null | number _, bool _ | number _, string _ | number _, sequence _
  | number _, mapping _ | number _, tagged _ _ => isFalse nofun
  | string _, null | string _, bool _ | string _, number _ | string _, sequence _
  | string _, mapping _ | string _, tagged _ _ => isFalse nofun
  | sequence _, null | sequence _, bool _ | sequence _, number _ | sequence _, string _
  | sequence _, mapping _ | sequence _, tagged _ _ => isFalse nofun
  | mapping _, null | mapping _, bool _ | mapping _, number _ | mapping _, string _
  | mapping _, sequence _ | mapping _, tagged _ _ => isFalse nofun
  | tagged _ _, null | tagged _ _, bool _ | tagged _ _, number _ | tagged _ _, string _
  | tagged _ _, sequence _ | tagged _ _, mapping _ => isFalse nofun
  termination_by structural a => a

/-- Decides whether two lists of values are the same data. -/
def decEqItems : (xs ys : List Value) → Decidable (xs = ys)
  | [], [] => isTrue rfl
  | [], _ :: _ => isFalse nofun
  | _ :: _, [] => isFalse nofun
  | x :: xs, y :: ys =>
    match decEq x y, decEqItems xs ys with
    | isTrue h, isTrue h' => isTrue (h ▸ h' ▸ rfl)
    | isFalse h, _ => isFalse fun e => h (List.cons.inj e).1
    | _, isFalse h' => isFalse fun e => h' (List.cons.inj e).2
  termination_by structural xs => xs

/-- Decides whether two lists of entries are the same data. -/
def decEqEntries : (xs ys : List (Value × Value)) → Decidable (xs = ys)
  | [], [] => isTrue rfl
  | [], _ :: _ => isFalse nofun
  | _ :: _, [] => isFalse nofun
  | (k, v) :: xs, (k', v') :: ys =>
    match decEq k k', decEq v v', decEqEntries xs ys with
    | isTrue hk, isTrue hv, isTrue h => isTrue (hk ▸ hv ▸ h ▸ rfl)
    | isFalse hk, _, _ => isFalse fun e => hk (Prod.mk.inj (List.cons.inj e).1).1
    | _, isFalse hv, _ => isFalse fun e => hv (Prod.mk.inj (List.cons.inj e).1).2
    | _, _, isFalse h => isFalse fun e => h (List.cons.inj e).2
  termination_by structural xs => xs

end

instance : DecidableEq Value := decEq

/-- The value of the first entry whose key equals `k`. -/
def lookup (k : Value) : List (Value × Value) → Option Value
  | [] => none
  | (k', v) :: rest => if same k k' then some v else lookup k rest

/-- Entries with `v` set for the key `k`: the first entry with an equal key
keeps its place and takes the new value, otherwise the entry is appended. -/
def insert (k v : Value) : List (Value × Value) → List (Value × Value)
  | [] => [(k, v)]
  | (k', w) :: rest => if same k k' then (k', v) :: rest else (k', w) :: insert k v rest

end Value

end DocBlocks.Yaml
