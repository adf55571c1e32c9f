import MultiNicCni.Go.Map

/-!
# JSON objects (`encoding/json`)

An object is the map from its keys to their values, as `json.Unmarshal` fills a
`map[string]interface{}`. The values are those of flat structs: scalars, and the empty object of
a struct without contents. A number of a `map[string]interface{}` is a `float64`; a number here
is an integer that a `float64` holds exactly (`exact`).

- `object`: `json.Marshal` of a struct, field by field, where an omitted field is `none`;
- `decodeString`, `decodeInt`, …: `json.Unmarshal` into a field that is zero before.
-/

namespace MultiNicCni.Go

inductive Json where
  | null
  | bool (b : Bool)
  | num (n : Int)
  | str (s : String)
  /-- `{}` -/
  | empty
  deriving DecidableEq, Repr

abbrev JsonObject := GoMap String Json

namespace Json

/-- Does a `float64` hold this integer, and every one of smaller magnitude? -/
def exact (n : Int) : Prop := n.natAbs ≤ 2 ^ 53

instance (n : Int) : Decidable (exact n) := inferInstanceAs (Decidable (_ ≤ _))

/-! ## Marshal -/

/-- An object from the fields of a struct, where an omitted field is `none`. -/
def object : List (String × Option Json) → JsonObject
  | [] => ∅
  | (key, some v) :: fields => (object fields).insert key v
  | (_, none) :: fields => object fields

theorem lookup_object_nil (k : String) : (object []).lookup k = none := AList.lookup_empty k

/-- The field of the key, if it is the first. -/
theorem lookup_object_cons (k key : String) (v : Option Json) (fields : List (String × Option Json)) :
    (object ((key, v) :: fields)).lookup k =
      if k = key then v.or ((object fields).lookup k) else (object fields).lookup k := by
  cases v with
  | none =>
    show (object fields).lookup k = _
    rw [Option.none_or, ite_self]
  | some v =>
    show ((object fields).insert key v).lookup k = _
    by_cases hk : k = key
    · rw [if_pos hk, hk, AList.lookup_insert]
      rfl
    · rw [if_neg hk, AList.lookup_insert_ne hk]

/-- `omitempty` on a string. -/
def omitEmptyStr (s : String) : Option Json := if s = "" then none else some (str s)

/-- `omitempty` on a number. -/
def omitEmptyInt (n : Int) : Option Json := if n = 0 then none else some (num n)

/-! ## Unmarshal -/

/-- A value of another type than that of the field. -/
inductive DecodeError where
  | unmarshalType (value : Json)
  deriving DecidableEq, Repr

/-- A missing key and `null` leave the field as it is. -/
def decodeString : Option Json → Except DecodeError String
  | none | some null => .ok ""
  | some (str s) => .ok s
  | some v => .error (.unmarshalType v)

def decodeInt : Option Json → Except DecodeError Int
  | none | some null => .ok 0
  | some (num n) => .ok n
  | some v => .error (.unmarshalType v)

def decodeBool : Option Json → Except DecodeError Bool
  | none | some null => .ok false
  | some (bool b) => .ok b
  | some v => .error (.unmarshalType v)

/-- A struct of which nothing is read. -/
def decodeEmpty : Option Json → Except DecodeError Unit
  | none | some null | some empty => .ok ()
  | some v => .error (.unmarshalType v)

theorem decodeString_omitEmptyStr (s : String) : decodeString (omitEmptyStr s) = .ok s := by
  unfold omitEmptyStr
  split
  · next h => rw [h]; rfl
  · rfl

/-- The same where a missing key was made `null`. -/
theorem decodeString_getD_null (v : Option Json) :
    decodeString (some (v.getD null)) = decodeString v := by
  cases v with
  | none => rfl
  | some v => rfl

theorem decodeInt_omitEmptyInt (n : Int) : decodeInt (omitEmptyInt n) = .ok n := by
  unfold omitEmptyInt
  split
  · next h => rw [h]; rfl
  · rfl

end Json

end MultiNicCni.Go
