import Mathlib.Tactic.Common

/-!
# JSON values and typed readers

The fields of an object are kept in the order of their keys, so that two objects with the
same fields are the same value. A reader turns a value into a typed one or refuses it. The
readers of structures follow derived deserializers: a structure is read from an object or
from the array of its fields, a strict one refuses every name it does not know, and a
defaulted field may be left out.
-/

namespace Rcoder

/-- The order of texts by their code points, which is the order of their UTF-8 bytes. -/
def textBefore (a b : String) : Bool :=
  List.lex (a.toList.map Char.toNat) (b.toList.map Char.toNat) Nat.blt

theorem textBefore_irrefl (a : String) : textBefore a a = false := by
  unfold textBefore
  induction a.toList.map Char.toNat with
  | nil => rfl
  | cons n l ih =>
    rw [List.lex, ih, Bool.and_false, Bool.or_false]
    exact Bool.eq_false_iff.mpr fun h => Nat.not_succ_le_self n (Nat.le_of_ble_eq_true h)

mutual

inductive Json
  | null
  | bool (value : Bool)
  | num (value : Int)
  | str (value : String)
  | arr (items : Json.Items)
  | obj (fields : Json.Fields)
  deriving DecidableEq

inductive Json.Items
  | nil
  | cons (head : Json) (tail : Json.Items)
  deriving DecidableEq

inductive Json.Fields
  | nil
  | cons (key : String) (value : Json) (tail : Json.Fields)
  deriving DecidableEq

end

namespace Json

namespace Items

def toList : Items → List Json
  | .nil => []
  | .cons v vs => v :: vs.toList

def ofList : List Json → Items
  | [] => .nil
  | v :: vs => .cons v (ofList vs)

end Items

namespace Fields

def find? : Fields → String → Option Json
  | .nil, _ => none
  | .cons k v fs, key => if k = key then some v else fs.find? key

/-- The field `key` becomes `value`; a new one takes its place among the others. -/
def insert : Fields → String → Json → Fields
  | .nil, key, value => .cons key value .nil
  | .cons k v fs, key, value =>
    if key = k then .cons k value fs
    else if textBefore key k then .cons key value (.cons k v fs)
    else .cons k v (fs.insert key value)

def erase : Fields → String → Fields
  | .nil, _ => .nil
  | .cons k v fs, key => if k = key then fs.erase key else .cons k v (fs.erase key)

def keys : Fields → List String
  | .nil => []
  | .cons k _ fs => k :: fs.keys

@[simp]
theorem mem_keys_insert {key name : String} {value : Json} :
    ∀ {fs : Fields}, name ∈ (fs.insert key value).keys ↔ name = key ∨ name ∈ fs.keys
  | .nil => by simp [insert, keys]
  | .cons k v fs => by
    rw [insert]
    split
    · rename_i hk
      simp [keys, hk]
    · split
      · simp [keys]
      · simp [keys, mem_keys_insert, or_left_comm]

theorem erase_of_not_mem {key : String} : ∀ {fs : Fields}, key ∉ fs.keys → fs.erase key = fs
  | .nil, _ => rfl
  | .cons k v fs, h => by
    simp only [keys, List.mem_cons, not_or] at h
    rw [erase, if_neg (Ne.symm h.1), erase_of_not_mem h.2]

end Fields

def isObject : Json → Bool
  | .obj _ => true
  | _ => false

def asStr : Json → Option String
  | .str s => some s
  | _ => none

def asBool : Json → Option Bool
  | .bool b => some b
  | _ => none

def asU64 : Json → Option Nat
  | .num n => if 0 ≤ n ∧ n ≤ 18446744073709551615 then some n.toNat else none
  | _ => none

def get : Json → String → Option Json
  | .obj fields, key => fields.find? key
  | _, _ => none

/-- The value at the end of a path of field names. -/
def pointer : Json → List String → Option Json
  | v, [] => some v
  | v, key :: keys => (v.get key).bind fun w => w.pointer keys

/-- `v[key] = value`: a null becomes an object, and nothing but an object is assigned to. -/
def assign : Json → String → Json → Option Json
  | .null, key, value => some (.obj (.cons key value .nil))
  | .obj fields, key, value => some (.obj (fields.insert key value))
  | _, _, _ => none

def object (fields : List (String × Json)) : Json :=
  .obj (fields.foldl (fun fs f => fs.insert f.1 f.2) .nil)

def array (items : List Json) : Json := .arr (Items.ofList items)

/-! ### Readers -/

variable {α β : Type}

/-- A typed reader: the value read, or nothing where the document is refused. -/
abbrev Reader (α : Type) := Json → Option α

def string : Reader String := asStr

def boolean : Reader Bool := asBool

def unsigned (bits : Nat) : Reader Nat
  | .num n => if 0 ≤ n ∧ n.toNat < 1 <<< bits then some n.toNat else none
  | _ => none

def anything : Reader Json := some

def optional (read : Reader α) : Reader (Option α)
  | .null => some none
  | v => (read v).map some

def list (read : Reader α) : Reader (List α)
  | .arr items => items.toList.mapM read
  | _ => none

/-- A variant without contents: its name, or an object whose only field is that name. -/
def enumeration (variant : String → Option α) : Reader α
  | .str name => variant name
  | .obj (.cons name .null .nil) => variant name
  | _ => none

/-- The fields of a structure, in order: their names and how they are read. -/
structure Record (α : Type) where
  names : List String
  fromObject : Fields → Option α
  fromArray : List Json → Option (α × List Json)

namespace Record

protected def pure (a : α) : Record α where
  names := []
  fromObject _ := some a
  fromArray items := some (a, items)

protected def seq (f : Record (α → β)) (x : Record α) : Record β where
  names := f.names ++ x.names
  fromObject fields := (f.fromObject fields).bind fun g => (x.fromObject fields).map g
  fromArray items :=
    (f.fromArray items).bind fun g => (x.fromArray g.2).map fun a => (g.1 a.1, a.2)

instance : Applicative Record where
  pure := Record.pure
  seq f x := Record.seq f (x ())

end Record

/-- One field; `missing` stands in for an absent one, `short` past the end of an array. -/
def fieldOr (name : String) (read : Reader α) (missing short : Option α) : Record α where
  names := [name]
  fromObject fields :=
    match fields.find? name with
    | some v => read v
    | none => missing
  fromArray
    | [] => short.map fun a => (a, [])
    | v :: vs => (read v).map fun a => (a, vs)

def field (name : String) (read : Reader α) : Record α := fieldOr name read none none

/-- A field of an optional type, which may be absent from an object. -/
def optionalField (name : String) (read : Reader α) : Record (Option α) :=
  fieldOr name (optional read) (some none) none

def defaulted (name : String) (read : Reader α) (value : α) : Record α :=
  fieldOr name read (some value) (some value)

/-- A defaulted field of an optional type. -/
def maybe (name : String) (read : Reader α) : Record (Option α) :=
  defaulted name (optional read) none

def record (r : Record α) : Reader α
  | .obj fields => r.fromObject fields
  | .arr items =>
    match r.fromArray items.toList with
    | some (a, []) => some a
    | _ => none
  | _ => none

/-- A structure that refuses unknown names. -/
def strict (r : Record α) : Reader α
  | .obj fields => if fields.keys.all (r.names.contains ·) then r.fromObject fields else none
  | v => record r v

/-- An object whose field `tag` selects how the others are read. -/
def tagged (tag : String) (variant : String → Option (Reader α)) : Reader α
  | .obj fields =>
    (((fields.find? tag).bind string).bind variant).bind fun read => read (.obj (fields.erase tag))
  | .arr (.cons v vs) => ((string v).bind variant).bind fun read => read (.arr vs)
  | _ => none

/-- An object whose field `tag` selects how its field `content` is read. -/
def adjacent (tag content : String) (variant : String → Option (Reader α)) : Reader α
  | .obj fields =>
    (((fields.find? tag).bind string).bind variant).bind fun read =>
      (fields.find? content).bind read
  | .arr (.cons t (.cons c .nil)) => ((string t).bind variant).bind fun read => read c
  | _ => none

/-- A strict structure read from an object has only names of its own. -/
theorem strict_keys {r : Record α} {fields : Fields} {a : α}
    (h : strict r (.obj fields) = some a) : ∀ key ∈ fields.keys, key ∈ r.names := by
  simp only [strict, List.all_eq_true, List.contains_iff_mem, Option.ite_none_right_eq_some] at h
  exact h.1

end Json

end Rcoder
