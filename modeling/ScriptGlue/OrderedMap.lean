/-!
# Ordered maps

Maps from names that remember the order in which names first came. Giving a present name a new value
keeps its place.
-/

namespace ScriptGlue

/-- A map from names, as the pairs in the order of their first insertion. -/
structure OrderedMap (α : Type) where
  /-- The pairs; `insert` keeps the names distinct. -/
  toList : List (String × α) := []

namespace OrderedMap

variable {α : Type}

instance : EmptyCollection (OrderedMap α) := ⟨{}⟩

/-- The pairs with `value` under `key`, in place or at the end. -/
def put (key : String) (value : α) : List (String × α) → List (String × α)
  | [] => [(key, value)]
  | (k, v) :: rest => if k == key then (key, value) :: rest else (k, v) :: put key value rest

/-- The map with `value` under `key`. -/
def insert (m : OrderedMap α) (key : String) (value : α) : OrderedMap α := ⟨put key value m.toList⟩

/-- The value under `key`. -/
def get? (m : OrderedMap α) (key : String) : Option α := m.toList.lookup key

/-- The value under `key`, or `fallback`. -/
def getD (m : OrderedMap α) (key : String) (fallback : α) : α := (m.get? key).getD fallback

/-- The map has a value under `key`. -/
def contains (m : OrderedMap α) (key : String) : Bool := (m.get? key).isSome

/-- The map without `key`. -/
def erase (m : OrderedMap α) (key : String) : OrderedMap α := ⟨m.toList.filter (·.1 != key)⟩

/-- Two maps are the same when they have the same values under the same names, in whatever order. -/
instance [BEq α] : BEq (OrderedMap α) where
  beq m n := m.toList.length == n.toList.length && m.toList.all fun (key, value) => n.get? key == some value

/-- The names in order. -/
def keys (m : OrderedMap α) : List String := m.toList.map (·.1)

/-- The values in the order of their names. -/
def values (m : OrderedMap α) : List α := m.toList.map (·.2)

/-- The number of names. -/
def size (m : OrderedMap α) : Nat := m.toList.length

end OrderedMap

end ScriptGlue
