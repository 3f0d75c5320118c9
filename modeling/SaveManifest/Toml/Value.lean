/-!
# TOML values

The values of TOML and the tables they stand in. A table knows how it came about, because that
decides what may still be added to it: a table written in braces is closed, one with a header of
its own takes no second header and no keys from outside, one that only headers below it imply
may still get a header, and one made by a dotted key takes more dotted keys.
-/

namespace SaveManifest.Toml

/-- How a table came about. -/
inductive Origin where
  | braces
  | header
  | implied
  | dotted
deriving DecidableEq, Repr

/-- A value. `tables` says that a list was written as a row of headed tables, the last of which
can still grow. -/
inductive Value where
  | text (value : String)
  | integer (value : Int)
  | float
  | truth (value : Bool)
  | date
  | list (tables : Bool) (items : List Value)
  | table (origin : Origin) (fields : List (String × Value))
deriving Repr

/-- The fields of a table, in the order in which they were written. -/
abbrev Fields := List (String × Value)

namespace Fields

def set (key : String) (value : Value) : Fields → Fields
  | [] => [(key, value)]
  | (other, old) :: rest =>
    if other = key then (key, value) :: rest else (other, old) :: set key value rest

/-- Changes the last table of a row of tables. -/
def changeLast (change : Fields → Option Fields) : List Value → Option (List Value)
  | [] => none
  | [.table origin fields] => (change fields).map fun fields => [.table origin fields]
  | [_] => none
  | item :: items => (changeLast change items).map (item :: ·)

/-- Changes the table that a row of keys leads to; tables that are not there yet are made. A table
with a header cannot be reached by dotted keys, and one in braces not at all. `reached` tells how
the table that was changed had come about. -/
def changeAt (dotted : Bool) (change : Origin → Fields → Option Fields) :
    Origin → List String → Fields → Option Fields
  | reached, [], fields => change reached fields
  | _, key :: keys, fields =>
    match fields.lookup key with
    | none => do
      let origin := if dotted then Origin.dotted else Origin.implied
      let inner ← changeAt dotted change origin keys []
      some (fields.set key (.table origin inner))
    | some (.list true items) => do
      let items ← changeLast (changeAt dotted change .header keys) items
      some (fields.set key (.list true items))
    | some (.table origin inner) =>
      if origin = .braces ∨ (dotted ∧ origin = .header) then none
      else do
        let inner ← changeAt dotted change origin keys inner
        some (fields.set key (.table origin inner))
    | some _ => none

/-- Adds a value under a dotted key. The last table on the way has to be one that dotted keys
made, and the key has to be new there. -/
def addDotted (keys : List String) (value : Value) (fields : Fields) : Option Fields :=
  match keys.getLast? with
  | none => none
  | some key =>
    let path := keys.dropLast
    changeAt true
      (fun origin inner =>
        if (origin = .dotted) ↔ path = [] then none
        else if (inner.lookup key).isSome then none
        else some (inner ++ [(key, value)]))
      .header path fields

def addHeader (keys : List String) (fields : Fields) : Option Fields :=
  match keys.getLast? with
  | none => none
  | some key =>
    changeAt false
      (fun _ inner =>
        match inner.lookup key with
        | none => some (inner ++ [(key, .table .header [])])
        | some (.table .implied below) => some (inner.set key (.table .header below))
        | some _ => none)
      .header keys.dropLast fields

/-- Starts one more table of the row of tables of a header. -/
def addRowHeader (keys : List String) (fields : Fields) : Option Fields :=
  match keys.getLast? with
  | none => none
  | some key =>
    changeAt false
      (fun _ inner =>
        match inner.lookup key with
        | none => some (inner ++ [(key, .list true [.table .header []])])
        | some (.list true items) =>
          some (inner.set key (.list true (items ++ [.table .header []])))
        | some _ => none)
      .header keys.dropLast fields

/-- Adds a value under a dotted key to the table that the last header started. -/
def addBelow (header keys : List String) (value : Value) (fields : Fields) : Option Fields :=
  changeAt false (fun _ inner => addDotted keys value inner) .header header fields

end Fields

end SaveManifest.Toml
