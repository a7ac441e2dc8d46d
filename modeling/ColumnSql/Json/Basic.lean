/-! JSON values. -/

namespace ColumnSql

/-- a JSON value; an integer that no machine word holds is a float -/
inductive Json
  | null
  | bool (b : Bool)
  | int (n : Int)
  | float (x : Float)
  | string (s : String)
  | array (items : List Json)
  /-- the members in order, repeated names included -/
  | object (members : List (String × Json))

namespace Json

def insert (name : String) (v : Json) : List (String × Json) → List (String × Json)
  | [] => [(name, v)]
  | x :: r =>
    if name < x.1 then (name, v) :: x :: r
    else if name = x.1 then (name, v) :: r
    else x :: insert name v r

/-- the members in order of their names, of those with one name the last -/
def ordered (members : List (String × Json)) : List (String × Json) :=
  members.foldl (fun done x => insert x.1 x.2 done) []

mutual

/-- equality, where floating point numbers are compared as numbers -/
def same : Json → Json → Bool
  | null, null => true
  | bool a, bool b => a == b
  | int a, int b => a == b
  | float a, float b => a == b
  | string a, string b => a == b
  | array a, array b => sameItems a b
  | object a, object b => sameMembers a b
  | _, _ => false

def sameItems : List Json → List Json → Bool
  | [], [] => true
  | a :: r, b :: s => a.same b && sameItems r s
  | _, _ => false

def sameMembers : List (String × Json) → List (String × Json) → Bool
  | [], [] => true
  | (m, a) :: r, (n, b) :: s => m == n && a.same b && sameMembers r s
  | _, _ => false

end

end Json

end ColumnSql
