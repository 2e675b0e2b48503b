import V2xHub.Lib.CString
import V2xHub.Lib.Double

/-!
# cJSON items

The item tree of `cJSON.h` and the functions that look into it. The name of an item (`string`) is set
exactly where the item is a member of an object, so it is kept there.
-/

namespace V2xHub

/-- `struct cJSON`. A number has an integer and a double; the two need not agree. -/
inductive CJson where
  | null
  | false
  | true
  | number (valueint : Int) (valuedouble : Double)
  | string (valuestring : Str)
  | array (child : List CJson)
  | object (child : List (Str × CJson))

namespace CJson

/-- Induction over the tree: what holds of the items of an array and of the values of an object holds of it. -/
theorem induction {P : CJson → Prop} (null : P null) (false : P false) (true : P true)
    (number : ∀ v d, P (number v d)) (string : ∀ s, P (string s))
    (array : ∀ child, (∀ item ∈ child, P item) → P (array child))
    (object : ∀ child, (∀ m ∈ child, P m.2) → P (object child)) (item : CJson) : P item := by
  refine @CJson.rec P (fun child => ∀ item ∈ child, P item) (fun child => ∀ m ∈ child, P m.2) (fun m => P m.2)
    null false true number string array object ?_ ?_ ?_ ?_ ?_ item
  · exact fun item h => absurd h List.not_mem_nil
  · intro item child hitem hchild i hi
    rcases List.mem_cons.1 hi with rfl | hi
    · exact hitem
    · exact hchild i hi
  · exact fun m h => absurd h List.not_mem_nil
  · intro m child hm hchild i hi
    rcases List.mem_cons.1 hi with rfl | hi
    · exact hm
    · exact hchild i hi
  · exact fun name item h => h

/-- `cJSON_strcasecmp`: the difference at the first place where the two differ. -/
def strcasecmp : Str → Str → Int
  | [], [] => 0
  | c :: _, [] => (CString.tolower c).toNat
  | [], c :: _ => -(CString.tolower c).toNat
  | c :: s, d :: t =>
    if CString.tolower c = CString.tolower d then strcasecmp s t
    else (CString.tolower c).toNat - (CString.tolower d).toNat

@[simp] theorem strcasecmp_self (s : Str) : strcasecmp s s = 0 := by
  induction s with
  | nil => rfl
  | cons c s ih => rw [strcasecmp, if_pos rfl, ih]

/-- The items on the `child` chain. -/
def items : CJson → List CJson
  | array child => child
  | object child => child.map Prod.snd
  | _ => []

def getArraySize (item : CJson) : Nat := item.items.length

def getArrayItem (item : CJson) (i : Nat) : Option CJson := item.items[i]?

/-- The first member with the name, ignoring case. The items of an array have no names. -/
def getObjectItem : CJson → Str → Option CJson
  | object child, name => (child.find? fun m => strcasecmp m.1 name = 0).map Prod.snd
  | _, _ => none

/-- `item->type == cJSON_Array`. -/
def isArray : CJson → Bool
  | array _ => Bool.true
  | _ => Bool.false

/-- `valuestring`, where the type is `cJSON_String`. -/
def stringValue? : CJson → Option Str
  | string s => some s
  | _ => none

/-- `valueint`, where the type is `cJSON_Number`. -/
def intValue? : CJson → Option Int
  | number i _ => some i
  | _ => none

end CJson

end V2xHub
