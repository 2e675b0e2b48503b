import V2xHub.CJson.Number
import V2xHub.CJson.StringText

/-!
# The text of an item

`cJSON_Print`, `cJSON_PrintUnformatted` and `cJSON_Parse`. A text is a C string; the parser stops where the
value ends.
-/

namespace V2xHub.CJson

/-! ### Printing -/

def tabs (depth : Nat) : Str := List.replicate depth 9

/-- What only the formatted text has. -/
def formatted (fmt : Bool) (s : Str) : Str := if fmt then s else []

mutual

def printValue (fmt : Bool) (depth : Nat) : CJson → Str
  | null => CString.lit "null"
  | false => CString.lit "false"
  | true => CString.lit "true"
  | number valueint valuedouble => printNumber valueint valuedouble
  | string valuestring => printString valuestring
  | array child => 91 :: printItems fmt (depth + 1) child
  | object [] => 123 :: formatted fmt (10 :: tabs (depth - 1)) ++ [125]
  | object (m :: child) => 123 :: formatted fmt [10] ++ printMembers fmt (depth + 1) (m :: child)

/-- The items of an array and the closing bracket. -/
def printItems (fmt : Bool) (depth : Nat) : List CJson → Str
  | [] => [93]
  | [item] => printValue fmt depth item ++ [93]
  | item :: child => printValue fmt depth item ++ 44 :: formatted fmt [32] ++ printItems fmt depth child

/-- The members of an object and the closing brace. -/
def printMembers (fmt : Bool) (depth : Nat) : List (Str × CJson) → Str
  | [] => formatted fmt (tabs (depth - 1)) ++ [125]
  | [m] => printMember fmt depth m ++ formatted fmt [10] ++ formatted fmt (tabs (depth - 1)) ++ [125]
  | m :: child => printMember fmt depth m ++ 44 :: formatted fmt [10] ++ printMembers fmt depth child

def printMember (fmt : Bool) (depth : Nat) : Str × CJson → Str
  | (name, item) => formatted fmt (tabs depth) ++ printString name ++ 58 :: formatted fmt [9] ++ printValue fmt depth item

end

def print (item : CJson) : Str := printValue Bool.true 0 item

def printUnformatted (item : CJson) : Str := printValue Bool.false 0 item

/-! ### Parsing -/

def skip (text : Str) : Str := text.dropWhile fun c => c.toNat ≤ 32

mutual

/-- `parse_value`. The fuel counts calls; every call but the last takes a byte from the text. -/
def parseValue (libc : Libc) : Nat → Str → Option (CJson × Str)
  | 0, _ => none
  | fuel + 1, value =>
    if CString.lit "null" <+: value then some (null, value.drop 4)
    else if CString.lit "false" <+: value then some (false, value.drop 5)
    else if CString.lit "true" <+: value then some (true, value.drop 4)
    else
      match value with
      | [] => none
      | c :: text =>
        if c = 34 then (parseString value).map fun r => (string r.1, r.2)
        else if c = 45 ∨ c = 46 ∨ isDigit c then some (parseNumber libc value)
        else if c = 91 then
          if (skip text).head? = some 93 then some (array [], (skip text).tail)
          else do
            let (item, text) ← parseValue libc fuel (skip text)
            let (child, text) ← parseItems libc fuel (skip text)
            some (array (item :: child), text)
        else if c = 123 then
          if (skip text).head? = some 125 then some (object [], (skip text).tail)
          else do
            let (m, text) ← parseMember libc fuel (skip text)
            let (child, text) ← parseMembers libc fuel (skip text)
            some (object (m :: child), text)
        else none

/-- The items of an array behind one of them. -/
def parseItems (libc : Libc) : Nat → Str → Option (List CJson × Str)
  | 0, _ => none
  | fuel + 1, value =>
    if value.head? = some 44 then do
      let (item, text) ← parseValue libc fuel (skip value.tail)
      let (child, text) ← parseItems libc fuel (skip text)
      some (item :: child, text)
    else if value.head? = some 93 then some ([], value.tail)
    else none

/-- A name, a colon and a value. -/
def parseMember (libc : Libc) : Nat → Str → Option ((Str × CJson) × Str)
  | 0, _ => none
  | fuel + 1, value => do
    let (name, text) ← parseString value
    if (skip text).head? = some 58 then do
      let (item, text) ← parseValue libc fuel (skip (skip text).tail)
      some ((name, item), text)
    else none

/-- The members of an object behind one of them. -/
def parseMembers (libc : Libc) : Nat → Str → Option (List (Str × CJson) × Str)
  | 0, _ => none
  | fuel + 1, value =>
    if value.head? = some 44 then do
      let (m, text) ← parseMember libc fuel (skip value.tail)
      let (child, text) ← parseMembers libc fuel (skip text)
      some (m :: child, text)
    else if value.head? = some 125 then some ([], value.tail)
    else none

end

/-- `cJSON_Parse`. -/
def parse (libc : Libc) (value : Str) : Option CJson :=
  (parseValue libc (value.length + 1) (skip value)).map Prod.fst

end V2xHub.CJson
