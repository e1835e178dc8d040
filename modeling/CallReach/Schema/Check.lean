import CallReach.Schema.Issue
import CallReach.Text.Case
import CallReach.Text.Integer

/-!
# Checks of single values

Texts are taken as they are.  Truth values are also read from the numbers zero and one and from a few
words; integers also from truth values, whole floating-point numbers and decimal texts.
-/

namespace CallReach.Schema

open CallReach.Data (Value)
open CallReach.Decimal (Double)

/-- Integers of 64 bits lie from `-wordBound` to below `wordBound`. -/
def wordBound : Int := 9223372036854775808

/-- The place a key of a map stands for: whole numbers of 64 bits and truth values by their number,
others by their text. -/
def placeOfKey : Value → Place
  | .text s => .key s
  | .bool b => .index (if b then 1 else 0)
  | .int n => if -wordBound ≤ n && n < wordBound then .index n else .key (toString n)
  | v => .key v.plain

/-- A text. -/
def checkText : Value → Checked String
  | .text s => .ok s
  | _ => .fail .stringType

/-- A text or nothing. -/
def checkOptText : Value → Checked (Option String)
  | .null => .ok none
  | v => (checkText v).map some

/-- The words for false and for true. -/
def falseWords : List String := ["0", "off", "f", "false", "n", "no"]

/-- The words for true. -/
def trueWords : List String := ["1", "on", "t", "true", "y", "yes"]

/-- A text with its ASCII letters in lower case. -/
def lowerAscii (s : String) : String := String.ofList (s.toList.map Char.toLower)

/-- A truth value. -/
def checkBool : Value → Checked Bool
  | .bool b => .ok b
  | .int n => if n == 0 then .ok false else if n == 1 then .ok true else .fail .boolParsing
  | .float x =>
    match x.toInt? with
    | some n => if n == 0 then .ok false else if n == 1 then .ok true else .fail .boolType
    | none => .fail .boolType
  | .text s =>
    let word := lowerAscii s
    if falseWords.contains word then .ok false
    else if trueWords.contains word then .ok true
    else .fail .boolParsing
  | _ => .fail .boolType

/-- The digits of a number without a tail of zeros after a point. -/
def dropZeroTail (cs : List Char) : List Char :=
  let tail := cs.dropWhile (· != '.')
  match tail with
  | '.' :: zeros =>
    if !zeros.isEmpty && zeros.all (· == '0') then cs.takeWhile (· != '.') else cs
  | _ => cs

/-- The integer in a text. -/
def integerOfText? (s : String) : Option Int :=
  let cs := Text.trimBy Text.isEdgeBlank s.toList
  let magnitude (cs : List Char) : Option Nat :=
    let cs := dropZeroTail cs
    if cs.all fun c => c.isDigit || c == '_' then Text.natural? cs else none
  match cs with
  | '-' :: rest => (magnitude rest).map fun n => -(n : Int)
  | '+' :: rest => (magnitude rest).map fun n => (n : Int)
  | cs => (magnitude cs).map fun n => (n : Int)

/-- An integer. -/
def checkInt : Value → Checked Int
  | .bool b => .ok (if b then 1 else 0)
  | .int n => .ok n
  | .float x =>
    match x with
    | .finite .. =>
      match x.toInt? with
      | some n => if -wordBound < n && n < wordBound then .ok n else .fail .intParsingSize
      | none => .fail .intFromFloat
    | _ => .fail .finiteNumber
  | .text s =>
    match integerOfText? s with
    | some n => .ok n
    | none => .fail .intParsing
  | _ => .fail .intType

/-- An integer that is not negative. -/
def checkNatural (v : Value) : Checked Nat :=
  (checkInt v).andThen fun n => if 0 ≤ n then .ok n.toNat else .fail (.greaterThanEqual 0)

/-- A list of items checked one by one. -/
def checkList {α : Type} (item : Value → Checked α) : Value → Checked (List α)
  | .list items => .all (items.mapIdx fun i v => (item v).under (.index i))
  | _ => .fail .listType

/-- A map from texts, its values checked one by one: an issue of a key comes before those of its
value. -/
def checkMap {α : Type} (item : Value → Checked α) : Value → Checked (List (String × α))
  | .map entries =>
    .all (entries.map fun (k, v) =>
      let key := (checkText k).under (.key "[key]")
      ((key.both (item v)).under (placeOfKey k)))
  | _ => .fail .dictType

/-- The entry of a record under a name. -/
def lookup (entries : List (Value × Value)) (name : String) : Option Value :=
  (Value.map entries).field? name

/-- The issues of the keys of a record that no field has. -/
def extraIssues (fields : List String) (entries : List (Value × Value)) : List Issue :=
  entries.filterMap fun (k, _) =>
    match k with
    | .text name => if fields.contains name then none else some ⟨[.key name], .extraForbidden⟩
    | k => some ⟨[placeOfKey k], .invalidKey⟩

/-- A record with the given fields only; their issues come first, those of other keys after. -/
def checkRecord {α : Type} (model : String) (fields : List String)
    (build : (String → Option Value) → Checked α) : Value → Checked α
  | .map entries =>
    let extra : Checked Unit :=
      match extraIssues fields entries with
      | [] => .ok ()
      | is => .bad is
    ((build (lookup entries)).both extra).map (·.1)
  | _ => .fail (.modelType model)

/-- A field that may be absent. -/
def optional {α : Type} (get : String → Option Value) (name : String) (default : α)
    (check : Value → Checked α) : Checked α :=
  match get name with
  | none => .ok default
  | some v => (check v).under (.key name)

/-- A field that has to be there. -/
def required {α : Type} (get : String → Option Value) (name : String)
    (check : Value → Checked α) : Checked α :=
  match get name with
  | none => (Checked.fail .missing).under (.key name)
  | some v => (check v).under (.key name)

end CallReach.Schema
