import MetricsAgent.Calendar.Reader
import MetricsAgent.Host.Files
import MetricsAgent.Json.Basic
import MetricsAgent.Number.Reader
import MetricsAgent.Value

/-!
# Values in documents

A document can hold any value: what JSON has no form for is an object with a single member, whose
name begins with a dollar sign and tells the kind of the value.
-/

namespace MetricsAgent

/-! ## Bytes -/

namespace Hex

/-- Bytes as pairs of digits. -/
def encode (bs : List UInt8) : String :=
  String.join (bs.map fun b => CharClass.hexText 2 b.toNat)

/-- Pairs of digits as bytes; a digit that is left over is dropped. -/
def decodeChars : List Char → List UInt8
  | a :: b :: rest =>
    UInt8.ofNat (16 * CharClass.hexValue a + CharClass.hexValue b) :: decodeChars rest
  | _ => []

def decode (s : String) : List UInt8 :=
  decodeChars s.toList

end Hex

/-! ## From values to documents -/

/-- An object with a single member. -/
def Json.tag (name : String) (j : Json) : Json :=
  .object [(name, j)]

/-- A scalar in a document. -/
def Scalar.tagged : Scalar → Json
  | .null => .null
  | .bool b => .bool b
  | .int n => .int n
  | .float x => .float x
  | .text s => .string s
  | .bytes bs => .tag "$bytes" (.string (Hex.encode bs))
  | .date d => .tag "$date" (.string d.text)
  | .datetime t => .tag "$datetime" (.string t.isoText)
  | .path s => .string s
  | .foreign k _ _ => .tag "$type" (.string k)

/-- The order of the members of a set: texts and whole numbers ascend. -/
def Scalar.notAfter (a b : Scalar) : Bool :=
  match a, b with
  | .text x, .text y => !(y < x)
  | .int x, .int y => x ≤ y
  | _, _ => true

/-- Whether all keys of a mapping are texts. -/
def Entries.haveNames (es : Entries) : Bool :=
  es.all fun (k, _) =>
    match k with
    | .text _ => true
    | _ => false

mutual

/-- A value in a document.  A mapping with a key that is no text becomes a list of pairs. -/
def Value.tagged : Value → Json
  | .scalar s => s.tagged
  | .list xs => .array (taggedItems xs)
  | .tuple xs => .array (taggedItems xs)
  | .set ss => .tag "$set" (.array ((ss.mergeSort Scalar.notAfter).map Scalar.tagged))
  | .map es =>
    if Entries.haveNames es then .object (taggedMembers es)
    else .tag "$pairs" (.array (taggedPairs es))

def taggedItems : List Value → List Json
  | [] => []
  | v :: vs => v.tagged :: taggedItems vs

def taggedMembers : List (Scalar × Value) → List (String × Json)
  | [] => []
  | (k, v) :: rest => (k.display, v.tagged) :: taggedMembers rest

def taggedPairs : List (Scalar × Value) → List Json
  | [] => []
  | (k, v) :: rest => .array [k.tagged, v.tagged] :: taggedPairs rest

end

/-! ## From documents to values -/

/-- A number that was written as a text. -/
def Json.numberText (s : String) : Binary64 :=
  (NumberText.float? s).getD .nan

/-- A time that was written as a text. -/
def Json.timeText (s : String) : Scalar :=
  match DateTime.read s.toUTF8.toList with
  | .ok t => .datetime t
  | .error _ => .null

mutual

/-- The value that a document holds, given what an object tagged as a fault stands for. -/
def Json.untagged (fault : Json → Scalar) : Json → Value
  | .null => .null
  | .bool b => .bool b
  | .int n => .int n
  | .float x => .float x
  | .string s => .text s
  | .array xs => .list (untaggedItems fault xs)
  | .object [("$float", .string s)] => .float (Json.numberText s)
  | .object [("$float", .float x)] => .float x
  | .object [("$bytes", .string s)] => .bytes (Hex.decode s)
  | .object [("$datetime", .string s)] => .scalar (Json.timeText s)
  | .object [("$path", .string s)] => .scalar (.path (FilePath.ofText s).text)
  | .object [("$exc", j)] => .scalar (fault j)
  | .object [("$pairs", .array ps)] => .map (Entries.ofList (untaggedPairs fault ps))
  | .object ms => .map (untaggedMembers fault ms)

def untaggedItems (fault : Json → Scalar) : List Json → List Value
  | [] => []
  | j :: js => j.untagged fault :: untaggedItems fault js

def untaggedMembers (fault : Json → Scalar) : List (String × Json) → List (Scalar × Value)
  | [] => []
  | (k, j) :: rest => (.text k, j.untagged fault) :: untaggedMembers fault rest

def untaggedPairs (fault : Json → Scalar) : List Json → List (Scalar × Value)
  | [] => []
  | .array [k, v] :: rest =>
    match k.untagged fault with
    | .scalar s => (s, v.untagged fault) :: untaggedPairs fault rest
    | _ => untaggedPairs fault rest
  | _ :: rest => untaggedPairs fault rest

end

/-! ## Lines -/

mutual

/-- A document on one line, with numbers of any length; a number that is not finite is tagged. -/
def Json.line : Json → String
  | .null => "null"
  | .bool b => if b then "true" else "false"
  | .int n => signedText n
  | .float x => if x.isFinite then x.text else "\x7b\"$float\":\"" ++ x.text ++ "\"\x7d"
  | .string s => String.ofList (Json.quoted s)
  | .array js => "[" ++ ",".intercalate (lineItems js) ++ "]"
  | .object ms => "\x7b" ++ ",".intercalate (lineMembers ms) ++ "\x7d"

def lineItems : List Json → List String
  | [] => []
  | j :: js => j.line :: lineItems js

def lineMembers : List (String × Json) → List String
  | [] => []
  | (k, j) :: rest => (String.ofList (Json.quoted k) ++ ":" ++ j.line) :: lineMembers rest

end

end MetricsAgent
